import ShapeScene.Console.Command
import ShapeScene.Proofs.Console.Highlight
import ShapeScene.Proofs.Description.Keywords
import ShapeScene.Proofs.Success
import ShapeScene.Proofs.Text.Context

/-!
# What styles promise

A run in the style of shapes looks like an object, and one in the style of connectors looks like a
place between two objects. Runs end at every character that is no letter, words of a description do
not: next to a digit, an underscore or a mark a French word for a shape is no keyword, and a joining
word no connector. Only there the promise is broken. The places of a line are followed into its
lowercase form, where the characters around a run are the same as in the line.
-/

namespace ShapeScene

/-- No name gives a description. -/
theorem Command.ofName_ne_describe (name arguments description : String) :
    ofName name arguments ≠ .ok (.describe description) := by
  intro read
  unfold ofName at read
  dsimp only at read
  -- Some commands read their arguments in two ways.
  split at read <;> (try split at read) <;>
    simp only [bind_eq_ok, Except.ok.injEq, reduceCtorEq, and_false, exists_false] at read

/-- A description is its line without the white space around it. -/
theorem Command.toList_of_parse {line description : String}
    (read : parse line = .ok (.describe description)) :
    description.toList = Text.trimChars line.toList := by
  unfold parse at read
  split at read
  · split at read <;> exact absurd read (ofName_ne_describe _ _ _)
  · cases read
    exact String.toList_ofList

namespace Vocabulary

/-- The outcome of a phrase stands in its place and has an entity when the phrase names one. -/
theorem getElem?_outcomesFrom (vocabulary : Vocabulary) (row : Row) (earlier later : List String)
    (phrase : String) :
    ∃ outcome,
      (vocabulary.outcomesFrom row (earlier ++ phrase :: later))[earlier.length]? = some outcome ∧
        outcome.phrase = phrase ∧
        outcome.entity.isSome = (vocabulary.entityOf? phrase).isSome := by
  induction earlier generalizing row with
  | nil =>
    cases read : vocabulary.entityOf? phrase with
    | none => exact ⟨⟨phrase, none⟩, by simp [outcomesFrom, read], rfl, rfl⟩
    | some entity =>
      exact ⟨⟨phrase, some (entity.placedAt row.nextPosition)⟩, by simp [outcomesFrom, read], rfl,
        rfl⟩
  | cons first earlier ih =>
    cases read : vocabulary.entityOf? first with
    | none => simpa [outcomesFrom, read] using ih row
    | some entity => simpa [outcomesFrom, read] using ih row.advance

/-- The words for shapes are plain words. -/
theorem isPlainWord_shapes : ∀ keyword ∈ standard.shapes, IsPlainWord keyword.word := by
  decide +kernel

/-- A word in the class of shapes is a word for a shape in its lowercase form. -/
theorem exists_shape {vocabulary : Vocabulary} {word : String}
    (classified : vocabulary.classOf? word = some .shape) :
    ∃ keyword ∈ vocabulary.shapes, keyword.word = Text.lowercase word := by
  unfold classOf? at classified
  dsimp only at classified
  split at classified
  · rename_i found
    obtain ⟨keyword, member, same⟩ := List.any_eq_true.mp found
    exact ⟨keyword, member, beq_iff_eq.mp same⟩
  · split at classified
    · cases classified
    · split at classified
      · cases classified
      · split at classified <;> cases classified

end Vocabulary

namespace Highlight

open Text Phrase

/-! ## Runs by their styles -/

/-- Only a word for a shape is in the style of shapes. -/
theorem classOf?_of_style {vocabulary : Vocabulary} {word : String}
    (style : styleOf? vocabulary word = some (classStyle .shape)) :
    vocabulary.classOf? word = some .shape := by
  unfold styleOf? at style
  split at style
  · rename_i wordClass classified
    cases wordClass with
    | shape => exact classified
    | _ => exact absurd (Option.some.inj style) (by decide)
  · split at style
    · exact absurd (Option.some.inj style) (by decide)
    · cases style

/-- Only a connector is in the style of connectors. -/
theorem isConnector_of_style {vocabulary : Vocabulary} {word : String}
    (style : styleOf? vocabulary word = some connectorStyle) : isConnector word = true := by
  unfold styleOf? at style
  split at style
  · rename_i wordClass _
    cases wordClass <;> exact absurd (Option.some.inj style) (by decide)
  · split at style
    · assumption
    · cases style

/-- A run that is a connector is a single joining word. -/
theorem lowercaseChars_mem_singleWords {run : List Char}
    (alphabetic : ∀ char ∈ run, isAlphabetic char = true)
    (connects : isConnector (String.ofList run) = true) : lowercaseChars run ∈ singleWords := by
  have notLetter : isAlphabetic ' ' = false ∧ isAlphabetic ',' = false := by decide +kernel
  have written : lowercase (String.ofList run) ∈ connectors := List.contains_iff_mem.mp connects
  have lowered : (lowercase (String.ofList run)).toList = lowercaseChars run := by
    rw [lowercase, String.toList_ofList, String.toList_ofList]
  generalize lowercase (String.ofList run) = word at written lowered
  rw [← lowered]
  simp only [connectors, List.mem_cons, List.not_mem_nil, or_false] at written
  rcases written with rfl | rfl | rfl | rfl | rfl
  · exact (by decide : ['a', 'n', 'd'] ∈ singleWords)
  · exact (by decide : ['w', 'i', 't', 'h'] ∈ singleWords)
  · -- A blank is in no run.
    have blank : ' ' ∈ lowercaseChars run := lowered ▸ (by decide : ' ' ∈ "next to".toList)
    have letter := alphabetic ' ' (mem_of_mem_lowercaseChars blank (by decide))
    rw [notLetter.1] at letter
    cases letter
  · exact (by decide : ['b', 'e', 's', 'i', 'd', 'e'] ∈ singleWords)
  · have comma : ',' ∈ lowercaseChars run := lowered ▸ (by decide : ',' ∈ ",".toList)
    have letter := alphabetic ',' (mem_of_mem_lowercaseChars comma (by decide))
    rw [notLetter.2] at letter
    cases letter

/-! ## Places -/

/-- A word has an effect at its place: English words for shapes always, all others when they have
neither a letter nor a number next to them. -/
def Counts (left run right : List Char) : Prop :=
  (∃ keyword ∈ Vocabulary.english.shapes, keyword.word.toList = lowercaseChars run) ∨
    endsWord left.getLast? = true ∧ endsWord right.head? = true

/-- A run of a description stands in a phrase at its place, and whether the phrase is reported as an
entity depends on the words for shapes in it; when the run counts, it is. -/
def InPhrase (description : String) (stretches : List Stretch) (left run right : List Char) :
    Prop :=
  ∃ earlier later near far outcome,
    stretches = earlier ++ .part (near ++ (lowercaseChars run ++ far)) :: later ∧
    lowercaseWithin [] left (run ++ right) = charsOf earlier ++ near ∧
    lowercaseWithin (run.reverse ++ left.reverse) right [] = far ++ charsOf later ∧
    (Vocabulary.standard.explain description)[(phrasesOf (partsOf earlier)).length]? =
      some outcome ∧
    outcome.phrase = String.ofList (trimChars (near ++ (lowercaseChars run ++ far))) ∧
    (outcome.entity.isSome = true ↔ ∃ keyword ∈ Vocabulary.standard.shapes,
      keyword.OccursIn (trimChars (near ++ (lowercaseChars run ++ far)))) ∧
    (Counts left run right → outcome.entity.isSome = true)

/-- A description is split at the place of a run. -/
def SplitAt (stretches : List Stretch) (left run right : List Char) : Prop :=
  ∃ earlier later, stretches = earlier ++ .connector (lowercaseChars run) :: later ∧
    lowercaseWithin [] left (run ++ right) = charsOf earlier ∧
    lowercaseWithin (run.reverse ++ left.reverse) right [] = charsOf later

/-- A part that is not white space has its phrase behind those of the parts before it. -/
theorem phrasesOf_partsOf {part : List Char} (some : trimChars part ≠ [])
    (earlier later : List Stretch) :
    phrasesOf (partsOf (earlier ++ .part part :: later)) =
      phrasesOf (partsOf earlier) ++ trimChars part :: phrasesOf (partsOf later) := by
  rw [partsOf, List.filterMap_append, List.filterMap_cons, phrasesOf, List.map_append,
    List.filter_append]
  exact congrArg _ (phrasesOf_cons_of_ne_nil some _)

/-- The phrase of a part has its outcome behind those of the phrases before it, and is read as an
entity when a word for a shape occurs in it. -/
theorem exists_outcome {description : String} {part : List Char} {earlier later : List Stretch}
    (some : trimChars part ≠ [])
    (segments : segment description =
      (phrasesOf (partsOf (earlier ++ .part part :: later))).map String.ofList) :
    ∃ outcome, (Vocabulary.standard.explain description)[(phrasesOf (partsOf earlier)).length]? =
        .some outcome ∧
      outcome.phrase = String.ofList (trimChars part) ∧
      (outcome.entity.isSome = true ↔
        ∃ keyword ∈ Vocabulary.standard.shapes, keyword.OccursIn (trimChars part)) := by
  rw [phrasesOf_partsOf some, List.map_append, List.map_cons] at segments
  obtain ⟨outcome, found, phrase, entity⟩ := Vocabulary.getElem?_outcomesFrom .standard Row.empty
    ((phrasesOf (partsOf earlier)).map String.ofList)
    ((phrasesOf (partsOf later)).map String.ofList) (String.ofList (trimChars part))
  rw [← segments, List.length_map] at found
  refine ⟨outcome, found, phrase, ?_⟩
  have member : String.ofList (trimChars part) ∈ segment description := by
    rw [segments]
    exact List.mem_append_right _ List.mem_cons_self
  rw [entity, Vocabulary.isSome_entityOf? .standard member]
  refine exists_congr fun keyword => and_congr_right fun listed => ?_
  rw [Keyword.foundIn_iff (Vocabulary.isPlainWord_shapes keyword listed), String.toList_ofList]

/-- The words for shapes have no sigma. -/
theorem sigma_not_mem_shapes : ∀ keyword ∈ Vocabulary.standard.shapes,
    'σ' ∉ keyword.word.toList ∧ 'ς' ∉ keyword.word.toList := by
  decide +kernel

/-- English words for shapes are found anywhere. -/
theorem mem_standard_of_mem_english {keyword : Keyword ShapeKind}
    (member : keyword ∈ Vocabulary.english.shapes) :
    keyword ∈ Vocabulary.standard.shapes ∧ keyword.mode = .substring :=
  ⟨List.mem_append_left _ member, Keyword.mode_of_mem_ofTable member⟩

/-- A word for a shape that counts at its place occurs in what is left of its phrase. -/
theorem exists_occursIn {left run right near far : List Char} {keyword : Keyword ShapeKind}
    (member : keyword ∈ Vocabulary.standard.shapes)
    (word : keyword.word.toList = lowercaseChars run) (counts : Counts left run right)
    (begins : endsWord left.getLast? = true → endsWord near.getLast? = true)
    (ends : endsWord right.head? = true → endsWord far.head? = true) :
    ∃ keyword ∈ Vocabulary.standard.shapes,
      keyword.OccursIn (near ++ (lowercaseChars run ++ far)) := by
  rcases counts with ⟨english, listed, same⟩ | ⟨first, last⟩
  · obtain ⟨inStandard, mode⟩ := mem_standard_of_mem_english listed
    refine ⟨english, inStandard, ?_⟩
    rw [Keyword.OccursIn, mode, same]
    exact List.infix_append' near _ far
  · refine ⟨keyword, member, ?_⟩
    rw [Keyword.OccursIn, word]
    cases keyword.mode with
    | substring => exact List.infix_append' near _ far
    | wholeWord => exact ⟨near, far, rfl, begins first, ends last⟩

section Description

variable {description : String} {stretches : List Stretch} {earlier later : List Piece}
  {run : List Char}

/-- The lowercase form of a description around a run whose own lowercase form has no sigma. -/
theorem lowercaseChars_run
    (cut : CutInto description.toList (earlier ++ .run run :: later))
    (plain : 'σ' ∉ lowercaseChars run ∧ 'ς' ∉ lowercaseChars run) :
    lowercaseChars description.toList =
      lowercaseWithin [] (earlier.flatMap Piece.chars) (run ++ later.flatMap Piece.chars) ++
        (lowercaseChars run ++
          lowercaseWithin (run.reverse ++ (earlier.flatMap Piece.chars).reverse)
            (later.flatMap Piece.chars) []) := by
  have whole := cut.flatMap_chars
  rw [List.flatMap_append, List.flatMap_cons] at whole
  rw [← whole, Piece.chars, lowercaseChars_around, lowercaseWithin_eq_lowercaseChars plain]

/-- A run in the style of shapes stands in a phrase. -/
theorem inPhrase_of_style
    (stretched : Stretched [] (lowercaseChars description.toList) stretches)
    (segments : segment description = (phrasesOf (partsOf stretches)).map String.ofList)
    (cut : CutInto description.toList (earlier ++ .run run :: later))
    (style : styleOf? .standard (String.ofList run) = some (classStyle .shape)) :
    InPhrase description stretches (earlier.flatMap Piece.chars) run
      (later.flatMap Piece.chars) := by
  obtain ⟨keyword, member, same⟩ := Vocabulary.exists_shape (classOf?_of_style style)
  have word : keyword.word.toList = lowercaseChars run := by
    rw [same, lowercase, String.toList_ofList, String.toList_ofList]
  have content := (Vocabulary.isPlainWord_shapes keyword member).content
  have plain := sigma_not_mem_shapes keyword member
  rw [word] at content plain
  obtain ⟨before, behind, near, far, rfl, begins, ends⟩ :=
    stretched.exists_part content (lowercaseChars_run cut plain)
  obtain ⟨close, distant, inside, closeNear, distantFar⟩ := content.exists_trimChars
    (rfl : near ++ (lowercaseChars run ++ far) = near ++ (lowercaseChars run ++ far))
  have some : trimChars (near ++ (lowercaseChars run ++ far)) ≠ [] := by
    rw [inside]
    intro empty
    have rest := (List.append_eq_nil_iff.mp empty).2
    exact content.nonempty (List.append_eq_nil_iff.mp rest).1
  obtain ⟨outcome, found, phrase, reported⟩ := exists_outcome some segments
  refine ⟨before, behind, near, far, outcome, rfl, begins, ends, found, phrase, reported, ?_⟩
  intro counts
  rw [reported, inside]
  -- The neighbours of the run in its phrase are those in the line, or there are none.
  refine exists_occursIn member word counts (fun first => ?_) fun last => ?_
  · refine endsWord_getLast?_of_suffix (closeNear.trans ⟨charsOf before, begins.symm⟩) ?_
    rwa [getLast?_lowercaseWithin cut.getLast?_before]
  · refine endsWord_head?_of_prefix (distantFar.trans ⟨charsOf behind, ends.symm⟩) ?_
    rwa [head?_lowercaseWithin cut.run_of_mem.2.2]

/-- A run in the style of connectors splits the description unless a word goes on next to it. -/
theorem splitAt_iff_of_style
    (stretched : Stretched [] (lowercaseChars description.toList) stretches)
    (cut : CutInto description.toList (earlier ++ .run run :: later))
    (style : styleOf? .standard (String.ofList run) = some connectorStyle) :
    SplitAt stretches (earlier.flatMap Piece.chars) run (later.flatMap Piece.chars) ↔
      endsInWord (earlier.flatMap Piece.chars) = false ∧
        startsInWord (later.flatMap Piece.chars) = false := by
  obtain ⟨-, alphabetic, ends⟩ := cut.run_of_mem
  have listed := lowercaseChars_mem_singleWords alphabetic (isConnector_of_style style)
  have plain : 'σ' ∉ lowercaseChars run ∧ 'ς' ∉ lowercaseChars run := by
    have all : ∀ word ∈ singleWords, 'σ' ∉ word ∧ 'ς' ∉ word := by decide
    exact all _ listed
  have joins : JoiningWord (lowercaseChars run) := .single listed
  have whole := lowercaseChars_run cut plain
  have left := congrArg (Option.any isWordChar) (getLast?_lowercaseWithin cut.getLast?_before []
    (run ++ later.flatMap Piece.chars))
  have right := congrArg (Option.any isWordChar) (head?_lowercaseWithin ends
    (run.reverse ++ (earlier.flatMap Piece.chars).reverse) [])
  rw [endsInWord, startsInWord, ← left, ← right]
  constructor
  · rintro ⟨before, behind, split, begins, ends⟩
    rw [begins, ends]
    exact (joins.stands_iff _ _).mp (stretched.fits split)
  · intro edges
    exact stretched.exists_connector listed whole ((joins.stands_iff _ _).mpr edges)

end Description

/-! ## Lines -/

/-- What the styles of a line promise of its description, and what of that is kept: the line is cut
like the description, with white space around it, and the phrases of the description are those of
its stretches. -/
structure Keeps (line description : String) (pieces : List Piece) (stretches : List Stretch) :
    Prop where
  /-- The pieces are those of the description. -/
  cut : CutInto description.toList pieces
  /-- The line has the same pieces, and characters of white space around them. -/
  around : ∃ front back, AllBlank front ∧ AllBlank back ∧
    CutInto line.toList (front.map .other ++ (pieces ++ back.map .other))
  /-- The stretches are those of the lowercase form. -/
  stretched : Stretched [] (lowercaseChars description.toList) stretches
  /-- There are no other pieces and no other stretches. -/
  only : (∀ others, CutInto description.toList others → others = pieces) ∧
    ∀ others, Stretched [] (lowercaseChars description.toList) others → others = stretches
  /-- The phrases are what is left of the parts. -/
  segments : segment description = (phrasesOf (partsOf stretches)).map String.ofList
  /-- A run in the style of shapes stands in a phrase, which is reported as an entity when the run
  counts. -/
  shapes : ∀ earlier run later, pieces = earlier ++ .run run :: later →
    styleOf? .standard (String.ofList run) = some (classStyle .shape) →
    InPhrase description stretches (earlier.flatMap Piece.chars) run
      (later.flatMap Piece.chars)
  /-- At a run in the style of connectors the description is split exactly when no word goes on
  before the run or behind it. -/
  connectors : ∀ earlier run later, pieces = earlier ++ .run run :: later →
    styleOf? .standard (String.ofList run) = some connectorStyle →
    (SplitAt stretches (earlier.flatMap Piece.chars) run (later.flatMap Piece.chars) ↔
      endsInWord (earlier.flatMap Piece.chars) = false ∧
        startsInWord (later.flatMap Piece.chars) = false)

/-- White space has no letters. -/
theorem isAlphabetic_of_isBlank {char : Char} (blank : isBlank char = true) :
    isAlphabetic char = false :=
  of_isBlank (isAlphabetic · = false) (by decide +kernel) blank

/-- Of every line that is read as a description, the styles of shapes and of connectors keep their
promise wherever the characters next to the run let it be a keyword or a connector. -/
theorem exists_keeps {line description : String}
    (described : Command.parse line = .ok (.describe description)) :
    ∃ pieces stretches, Keeps line description pieces stretches := by
  have trimmed := Command.toList_of_parse described
  obtain ⟨front, back, frontBlank, backBlank, whole⟩ := exists_trimChars line.toList
  obtain ⟨pieces, cut⟩ := CutInto.exists_cut description.toList
  obtain ⟨stretches, stretched, parts⟩ :=
    (cut_partsAfter [] (lowercaseChars description.toList)).exists_stretched
  have segments : segment description = (phrasesOf (partsOf stretches)).map String.ofList := by
    have kept : trimChars description.toList = description.toList :=
      trimChars_of_isTrimmed (trimmed ▸ isTrimmed_trimChars line.toList)
    rw [segment_eq, kept, parts]
    rfl
  refine ⟨pieces, stretches, cut, ⟨front, back, frontBlank, backBlank, ?_⟩, stretched,
    ⟨fun others same => same.unique cut, fun others same => same.unique stretched⟩, segments,
    ?_, ?_⟩
  · rw [whole, ← trimmed]
    exact cut.around (fun char member => isAlphabetic_of_isBlank (frontBlank char member))
      fun char member => isAlphabetic_of_isBlank (backBlank char member)
  · rintro earlier run later rfl style
    exact inPhrase_of_style stretched segments cut style
  · rintro earlier run later rfl style
    exact splitAt_iff_of_style stretched cut style

/-- A line with a French word for a shape and a joining word, both before a digit. -/
theorem exists_keeps_digits :
    Command.parse "a tore2 and2" = .ok (.describe "a tore2 and2") ∧
      ∃ pieces stretches, Keeps "a tore2 and2" "a tore2 and2" pieces stretches := by
  have described : Command.parse "a tore2 and2" = .ok (.describe "a tore2 and2") := by decide
  exact ⟨described, exists_keeps described⟩

end Highlight

end ShapeScene
