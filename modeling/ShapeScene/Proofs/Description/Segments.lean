import ShapeScene.Proofs.Description.Cuts

/-!
# Phrases of a description

The phrases of a description are what its lowercase form holds besides connectors and white space.
No connector stands in a phrase, even when the phrase is read by itself, so a phrase is its own only
phrase.
-/

namespace ShapeScene

namespace Phrase

/-- The phrases in parts: what is not white space. -/
def phrasesOf (parts : List (List Char)) : List (List Char) :=
  (parts.map Text.trimChars).filter fun part => !part.isEmpty

/-- The phrases of a description are those of the parts of its lowercase form. -/
theorem segment_eq (description : String) :
    segment description = (phrasesOf (partsAfter none 0
      (Text.lowercaseChars (Text.trimChars description.toList)))).map String.ofList := rfl

/-- A part of white space has no phrase. -/
theorem phrasesOf_cons_of_eq_nil {part : List Char} (blank : Text.trimChars part = [])
    (parts : List (List Char)) : phrasesOf (part :: parts) = phrasesOf parts := by
  rw [phrasesOf, List.map_cons, blank]
  rfl

/-- Every other part has one. -/
theorem phrasesOf_cons_of_ne_nil {part : List Char} (some : Text.trimChars part ≠ [])
    (parts : List (List Char)) :
    phrasesOf (part :: parts) = Text.trimChars part :: phrasesOf parts := by
  rw [phrasesOf, List.map_cons, List.filter_cons_of_pos]
  · rfl
  · rwa [Bool.not_eq_true', List.isEmpty_eq_false_iff]

/-- A phrase is what is left of a part. -/
theorem mem_phrasesOf {parts : List (List Char)} {phrase : List Char} :
    phrase ∈ phrasesOf parts ↔ phrase ≠ [] ∧ ∃ part ∈ parts, Text.trimChars part = phrase := by
  rw [phrasesOf, List.mem_filter, List.mem_map, Bool.not_eq_true', List.isEmpty_eq_false_iff]
  exact And.comm

/-! ## A phrase by itself -/

/-- A text of which a phrase can consist: it has no white space at its ends, and no connector stands
in it. -/
structure IsPhrase (chars : List Char) : Prop where
  /-- It is not empty. -/
  some : chars ≠ []
  /-- It has no white space at its ends. -/
  trimmed : Text.IsTrimmed chars
  /-- No connector stands in it. -/
  whole : ∀ before word after, chars = before ++ word ++ after → ¬ Stands before word after

/-- White space does not end inside of a word. -/
theorem endsInWord_of_allBlank {chars : List Char} (blank : Text.AllBlank chars) :
    endsInWord chars = false := by
  cases last : chars.getLast? with
  | none => rw [endsInWord, last, Option.any_none]
  | some char =>
    rw [endsInWord, last, Option.any_some]
    exact Text.isWordChar_of_isBlank (blank char (List.mem_of_getLast? last))

/-- White space does not begin inside of a word. -/
theorem startsInWord_of_allBlank {chars : List Char} (blank : Text.AllBlank chars) :
    startsInWord chars = false := by
  cases chars with
  | nil => rfl
  | cons char chars => exact Text.isWordChar_of_isBlank (blank char List.mem_cons_self)

namespace Clear

variable {before part after : List Char}

/-- The beginning of a clear part is clear. -/
theorem front {next : List Char} (clear : Clear before (part ++ next) after) :
    Clear before part (next ++ after) := by
  intro left right split some word rest whole
  refine clear left (right ++ next) (by rw [split, List.append_assoc]) ?_ word rest ?_
  · exact fun empty => some (List.append_eq_nil_iff.mp empty).1
  · rw [List.append_assoc, whole]

/-- A clear part is clear by itself when it does not share a word with its neighbours. -/
theorem alone (clear : Clear before part after)
    (left : endsInWord before = false ∨ startsInWord part = false)
    (right : startsInWord after = false ∨ endsInWord part = false) : Clear [] part [] := by
  intro first second split some word rest whole stands
  rw [List.append_nil] at whole
  refine clear first second split some word (rest ++ after) ?_ ?_
  · rw [whole, List.append_assoc]
  cases stands with
  | comma => exact .comma _
  | word joins leftEdge rightEdge =>
    obtain ⟨outside, ends⟩ := (joins.stands_iff _ _).mp (.word joins leftEdge rightEdge)
    apply (joins.stands_iff _ _).mpr
    -- At an end of the part the word has a letter, so no word goes on in the neighbour.
    constructor
    · by_cases empty : first = []
      · subst empty
        have letter : startsInWord part = true := by
          rw [split, List.nil_append, whole, startsInWord_append joins.ne_nil, joins.startsInWord]
        rw [List.append_nil]
        exact left.resolve_right (by rw [letter]; decide)
      · rw [endsInWord_append before empty]
        exact outside
    · by_cases empty : rest = []
      · subst empty
        have letter : endsInWord part = true := by
          rw [split, whole, List.append_nil, endsInWord_append first joins.ne_nil,
            joins.endsInWord]
        exact right.resolve_right (by rw [letter]; decide)
      · rw [startsInWord_append empty]
        exact ends

/-- What is left of a clear part is clear by itself, when the part does not share a word with its
neighbours. -/
theorem trimmed_alone (clear : Clear before part after)
    (left : endsInWord before = false ∨ startsInWord (part ++ after) = false)
    (right : endsInWord (before ++ part) = false ∨ startsInWord after = false)
    (some : Text.trimChars part ≠ []) : Clear [] (Text.trimChars part) [] := by
  obtain ⟨leftSpace, rightSpace, leftBlank, rightBlank, split⟩ := Text.exists_trimChars part
  generalize Text.trimChars part = phrase at *
  subst split
  refine clear.behind.front.alone ?_ ?_
  · by_cases empty : leftSpace = []
    · subst empty
      rw [List.append_nil]
      rwa [List.nil_append, List.append_assoc, startsInWord_append some] at left
    · rw [endsInWord_append before empty]
      exact .inl (endsInWord_of_allBlank leftBlank)
  · by_cases empty : rightSpace = []
    · subst empty
      rw [List.append_nil, ← List.append_assoc, endsInWord_append _ some] at right
      exact right.symm
    · rw [startsInWord_append empty]
      exact .inl (startsInWord_of_allBlank rightBlank)

/-- No connector stands in a part that is clear by itself. -/
theorem not_stands (clear : Clear [] part []) {before word after : List Char}
    (split : part = before ++ word ++ after) : ¬ Stands before word after := by
  intro stands
  rw [List.append_assoc] at split
  refine clear before (word ++ after) split ?_ word after (List.append_nil _) stands
  exact fun empty => stands.ne_nil (List.append_eq_nil_iff.mp empty).1

end Clear

/-- Around a connector no word goes on. -/
theorem Stands.edges {before word after : List Char} (stands : Stands before word after) :
    (endsInWord before = false ∨ startsInWord (word ++ after) = false) ∧
      (endsInWord (before ++ word) = false ∨ startsInWord after = false) := by
  cases stands with
  | comma =>
    have outside : Text.isWordChar ',' = false := by decide +kernel
    refine ⟨.inr outside, .inl ?_⟩
    rw [endsInWord_append before (List.cons_ne_nil _ _)]
    exact outside
  | word joins left right =>
    obtain ⟨outside, ends⟩ := (joins.stands_iff _ _).mp (.word joins left right)
    exact ⟨.inl outside, .inr ends⟩

/-- What is left of a part of a cut is clear by itself. -/
theorem Cut.trimmed_alone {before text : List Char} {parts : List (List Char)}
    (cut : Cut before text parts)
    (outside : endsInWord before = false ∨ startsInWord text = false) :
    ∀ part ∈ parts, Text.trimChars part ≠ [] → Clear [] (Text.trimChars part) [] := by
  induction cut with
  | @last before text clear =>
    intro part member some
    obtain rfl := List.mem_singleton.mp member
    rw [← List.append_nil part] at outside
    exact clear.trimmed_alone outside (.inr rfl) some
  | @connector before text part word rest parts whole clear stands later ih =>
    subst whole
    intro one member some
    rcases List.mem_cons.mp member with rfl | among
    · exact clear.trimmed_alone outside stands.edges.1 some
    · exact ih stands.edges.2 one among some

/-- A cut invents no characters. -/
theorem Cut.subset {before text : List Char} {parts : List (List Char)}
    (cut : Cut before text parts) : ∀ part ∈ parts, part ⊆ text := by
  induction cut with
  | last =>
    intro part member
    rw [List.mem_singleton.mp member]
    exact List.Subset.refl _
  | connector whole _ _ _ ih =>
    subst whole
    intro one member
    rcases List.mem_cons.mp member with rfl | among
    · exact List.subset_append_left one _
    · exact List.Subset.trans (ih one among) (List.subset_append_of_subset_right _
        (List.subset_append_right _ _))

/-! ## What stands between phrases -/

/-- White space and connectors that stand one behind the other in a text, with the number of the
connectors. -/
inductive Gap : (before gap after : List Char) → (connectors : Nat) → Prop where
  /-- There is nothing. -/
  | nil (before after : List Char) : Gap before [] after 0
  /-- White space comes first. -/
  | blank {before gap after : List Char} {connectors : Nat} {char : Char}
      (white : Text.isBlank char = true) (later : Gap (before ++ [char]) gap after connectors) :
      Gap before (char :: gap) after connectors
  /-- A connector comes first. -/
  | connector {before word gap after : List Char} {connectors : Nat}
      (stands : Stands before word (gap ++ after))
      (later : Gap (before ++ word) gap after connectors) :
      Gap before (word ++ gap) after (connectors + 1)

/-- A text behind another one is made of phrases and of gaps around them. A gap between two phrases
has a connector. -/
inductive Divided : (before text : List Char) → (phrases : List (List Char)) → Prop where
  /-- No phrase is left. -/
  | gap {before text : List Char} {connectors : Nat} (gap : Gap before text [] connectors) :
      Divided before text []
  /-- A phrase comes behind a gap. -/
  | phrase {before between phrase rest : List Char} {connectors : Nat}
      {phrases : List (List Char)} (gap : Gap before between (phrase ++ rest) connectors)
      (apart : before = [] ∨ 0 < connectors)
      (later : Divided (before ++ between ++ phrase) rest phrases) :
      Divided before (between ++ (phrase ++ rest)) (phrase :: phrases)

namespace Gap

/-- White space is a gap. -/
theorem of_allBlank {gap : List Char} (blank : Text.AllBlank gap) (before after : List Char) :
    Gap before gap after 0 := by
  induction gap generalizing before with
  | nil => exact .nil before after
  | cons char gap ih =>
    have white := blank char List.mem_cons_self
    exact .blank white (ih (fun char member => blank char (List.mem_cons_of_mem _ member)) _)

/-- A connector is a gap. -/
theorem of_stands {before word after : List Char} (stands : Stands before word after) :
    Gap before word after 1 := by
  have gap : Gap before (word ++ []) after (0 + 1) :=
    .connector stands (.nil (before ++ word) after)
  rwa [List.append_nil] at gap

/-- Two gaps, one behind the other, are a gap. -/
theorem append {before gap next after : List Char} {first second : Nat}
    (left : Gap before gap (next ++ after) first) (right : Gap (before ++ gap) next after second) :
    Gap before (gap ++ next) after (first + second) := by
  generalize split : next ++ after = rest at left
  induction left with
  | nil before rest =>
    rw [List.append_nil] at right
    rwa [List.nil_append, Nat.zero_add]
  | blank white later ih =>
    subst split
    refine .blank white (ih ?_ rfl)
    rwa [List.append_assoc]
  | @connector before word gap rest connectors stands later ih =>
    subst split
    rw [← List.append_assoc] at stands right
    rw [List.append_assoc, Nat.add_right_comm]
    exact .connector stands (ih right rfl)

/-- White space behind a gap belongs to it. -/
theorem append_blank {before gap space after : List Char} {connectors : Nat}
    (left : Gap before gap (space ++ after) connectors) (blank : Text.AllBlank space) :
    Gap before (gap ++ space) after connectors :=
  left.append (of_allBlank blank _ after)

end Gap

/-- A text without phrases is white space. -/
theorem allBlank_of_trimChars_eq_nil {part : List Char} (nothing : Text.trimChars part = []) :
    Text.AllBlank part := by
  obtain ⟨left, right, leftBlank, rightBlank, split⟩ := Text.exists_trimChars part
  rw [nothing, List.nil_append] at split
  rw [split]
  exact leftBlank.append rightBlank

/-- The phrases of a cut divide its text, with the gap before it. -/
theorem Cut.divided {start gap text : List Char} {parts : List (List Char)} {connectors : Nat}
    (begun : Gap start gap text connectors) (apart : start = [] ∨ 0 < connectors)
    (cut : Cut (start ++ gap) text parts) : Divided start (gap ++ text) (phrasesOf parts) := by
  generalize whole : start ++ gap = before at cut
  -- What was passed since the last phrase is a gap; a phrase ends it and a connector adds to it.
  induction cut generalizing start gap connectors with
  | @last before text clear =>
    by_cases nothing : Text.trimChars text = []
    · rw [phrasesOf_cons_of_eq_nil nothing]
      rw [← List.append_nil text] at begun
      exact .gap (begun.append_blank (allBlank_of_trimChars_eq_nil nothing))
    · obtain ⟨left, right, leftBlank, rightBlank, split⟩ := Text.exists_trimChars text
      rw [phrasesOf_cons_of_ne_nil nothing]
      generalize Text.trimChars text = phrase at *
      subst split
      rw [← List.append_assoc]
      exact .phrase (begun.append_blank leftBlank) apart (.gap (.of_allBlank rightBlank _ []))
  | @connector before text part word rest parts split clear stands later ih =>
    subst split whole
    by_cases nothing : Text.trimChars part = []
    · -- The part belongs to the gap, and the connector behind it does too.
      have blank := allBlank_of_trimChars_eq_nil nothing
      rw [List.append_assoc start] at stands later ih
      have wider := (begun.append_blank blank).append (.of_stands stands)
      rw [phrasesOf_cons_of_eq_nil nothing]
      have divided := ih wider (.inr (Nat.succ_pos _)) (List.append_assoc ..).symm
      simpa only [List.append_assoc] using divided
    · -- The part has a phrase, and a gap begins behind this.
      obtain ⟨left, right, leftBlank, rightBlank, split⟩ := Text.exists_trimChars part
      rw [phrasesOf_cons_of_ne_nil nothing]
      generalize Text.trimChars part = phrase at *
      subst split
      have first : Gap start (gap ++ left) (phrase ++ (right ++ word ++ rest)) connectors := by
        apply Gap.append_blank _ leftBlank
        simpa only [List.append_assoc] using begun
      have next : Gap (start ++ (gap ++ left) ++ phrase) (right ++ word) rest (0 + 1) := by
        apply Gap.append (.of_allBlank rightBlank _ _) (.of_stands _)
        simpa only [List.append_assoc] using stands
      have divided := ih next (.inr Nat.one_pos) (by simp only [List.append_assoc])
      have whole := Divided.phrase first apart divided
      simpa only [List.append_assoc] using whole

/-! ## Segments -/

/-- The parts of a description. -/
theorem cut_lowered (description : String) :
    Cut [] (Text.lowercaseChars (Text.trimChars description.toList))
      (partsAfter none 0 (Text.lowercaseChars (Text.trimChars description.toList))) :=
  cut_partsAfter [] _

/-- A phrase of lowercase characters is its own only phrase. -/
theorem segment_of_clear {phrase : List Char} (some : phrase ≠ [])
    (trimmed : Text.IsTrimmed phrase) (lower : ∀ char ∈ phrase, Text.IsLowercase char)
    (clear : Clear [] phrase []) : segment (String.ofList phrase) = [String.ofList phrase] := by
  have kept := Text.trimChars_of_isTrimmed trimmed
  have one : partsAfter none 0 phrase = [phrase] := cut_iff.mp (.last clear)
  rw [segment_eq, String.toList_ofList, kept, Text.lowercaseChars_of_isLowercase lower, one,
    phrasesOf_cons_of_ne_nil (by rwa [kept]), kept]
  rfl

/-- What is known of every phrase of a description. -/
theorem clear_of_mem_segment {description phrase : String}
    (member : phrase ∈ segment description) :
    phrase.toList ≠ [] ∧ Text.IsTrimmed phrase.toList ∧
      (∀ char ∈ phrase.toList, Text.IsLowercase char) ∧ Clear [] phrase.toList [] := by
  rw [segment_eq] at member
  obtain ⟨chars, among, rfl⟩ := List.mem_map.mp member
  obtain ⟨some, part, listed, rfl⟩ := mem_phrasesOf.mp among
  rw [String.toList_ofList]
  refine ⟨some, Text.isTrimmed_trimChars part, ?_, ?_⟩
  · intro char inside
    obtain ⟨left, right, -, -, split⟩ := Text.exists_trimChars part
    have here : char ∈ part := by
      rw [split]
      exact List.mem_append_right left (List.mem_append_left right inside)
    exact Text.isLowercase_of_mem_lowercaseChars
      ((cut_lowered description).subset part listed here)
  · exact (cut_lowered description).trimmed_alone (.inl rfl) part listed some

/-- The phrases of a description are texts without connectors. Its lowercase form is made of them
and of white space and connectors, with a connector between any two phrases. Every phrase is its own
only phrase. -/
theorem segment_divides (description : String) :
    (∀ phrase ∈ segment description, IsPhrase phrase.toList) ∧
      Divided [] (Text.lowercaseChars (Text.trimChars description.toList))
        ((segment description).map String.toList) ∧
      ∀ phrase ∈ segment description, segment phrase = [phrase] := by
  refine ⟨?_, ?_, ?_⟩
  · intro phrase member
    obtain ⟨some, trimmed, -, clear⟩ := clear_of_mem_segment member
    exact ⟨some, trimmed, fun _ _ _ split => clear.not_stands split⟩
  · have divided := Cut.divided (.nil [] _) (.inl rfl) (cut_lowered description)
    have same : (segment description).map String.toList = phrasesOf
        (partsAfter none 0 (Text.lowercaseChars (Text.trimChars description.toList))) := by
      rw [segment_eq, List.map_map]
      exact List.map_id'' (fun chars => String.toList_ofList) _
    rw [same]
    exact divided
  · intro phrase member
    obtain ⟨some, trimmed, lower, clear⟩ := clear_of_mem_segment member
    have alone := segment_of_clear some trimmed lower clear
    rwa [String.ofList_toList] at alone

end Phrase

end ShapeScene
