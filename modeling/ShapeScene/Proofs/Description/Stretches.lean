import ShapeScene.Proofs.Description.Joining
import ShapeScene.Proofs.Text.Standing

/-!
# Where things stand in a cut

A cut alone does not say where its parts are. Here the connectors are kept between them, so that
the stretches of a text put together are the text and every place in it has its stretch. A word of
letters lies within one stretch, since where two of them meet no word goes on. A joining word that
stands somewhere is a stretch by itself.
-/

namespace ShapeScene

namespace Phrase

/-! ## Words of letters -/

/-- A text of letters ends inside of a word wherever it is split. -/
theorem endsInWord_of_letters {chars left right : List Char}
    (letters : chars.all Text.isWordChar = true) (split : chars = left ++ right)
    (more : left ≠ []) : endsInWord left = true := by
  rw [endsInWord, List.getLast?_eq_some_getLast more, Option.any_some]
  apply List.all_eq_true.mp letters
  rw [split]
  exact List.mem_append_left right (List.getLast_mem more)

/-- A text does not end inside of a word when it does not with more text before it. -/
theorem endsInWord_eq_false_of_append {before chars : List Char}
    (outside : endsInWord (before ++ chars) = false) : endsInWord chars = false := by
  by_cases empty : chars = []
  · rw [empty]
    rfl
  · rwa [endsInWord_append before empty] at outside

/-- Where no word goes on from one text to the next, a word of letters stands in the first or in the
second. -/
theorem before_or_behind {front back left word after : List Char}
    (letters : word.all Text.isWordChar = true)
    (edge : endsInWord front = false ∨ startsInWord back = false)
    (whole : front ++ back = left ++ (word ++ after)) :
    (∃ rest, front = left ++ (word ++ rest) ∧ after = rest ++ back) ∨
      ∃ rest, left = front ++ rest ∧ back = rest ++ (word ++ after) := by
  rcases List.append_eq_append_iff.mp whole with ⟨rest, passed, later⟩ | ⟨begun, rfl, later⟩
  · exact .inr ⟨rest, passed, later⟩
  rcases List.append_eq_append_iff.mp later with ⟨rest, within, later⟩ | ⟨goesOn, split, within⟩
  · exact .inl ⟨rest, by rw [within], later⟩
  -- The word begins in the first text. It reaches into the second one only when a word goes on.
  by_cases nothing : goesOn = []
  · subst nothing
    rw [List.append_nil] at split
    exact .inl ⟨[], by rw [List.append_nil, split], within.symm⟩
  by_cases ended : begun = []
  · subst ended
    refine .inr ⟨[], by simp only [List.append_nil], ?_⟩
    rw [within, split, List.nil_append, List.nil_append]
  have ends := endsInWord_of_letters letters split ended
  have starts := startsInWord_of_letters letters split nothing
  rw [endsInWord_append left ended, ends, within, startsInWord_append nothing, starts] at edge
  simp at edge

/-- A word of letters is no part of a text without letters. -/
theorem not_infix_of_none {word chars : List Char} (some : word ≠ [])
    (letters : word.all Text.isWordChar = true)
    (none : ∀ char ∈ chars, Text.isWordChar char = false) : ¬ word <:+: chars := by
  intro part
  obtain ⟨char, rest, rfl⟩ := List.exists_cons_of_ne_nil some
  have letter := List.all_eq_true.mp letters char List.mem_cons_self
  rw [none char (part.subset List.mem_cons_self)] at letter
  cases letter

/-- A word of letters is no part of white space. -/
theorem not_infix_of_allBlank {word blanks : List Char} (some : word ≠ [])
    (letters : word.all Text.isWordChar = true) (blank : Text.AllBlank blanks) :
    ¬ word <:+: blanks :=
  not_infix_of_none some letters fun char member => Text.isWordChar_of_isBlank (blank char member)

/-- A word of letters in a connector is part of a single joining word or of one of the two words of
`next to`. -/
theorem infix_of_stands {before connector word after : List Char} (some : word ≠ [])
    (letters : word.all Text.isWordChar = true) (stands : Stands before connector after)
    (part : word <:+: connector) :
    connector ∈ singleWords ∨ word <:+: ['n', 'e', 'x', 't'] ∨ word <:+: ['t', 'o'] := by
  cases stands with
  | comma =>
    refine absurd part (not_infix_of_none some letters ?_)
    rw [List.forall_mem_singleton]
    decide +kernel
  | word joins =>
    cases joins with
    | single listed => exact .inl listed
    | @nextTo gap filled blank =>
      -- White space parts the two words of `next to`, so the word is a part of one of them.
      obtain ⟨left, right, whole⟩ := part
      rw [List.append_assoc, List.append_assoc] at whole
      have gapStarts : startsInWord (gap ++ ['t', 'o']) = false := by
        rw [startsInWord_append filled]
        exact startsInWord_of_allBlank blank
      rcases before_or_behind letters (.inr gapStarts) whole.symm with
        ⟨rest, first, -⟩ | ⟨rest, -, later⟩
      · exact .inr (.inl (first ▸ List.infix_append' left word rest))
      rcases before_or_behind letters (.inl (endsInWord_of_allBlank blank)) later with
        ⟨inner, space, -⟩ | ⟨inner, -, second⟩
      · exact absurd (space ▸ List.infix_append' rest word inner)
          (not_infix_of_allBlank some letters blank)
      · exact .inr (.inr (second ▸ List.infix_append' inner word right))

/-- In one place stands one connector. -/
theorem Stands.unique {before word rest other behind : List Char} (stands : Stands before word rest)
    (standsToo : Stands before other behind) (same : word ++ rest = other ++ behind) :
    word = other ∧ rest = behind := by
  have first := connectorLength?_eq_some_iff.mpr ⟨word, rest, rfl, stands, rfl⟩
  have second := connectorLength?_eq_some_iff.mpr ⟨other, behind, same, standsToo, rfl⟩
  exact List.append_inj same (Option.some.inj (first.symm.trans second))

/-- The first connector of a text is behind one part only. -/
theorem part_unique {before part word rest other connector behind : List Char}
    (clear : Clear before part (word ++ rest)) (stands : Stands (before ++ part) word rest)
    (clearToo : Clear before other (connector ++ behind))
    (standsToo : Stands (before ++ other) connector behind)
    (same : part ++ (word ++ rest) = other ++ (connector ++ behind)) :
    part = other ∧ word ++ rest = connector ++ behind := by
  rcases List.append_eq_append_iff.mp same with ⟨more, longer, there⟩ | ⟨more, longer, there⟩
  · by_cases nothing : more = []
    · subst nothing
      rw [List.append_nil] at longer
      exact ⟨longer.symm, there⟩
    · exact absurd stands (clearToo part more longer nothing word rest there.symm)
  · by_cases nothing : more = []
    · subst nothing
      rw [List.append_nil] at longer
      exact ⟨longer, there.symm⟩
    · exact absurd standsToo (clear other more longer nothing connector behind there.symm)

/-! ## Stretches -/

/-- A stretch of a text. -/
inductive Stretch where
  /-- A part between connectors. -/
  | part (chars : List Char)
  /-- A connector. -/
  | connector (chars : List Char)
deriving DecidableEq, Repr

namespace Stretch

/-- The characters of a stretch. -/
def chars : Stretch → List Char
  | .part chars => chars
  | .connector chars => chars

/-- The part that a stretch is, if it is one. -/
def part? : Stretch → Option (List Char)
  | .part chars => some chars
  | .connector _ => none

/-- Whether a stretch is in its place: a connector stands there, or none begins inside of it. -/
def Fits (before : List Char) (stretch : Stretch) (after : List Char) : Prop :=
  match stretch with
  | .part chars => Clear before chars after
  | .connector chars => Stands before chars after

end Stretch

/-- The characters of stretches, one behind the other. -/
def charsOf (stretches : List Stretch) : List Char := stretches.flatMap Stretch.chars

/-- The parts among stretches. -/
def partsOf (stretches : List Stretch) : List (List Char) := stretches.filterMap Stretch.part?

/-- A text behind another one consists of stretches: parts, with a connector between any two. -/
inductive Stretched : (before text : List Char) → List Stretch → Prop where
  /-- No connector is left. -/
  | last {before text : List Char} (clear : Clear before text []) :
      Stretched before text [.part text]
  /-- A connector stands behind the first part. -/
  | connector {before part word rest : List Char} {stretches : List Stretch}
      (clear : Clear before part (word ++ rest)) (stands : Stands (before ++ part) word rest)
      (later : Stretched (before ++ part ++ word) rest stretches) :
      Stretched before (part ++ (word ++ rest)) (.part part :: .connector word :: stretches)

/-- A cut with its connectors. -/
theorem Cut.exists_stretched {before text : List Char} {parts : List (List Char)}
    (cut : Cut before text parts) :
    ∃ stretches, Stretched before text stretches ∧ partsOf stretches = parts := by
  induction cut with
  | last clear => exact ⟨_, .last clear, rfl⟩
  | @connector before text part word rest parts whole clear stands later ih =>
    obtain ⟨stretches, behind, rfl⟩ := ih
    subst whole
    exact ⟨_, .connector clear stands behind, rfl⟩

namespace Stretched

variable {before text : List Char} {stretches : List Stretch}

/-- The stretches of a text put together are the text. -/
theorem charsOf_eq (stretched : Stretched before text stretches) : charsOf stretches = text := by
  induction stretched with
  | last => exact List.append_nil _
  | connector _ _ _ ih => rw [charsOf, List.flatMap_cons, List.flatMap_cons, ← charsOf, ih]; rfl

/-- Every stretch is in its place. -/
theorem fits (stretched : Stretched before text stretches) {earlier later : List Stretch}
    {stretch : Stretch} (split : stretches = earlier ++ stretch :: later) :
    stretch.Fits (before ++ charsOf earlier) (charsOf later) := by
  induction stretched generalizing earlier with
  | last clear =>
    obtain ⟨rfl, one⟩ | ⟨rfl, rest⟩ := List.append_eq_singleton_iff.mp split.symm
    · obtain ⟨rfl, rfl⟩ := List.cons.inj one
      rw [charsOf, List.flatMap_nil, List.append_nil]
      exact clear
    · cases rest
  | @connector before part word rest stretches clear stands behind ih =>
    match earlier with
    | [] =>
      obtain ⟨rfl, rfl⟩ := List.cons.inj split
      rw [charsOf, charsOf, List.flatMap_nil, List.append_nil, List.flatMap_cons, ← charsOf,
        behind.charsOf_eq]
      exact clear
    | [first] =>
      obtain ⟨rfl, second⟩ := List.cons.inj split
      obtain ⟨rfl, rfl⟩ := List.cons.inj second
      rw [charsOf, List.flatMap_singleton, behind.charsOf_eq]
      exact stands
    | first :: second :: earlier =>
      obtain ⟨rfl, next⟩ := List.cons.inj split
      obtain ⟨rfl, further⟩ := List.cons.inj next
      have place := ih further
      rw [List.append_assoc, List.append_assoc] at place
      exact place

/-- A text has stretches in one way only. -/
theorem unique {others : List Stretch} (stretched : Stretched before text stretches)
    (same : Stretched before text others) : stretches = others := by
  induction stretched generalizing others with
  | @last before text clear =>
    cases same with
    | last => rfl
    | @connector _ part word rest _ _ stands _ =>
      exact absurd stands (clear part (word ++ rest) rfl
        (fun empty => stands.ne_nil (List.append_eq_nil_iff.mp empty).1) word rest
        (List.append_nil _))
  | @connector before part word rest stretches clear stands behind ih =>
    generalize whole : part ++ (word ++ rest) = text at same
    cases same with
    | last clearToo =>
      refine absurd stands (clearToo part (word ++ rest) whole.symm ?_ word rest
        (List.append_nil _))
      exact fun empty => stands.ne_nil (List.append_eq_nil_iff.mp empty).1
    | connector clearToo standsToo behindToo =>
      obtain ⟨rfl, there⟩ := part_unique clear stands clearToo standsToo whole
      obtain ⟨rfl, rfl⟩ := stands.unique standsToo there
      rw [ih behindToo]

/-- A word of letters lies within one stretch. -/
theorem exists_stretch (stretched : Stretched before text stretches) {left word after : List Char}
    (letters : word.all Text.isWordChar = true) (whole : text = left ++ (word ++ after)) :
    ∃ earlier stretch later near far, stretches = earlier ++ stretch :: later ∧
      stretch.chars = near ++ (word ++ far) ∧ left = charsOf earlier ++ near ∧
      after = far ++ charsOf later := by
  induction stretched generalizing left with
  | @last before text clear =>
    exact ⟨[], .part text, [], left, after, rfl, whole, rfl, (List.append_nil after).symm⟩
  | @connector before part connector rest stretches clear stands behind ih =>
    obtain ⟨front, back⟩ := stands.edges
    have frontEdge := front.imp_left endsInWord_eq_false_of_append
    have backEdge := back.imp_left endsInWord_eq_false_of_append
    rcases before_or_behind letters frontEdge whole with
      ⟨far, inside, rfl⟩ | ⟨inner, rfl, there⟩
    · refine ⟨[], .part part, _, left, far, rfl, inside, rfl, ?_⟩
      rw [charsOf, List.flatMap_cons, ← charsOf, behind.charsOf_eq]
      rfl
    rcases before_or_behind letters backEdge there with ⟨far, inside, rfl⟩ | ⟨beyond, rfl, further⟩
    · refine ⟨[.part part], .connector connector, stretches, inner, far, rfl, inside, ?_, ?_⟩
      · rw [charsOf, List.flatMap_singleton]
        rfl
      · rw [behind.charsOf_eq]
    · obtain ⟨earlier, stretch, later, near, far, rfl, inside, rfl, rfl⟩ := ih further
      refine ⟨.part part :: .connector connector :: earlier, stretch, later, near, far, rfl, inside,
        ?_, rfl⟩
      simp only [charsOf, List.flatMap_cons, Stretch.chars, List.append_assoc]

/-- A single joining word that stands somewhere is a stretch by itself. -/
theorem exists_connector (stretched : Stretched before text stretches)
    {left word after : List Char} (listed : word ∈ singleWords)
    (whole : text = left ++ (word ++ after)) (stands : Stands (before ++ left) word after) :
    ∃ earlier later, stretches = earlier ++ .connector word :: later ∧ left = charsOf earlier ∧
      after = charsOf later := by
  have some : word ≠ [] := stands.ne_nil
  have letters := letters_of_single listed
  obtain ⟨earlier, stretch, later, near, far, split, inside, rfl, rfl⟩ :=
    stretched.exists_stretch letters whole
  have place := stretched.fits split
  rw [← List.append_assoc] at stands
  cases stretch with
  | part chars =>
    -- No connector begins inside of a part.
    refine absurd stands (place near (word ++ far) inside ?_ word (far ++ charsOf later) ?_)
    · exact fun empty => some (List.append_eq_nil_iff.mp empty).1
    · exact List.append_assoc word far _
  | connector chars =>
    change chars = near ++ (word ++ far) at inside
    have part : word <:+: chars := inside ▸ List.infix_append' near word far
    have same : word = chars := by
      have apart : ∀ word ∈ singleWords, ¬ Text.occursIn word ['n', 'e', 'x', 't'] = true ∧
          ¬ Text.occursIn word ['t', 'o'] = true ∧
          ∀ other ∈ singleWords, Text.occursIn word other = true → word = other := by
        decide
      obtain ⟨notFirst, notSecond, one⟩ := apart word listed
      rw [Text.occursIn_iff_infix] at notFirst notSecond
      rcases infix_of_stands some letters place part with single | first | second
      · exact one chars single (Text.occursIn_iff_infix.mpr part)
      · exact absurd first notFirst
      · exact absurd second notSecond
    subst same
    have sizes := congrArg List.length inside
    simp only [List.length_append] at sizes
    obtain rfl : near = [] := List.eq_nil_of_length_eq_zero (by omega)
    obtain rfl : far = [] := List.eq_nil_of_length_eq_zero (by omega)
    exact ⟨earlier, later, split, List.append_nil _, rfl⟩

end Stretched

end Phrase

end ShapeScene
