import ShapeScene.Proofs.Description.Connectors
import ShapeScene.Proofs.Text.Lowercase

/-!
# Cutting a text at its connectors

A text is cut into parts in which no connector begins, with a connector that stands in the text
behind every part but the last. There is exactly one way to do so, and it is the one that the search
from the left finds. Cuts of two texts are a cut of both together where they meet at a seam.
-/

namespace ShapeScene

namespace Phrase

/-! ## What stands where depends on the neighbours -/

/-- The last nonempty text counts. -/
theorem endsInWord_append {chars : List Char} (before : List Char) (some : chars ≠ []) :
    endsInWord (before ++ chars) = endsInWord chars := by
  rw [endsInWord, endsInWord, List.getLast?_append, List.getLast?_eq_some_getLast some]
  rfl

/-- Equal ends stay equal. -/
theorem endsInWord_congr {before other : List Char} (same : endsInWord before = endsInWord other)
    (chars : List Char) : endsInWord (before ++ chars) = endsInWord (other ++ chars) := by
  by_cases empty : chars = []
  · rw [empty, List.append_nil, List.append_nil, same]
  · rw [endsInWord_append before empty, endsInWord_append other empty]

namespace Stands

variable {before word after : List Char}

/-- A connector has characters. -/
theorem ne_nil (stands : Stands before word after) : word ≠ [] := by
  cases stands with
  | comma => exact List.cons_ne_nil _ _
  | word joins => exact joins.ne_nil

/-- A connector does not begin with white space. -/
theorem not_blank {char : Char} {rest : List Char} (stands : Stands before (char :: rest) after) :
    Text.isBlank char = false := by
  cases stands with
  | comma => decide
  | word joins =>
    have letter : Text.isWordChar char = true := joins.startsInWord
    cases blank : Text.isBlank char with
    | false => rfl
    | true => exact absurd (Text.isWordChar_of_isBlank blank) (by rw [letter]; decide)

/-- Of the neighbours counts only whether a word goes on there. -/
theorem congr {other behind : List Char} (left : endsInWord before = endsInWord other)
    (right : startsInWord after = startsInWord behind) (stands : Stands before word after) :
    Stands other word behind := by
  cases stands with
  | comma => exact .comma behind
  | word joins leftEdge rightEdge =>
    have edges := (joins.stands_iff before after).mp (.word joins leftEdge rightEdge)
    rw [left, right] at edges
    exact (joins.stands_iff other behind).mpr edges

end Stands

/-! ## Parts without connectors -/

/-- No connector begins inside of a part, with what comes before it and what comes after it. -/
def Clear (before part after : List Char) : Prop :=
  ∀ left right, part = left ++ right → right ≠ [] →
    ∀ word rest, right ++ after = word ++ rest → ¬ Stands (before ++ left) word rest

namespace Clear

variable {before part after : List Char}

/-- Nothing begins inside of an empty part. -/
theorem nil (before after : List Char) : Clear before [] after := by
  intro left right split some
  exact absurd (List.append_eq_nil_iff.mp split.symm).2 some

/-- No connector begins inside of white space. -/
theorem of_blank (blank : Text.AllBlank part) (before after : List Char) :
    Clear before part after := by
  intro left right split some word rest whole stands
  obtain ⟨char, later, rfl⟩ := List.exists_cons_of_ne_nil some
  obtain ⟨first, others, rfl⟩ := List.exists_cons_of_ne_nil stands.ne_nil
  obtain ⟨rfl, -⟩ := List.cons.inj whole
  have white := blank char (split ▸ List.mem_append_right left List.mem_cons_self)
  exact absurd stands.not_blank (by rw [white]; decide)

/-- Two clear parts, one behind the other, are a clear part. -/
theorem append {next : List Char} (first : Clear before part (next ++ after))
    (second : Clear (before ++ part) next after) : Clear before (part ++ next) after := by
  intro left right split some word rest whole
  rcases List.append_eq_append_iff.mp split with ⟨inner, rfl, later⟩ | ⟨inner, rfl, rfl⟩
  · rw [← List.append_assoc]
    exact second inner right later some word rest whole
  · by_cases empty : inner = []
    · subst empty
      have here := second [] next rfl some word rest whole
      rwa [List.append_nil, List.append_nil] at here
    · rw [List.append_assoc] at whole
      exact first left inner rfl empty word rest whole

/-- What is behind the beginning of a clear part is clear. -/
theorem behind {next : List Char} (clear : Clear before (part ++ next) after) :
    Clear (before ++ part) next after := by
  intro left right split some word rest whole
  rw [List.append_assoc]
  exact clear (part ++ left) right (by rw [split, List.append_assoc]) some word rest whole

/-- No connector is found at the front of a clear part. -/
theorem connectorLength? (clear : Clear before part after) (some : part ≠ []) :
    connectorLength? before.getLast? (part ++ after) = none := by
  cases found : Phrase.connectorLength? before.getLast? (part ++ after) with
  | none => rfl
  | some length =>
    obtain ⟨word, rest, whole, stands, -⟩ := connectorLength?_eq_some_iff.mp found
    have here := clear [] part rfl some word rest whole
    rw [List.append_nil] at here
    exact absurd stands here

/-- A character is clear where no connector is found. -/
theorem of_connectorLength? {char : Char} {rest : List Char}
    (none : Phrase.connectorLength? before.getLast? (char :: rest) = none) :
    Clear before [char] rest := by
  intro left right split some word behind whole stands
  rcases List.append_eq_singleton_iff.mp split.symm with ⟨rfl, rfl⟩ | ⟨-, rfl⟩
  · rw [List.append_nil] at stands
    have found := connectorLength?_eq_some_iff.mpr ⟨word, behind, whole, stands, rfl⟩
    cases none.symm.trans found
  · exact absurd rfl some

/-- Of what is before a part counts only whether it ends inside of a word. -/
theorem congr {other : List Char} (same : endsInWord before = endsInWord other)
    (clear : Clear before part after) : Clear other part after := by
  intro left right split some word rest whole stands
  exact clear left right split some word rest whole
    (stands.congr (endsInWord_congr same.symm left) rfl)

end Clear

/-- A text at which no connector goes on that begins before it. -/
structure IsSeam (chars : List Char) : Prop where
  /-- No word goes on. -/
  outside : startsInWord chars = false
  /-- It cannot be the white space and the second word of `next to`. -/
  notSecond : (chars.dropWhile Text.isBlank).head? ≠ some 't'

namespace IsSeam

variable {seam : List Char}

/-- A seam makes no difference to a connector before it. -/
theorem startsInWord_append (isSeam : IsSeam seam) (chars : List Char) :
    startsInWord (chars ++ seam) = startsInWord chars := by
  cases chars with
  | nil => exact isSeam.outside
  | cons => rfl

/-- No connector begins before a seam and ends behind its beginning. -/
theorem not_stands (isSeam : IsSeam seam) {before left right rest : List Char} (begun : left ≠ [])
    (more : right ≠ []) (split : seam = right ++ rest) : ¬ Stands before (left ++ right) rest := by
  intro stands
  generalize whole : left ++ right = word at stands
  cases stands with
  | comma =>
    have sizes := congrArg List.length whole
    rw [List.length_append, List.length_singleton] at sizes
    have := List.length_pos_iff.mpr begun
    have := List.length_pos_iff.mpr more
    omega
  | word joins =>
    rcases joins.rest_of_split whole.symm more with letter | second
    · have outside := isSeam.outside
      rw [split, Phrase.startsInWord_append more, letter] at outside
      cases outside
    · apply isSeam.notSecond
      rw [split, List.dropWhile_append]
      split
      · rename_i empty
        rw [List.isEmpty_iff.mp empty] at second
        cases second
      · rw [List.head?_append, second]
        rfl

end IsSeam

/-- A part stays clear when a seam is put behind everything. -/
theorem Clear.extend {before part after seam : List Char} (clear : Clear before part after)
    (isSeam : IsSeam seam) : Clear before part (after ++ seam) := by
  intro left right split some word rest whole stands
  rw [← List.append_assoc] at whole
  -- The connector reaches the seam or ends before it. It cannot go on behind the beginning of the
  -- seam, and one that ends there or before also stood in the text without the seam.
  rcases List.append_eq_append_iff.mp whole with ⟨inner, rfl, later⟩ | ⟨inner, within, rfl⟩
  · have begun : right ++ after ≠ [] := fun empty => some (List.append_eq_nil_iff.mp empty).1
    by_cases empty : inner = []
    · subst empty
      rw [List.append_nil] at stands
      rw [List.nil_append] at later
      subst later
      refine clear left right split some (right ++ after) [] (List.append_nil _).symm ?_
      exact stands.congr rfl isSeam.outside
    · exact isSeam.not_stands begun empty later stands
  · exact clear left right split some word inner within
      (stands.congr rfl (isSeam.startsInWord_append inner))

/-! ## Cuts -/

/-- Parts with characters put before the first one. -/
def prefixFirst (chars : List Char) : List (List Char) → List (List Char)
  | [] => [chars]
  | part :: parts => (chars ++ part) :: parts

/-- The parts of two texts, one behind the other: the last part of the first text goes on as the
first part of the second. -/
def joinParts : List (List Char) → List (List Char) → List (List Char)
  | [], later => later
  | [last], later => prefixFirst last later
  | part :: next :: parts, later => part :: joinParts (next :: parts) later

/-- A text behind another one is cut into parts. -/
inductive Cut : (before text : List Char) → (parts : List (List Char)) → Prop where
  /-- No connector is left. -/
  | last {before text : List Char} (clear : Clear before text []) : Cut before text [text]
  /-- A connector stands behind the first part. -/
  | connector {before text part word rest : List Char} {parts : List (List Char)}
      (whole : text = part ++ (word ++ rest)) (clear : Clear before part (word ++ rest))
      (stands : Stands (before ++ part) word rest)
      (later : Cut (before ++ part ++ word) rest parts) : Cut before text (part :: parts)

namespace Cut

variable {before text : List Char} {parts : List (List Char)}

/-- Of what is before a text counts only whether it ends inside of a word. -/
theorem congr {other : List Char} (same : endsInWord before = endsInWord other)
    (cut : Cut before text parts) : Cut other text parts := by
  induction cut generalizing other with
  | last clear => exact .last (clear.congr same)
  | @connector before text part word rest parts whole clear stands later ih =>
    have samePart := endsInWord_congr same part
    exact .connector whole (clear.congr same) (stands.congr samePart rfl)
      (ih (endsInWord_congr samePart word))

/-- A clear part goes on as the first part of the text behind it. -/
theorem prefixClear {chars : List Char} (clear : Clear before chars text)
    (cut : Cut (before ++ chars) text parts) :
    Cut before (chars ++ text) (prefixFirst chars parts) := by
  cases cut with
  | last rest =>
    refine .last (Clear.append ?_ rest)
    rwa [List.append_nil]
  | connector whole rest stands later =>
    subst whole
    rw [List.append_assoc before] at stands later
    exact .connector (List.append_assoc ..).symm (clear.append rest) stands later

/-- Two texts that meet at a seam are cut into the parts of both. -/
theorem append {seam : List Char} {later : List (List Char)} (cut : Cut before text parts)
    (isSeam : IsSeam seam) (behind : Cut (before ++ text) seam later) :
    Cut before (text ++ seam) (joinParts parts later) := by
  induction cut with
  | last clear => exact prefixClear (clear.extend isSeam) behind
  | @connector before text part word rest parts whole clear stands cut ih =>
    subst whole
    have goesOn : Cut (before ++ part ++ word) (rest ++ seam) (joinParts parts later) := by
      apply ih
      simpa only [List.append_assoc] using behind
    have step : joinParts (part :: parts) later = part :: joinParts parts later := by
      cases cut <;> rfl
    rw [step]
    refine .connector (by simp only [List.append_assoc]) ?_ ?_ goesOn
    · rw [← List.append_assoc]
      exact clear.extend isSeam
    · exact stands.congr rfl (isSeam.startsInWord_append rest).symm

end Cut

/-! ## The search cuts a text -/

/-- The characters of a connector are passed. -/
theorem partsAfter_skip (before chars rest : List Char) :
    partsAfter before.getLast? chars.length (chars ++ rest) =
      partsAfter (before ++ chars).getLast? 0 rest := by
  induction chars generalizing before with
  | nil => rw [List.append_nil, List.length_nil, List.nil_append]
  | cons char chars ih =>
    have passed := ih (before ++ [char])
    rw [List.getLast?_concat, List.append_assoc] at passed
    exact passed

/-- The search ends a part at a connector and goes on behind it. -/
theorem partsAfter_of_stands {before word rest : List Char} (stands : Stands before word rest) :
    partsAfter before.getLast? 0 (word ++ rest) =
      [] :: partsAfter (before ++ word).getLast? 0 rest := by
  have found := connectorLength?_eq_some_iff.mpr ⟨word, rest, rfl, stands, rfl⟩
  obtain ⟨char, chars, rfl⟩ := List.exists_cons_of_ne_nil stands.ne_nil
  have passed := partsAfter_skip (before ++ [char]) chars rest
  rw [List.getLast?_concat, List.append_assoc] at passed
  rw [List.cons_append] at found ⊢
  rw [partsAfter, found]
  exact congrArg ([] :: ·) passed

/-- The search keeps a character at which no connector begins. -/
theorem partsAfter_of_none {before rest : List Char} {char : Char}
    (none : connectorLength? before.getLast? (char :: rest) = none) :
    partsAfter before.getLast? 0 (char :: rest) =
      prefixFirst [char] (partsAfter (before ++ [char]).getLast? 0 rest) := by
  rw [partsAfter, none, List.getLast?_concat]
  rfl

/-- The search gives one part at least. -/
theorem partsAfter_ne_nil (before : Option Char) (skip : Nat) (chars : List Char) :
    partsAfter before skip chars ≠ [] := by
  induction chars generalizing before skip with
  | nil =>
    cases skip <;> exact List.cons_ne_nil _ _
  | cons char rest ih =>
    cases skip with
    | succ skip => exact ih (some char) skip
    | zero =>
      rw [partsAfter]
      split
      · exact List.cons_ne_nil _ _
      · split <;> exact List.cons_ne_nil _ _

/-- Nothing put before the first part changes nothing. -/
theorem prefixFirst_nil {parts : List (List Char)} (some : parts ≠ []) :
    prefixFirst [] parts = parts := by
  cases parts with
  | nil => exact absurd rfl some
  | cons => rfl

/-- Characters put before the first part one after the other. -/
theorem prefixFirst_append (first second : List Char) (parts : List (List Char)) :
    prefixFirst (first ++ second) parts = prefixFirst first (prefixFirst second parts) := by
  cases parts with
  | nil => rfl
  | cons => simp only [prefixFirst, List.append_assoc]

/-- The search keeps a clear part. -/
theorem partsAfter_of_clear {before part after : List Char} (clear : Clear before part after) :
    partsAfter before.getLast? 0 (part ++ after) =
      prefixFirst part (partsAfter (before ++ part).getLast? 0 after) := by
  induction part generalizing before with
  | nil => rw [prefixFirst_nil (partsAfter_ne_nil _ _ _), List.append_nil, List.nil_append]
  | cons char part ih =>
    have none := clear.connectorLength? (List.cons_ne_nil char part)
    have rest : Clear (before ++ [char]) part after := clear.behind
    have later := ih rest
    rw [List.append_assoc] at later
    rw [List.cons_append] at none ⊢
    rw [partsAfter_of_none none, later]
    exact (prefixFirst_append [char] part _).symm

/-- The search cuts a text. -/
theorem cut_partsAfter (before text : List Char) :
    Cut before text (partsAfter before.getLast? 0 text) := by
  -- The induction is on the length, since all characters of a connector are passed at once.
  induction size : text.length using Nat.strongRecOn generalizing before text with
  | ind size ih =>
    subst size
    cases text with
    | nil => exact .last (Clear.nil before [])
    | cons char rest =>
      cases found : connectorLength? before.getLast? (char :: rest) with
      | none =>
        have later := ih rest.length (Nat.lt_succ_self _) (before ++ [char]) rest rfl
        rw [partsAfter_of_none found]
        exact later.prefixClear (Clear.of_connectorLength? found)
      | some length =>
        obtain ⟨word, behind, whole, stands, -⟩ := connectorLength?_eq_some_iff.mp found
        have less : behind.length < (char :: rest).length := by
          have := List.length_pos_iff.mpr stands.ne_nil
          rw [whole, List.length_append]
          omega
        have later := ih behind.length less (before ++ word) behind rfl
        rw [whole, partsAfter_of_stands stands]
        refine .connector rfl (Clear.nil before _) ?_ ?_ <;> rw [List.append_nil]
        · exact stands
        · exact later

/-- A text is cut in one way only. -/
theorem Cut.unique {before text : List Char} {parts : List (List Char)}
    (cut : Cut before text parts) : parts = partsAfter before.getLast? 0 text := by
  induction cut with
  | @last before text clear =>
    have kept := partsAfter_of_clear clear
    rw [List.append_nil] at kept
    rw [kept]
    simp only [partsAfter, prefixFirst, List.append_nil]
  | connector whole clear stands later ih =>
    rw [whole, partsAfter_of_clear clear, partsAfter_of_stands stands, ← ih]
    simp only [prefixFirst, List.append_nil]

/-- The parts that the search gives are those into which the text is cut. -/
theorem cut_iff {before text : List Char} {parts : List (List Char)} :
    Cut before text parts ↔ partsAfter before.getLast? 0 text = parts := by
  constructor
  · intro cut
    exact cut.unique.symm
  · rintro rfl
    exact cut_partsAfter before text

end Phrase

end ShapeScene
