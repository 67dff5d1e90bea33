import Mathlib.Data.List.Forall2
import ShapeScene.Proofs.Text.Lowercase

/-!
# Letters in both cases

The two forms of an ASCII letter have one lowercase form, and they count the same for a sigma next
to them. So texts that differ in the case of such letters have one lowercase form.
-/

namespace ShapeScene.Text

/-- Two characters are the same but for the case of an ASCII letter. -/
def SameLetter (char other : Char) : Prop := char.toLower = other.toLower

instance (char other : Char) : Decidable (SameLetter char other) :=
  inferInstanceAs (Decidable (char.toLower = other.toLower))

/-- A character is the same as itself. -/
theorem SameLetter.refl (char : Char) : SameLetter char char := rfl

/-- Two characters of which each can stand for the other when a text is brought to lowercase. -/
structure IsAlike (char other : Char) : Prop where
  /-- Both are passed over in the search for a cased character, or neither is. -/
  seen : CodeRange.cover caseIgnorableRanges char.toNat =
    CodeRange.cover caseIgnorableRanges other.toNat
  /-- Both have a case, or neither has. -/
  cased : CodeRange.cover casedRanges char.toNat = CodeRange.cover casedRanges other.toNat
  /-- Both are sigmas, or neither is. -/
  sigma : char = 'Σ' ↔ other = 'Σ'
  /-- They have one lowercase form. -/
  lower : lowercaseChar char = lowercaseChar other

namespace IsAlike

/-- A character can stand for itself. -/
theorem refl (char : Char) : IsAlike char char := ⟨rfl, rfl, Iff.rfl, rfl⟩

/-- Characters stand for each other. -/
theorem symm {char other : Char} (alike : IsAlike char other) : IsAlike other char :=
  ⟨alike.seen.symm, alike.cased.symm, alike.sigma.symm, alike.lower.symm⟩

/-- What can stand for a stand-in can stand for the character itself. -/
theorem trans {first second third : Char} (before : IsAlike first second)
    (behind : IsAlike second third) : IsAlike first third :=
  ⟨before.seen.trans behind.seen, before.cased.trans behind.cased,
    before.sigma.trans behind.sigma, before.lower.trans behind.lower⟩

instance (char other : Char) : Decidable (IsAlike char other) :=
  decidable_of_iff
    (CodeRange.cover caseIgnorableRanges char.toNat =
        CodeRange.cover caseIgnorableRanges other.toNat ∧
      CodeRange.cover casedRanges char.toNat = CodeRange.cover casedRanges other.toNat ∧
      (char = 'Σ' ↔ other = 'Σ') ∧ lowercaseChar char = lowercaseChar other)
    ⟨fun ⟨seen, cased, sigma, lower⟩ => ⟨seen, cased, sigma, lower⟩,
      fun ⟨seen, cased, sigma, lower⟩ => ⟨seen, cased, sigma, lower⟩⟩

/-- The capitals of ASCII are checked one by one. -/
theorem capitals : ∀ code ∈ List.range' 'A'.toNat 26,
    IsAlike (Char.ofNat code) (Char.ofNat code).toLower := by
  decide +kernel

/-- The small form of an ASCII letter can stand for it. -/
theorem toLower (char : Char) : IsAlike char char.toLower := by
  by_cases capital : char.val ≥ 'A'.val ∧ char.val ≤ 'Z'.val
  · have above : 'A'.toNat ≤ char.toNat := UInt32.le_iff_toNat_le.mp capital.1
    have below : char.toNat ≤ 'Z'.toNat := UInt32.le_iff_toNat_le.mp capital.2
    have listed : char.toNat ∈ List.range' 'A'.toNat 26 :=
      List.mem_range'_1.mpr ⟨above, Nat.lt_succ_of_le below⟩
    have alike := capitals char.toNat listed
    rwa [Char.ofNat_toNat] at alike
  · have same : char.toLower = char := by
      unfold Char.toLower
      exact dif_neg capital
    rw [same]
    exact refl char

end IsAlike

/-- The same letter in another case can stand for it. -/
theorem SameLetter.isAlike {char other : Char} (same : SameLetter char other) :
    IsAlike char other := by
  have there := IsAlike.toLower char
  rw [same] at there
  exact there.trans (IsAlike.toLower other).symm

/-- Whether a cased character follows is the same for characters that stand for each other. -/
theorem meetsCased_congr {chars others : List Char} (alike : List.Forall₂ IsAlike chars others) :
    meetsCased chars = meetsCased others := by
  unfold meetsCased
  induction alike with
  | nil => rfl
  | @cons char other _ _ one _ ih =>
    simp only [List.dropWhile_cons, one.seen]
    by_cases passed : CodeRange.cover caseIgnorableRanges other.toNat = true
    · simp only [if_pos passed]
      exact ih
    · simp only [if_neg passed]
      exact one.cased

/-- So is the form of a sigma between them. -/
theorem lowercaseSigma_congr {before others after later : List Char}
    (left : List.Forall₂ IsAlike before others) (right : List.Forall₂ IsAlike after later) :
    lowercaseSigma before after = lowercaseSigma others later := by
  rw [lowercaseSigma, lowercaseSigma, meetsCased_congr left, meetsCased_congr right]

/-- Characters that stand for each other have one lowercase form, behind such characters too. -/
theorem lowercaseAfter_congr {before behind chars others : List Char}
    (left : List.Forall₂ IsAlike before behind) (alike : List.Forall₂ IsAlike chars others) :
    lowercaseAfter before chars = lowercaseAfter behind others := by
  induction alike generalizing before behind with
  | nil => rfl
  | @cons char other chars others one more ih =>
    have rest := ih (.cons one left)
    by_cases sigma : char = 'Σ'
    · simp only [lowercaseAfter, if_pos sigma, if_pos (one.sigma.mp sigma),
        lowercaseSigma_congr left more, rest]
    · have noSigma : other ≠ 'Σ' := fun same => sigma (one.sigma.mpr same)
      simp only [lowercaseAfter, if_neg sigma, if_neg noSigma, one.lower, rest]

/-- Texts that differ in the case of ASCII letters have one lowercase form. -/
theorem lowercaseChars_recased {chars others : List Char}
    (same : List.Forall₂ SameLetter chars others) :
    lowercaseChars chars = lowercaseChars others :=
  lowercaseAfter_congr .nil (same.imp fun _ _ one => one.isAlike)

end ShapeScene.Text
