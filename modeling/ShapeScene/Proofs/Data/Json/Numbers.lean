import ShapeScene.Data.Json.Reader
import ShapeScene.Proofs.Data.Numbers
import ShapeScene.Proofs.Number.Defined

/-!
# The numbers of JSON documents

No document writes a NaN. A token is rounded and then multiplied or divided by a power of ten that
is finite and not zero, and a document is made of tokens, strings and words.
-/

namespace ShapeScene.Json

/-- Whether no number of a datum is a NaN. -/
def IsDefined (datum : Datum) : Prop := ∀ x, datum.Yields x → x.isNaN = false

/-! ## Tokens -/

/-- The powers of ten that are used are finite and not zero. -/
theorem powerOfTen_regular {exponent : Nat} (small : exponent ≤ 308) :
    (powerOfTen exponent).isFinite = true ∧ (powerOfTen exponent).isZero = false := by
  have all : ∀ exponent < 309,
      (powerOfTen exponent).isFinite = true ∧ (powerOfTen exponent).isZero = false := by
    decide +kernel
  exact all exponent (by omega)

/-- A number that is scaled stays a number or an infinity. -/
theorem isNaN_of_scaleByTen {divisions : Nat} {magnitude scaled : Binary64} {exponent : Int}
    (defined : magnitude.isNaN = false)
    (scale : scaleByTen divisions magnitude exponent = some scaled) : scaled.isNaN = false := by
  fun_induction scaleByTen divisions magnitude exponent with
  | case1 => cases scale
  | case2 divisions magnitude exponent small =>
    obtain ⟨finite, nonzero⟩ := powerOfTen_regular small
    obtain rfl := Option.some.inj scale
    exact Binary64.isNaN_mul defined finite nonzero
  | case3 divisions magnitude exponent small =>
    obtain ⟨finite, nonzero⟩ := powerOfTen_regular small
    obtain rfl := Option.some.inj scale
    exact Binary64.isNaN_div defined finite nonzero
  | case4 =>
    obtain rfl := Option.some.inj scale
    exact defined
  | case5 => cases scale
  | case6 =>
    obtain rfl := Option.some.inj scale
    exact defined
  | case7 magnitude exponent large nonzero negative divisions ih =>
    obtain ⟨finite, nonzero⟩ := powerOfTen_regular (Nat.le_refl 308)
    exact ih (Binary64.isNaN_div defined finite nonzero) scale

/-- A number that is no NaN is a datum without any. -/
theorem isDefined_real {x : Binary64} (defined : x.isNaN = false) : IsDefined (.real x) := by
  rintro y ⟨⟩
  exact defined

/-- An integer is a datum without a NaN. -/
theorem isDefined_integer (form : IntegerForm) (value : Int) :
    IsDefined (.integer form value) := by
  intro x within
  cases within with
  | integer rounded =>
    rw [← rounded]
    exact Binary64.isNaN_ofRatio _ _ _

/-- A significand times a power of ten is no NaN. -/
theorem isDefined_realOfParts (negative : Bool) (significand : Nat) (exponent : Int) :
    IsDefined (realOfParts negative significand exponent) := by
  unfold realOfParts
  split
  · rename_i magnitude scale
    have defined := isNaN_of_scaleByTen (Binary64.isNaN_ofRatio _ _ _) scale
    refine isDefined_real ?_
    split
    · rw [Binary64.isNaN_neg, defined]
    · exact defined
  · rintro x ⟨⟩

/-- A token has no NaN. -/
theorem NumberToken.isDefined_value (token : NumberToken) : IsDefined token.value := by
  have zero : IsDefined (.real (Binary64.zero token.negative)) :=
    isDefined_real (Binary64.isNaN_zero _)
  have exponent (significand : Nat) (start : Int) :
      IsDefined (withExponent token significand start) := by
    simp only [withExponent]
    split
    · split
      · rintro x ⟨⟩
      · exact zero
    · split <;> exact isDefined_realOfParts _ _ _
  have integer (significand : Nat) : IsDefined (integerOfParts token.negative significand) := by
    unfold integerOfParts
    split
    · split
      · refine isDefined_real ?_
        rw [Binary64.isNaN_neg]
        exact Binary64.isNaN_ofRatio _ _ _
      · exact isDefined_integer _ _
    · exact isDefined_integer _ _
  simp only [NumberToken.value]
  split
  · exact exponent _ _
  · split
    · exact integer _
    · exact isDefined_realOfParts _ _ _

/-! ## Documents -/

/-- Every item of a sequence is read somewhere. -/
theorem exists_of_mem_readItems? {α : Type} {close : UInt8}
    {read : List UInt8 → Option (α × List UInt8)} {bound : Nat} {bytes rest : List UInt8}
    {items : List α} (all : readItems? close read bound bytes = some (items, rest)) :
    ∀ item ∈ items, ∃ front behind, read front = some (item, behind) := by
  induction bound generalizing bytes items with
  | zero => cases all
  | succ bound ih =>
    rw [readItems?] at all
    split at all
    · cases all
    · rename_i first behind firstRead
      split at all
      · cases all
      · split at all
        · obtain ⟨rfl, -⟩ := Prod.mk.inj (Option.some.inj all)
          intro item member
          rw [List.mem_singleton.mp member]
          exact ⟨bytes, behind, firstRead⟩
        · split at all
          · obtain ⟨⟨others, last⟩, othersRead, same⟩ := Option.map_eq_some_iff.mp all
            obtain ⟨rfl, rfl⟩ := Prod.mk.inj same
            exact List.forall_mem_cons.mpr ⟨⟨bytes, behind, firstRead⟩, ih othersRead⟩
          · cases all

/-- Every item behind an opening byte is read somewhere. -/
theorem exists_of_mem_readSequence? {α : Type} {close : UInt8}
    {read : List UInt8 → Option (α × List UInt8)} {bound : Nat} {bytes rest : List UInt8}
    {items : List α} (all : readSequence? close read bound bytes = some (items, rest)) :
    ∀ item ∈ items, ∃ front behind, read front = some (item, behind) := by
  unfold readSequence? at all
  split at all
  · cases all
  · split at all
    · obtain ⟨rfl, -⟩ := Prod.mk.inj (Option.some.inj all)
      simp
    · exact exists_of_mem_readItems? all

/-- The value of a member is read behind its colon. -/
theorem exists_of_readMember? {read : List UInt8 → Option (Datum × List UInt8)}
    {bytes rest : List UInt8} {entry : Datum × Datum}
    (member : readMember? read bytes = some (entry, rest)) :
    ∃ front behind, read front = some (entry.2, behind) := by
  unfold readMember? at member
  split at member
  · obtain ⟨⟨key, behindKey⟩, -, member⟩ := Option.bind_eq_some_iff.mp member
    simp only at member
    split at member
    · rename_i behindColon _
      obtain ⟨⟨value, behind⟩, valueRead, same⟩ := Option.bind_eq_some_iff.mp member
      obtain ⟨rfl, -⟩ := Prod.mk.inj (Option.some.inj same)
      exact ⟨behindColon, behind, valueRead⟩
    · cases member
  · cases member

/-- A part below the last level has no numbers, and any other has its own. -/
theorem isDefined_atLevel {datum : Datum} (defined : IsDefined datum) (levels : Nat) :
    IsDefined (atLevel levels datum) := by
  cases levels with
  | zero => rintro x ⟨⟩
  | succ levels => exact defined

/-- A value that is read has no NaN. -/
theorem isDefined_of_readValue? {depth levels : Nat} {bytes rest : List UInt8} {datum : Datum}
    (read : readValue? depth levels bytes = some (datum, rest)) : IsDefined datum := by
  induction depth generalizing levels bytes rest datum with
  | zero => cases read
  | succ depth ih =>
    have magnitude {negative : Bool} {bytes : List UInt8}
        (read : readMagnitude? negative bytes = some (datum, rest)) : IsDefined datum := by
      simp only [readMagnitude?, Option.bind_eq_bind, Option.bind_eq_some_iff, Option.some.injEq,
        Prod.mk.injEq] at read
      obtain ⟨_, _, _, _, ⟨token, _⟩, _, rfl, _⟩ := read
      exact token.isDefined_value
    have word {value : Datum} {rests : Option (List UInt8)} (silent : IsDefined value)
        (read : (rests.map fun behind => (value, behind)) = some (datum, rest)) :
        IsDefined datum := by
      obtain ⟨_, _, same⟩ := Option.map_eq_some_iff.mp read
      rwa [← (Prod.mk.inj same).1]
    rw [readValue?] at read
    split at read
    · cases read
    -- the first byte decides: a string, a list, a map, a number with or without a sign, a word
    split at read
    · obtain ⟨⟨units, behind⟩, -, same⟩ := Option.map_eq_some_iff.mp read
      rw [← (Prod.mk.inj same).1, stringValue]
      split <;> rintro x ⟨⟩
    split at read
    · obtain ⟨⟨items, behind⟩, itemsRead, same⟩ := Option.map_eq_some_iff.mp read
      rw [← (Prod.mk.inj same).1]
      refine isDefined_atLevel (fun x within => ?_) levels
      cases within with
      | item member within =>
        obtain ⟨_, _, itemRead⟩ := exists_of_mem_readSequence? itemsRead _ member
        exact ih itemRead x within
    split at read
    · obtain ⟨⟨entries, behind⟩, entriesRead, same⟩ := Option.map_eq_some_iff.mp read
      rw [← (Prod.mk.inj same).1]
      refine isDefined_atLevel (fun x within => ?_) levels
      cases within with
      | entry member within =>
        obtain ⟨_, _, entryRead⟩ := exists_of_mem_readSequence? entriesRead _ member
        obtain ⟨_, _, valueRead⟩ := exists_of_readMember? entryRead
        exact ih valueRead x within
    split at read
    · exact magnitude read
    split at read
    · exact magnitude read
    split at read
    · exact word (by rintro x ⟨⟩) read
    split at read
    · exact word (by rintro x ⟨⟩) read
    split at read
    · exact word (by rintro x ⟨⟩) read
    · cases read

/-- No JSON document has a NaN. -/
theorem isDefined_of_read? {content : List UInt8} {datum : Datum}
    (read : read? content = some datum) : IsDefined datum := by
  unfold read? at read
  split at read
  · rename_i value rest valueRead
    simp only [Option.ite_none_right_eq_some, Option.some.injEq] at read
    obtain ⟨-, rfl⟩ := read
    exact isDefined_of_readValue? valueRead
  · cases read

end ShapeScene.Json
