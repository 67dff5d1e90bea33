import ShapeScene.Proofs.Text.Hexadecimal
import ShapeScene.Scene.Identifier

/-!
# Identifiers of random blocks

Six bits of an identifier say how it was made; the other 122 are those of its block. Its digits
write all its bits, so texts with all digits differ exactly where blocks differ in a bit that is
kept.
-/

namespace ShapeScene

namespace Uuid

/-! ## Bits -/

/-- Whether the bit at a place, counted from the front, says how an identifier was made: these are
the first four bits of the seventh byte and the first two of the ninth. -/
def isMarked (place : Nat) : Bool := (48 ≤ place && place < 52) || place == 64 || place == 65

/-- The places of all other bits. -/
def keptPlaces : List Nat := (List.range 128).filter fun place => !isMarked place

/-- The bits that an identifier has of its block. -/
def keptBits (bits : BitVec 128) : List Bool := keptPlaces.map bits.getMsbD

/-- The layout of an identifier, which the two bits in front of the ninth byte tell. -/
def variant (id : Uuid) : Nat := id.bits.toNat / Nat.pow 2 62 % 4

/-- Whether an identifier is that of a random block. -/
structure IsRandomOf (id : Uuid) (block : IdBlock) : Prop where
  /-- It has the version of random identifiers. -/
  version : id.version = 4
  /-- It has the standard layout. -/
  variant : id.variant = 2
  /-- All its other bits are those of the block. -/
  kept : keptBits id.bits = keptBits block

/-- All bits but six are kept. -/
theorem length_keptBits (bits : BitVec 128) : (keptBits bits).length = 122 := by
  rw [keptBits, List.length_map]
  decide +kernel

/-- The bits of the identifier of a block, at places counted from the front. -/
theorem getMsbD_ofBlock (block : IdBlock) {place : Nat} (inside : place < 128) :
    (ofBlock block).bits.getMsbD place =
      if isMarked place then randomMark.getMsbD place else block.getMsbD place := by
  have masked : ∀ place < 128,
      (versionMask ||| variantMask).getMsbD place = isMarked place := by
    decide
  have unset : ∀ place < 128, isMarked place = false → randomMark.getMsbD place = false := by
    decide
  rw [ofBlock, BitVec.getMsbD_or, BitVec.getMsbD_and, BitVec.getMsbD_not, masked place inside]
  cases marked : isMarked place with
  | true => simp
  | false => simp [inside, unset place inside marked]

/-- The bits that are kept are those of the block. -/
theorem keptBits_ofBlock (block : IdBlock) : keptBits (ofBlock block).bits = keptBits block := by
  refine List.map_congr_left fun place member => ?_
  obtain ⟨inside, kept⟩ := List.mem_filter.mp member
  rw [Bool.not_eq_true'] at kept
  rw [getMsbD_ofBlock block (List.mem_range.mp inside), kept, if_neg Bool.false_ne_true]

/-- Blocks have the same identifier exactly when they have the same bits where bits are kept. -/
theorem ofBlock_eq_iff (first second : IdBlock) :
    ofBlock first = ofBlock second ↔ keptBits first = keptBits second := by
  constructor
  · intro same
    rw [← keptBits_ofBlock first, same, keptBits_ofBlock]
  · intro alike
    rw [keptBits, keptBits, List.map_inj_left] at alike
    -- A marked bit is the same in all identifiers, any other one that of the block.
    have bits : (ofBlock first).bits = (ofBlock second).bits := by
      refine BitVec.eq_of_getMsbD_eq fun place inside => ?_
      rw [getMsbD_ofBlock first inside, getMsbD_ofBlock second inside]
      cases marked : isMarked place with
      | true => rfl
      | false =>
        have kept : place ∈ keptPlaces :=
          List.mem_filter.mpr ⟨List.mem_range.mpr inside, by rw [marked]; rfl⟩
        exact alike place kept
    exact congrArg Uuid.mk bits

/-- Where nothing is kept of a block, its identifier has the bits of all random identifiers. -/
theorem extractLsb'_ofBlock (block : IdBlock) {start count : Nat}
    (cleared : (~~~(versionMask ||| variantMask)).extractLsb' start count = BitVec.ofNat count 0) :
    (ofBlock block).bits.extractLsb' start count = randomMark.extractLsb' start count := by
  rw [ofBlock, BitVec.extractLsb'_or, BitVec.extractLsb'_and, cleared, BitVec.and_zero,
    BitVec.zero_or]

/-- A random identifier has version four. -/
theorem version_ofBlock (block : IdBlock) : (ofBlock block).version = 4 := by
  have field : (ofBlock block).version = ((ofBlock block).bits.extractLsb' 76 4).toNat := by
    rw [version, BitVec.extractLsb'_toNat, Nat.shiftRight_eq_div_pow]
  rw [field, extractLsb'_ofBlock block (by decide)]
  decide

/-- A random identifier has the standard layout. -/
theorem variant_ofBlock (block : IdBlock) : (ofBlock block).variant = 2 := by
  have field : (ofBlock block).variant = ((ofBlock block).bits.extractLsb' 62 2).toNat := by
    rw [variant, BitVec.extractLsb'_toNat, Nat.shiftRight_eq_div_pow]
  rw [field, extractLsb'_ofBlock block (by decide)]
  decide

/-- The identifier of a block is a random one. -/
theorem isRandomOf_ofBlock (block : IdBlock) : (ofBlock block).IsRandomOf block :=
  ⟨version_ofBlock block, variant_ofBlock block, keptBits_ofBlock block⟩

/-! ## Digits -/

variable (id : Uuid)

/-- Runs of digits one behind the other are one run. -/
theorem digits_append (start first second : Nat) :
    id.digits start first ++ id.digits (start + first) second =
      id.digits start (first + second) := by
  rw [digits, digits, ← List.map_append, List.range'_append_1]
  rfl

/-- A run of digits writes the bits in it. -/
theorem areHexDigitsOf_digits {start count : Nat} (inside : start + count ≤ 32) :
    Text.AreHexDigitsOf count (id.bits.toNat / 16 ^ (32 - (start + count)) % 16 ^ count)
      (id.digits start count) := by
  induction count with
  | zero =>
    rw [Nat.pow_zero, Nat.mod_one]
    exact .nil
  | succ count ih =>
    -- The digits before the last one write what is above it.
    have before := ih (by omega)
    have places : 32 - (start + count) = 31 - (start + count) + 1 := by omega
    have place : 32 - (start + (count + 1)) = 31 - (start + count) := by omega
    rw [places, Nat.pow_succ, ← Nat.div_div_eq_div_mul] at before
    have all := before.concat (Nat.mod_lt (id.bits.toNat / 16 ^ (31 - (start + count))) (by decide))
    have same (value : Nat) :
        value / 16 % 16 ^ count * 16 + value % 16 = value % 16 ^ (count + 1) := by
      rw [Nat.pow_succ, Nat.mul_comm (16 ^ count), Nat.mod_mul, Nat.add_comm, Nat.mul_comm 16]
    rw [same] at all
    rw [place, ← digits_append]
    exact all

/-- All digits write all bits. -/
theorem areHexDigitsOf_simpleText : Text.AreHexDigitsOf 32 id.bits.toNat id.simpleText := by
  have all := id.areHexDigitsOf_digits (Nat.le_refl (0 + 32))
  have below : id.bits.toNat < 16 ^ 32 := Nat.lt_of_lt_of_eq id.bits.isLt (by decide)
  rw [Nat.sub_self, Nat.pow_zero, Nat.div_one, Nat.mod_eq_of_lt below] at all
  exact all

/-- A run has as many digits as it says. -/
@[simp]
theorem length_digits (start count : Nat) : (id.digits start count).length = count := by
  rw [digits, List.length_map, List.length_range']

/-! ## Texts -/

/-- The places of hyphens in a text with all digits of an identifier. -/
def hyphenPlaces : List Nat := [8, 13, 18, 23]

/-- Whether a text has all digits of an identifier, in groups with hyphens between them. -/
structure IsHyphenated (text : List Char) : Prop where
  /-- There are 32 digits and four hyphens. -/
  length : text.length = 36
  /-- Hyphens are at their places and nowhere else. -/
  hyphens : ∀ place, text[place]? = some '-' ↔ place ∈ hyphenPlaces
  /-- All else is the digits, which write all bits. -/
  digits : Text.AreHexDigitsOf 32 id.bits.toNat (text.filter (· != '-'))

/-- Whether a name is that of a scene: the first eight digits of an identifier. -/
structure NamesScene (name : String) : Prop where
  /-- There are eight characters. -/
  length : name.toList.length = 8
  /-- All digits of the identifier begin with them. -/
  first : ∃ digits, Text.AreHexDigitsOf 32 id.bits.toNat digits ∧ name.toList <+: digits

/-- Whether a name is that of an object: a mark in front of all digits of an identifier. -/
def NamesObject (name : String) : Prop :=
  ∃ text, name.toList = "obj_".toList ++ text ∧ id.IsHyphenated text

section

variable {group : List Char} (plain : '-' ∉ group) (rest : List Char)

include plain

/-- The first hyphen is behind the group in front; the others are behind it. -/
theorem getElem?_group_append (place : Nat) :
    (group ++ '-' :: rest)[place]? = some '-' ↔
      place = group.length ∨
        group.length < place ∧ rest[place - (group.length + 1)]? = some '-' := by
  rcases Nat.lt_trichotomy place group.length with inside | rfl | behind
  · rw [List.getElem?_append_left inside]
    constructor
    · exact fun found => absurd (List.mem_of_getElem? found) plain
    · omega
  · simp
  · have next : place - group.length = place - (group.length + 1) + 1 := by omega
    rw [List.getElem?_append_right (Nat.le_of_lt behind), next, List.getElem?_cons_succ]
    simp [behind, Nat.ne_of_gt behind]

/-- A group has no hyphen to lose. -/
theorem filter_group : group.filter (· != '-') = group := by
  rw [List.filter_eq_self]
  intro char member
  rw [bne_iff_ne]
  rintro rfl
  exact plain member

/-- Without hyphens, a group stands directly before what is behind it. -/
theorem filter_group_append :
    (group ++ '-' :: rest).filter (· != '-') = group ++ rest.filter (· != '-') := by
  rw [List.filter_append, filter_group plain, List.filter_cons_of_neg (by decide)]

end

/-- No digit is a hyphen. -/
theorem hyphen_not_mem_digits (start count : Nat) : '-' ∉ id.digits start count := by
  intro member
  obtain ⟨index, -, same⟩ := List.mem_map.mp member
  have digit : Text.isLowerHexDigit (id.digit index) = true :=
    (Text.hexValue?_hexDigit (Nat.mod_lt _ (by decide))).1
  rw [same] at digit
  cases digit

/-- Groups stand one behind the other. -/
theorem hyphenatedText_eq : id.hyphenatedText =
    id.digits 0 8 ++ '-' :: (id.digits 8 4 ++ '-' :: (id.digits 12 4 ++ '-' ::
      (id.digits 16 4 ++ '-' :: id.digits 20 12))) := by
  simp only [hyphenatedText, List.append_assoc, List.cons_append]

/-- Hyphens in a text with all digits are at their places and nowhere else. -/
theorem getElem?_hyphenatedText (place : Nat) :
    id.hyphenatedText[place]? = some '-' ↔ place ∈ hyphenPlaces := by
  have last (place : Nat) : (id.digits 20 12)[place]? ≠ some '-' := fun found =>
    id.hyphen_not_mem_digits 20 12 (List.mem_of_getElem? found)
  rw [hyphenatedText_eq]
  simp only [getElem?_group_append (id.hyphen_not_mem_digits _ _), length_digits, last,
    hyphenPlaces, List.mem_cons, List.not_mem_nil, or_false, and_false]
  omega

/-- Without hyphens, a text with all digits is that of the digits alone. -/
theorem filter_hyphenatedText : id.hyphenatedText.filter (· != '-') = id.simpleText := by
  have plain := id.hyphen_not_mem_digits
  rw [hyphenatedText_eq]
  simp only [filter_group_append (plain _ _), filter_group (plain 20 12)]
  rfl

/-- The text of an identifier has all its digits in groups. -/
theorem isHyphenated_hyphenatedText : id.IsHyphenated id.hyphenatedText where
  length := by simp [hyphenatedText_eq]
  hyphens := id.getElem?_hyphenatedText
  digits := id.filter_hyphenatedText ▸ id.areHexDigitsOf_simpleText

/-- Identifiers are told apart by their texts. -/
theorem IsHyphenated.unique {id other : Uuid} {text : List Char} (first : id.IsHyphenated text)
    (second : other.IsHyphenated text) : id = other := by
  have same : id.bits = other.bits :=
    BitVec.eq_of_toNat_eq (first.digits.worth.symm.trans second.digits.worth)
  exact congrArg Uuid.mk same

/-- The name that a scene gets is its name. -/
theorem namesScene_sceneName : id.NamesScene (IdSource.sceneName id) where
  length := by
    rw [IdSource.sceneName, String.toList_ofList]
    rfl
  first := by
    refine ⟨id.simpleText, id.areHexDigitsOf_simpleText, ?_⟩
    rw [IdSource.sceneName, String.toList_ofList]
    exact List.take_prefix _ _

/-- The name that an object gets is its name. -/
theorem namesObject_objectName : id.NamesObject (IdSource.objectName id) :=
  ⟨id.hyphenatedText, String.toList_ofList, id.isHyphenated_hyphenatedText⟩

/-- Objects have the same name exactly when the blocks of their identifiers have the same bits where
bits are kept. -/
theorem objectName_ofBlock_eq_iff (first second : IdBlock) :
    IdSource.objectName (ofBlock first) = IdSource.objectName (ofBlock second) ↔
      keptBits first = keptBits second := by
  rw [← ofBlock_eq_iff]
  constructor
  · intro same
    have texts : (ofBlock first).hyphenatedText = (ofBlock second).hyphenatedText :=
      List.append_cancel_left (String.ofList_injective same)
    have named := (ofBlock second).isHyphenated_hyphenatedText
    rw [← texts] at named
    exact (ofBlock first).isHyphenated_hyphenatedText.unique named
  · exact congrArg IdSource.objectName

/-- Blocks that differ in the marked bits only have one name. -/
example : IdSource.objectName (ofBlock 0) = "obj_00000000-0000-4000-8000-000000000000" ∧
    IdSource.objectName (ofBlock (versionMask ||| variantMask)) =
      IdSource.objectName (ofBlock 0) := by
  decide +kernel

end Uuid

end ShapeScene
