import Mathlib.Tactic.NormNum
import Mathlib.Tactic.Ring
import ShapeScene.Data.MessagePack.Printer
import ShapeScene.Data.MessagePack.Reader
import ShapeScene.Proofs.Data.Datum
import ShapeScene.Proofs.Text.Utf8

/-!
# MessagePack documents read back

A document is read back with every part in its place, and every number as itself, as long as no
count in it takes more than the four bytes that the format has for a count. Integers come back in
the form of the shortest word that holds them.
-/

namespace ShapeScene.MessagePack

/-- Counts that take at most four bytes. -/
def Counts (count : Nat) : Prop := count < 2 ^ 32

instance (count : Nat) : Decidable (Counts count) := inferInstanceAs (Decidable (_ < _))

/-- The form of the shortest word that holds an integer. -/
def formOf (value : Int) : IntegerForm :=
  if value < 0 then .signed
  else if value < 2 ^ 8 then .unsigned8
  else if value < 2 ^ 16 then .unsigned16
  else if value < 2 ^ 32 then .unsigned32
  else .unsigned64

/-- Integers come back in the form of their shortest words, and other numbers as themselves. -/
def rereading : Rereading := ⟨formOf, .real⟩

/-! ## Big-endian numbers -/

/-- The number of bytes of a number is its width. -/
theorem length_bigEndianBytes (width value : Nat) :
    (bigEndianBytes width value).length = width := by
  induction width with
  | zero => rfl
  | succ width ih => rw [bigEndianBytes, List.length_cons, ih]

/-- The bytes of a number write it, as far as they go, behind the bytes before them. -/
theorem foldl_bigEndianBytes (width value start : Nat) :
    (bigEndianBytes width value).foldl (fun value byte => value * 256 + byte.toNat) start =
      start * 256 ^ width + value % 256 ^ width := by
  induction width generalizing start with
  | zero => simp [bigEndianBytes, Nat.mod_one]
  | succ width ih =>
    have byte : (UInt8.ofNat (value / 256 ^ width)).toNat = value / 256 ^ width % 256 := by simp
    have split : value % 256 ^ (width + 1) =
        value % 256 ^ width + 256 ^ width * (value / 256 ^ width % 256) := by
      rw [pow_succ, Nat.mod_mul]
    rw [bigEndianBytes, List.foldl_cons, ih, Nat.pow_eq, byte, split]
    ring

/-- A number that fits its width is read back. -/
theorem readNatural?_bigEndianBytes (width : Nat) {value : Nat} (small : value < 256 ^ width)
    (rest : List UInt8) :
    readNatural? width (bigEndianBytes width value ++ rest) = some (value, rest) := by
  have length := length_bigEndianBytes width value
  have back : bigEndian (bigEndianBytes width value) = value := by
    rw [bigEndian, foldl_bigEndianBytes, Nat.zero_mul, Nat.zero_add, Nat.mod_eq_of_lt small]
  rw [readNatural?, take?, List.take_left' length, List.drop_left' length, if_pos length]
  simp only [Option.map_some, back]

/-- Bytes of a known number are taken from what follows them. -/
theorem take?_append (front rest : List UInt8) :
    take? front.length (front ++ rest) = some (front, rest) := by
  rw [take?, List.take_left, List.drop_left, if_pos rfl]

/-! ## Markers -/

namespace Marker

/-- A marker that is a small number. -/
theorem ofByte_small {value : Nat} (small : value < 0x80) :
    ofByte (UInt8.ofNat value) = .value (.integer .unsigned8 value) := by
  have code := Text.toNat_ofNat_byte (show value < 256 by omega)
  simp only [ofByte, code]
  rw [if_pos small]

/-- A marker that holds the length of a map. -/
theorem ofByte_map {length : Nat} (small : length < 16) :
    ofByte (UInt8.ofNat (0x80 + length)) = .shortMap length := by
  have code := Text.toNat_ofNat_byte (show 0x80 + length < 256 by omega)
  simp only [ofByte, code]
  rw [if_neg (by omega), if_pos (by omega), Nat.add_sub_cancel_left]

/-- A marker that holds the length of a list. -/
theorem ofByte_list {length : Nat} (small : length < 16) :
    ofByte (UInt8.ofNat (0x90 + length)) = .shortList length := by
  have code := Text.toNat_ofNat_byte (show 0x90 + length < 256 by omega)
  simp only [ofByte, code]
  rw [if_neg (by omega), if_neg (by omega), if_pos (by omega), Nat.add_sub_cancel_left]

/-- A marker that holds the length of a text. -/
theorem ofByte_text {length : Nat} (small : length < 32) :
    ofByte (UInt8.ofNat (0xA0 + length)) = .shortText length := by
  have code := Text.toNat_ofNat_byte (show 0xA0 + length < 256 by omega)
  simp only [ofByte, code]
  rw [if_neg (by omega), if_neg (by omega), if_neg (by omega), if_pos (by omega),
    Nat.add_sub_cancel_left]

/-- A marker that is a small negative number. -/
theorem ofByte_negative {size : Nat} (positive : 0 < size) (small : size ≤ 32) :
    ofByte (UInt8.ofNat (256 - size)) = .value (.integer .signed (-size)) := by
  have code := Text.toNat_ofNat_byte (show 256 - size < 256 by omega)
  simp only [ofByte, code]
  rw [if_neg (by omega), if_neg (by omega), if_neg (by omega), if_neg (by omega),
    if_pos (by omega), show ((256 - size : Nat) : Int) - 256 = -size by omega]

end Marker

/-! ## Numbers -/

/-- An unsigned number of a given width is read back. -/
theorem readValue?_unsigned {marker : UInt8} {form : IntegerForm} {width value : Nat}
    (meaning : Marker.ofByte marker = .unsigned form width) (small : value < 256 ^ width)
    (depth : Nat) (rest : List UInt8) :
    readValue? (depth + 1) (marker :: bigEndianBytes width value ++ rest) =
      some (.integer form value, rest) := by
  simp only [List.cons_append, readValue?, meaning, readNatural?_bigEndianBytes _ small,
    Option.map_some]

/-- A natural number is read back in its shortest form. -/
theorem readValue?_naturalBytes (value : Nat) (small : value < 2 ^ 64) (depth : Nat)
    (rest : List UInt8) :
    readValue? (depth + 1) (naturalBytes value ++ rest) =
      some (.integer (formOf value) value, rest) := by
  unfold naturalBytes formOf
  simp only [Nat.pow_eq]
  rw [if_neg (show ¬(value : Int) < 0 by omega)]
  by_cases tiny : value < 0x80
  · rw [if_pos tiny, if_pos (by omega), List.singleton_append, readValue?,
      Marker.ofByte_small tiny]
  rw [if_neg tiny]
  by_cases byte : value < 2 ^ 8
  · rw [if_pos byte, if_pos (by omega)]
    exact readValue?_unsigned rfl (by omega) depth rest
  rw [if_neg byte, if_neg (show ¬(value : Int) < 2 ^ 8 by omega)]
  by_cases short : value < 2 ^ 16
  · rw [if_pos short, if_pos (by omega)]
    exact readValue?_unsigned rfl (by omega) depth rest
  rw [if_neg short, if_neg (show ¬(value : Int) < 2 ^ 16 by omega)]
  by_cases word : value < 2 ^ 32
  · rw [if_pos word, if_pos (by omega)]
    exact readValue?_unsigned rfl (by omega) depth rest
  rw [if_neg word, if_neg (show ¬(value : Int) < 2 ^ 32 by omega)]
  exact readValue?_unsigned rfl (by omega) depth rest

/-- A negative number of a given width is read back. -/
theorem readValue?_signed (marker : UInt8) (width : Nat) {size : Nat}
    (meaning : Marker.ofByte marker = .signed width) (wide : 0 < width) (positive : 0 < size)
    (small : size ≤ 2 ^ (8 * width - 1)) (depth : Nat) (rest : List UInt8) :
    readValue? (depth + 1) (marker :: bigEndianBytes width (2 ^ (8 * width) - size) ++ rest) =
      some (.integer .signed (-size), rest) := by
  have twice : 2 ^ (8 * width) = 2 * 2 ^ (8 * width - 1) := by
    rw [← pow_succ', Nat.sub_add_cancel (by omega)]
  have bytes : 256 ^ width = 2 ^ (8 * width) := by
    rw [pow_mul]
    norm_num
  have fits : 2 ^ (8 * width) - size < 256 ^ width := by omega
  have value : toSigned width (2 ^ (8 * width) - size) = -size := by
    have cast : ((2 ^ (8 * width) : Nat) : Int) = 2 ^ (8 * width) := by norm_cast
    rw [toSigned, Nat.pow_eq, Nat.pow_eq, if_neg (by omega)]
    omega
  simp only [List.cons_append, readValue?, meaning, readNatural?_bigEndianBytes width fits,
    Option.map_some, value]

/-- An integer of a word is read back in its shortest form. -/
theorem readValue?_integerBytes {value : Int} (low : -2 ^ 63 ≤ value) (high : value < 2 ^ 64)
    (depth : Nat) (rest : List UInt8) :
    readValue? (depth + 1) (integerBytes value ++ rest) =
      some (.integer (formOf value) value, rest) := by
  unfold integerBytes
  simp only [Nat.pow_eq]
  by_cases natural : 0 ≤ value
  · have read := readValue?_naturalBytes value.natAbs (by omega) depth rest
    rw [if_pos natural]
    rwa [Int.natAbs_of_nonneg natural] at read
  have back : value = -(value.natAbs : Int) := by omega
  have form : formOf value = .signed := if_pos (by omega)
  rw [if_neg natural, form, back, Int.natAbs_neg, Int.natAbs_natCast]
  by_cases tiny : value.natAbs ≤ 32
  · rw [if_pos tiny, List.singleton_append, readValue?,
      Marker.ofByte_negative (by omega) tiny]
  rw [if_neg tiny]
  by_cases byte : value.natAbs ≤ 2 ^ 7
  · rw [if_pos byte]
    exact readValue?_signed 0xD0 1 rfl (by omega) (by omega) byte depth rest
  rw [if_neg byte]
  by_cases short : value.natAbs ≤ 2 ^ 15
  · rw [if_pos short]
    exact readValue?_signed 0xD1 2 rfl (by omega) (by omega) short depth rest
  rw [if_neg short]
  by_cases word : value.natAbs ≤ 2 ^ 31
  · rw [if_pos word]
    exact readValue?_signed 0xD2 4 rfl (by omega) (by omega) word depth rest
  rw [if_neg word]
  exact readValue?_signed 0xD3 8 rfl (by omega) (by omega)
    (show value.natAbs ≤ 2 ^ 63 by omega) depth rest

/-! ## Counts -/

/-- The head of a text announces its length. -/
theorem readValue?_textHead {length : Nat} (counts : Counts length) (depth : Nat)
    (bytes : List UInt8) :
    readValue? (depth + 1) (textHead length ++ bytes) = readText? length bytes := by
  unfold textHead
  simp only [Nat.pow_eq]
  by_cases tiny : length < 32
  · rw [if_pos tiny, List.singleton_append, readValue?, Marker.ofByte_text tiny]
  rw [if_neg tiny]
  by_cases byte : length < 2 ^ 8
  · rw [if_pos byte, List.cons_append, readValue?, show Marker.ofByte 0xD9 = .text 1 from rfl]
    simp only [readNatural?_bigEndianBytes 1 (by omega), Option.bind_some]
  rw [if_neg byte]
  by_cases short : length < 2 ^ 16
  · rw [if_pos short, List.cons_append, readValue?, show Marker.ofByte 0xDA = .text 2 from rfl]
    simp only [readNatural?_bigEndianBytes 2 (by omega), Option.bind_some]
  have word : length < 2 ^ 32 := counts
  rw [if_neg short, List.cons_append, readValue?, show Marker.ofByte 0xDB = .text 4 from rfl]
  simp only [readNatural?_bigEndianBytes 4 (by omega), Option.bind_some]

/-- The head of a list announces its length. -/
theorem readValue?_listHead {length : Nat} (counts : Counts length) (depth : Nat)
    (bytes : List UInt8) :
    readValue? (depth + 1) (listHead length ++ bytes) =
      readList? depth (readValue? depth) length bytes := by
  unfold listHead
  simp only [Nat.pow_eq]
  by_cases tiny : length < 16
  · rw [if_pos tiny, List.singleton_append, readValue?, Marker.ofByte_list tiny]
  rw [if_neg tiny]
  by_cases short : length < 2 ^ 16
  · rw [if_pos short, List.cons_append, readValue?, show Marker.ofByte 0xDC = .list 2 from rfl]
    simp only [readNatural?_bigEndianBytes 2 (by omega), Option.bind_some]
  have word : length < 2 ^ 32 := counts
  rw [if_neg short, List.cons_append, readValue?, show Marker.ofByte 0xDD = .list 4 from rfl]
  simp only [readNatural?_bigEndianBytes 4 (by omega), Option.bind_some]

/-- The head of a map announces its length. -/
theorem readValue?_mapHead {length : Nat} (counts : Counts length) (depth : Nat)
    (bytes : List UInt8) :
    readValue? (depth + 1) (mapHead length ++ bytes) =
      readMap? depth (readValue? depth) length bytes := by
  unfold mapHead
  simp only [Nat.pow_eq]
  by_cases tiny : length < 16
  · rw [if_pos tiny, List.singleton_append, readValue?, Marker.ofByte_map tiny]
  rw [if_neg tiny]
  by_cases short : length < 2 ^ 16
  · rw [if_pos short, List.cons_append, readValue?, show Marker.ofByte 0xDE = .map 2 from rfl]
    simp only [readNatural?_bigEndianBytes 2 (by omega), Option.bind_some]
  have word : length < 2 ^ 32 := counts
  rw [if_neg short, List.cons_append, readValue?, show Marker.ofByte 0xDF = .map 4 from rfl]
  simp only [readNatural?_bigEndianBytes 4 (by omega), Option.bind_some]

/-- A text is read back. -/
theorem readValue?_textBytes {text : String} (counts : Counts (Text.utf8 text).length)
    (depth : Nat) (rest : List UInt8) :
    readValue? (depth + 1) (textBytes text ++ rest) = some (.text text, rest) := by
  rw [textBytes, List.append_assoc, readValue?_textHead counts, readText?, take?_append]
  simp only [Option.map_some, Text.readUtf8?_utf8]

/-! ## Documents -/

/-- The bytes of items, one behind the other. -/
theorem itemBytes_eq_flatMap (items : List Datum) : itemBytes items = items.flatMap bytesOf := by
  induction items with
  | nil => rfl
  | cons item items ih => rw [itemBytes, ih, List.flatMap_cons]

/-- The bytes of entries, each key in front of its value. -/
theorem entryBytes_eq_flatMap (entries : List (Datum × Datum)) :
    entryBytes entries = entries.flatMap fun entry => bytesOf entry.1 ++ bytesOf entry.2 := by
  induction entries with
  | nil => rfl
  | cons entry entries ih => rw [entryBytes, ih, List.flatMap_cons]

/-- Items that are read back one by one are read back in a row. -/
theorem readMany?_flatMap {α β : Type} (read : List UInt8 → Option (α × List UInt8))
    (write : β → List UInt8) (value : β → α) {items : List β}
    (reads : ∀ item ∈ items, ∀ rest, read (write item ++ rest) = some (value item, rest))
    (rest : List UInt8) :
    readMany? read items.length (items.flatMap write ++ rest) = some (items.map value, rest) := by
  induction items with
  | nil => rfl
  | cons item items ih =>
    obtain ⟨first, others⟩ := List.forall_mem_cons.mp reads
    simp only [List.length_cons, List.flatMap_cons, List.append_assoc, readMany?, first, ih others,
      Option.map_some, List.map_cons]

/-- A part without levels is read back in its place. -/
theorem readValue?_leaf {datum : Datum} (writable : datum.IsWritable Counts 0) (depth : Nat)
    (rest : List UInt8) :
    readValue? (depth + 1) (bytesOf datum ++ rest) = some (datum.reread rereading, rest) := by
  cases datum with
  | bool value => cases value <;> rfl
  | integer form value =>
    simp only [Datum.IsWritable] at writable
    exact readValue?_integerBytes writable.1 writable.2 depth rest
  | real value =>
    have small : value.bits.toNat < 256 ^ 8 := by
      have word := value.bits.toNat_lt
      omega
    rw [bytesOf, List.cons_append, readValue?, show Marker.ofByte 0xCB = .double from rfl]
    simp only [readNatural?_bigEndianBytes _ small, Option.map_some, UInt64.ofNat_toNat,
      Datum.reread, rereading]
  | text value => exact readValue?_textBytes writable depth rest
  | _ => simp [Datum.IsWritable] at writable

/-- A document is read back in its place, with room for its levels. -/
theorem readValue?_bytesOf {levels : Nat} {datum : Datum}
    (writable : datum.IsWritable Counts levels) {depth : Nat} (room : levels < depth)
    (rest : List UInt8) :
    readValue? depth (bytesOf datum ++ rest) = some (datum.reread rereading, rest) := by
  obtain ⟨depth, rfl⟩ : ∃ less, depth = less + 1 := ⟨depth - 1, by omega⟩
  induction levels generalizing datum depth rest with
  | zero => exact readValue?_leaf writable depth rest
  | succ levels ih =>
    obtain ⟨depth, rfl⟩ : ∃ less, depth = less + 1 := ⟨depth - 1, by omega⟩
    have leaf := fun leaf : datum.IsWritable Counts 0 => readValue?_leaf leaf (depth + 1) rest
    cases datum with
    | list items =>
      obtain ⟨counts, each⟩ := writable
      have read := readMany?_flatMap (readValue? (depth + 1)) bytesOf (Datum.reread rereading)
        (fun item member rest => ih (each item member) rest depth (by omega)) rest
      rw [bytesOf, itemBytes_eq_flatMap, List.append_assoc, readValue?_listHead counts,
        readList?, if_neg (by omega), read]
      simp only [Option.map_some, Datum.reread_list]
    | map entries =>
      obtain ⟨counts, each⟩ := writable
      have read := readMany?_flatMap (readPair? (readValue? (depth + 1)))
        (fun entry : Datum × Datum => bytesOf entry.1 ++ bytesOf entry.2)
        (fun entry : Datum × Datum => (entry.1.reread rereading, entry.2.reread rereading))
        (fun entry member rest => by
          obtain ⟨⟨name, key, fits⟩, value⟩ := each entry member
          have keyRead := readValue?_textBytes fits depth (bytesOf entry.2 ++ rest)
          have valueRead := ih value rest depth (by omega)
          simp only [List.append_assoc, key, bytesOf, readPair?, keyRead, valueRead,
            Option.bind_eq_bind, Option.bind_some, Datum.reread]) rest
      rw [bytesOf, entryBytes_eq_flatMap, List.append_assoc, readValue?_mapHead counts, readMap?,
        if_neg (by omega), read]
      simp only [Option.map_some, Datum.reread, Datum.rereadEntries_eq_map]
    | bool value => exact leaf writable
    | integer form value => exact leaf writable
    | real value => exact leaf writable
    | text value => exact leaf writable
    | _ => simp [Datum.IsWritable] at writable

/-- A document of few enough levels is read back as a whole. -/
theorem read?_bytesOf {levels : Nat} {datum : Datum} (writable : datum.IsWritable Counts levels)
    (few : levels < maxDepth) : read? (bytesOf datum) = some (datum.reread rereading) := by
  have read := readValue?_bytesOf writable few []
  rw [List.append_nil] at read
  rw [read?, read, Option.map_some]

end ShapeScene.MessagePack
