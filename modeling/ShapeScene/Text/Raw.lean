import ShapeScene.Text.Utf8

/-!
# Raw text

A raw text has one character for each byte, so programs that know of bytes alone can be described
by what they do with texts. Main statement: the bytes of a raw text are those that it was made of
(`rawBytes_raw`).
-/

namespace ShapeScene.Text

/-- The raw text of some bytes. -/
def raw (content : List UInt8) : String :=
  String.ofList (content.map fun byte => Char.ofNat byte.toNat)

/-- The bytes of a raw text. -/
def rawBytes (text : String) : List UInt8 := text.toList.map fun char => UInt8.ofNat char.toNat

/-- The raw form of a text. -/
def toRaw (text : String) : String := raw (utf8 text)

/-- The text of which something is the raw form. -/
def ofRaw (text : String) : String := readUtf8Lenient (rawBytes text)

/-- A byte is read back from its character. -/
theorem ofNat_toNat_charOfByte (byte : UInt8) :
    UInt8.ofNat (Char.ofNat byte.toNat).toNat = byte := by
  have small := byte.toNat_lt
  have valid : byte.toNat.isValidChar := Or.inl (by omega)
  have value : (Char.ofNat byte.toNat).toNat = byte.toNat := by
    rw [Char.ofNat, dif_pos valid]
    rfl
  rw [value, UInt8.ofNat_toNat]

/-- Raw text keeps its bytes. -/
theorem rawBytes_raw (content : List UInt8) : rawBytes (raw content) = content := by
  simp only [rawBytes, raw, String.toList_ofList, List.map_map]
  have same : (fun char => UInt8.ofNat (Char.toNat char)) ∘
      (fun byte : UInt8 => Char.ofNat byte.toNat) = id := by
    funext byte
    exact ofNat_toNat_charOfByte byte
  rw [same, List.map_id]

end ShapeScene.Text
