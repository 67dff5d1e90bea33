import ShapeScene.Error
import ShapeScene.Image.PixelBuffer
import ShapeScene.Text.Natural
import ShapeScene.Text.Utf8

/-!
# Portable pixmaps

An image file has a header of four fields, separated by white space and comments, then one byte of
white space, then the levels of all pixels. Whatever follows them is ignored.
-/

namespace ShapeScene.Ppm

/-- The greatest level, which is the only one supported. -/
def maxLevel : Nat := 255

/-- White space in a header. -/
def isSpace (byte : UInt8) : Bool :=
  byte == 0x20 || byte == 0x09 || byte == 0x0A || byte == 0x0C || byte == 0x0D

/-- The bytes behind white space and comments. A comment runs from a number sign to the end of its
line; `comment` says whether the front of the bytes lies in one. -/
def skipFiller : (comment : Bool) → List UInt8 → List UInt8
  | _, [] => []
  | true, byte :: rest => skipFiller (byte != 0x0A) rest
  | false, byte :: rest =>
    if byte = 0x23 then skipFiller true rest
    else if isSpace byte then skipFiller false rest
    else byte :: rest

/-- The next field of a header and the bytes behind it. -/
def readField (bytes : List UInt8) : Except SceneError (List UInt8 × List UInt8) :=
  match skipFiller false bytes with
  | [] => .error (.render "PPM header truncated")
  | byte :: rest =>
    let bytes := byte :: rest
    .ok (bytes.takeWhile fun byte => !isSpace byte, bytes.dropWhile fun byte => !isSpace byte)

/-- The next field of a header as a number, and the bytes behind it. -/
def readNumber (bytes : List UInt8) : Except SceneError (UInt32 × List UInt8) := do
  let (field, rest) ← readField bytes
  let text := Text.readUtf8Lenient field
  match Text.readNatural? (Nat.pow 2 32) text.toList with
  | some value => .ok (UInt32.ofNat value, rest)
  | none => .error (.render ("invalid PPM header field " ++ Text.quoted text))

/-- The data behind a header that announces `count` bytes of it. -/
def readData (count : Nat) (bytes : List UInt8) : Except SceneError (Array UInt8) :=
  match bytes with
  | _ :: data =>
    if count ≤ data.length then .ok (data.take count).toArray
    else .error (.render ("PPM data truncated: expected " ++ toString count ++ " bytes"))
  | [] => .error (.render ("PPM data truncated: expected " ++ toString count ++ " bytes"))

/-- The image in a file. -/
def decode (bytes : List UInt8) : Except SceneError PixelBuffer := do
  let (magic, afterMagic) ← readField bytes
  if Text.readUtf8Lenient magic ≠ "P6" then
    .error (.render "not a binary PPM (missing P6 magic)")
  else
    let (width, afterWidth) ← readNumber afterMagic
    let (height, afterHeight) ← readNumber afterWidth
    let (level, rest) ← readNumber afterHeight
    if level.toNat ≠ maxLevel then
      .error (.render ("unsupported PPM max value " ++ toString level.toNat))
    else
      let count := PixelBuffer.byteCount width height
      if Nat.pow 2 64 ≤ bytes.length - rest.length + 1 + count then
        .error (.render "PPM dimensions too large")
      else do
        let data ← readData count rest
        .ok ⟨width, height, data⟩

/-- The header of a file. -/
def header (width height : UInt32) : String :=
  "P6\n" ++ toString width.toNat ++ " " ++ toString height.toNat ++ "\n" ++
    toString maxLevel ++ "\n"

/-- The file of an image. -/
def encode (image : PixelBuffer) : List UInt8 :=
  Text.utf8 (header image.width image.height) ++ image.data.toList

end ShapeScene.Ppm
