import ShapeScene.Script.Deed
import ShapeScene.Text.Natural

/-!
# Lines

Bytes cut into lines, each with its end, and counts as arguments give them. Main statement: the
lines of some bytes are all of these bytes (`flatten_linesOf`).
-/

namespace ShapeScene.Script

/-- The lines of some bytes behind the reversed beginning of a line and the reversed lines before
it. -/
def linesAfter (ending : UInt8) : (line : List UInt8) → (lines : List (List UInt8)) →
    List UInt8 → List (List UInt8)
  | line, lines, [] => (if line.isEmpty then lines else line.reverse :: lines).reverse
  | line, lines, byte :: rest =>
    if byte = ending then linesAfter ending [] ((byte :: line).reverse :: lines) rest
    else linesAfter ending (byte :: line) lines rest

/-- The lines of some bytes, each with its end if it has one. -/
def linesOf (content : List UInt8) (ending : UInt8 := 10) : List (List UInt8) :=
  linesAfter ending [] [] content

/-- Lines keep all bytes in their order. -/
theorem flatten_linesAfter (ending : UInt8) (line : List UInt8) (lines : List (List UInt8))
    (content : List UInt8) :
    (linesAfter ending line lines content).flatten =
      lines.reverse.flatten ++ line.reverse ++ content := by
  induction content generalizing line lines with
  | nil =>
    cases line with
    | nil => simp [linesAfter]
    | cons byte rest => simp [linesAfter]
  | cons byte rest ih =>
    by_cases same : byte = ending
    · simp [linesAfter, same, ih]
    · simp [linesAfter, same, ih]

/-- The lines of some bytes are all of these bytes. -/
theorem flatten_linesOf (content : List UInt8) (ending : UInt8) :
    (linesOf content ending).flatten = content := by
  simp [linesOf, flatten_linesAfter]

/-- A line without its end. -/
def bareLine (line : List UInt8) : List UInt8 :=
  if line.getLast? = some 10 then line.dropLast else line

/-- A line with an end. -/
def endedLine (line : List UInt8) : List UInt8 :=
  if line.getLast? = some 10 then line else line ++ [10]

/-- The last items of a list. -/
def takeLast {Item : Type} (count : Nat) (items : List Item) : List Item :=
  items.drop (items.length - count)

/-- The list without its last items. -/
def dropLasts {Item : Type} (count : Nat) (items : List Item) : List Item :=
  items.take (items.length - count)

/-- Number of words between blanks in some bytes. -/
def wordCount (content : List UInt8) : Nat :=
  (content.foldl
    (fun (count, inWord) byte =>
      let isBlank := byte = 32 || (9 ≤ byte && byte ≤ 13)
      (if !inWord && !isBlank then count + 1 else count, !isBlank))
    ((0, false) : Nat × Bool)).1

/-- The greatest width of a line, where a tab goes to the next multiple of eight. -/
def lineWidth (content : List UInt8) : Nat :=
  let (greatest, last) := content.foldl
    (fun ((greatest, width) : Nat × Nat) byte =>
      if byte = 10 ∨ byte = 12 ∨ byte = 13 then (max greatest width, 0)
      else if byte = 9 then (greatest, (width / 8 + 1) * 8)
      else if byte < 32 ∨ 127 ≤ byte then (greatest, width)
      else (greatest, width + 1))
    (0, 0)
  max greatest last

/-! ## Counts -/

/-- The units of counts by the endings that name them. -/
def countUnits : List (String × Nat) :=
  [("", 1), ("b", 512), ("kB", 1000), ("K", 1024), ("k", 1024), ("KiB", 1024), ("MB", 1000000),
    ("M", 1048576), ("m", 1048576), ("MiB", 1048576), ("GB", 1000000000), ("G", 1073741824),
    ("GiB", 1073741824)]

/-- The count that a text is: digits with a unit behind them. -/
def count? (chars : List Char) : Option Nat :=
  let (digits, unit) := chars.span Text.isDigit
  if digits.isEmpty then none
  else
    (countUnits.find? fun entry => entry.1.toList == unit).map fun entry =>
      Text.decimalValue digits * entry.2

/-- A number with blanks in front up to a width. -/
def rightAligned (width value : Nat) : String :=
  let digits := Nat.toDigits 10 value
  String.ofList (List.replicate (width - digits.length) ' ' ++ digits)

end ShapeScene.Script
