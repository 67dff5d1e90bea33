import ShapeScene.Text.Grapheme
import ShapeScene.Text.Search

/-!
# Typed lines

A line that is typed can take back what was typed before: a backspace stands for the removal of
the grapheme in front of it. Main statement: a line without backspaces is taken as it is
(`erased_eq_self`).
-/

namespace ShapeScene.Console

/-- The character that takes back a grapheme. -/
def backspace : Char := '\x08'

/-- What was typed so far, and how much a backspace takes back. -/
structure Typed where
  /-- The characters that are left, reversed. -/
  reversed : List Char := []
  /-- The sizes in bytes of the graphemes that are left, the last one first. A size is kept in one
  byte. -/
  sizes : List Nat := []
deriving DecidableEq, Repr

/-- The number of sizes that one byte can keep. -/
def sizeCount : Nat := 256

/-- The size of characters in bytes. -/
def byteSize (chars : List Char) : Nat := chars.foldl (fun size char => size + char.utf8Size) 0

/-- Reversed characters without those that take up the last `size` bytes. -/
def dropBytes : (size : Nat) → List Char → List Char
  | 0, reversed => reversed
  | _ + 1, [] => []
  | size + 1, char :: reversed => dropBytes (size + 1 - char.utf8Size) reversed

/-- What was typed after one more grapheme. -/
def Typed.push (typed : Typed) (grapheme : List Char) : Typed :=
  if grapheme = [backspace] then
    match typed.sizes with
    | [] => typed
    | size :: sizes => ⟨dropBytes size typed.reversed, sizes⟩
  else ⟨grapheme.reverse ++ typed.reversed, byteSize grapheme % sizeCount :: typed.sizes⟩

/-- What is left of typed characters when all backspaces have taken effect. -/
def erased (chars : List Char) : List Char :=
  ((Text.graphemes chars).foldl Typed.push {}).reversed.reverse

/-- Graphemes of which none is a backspace are left as they are. -/
theorem reversed_foldl_push (graphemes : List (List Char)) (typed : Typed)
    (kept : ∀ grapheme ∈ graphemes, grapheme ≠ [backspace]) :
    (graphemes.foldl Typed.push typed).reversed = graphemes.flatten.reverse ++ typed.reversed := by
  induction graphemes generalizing typed with
  | nil => rfl
  | cons grapheme later ih =>
    have first := kept grapheme (by simp)
    simp [ih _ fun other member => kept other (by simp [member]), Typed.push, first]

/-- A line without backspaces is taken as it is. -/
theorem erased_eq_self {chars : List Char} (kept : backspace ∉ chars) : erased chars = chars := by
  have apart : ∀ grapheme ∈ Text.graphemes chars, grapheme ≠ [backspace] := by
    rintro grapheme member rfl
    apply kept
    rw [← Text.flatten_graphemes chars]
    exact List.mem_flatten.mpr ⟨_, member, by simp⟩
  simp [erased, reversed_foldl_push _ _ apart, Text.flatten_graphemes]

/-- The lines of a text. A line ends at a line feed, which a carriage return may precede. -/
def linesOf (text : String) : List String :=
  let pieces := Text.splitAt '\n' text.toList
  let ended := pieces.dropLast.map fun piece =>
    if piece.getLast? = some '\r' then piece.dropLast else piece
  let lines :=
    match pieces.getLast? with
    | some [] | none => ended
    | some rest => ended ++ [rest]
  lines.map fun line => String.ofList (erased line)

end ShapeScene.Console
