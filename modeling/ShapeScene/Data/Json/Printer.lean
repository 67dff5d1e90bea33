import ShapeScene.Data.Datum
import ShapeScene.Number.Layout
import ShapeScene.Text.Character

/-!
# Writing JSON

Two layouts of the same text: compact, and with one item per line indented by two spaces. A number
that is no number is written as null.
-/

namespace ShapeScene.Json

/-- A character as it stands in a string: quotes, backslashes and controls are escaped. -/
def escapedChar (char : Char) : List Char :=
  if char = '"' then ['\\', '"']
  else if char = '\\' then ['\\', '\\']
  else if char = '\n' then ['\\', 'n']
  else if char = '\r' then ['\\', 'r']
  else if char = '\t' then ['\\', 't']
  else if char = '\x08' then ['\\', 'b']
  else if char = '\x0c' then ['\\', 'f']
  else if char.toNat < 0x20 then
    ['\\', 'u', '0', '0', Text.hexDigit (char.toNat / 16), Text.hexDigit (char.toNat % 16)]
  else [char]

/-- A text as a string. -/
def stringText (text : String) : List Char := '"' :: text.toList.flatMap escapedChar ++ ['"']

/-- A number, which is null unless it is finite. -/
def realText (value : Binary64) : List Char :=
  if value.isFinite then NumberLayout.json.finiteText value else "null".toList

/-- An integer. -/
def integerText (value : Int) : List Char := (toString value).toList

/-- How items are set between the brackets of a list or a map. -/
inductive Layout where
  /-- Everything on one line without spaces. -/
  | compact
  /-- Each item on its own line, at a given depth. -/
  | indented (depth : Nat)
deriving DecidableEq, Repr

namespace Layout

/-- The layout of the parts of an item. -/
def inner : Layout → Layout
  | compact => compact
  | indented depth => indented (depth + 1)

/-- What stands in front of an item. -/
def lineStart : Layout → List Char
  | compact => []
  | indented depth => '\n' :: List.replicate (2 * depth) ' '

/-- What stands between a key and its value. -/
def colon : Layout → List Char
  | compact => [':']
  | indented _ => [':', ' ']

end Layout

/-- Written items between brackets. -/
def bracketed (layout : Layout) (opening closing : Char) (items : List (List Char)) : List Char :=
  match items with
  | [] => [opening, closing]
  | first :: others =>
    opening :: layout.inner.lineStart ++ first ++
      others.flatMap (fun item => ',' :: layout.inner.lineStart ++ item) ++
      layout.lineStart ++ [closing]

mutual
/-- A datum as JSON. Keys are texts. -/
def textOf (layout : Layout) : Datum → List Char
  | .null => "null".toList
  | .bool value => (if value then "true" else "false").toList
  | .integer _ value => integerText value
  | .real value => realText value
  | .text value => stringText value
  | .brokenText _ => "null".toList
  | .bytes _ => "null".toList
  | .list items => bracketed layout '[' ']' (itemTexts layout.inner items)
  | .map entries => bracketed layout '\x7b' '\x7d' (entryTexts layout.inner entries)
  | .extension _ _ => "null".toList
  | .unreadable => "null".toList

/-- The items of a list as JSON. -/
def itemTexts (layout : Layout) : List Datum → List (List Char)
  | [] => []
  | item :: items => textOf layout item :: itemTexts layout items

/-- The entries of a map as JSON. -/
def entryTexts (layout : Layout) : List (Datum × Datum) → List (List Char)
  | [] => []
  | (key, value) :: entries =>
    (textOf layout key ++ layout.colon ++ textOf layout value) :: entryTexts layout entries
end

/-- A datum as JSON on one line. -/
def compact (datum : Datum) : String := String.ofList (textOf .compact datum)

/-- A datum as indented JSON. -/
def pretty (datum : Datum) : String := String.ofList (textOf (.indented 0) datum)

end ShapeScene.Json
