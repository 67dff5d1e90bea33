import ShapeScene.Text.Character

/-!
# Cutting and searching text

Trimming, splitting at one character, and the two ways a keyword is searched for: anywhere in a
text, or standing alone between characters that are neither letters nor numbers.
-/

namespace ShapeScene.Text

/-- The characters without the white space at both ends. -/
def trimChars (chars : List Char) : List Char :=
  ((chars.dropWhile isBlank).reverse.dropWhile isBlank).reverse

/-- A text without the white space at both ends. -/
def trim (text : String) : String := String.ofList (trimChars text.toList)

/-- Whether a text has no character besides white space. -/
def isBlankText (text : String) : Bool := text.toList.all isBlank

/-- The parts before and after the first character with a property, if there is one. -/
def splitFirst (separates : Char → Bool) : List Char → Option (List Char × List Char)
  | [] => none
  | char :: rest =>
    if separates char then some ([], rest)
    else (splitFirst separates rest).map fun (before, after) => (char :: before, after)

/-- The parts between the characters equal to a separator; their number is one more than that of
the separators. -/
def splitAt (separator : Char) : List Char → List (List Char)
  | [] => [[]]
  | char :: rest =>
    if char = separator then [] :: splitAt separator rest
    else
      match splitAt separator rest with
      | [] => [[char]]
      | part :: parts => (char :: part) :: parts

/-- Whether `word` occurs somewhere in the characters. -/
def occursIn (word : List Char) : List Char → Bool
  | [] => word.isEmpty
  | char :: rest => word.isPrefixOf (char :: rest) || occursIn word rest

/-- Whether a neighbour lets a word end: the end of the text, or no letter and no number. -/
def endsWord (neighbour : Option Char) : Bool :=
  match neighbour with
  | none => true
  | some char => !isAlphanumeric char

/-- Whether one of the occurrences of `word` stands alone. Occurrences are taken from the left
without overlap: after one that does not stand alone, the search goes on behind it. `before` is
the character in front of the list and `skip` the number of characters of the last occurrence
still to pass. -/
def standsAloneAfter (word : List Char) : (before : Option Char) → (skip : Nat) → List Char → Bool
  | _, _, [] => false
  | _, skip + 1, char :: rest => standsAloneAfter word (some char) skip rest
  | before, 0, char :: rest =>
    if word.isPrefixOf (char :: rest) then
      (endsWord before && endsWord ((char :: rest).drop word.length).head?) ||
        standsAloneAfter word (some char) (word.length - 1) rest
    else standsAloneAfter word (some char) 0 rest

/-- Whether a word occurs standing alone; the empty word does not. -/
def standsAloneIn (word chars : List Char) : Bool :=
  !word.isEmpty && standsAloneAfter word none 0 chars

/-- The text with every occurrence of a pattern replaced, taken from the left without overlap.
`skip` counts the characters of the last occurrence still to drop. -/
def replaceAfter (pattern replacement : List Char) : (skip : Nat) → List Char → List Char
  | _, [] => []
  | skip + 1, _ :: rest => replaceAfter pattern replacement skip rest
  | 0, char :: rest =>
    if pattern.isPrefixOf (char :: rest) then
      replacement ++ replaceAfter pattern replacement (pattern.length - 1) rest
    else char :: replaceAfter pattern replacement 0 rest

/-- The text with every occurrence of a nonempty pattern replaced. -/
def replaceAll (pattern replacement text : String) : String :=
  String.ofList (replaceAfter pattern.toList replacement.toList 0 text.toList)

/-- Texts joined by a separator. -/
def joinWith (separator : String) : List String → String
  | [] => ""
  | [last] => last
  | first :: second :: later => first ++ separator ++ joinWith separator (second :: later)

end ShapeScene.Text
