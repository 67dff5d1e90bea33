import ShapeScene.Console.Command
import ShapeScene.Description.Vocabulary

/-!
# Completion

The word before the cursor is completed to the keywords it begins, or to command names when it is
the first word of a command. Cursor and word are given as byte offsets into the line.
-/

namespace ShapeScene.Completion

/-- The words that can stand at a place of a line. -/
structure Candidates where
  /-- Byte offset at which the completed word begins. -/
  start : Nat
  /-- The words offered, in order. -/
  words : List String
deriving DecidableEq, Repr

/-- A sorted list without repetitions among neighbours. -/
def dropRepeated : List String → List String
  | first :: second :: later =>
    if first = second then dropRepeated (second :: later)
    else first :: dropRepeated (second :: later)
  | words => words

/-- The words of a vocabulary in ascending order, each once. -/
def keywords (vocabulary : Vocabulary) : List String :=
  dropRepeated (vocabulary.words.mergeSort fun first second => !decide (second < first))

/-- Characters that separate words. -/
def separates (char : Char) : Bool := Text.isBlank char || char == ','

/-- Length of characters in bytes. -/
def byteLength (chars : List Char) : Nat :=
  chars.foldr (fun char total => char.utf8Size + total) 0

/-- The first characters with a given total of bytes, if the total ends a character. -/
def takeBytes? : (count : Nat) → List Char → Option (List Char)
  | 0, _ => some []
  | _ + 1, [] => none
  | count + 1, char :: rest =>
    if char.utf8Size ≤ count + 1 then
      (takeBytes? (count + 1 - char.utf8Size) rest).map (char :: ·)
    else none
termination_by _ chars => chars.length

/-- The words offered for a word that begins at a byte offset. -/
def wordsFor (vocabulary : Vocabulary) (start : Nat) (word : String) : List String :=
  let pool :=
    if start = 0 ∧ word.toList.head? = some ':' then Command.names else keywords vocabulary
  pool.filter fun candidate => !word.isEmpty && word.toList.isPrefixOf candidate.toList

/-- The candidates at a byte offset of a line. A word begins one byte behind the last separator,
so there is no answer when that separator is longer than one byte, nor when the offset lies inside
a character or behind the line. -/
def candidates? (vocabulary : Vocabulary) (line : String) (offset : Nat) : Option Candidates := do
  let before ← takeBytes? offset line.toList
  let word := (before.reverse.takeWhile fun char => !separates char).reverse
  let separator := before.reverse.dropWhile fun char => !separates char
  match separator with
  | [] => some ⟨0, wordsFor vocabulary 0 (Text.lowercase (String.ofList word))⟩
  | char :: _ =>
    if char.utf8Size = 1 then
      let start := byteLength separator
      some ⟨start, wordsFor vocabulary start (Text.lowercase (String.ofList word))⟩
    else none

end ShapeScene.Completion
