import ShapeScene.Text.Lowercase
import ShapeScene.Text.Search

/-!
# Phrases

A description is cut into phrases at its connectors: commas, and the words that join objects when
they stand between word boundaries. Every phrase is meant to name one object.
-/

namespace ShapeScene

namespace Phrase

/-- The connectors as they are written. -/
def connectors : List String := ["and", "with", "next to", "beside", ","]

/-- Whether a word is a connector, in any letter case. -/
def isConnector (word : String) : Bool := connectors.contains (Text.lowercase word)

/-- Whether a word can end before `next`: at the end of the text or before a character that is no
word character. -/
def atBoundary (next : Option Char) : Bool :=
  match next with
  | none => true
  | some char => !Text.isWordChar char

/-- The length of `word` if it stands at the front of the characters with a boundary after it. -/
def wordLength? (word chars : List Char) : Option Nat :=
  if word.isPrefixOf chars && atBoundary (chars.drop word.length).head? then some word.length
  else none

/-- The length of the two words of `next to`, with any white space between them, if they stand at
the front of the characters with a boundary after them. -/
def nextToLength? (chars : List Char) : Option Nat :=
  if ['n', 'e', 'x', 't'].isPrefixOf chars then
    let gap := (chars.drop 4).takeWhile Text.isBlank
    if gap.isEmpty then none
    else (wordLength? ['t', 'o'] ((chars.drop 4).drop gap.length)).map (· + (4 + gap.length))
  else none

/-- The length of the connector at the front of the characters, if there is one. A connector word
begins after the start of the text or a character that is no word character. -/
def connectorLength? (before : Option Char) (chars : List Char) : Option Nat :=
  match chars with
  | ',' :: _ => some 1
  | _ =>
    if atBoundary before then
      wordLength? ['a', 'n', 'd'] chars <|> wordLength? ['w', 'i', 't', 'h'] chars <|>
        nextToLength? chars <|> wordLength? ['b', 'e', 's', 'i', 'd', 'e'] chars
    else none

/-- The parts between connectors. `before` is the character in front of the list, and `skip`
counts the characters of the last connector still to pass. -/
def partsAfter : (before : Option Char) → (skip : Nat) → List Char → List (List Char)
  | _, _, [] => [[]]
  | _, skip + 1, char :: rest => partsAfter (some char) skip rest
  | before, 0, char :: rest =>
    match connectorLength? before (char :: rest) with
    | some length => [] :: partsAfter (some char) (length - 1) rest
    | none =>
      match partsAfter (some char) 0 rest with
      | [] => [[char]]
      | part :: parts => (char :: part) :: parts

/-- The phrases of a description, in lowercase and without outer white space; blank ones are left
out. -/
def segment (description : String) : List String :=
  let lowered := Text.lowercaseChars (Text.trimChars description.toList)
  (((partsAfter none 0 lowered).map Text.trimChars).filter fun part => !part.isEmpty).map
    String.ofList

end Phrase

end ShapeScene
