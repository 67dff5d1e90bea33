import ShapeScene.Text.Table.Cased
import ShapeScene.Text.Table.CaseIgnorable
import ShapeScene.Text.Table.Lowercase
import ShapeScene.Text.CodeRange

/-!
# Lowercase text

The full lowercase mapping of the Unicode standard. It is not a map of single characters: a
capital I with a dot becomes two characters, and a capital sigma becomes the final form at the
end of a word.
-/

namespace ShapeScene.Text

/-- Lowercase code point by the ascending runs, where a code point between runs is its own. -/
def CaseRun.lowered : List CaseRun → Nat → Nat
  | [], code => code
  | run :: later, code =>
    if code < run.first then code
    else if code ≤ run.last then
      if (code - run.first) % run.step = 0 then run.lower + (code - run.first) else code
    else CaseRun.lowered later code

/-- The lowercase mapping of one character outside any context. -/
def lowercaseChar (char : Char) : List Char :=
  if char = '\u0130' then ['i', '\u0307']
  else [Char.ofNat (CaseRun.lowered lowercaseRuns char.toNat)]

/-- Whether a cased character follows, with only case-ignorable ones before it. -/
def meetsCased (chars : List Char) : Bool :=
  match chars.dropWhile fun char => CodeRange.cover caseIgnorableRanges char.toNat with
  | [] => false
  | char :: _ => CodeRange.cover casedRanges char.toNat

/-- The lowercase form of a capital sigma between the reversed text before it and the text after
it: final at the end of a word, that is after a cased character and before none. -/
def lowercaseSigma (before after : List Char) : Char :=
  if meetsCased before && !meetsCased after then 'ς' else 'σ'

/-- Lowercase of `chars` when the reversed text before them is `before`. -/
def lowercaseAfter : (before chars : List Char) → List Char
  | _, [] => []
  | before, char :: rest =>
    (if char = 'Σ' then [lowercaseSigma before rest] else lowercaseChar char) ++
      lowercaseAfter (char :: before) rest

/-- The lowercase form of a list of characters. -/
def lowercaseChars (chars : List Char) : List Char := lowercaseAfter [] chars

/-- The lowercase form of a text. -/
def lowercase (text : String) : String := String.ofList (lowercaseChars text.toList)

end ShapeScene.Text
