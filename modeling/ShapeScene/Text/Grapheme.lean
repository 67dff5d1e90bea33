import ShapeScene.Text.Character
import ShapeScene.Text.Table.GraphemeControl
import ShapeScene.Text.Table.GraphemeExtend
import ShapeScene.Text.Table.LinkedConsonant
import ShapeScene.Text.Table.Pictograph
import ShapeScene.Text.Table.SpacingMark

/-!
# Graphemes

What a reader takes for one character can be many of them: a letter with its accents, a syllable
of jamo, a conjunct of consonants, a family of pictographs, a flag. The extended grapheme clusters
of the Unicode standard, version 17.0, divide a text into such graphemes. Main statement: the
graphemes of a text put together are the text (`flatten_graphemes`).
-/

namespace ShapeScene.Text

/-- How a character joins with its neighbours. -/
inductive Bond where
  /-- It stands alone. -/
  | control
  /-- It joins what is before it. -/
  | extender
  /-- It joins what is before it, and a pictograph behind it to one before it. -/
  | joiner
  /-- It joins what is before it, and has a width of its own. -/
  | spacing
  /-- It joins what is behind it. -/
  | front
  /-- The first half of a flag, or the second one behind a first one. -/
  | regional
  /-- A leading consonant of a syllable. -/
  | leading
  /-- A vowel of a syllable. -/
  | vowel
  /-- A trailing consonant of a syllable. -/
  | trailing
  /-- A syllable without a trailing consonant. -/
  | openSyllable
  /-- A syllable with a trailing consonant. -/
  | closedSyllable
  /-- A pictograph. -/
  | pictograph
  /-- A consonant that a link joins to the one before it. -/
  | consonant
  /-- Anything else. -/
  | plain
deriving DecidableEq, Repr

/-- Characters that join what is behind them. -/
def frontRanges : List CodeRange :=
  [(0x600, 0x605), (0x6DD, 0x6DD), (0x70F, 0x70F), (0x890, 0x891), (0x8E2, 0x8E2), (0xD4E, 0xD4E),
   (0x110BD, 0x110BD), (0x110CD, 0x110CD), (0x111C2, 0x111C3), (0x113D1, 0x113D1),
   (0x1193F, 0x1193F), (0x11941, 0x11941), (0x11A84, 0x11A89), (0x11D46, 0x11D46),
   (0x11F02, 0x11F02)]

/-- Leading consonants of syllables. -/
def leadingRanges : List CodeRange := [(0x1100, 0x115F), (0xA960, 0xA97C)]

/-- Vowels of syllables. -/
def vowelRanges : List CodeRange :=
  [(0x1160, 0x11A7), (0xD7B0, 0xD7C6), (0x16D63, 0x16D63), (0x16D67, 0x16D6A)]

/-- Trailing consonants of syllables. -/
def trailingRanges : List CodeRange := [(0x11A8, 0x11FF), (0xD7CB, 0xD7FB)]

/-- Code points of whole syllables, from the first to the last. -/
def syllableRange : CodeRange := (0xAC00, 0xD7A3)

/-- Number of syllables with the same leading consonant and vowel. -/
def syllablesPerVowel : Nat := 28

/-- Shades of skin that join a pictograph before them. -/
def shadeRange : CodeRange := (0x1F3FB, 0x1F3FF)

/-- Halves of flags. -/
def regionalRange : CodeRange := (0x1F1E6, 0x1F1FF)

/-- The signs that link a consonant to the one behind it: those whose Indic_Conjunct_Break is
Linker. -/
def linkCodes : List Nat :=
  [0x94D, 0x9CD, 0xACD, 0xB4D, 0xC4D, 0xD4D, 0x1039, 0x17D2, 0x1A60, 0x1B44, 0x1BAB, 0xA9C0, 0xAAF6,
   0x10A3F, 0x11133, 0x113D0, 0x1193E, 0x11A47, 0x11A99, 0x11F42]

/-- The character that joins pictographs. -/
def joinerCode : Nat := 0x200D

/-- The character that keeps its neighbours from joining. -/
def nonJoinerCode : Nat := 0x200C

/-- How a character joins with its neighbours. -/
def Bond.ofChar (char : Char) : Bond :=
  let code := char.toNat
  let isIn (range : CodeRange) : Bool := range.1 ≤ code && code ≤ range.2
  if code = joinerCode then .joiner
  else if CodeRange.cover pictographRanges code then .pictograph
  else if CodeRange.cover graphemeControlRanges code || char == '\n' || char == '\r' then .control
  else if CodeRange.cover graphemeExtendRanges code || isIn shadeRange then .extender
  else if CodeRange.cover spacingMarkRanges code then .spacing
  else if CodeRange.cover frontRanges code then .front
  else if isIn regionalRange then .regional
  else if CodeRange.cover leadingRanges code then .leading
  else if CodeRange.cover vowelRanges code then .vowel
  else if CodeRange.cover trailingRanges code then .trailing
  else if isIn syllableRange then
    if (code - syllableRange.1) % syllablesPerVowel = 0 then .openSyllable else .closedSyllable
  else if CodeRange.cover linkedConsonantRanges code then .consonant
  else .plain

/-- What the characters before a place say about whether a grapheme ends there. -/
structure Joint where
  /-- The bond of the last character. -/
  last : Bond
  /-- Whether the last character is a carriage return. -/
  isReturn : Bool := false
  /-- Whether the last half of a flag waits for the other one. -/
  isHalfFlag : Bool := false
  /-- Whether a pictograph stands before with only extenders behind it. -/
  isPicture : Bool := false
  /-- Whether a pictograph stands before with extenders and at last a joiner behind it. -/
  isJoined : Bool := false
  /-- Whether a consonant stands before with only extenders behind it. -/
  isConsonant : Bool := false
  /-- Whether one of these extenders is a link. -/
  isLinked : Bool := false
deriving DecidableEq, Repr

namespace Joint

/-- The place behind the first character of a text. -/
def first (char : Char) : Joint :=
  let bond := Bond.ofChar char
  { last := bond
    isReturn := char == '\r'
    isHalfFlag := bond == .regional
    isPicture := bond == .pictograph
    isConsonant := bond == .consonant }

/-- The place behind one more character. -/
def next (joint : Joint) (char : Char) : Joint :=
  let bond := Bond.ofChar char
  let isExtender := bond == .extender || bond == .joiner
  let staysConsonant := joint.isConsonant && isExtender && char.toNat != nonJoinerCode
  { last := bond
    isReturn := char == '\r'
    isHalfFlag := bond == .regional && !joint.isHalfFlag
    isPicture := bond == .pictograph || (joint.isPicture && bond == .extender)
    isJoined := joint.isPicture && bond == .joiner
    isConsonant := bond == .consonant || staysConsonant
    isLinked := staysConsonant && (joint.isLinked || linkCodes.contains char.toNat) }

/-- Whether the next character belongs to the same grapheme. -/
def holds (joint : Joint) (char : Char) : Bool :=
  let bond := Bond.ofChar char
  if joint.isReturn && char == '\n' then true
  else if joint.last == .control || bond == .control then false
  else
    match joint.last, bond with
    | .leading, .leading | .leading, .vowel | .leading, .openSyllable
    | .leading, .closedSyllable => true
    | .openSyllable, .vowel | .openSyllable, .trailing | .vowel, .vowel | .vowel, .trailing => true
    | .closedSyllable, .trailing | .trailing, .trailing => true
    | _, .extender | _, .joiner | _, .spacing => true
    | .front, _ => true
    | _, .consonant => joint.isLinked
    | _, .pictograph => joint.isJoined
    | _, .regional => joint.isHalfFlag
    | _, _ => false

end Joint

/-- The graphemes of the characters behind a place, the first of which has already some characters;
they are reversed. -/
def graphemesAfter : (joint : Joint) → (reversed : List Char) → List Char → List (List Char)
  | _, reversed, [] => [reversed.reverse]
  | joint, reversed, char :: rest =>
    if joint.holds char then graphemesAfter (joint.next char) (char :: reversed) rest
    else reversed.reverse :: graphemesAfter (joint.next char) [char] rest

/-- The graphemes of some characters. -/
def graphemes : List Char → List (List Char)
  | [] => []
  | char :: rest => graphemesAfter (.first char) [char] rest

/-- The graphemes behind a place hold all characters. -/
theorem flatten_graphemesAfter (joint : Joint) (reversed chars : List Char) :
    (graphemesAfter joint reversed chars).flatten = reversed.reverse ++ chars := by
  induction chars generalizing joint reversed with
  | nil => simp [graphemesAfter]
  | cons char rest ih =>
    simp only [graphemesAfter]
    split <;> simp [ih]

/-- The graphemes of a text put together are the text. -/
theorem flatten_graphemes (chars : List Char) : (graphemes chars).flatten = chars := by
  cases chars with
  | nil => rfl
  | cons char rest => simp [graphemes, flatten_graphemesAfter]

end ShapeScene.Text
