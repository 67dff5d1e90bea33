import ShapeScene.Text.Natural

/-!
# Forms of texts

A form is a text in which a star stands for any characters, a question mark for one character, and
brackets for one of some characters. What is quoted stands for itself.
-/

namespace ShapeScene.Script

/-- The classes of characters by their names. -/
def charClasses : List (String × List (Char × Char)) :=
  let graph := ('!', '~')
  [("alpha", [('a', 'z'), ('A', 'Z')]), ("digit", [('0', '9')]),
    ("alnum", [('a', 'z'), ('A', 'Z'), ('0', '9')]), ("upper", [('A', 'Z')]),
    ("lower", [('a', 'z')]), ("space", [('\t', '\r'), (' ', ' ')]),
    ("blank", [('\t', '\t'), (' ', ' ')]),
    ("punct", [('!', '/'), (':', '@'), ('[', '\x60'), ('\x7b', '~')]),
    ("xdigit", [('0', '9'), ('a', 'f'), ('A', 'F')]), ("print", [(' ', '~')]), ("graph", [graph]),
    ("cntrl", [('\x00', '\x1f'), ('\x7f', '\x7f')])]

/-- The ranges of the class whose name is in front, and what is behind its end. -/
def splitClass? (chars : List Char) : Option (List (Char × Char) × List Char) :=
  charClasses.findSome? fun (name, ranges) =>
    let whole := name.toList ++ [':', ']']
    if whole.isPrefixOf chars then some (ranges, chars.drop whole.length) else none

/-- A part of a form. -/
inductive FormPart where
  /-- One character. -/
  | char (char : Char)
  /-- Any character. -/
  | anyChar
  /-- Any characters. -/
  | anything
  /-- One of some characters, or one of all others. -/
  | oneOf (ranges : List (Char × Char)) (others : Bool)
deriving DecidableEq, Repr

/-- The ranges between brackets in front, and what is behind the bracket that closes them. The
first character is never that bracket. -/
def splitRanges : (bound : Nat) → (isFirst : Bool) → List (Char × Bool) →
    Option (List (Char × Char) × List (Char × Bool))
  | 0, _, _ | _, _, [] => none
  | bound + 1, isFirst, (char, quoted) :: rest =>
    let plain := rest.map (·.1)
    if char = ']' ∧ !quoted ∧ !isFirst then some ([], rest)
    else
      let named :=
        if char = '[' ∧ !quoted ∧ rest.head? = some (':', false) then splitClass? plain.tail
        else none
      match named with
      | some (ranges, behind) => do
        let (others, behind) ← splitRanges bound false (rest.drop (rest.length - behind.length))
        some (ranges ++ others, behind)
      | none =>
        match rest with
        | ('-', false) :: (last, lastQuoted) :: behind =>
          if last = ']' ∧ !lastQuoted then do
            let (others, behind) ← splitRanges bound false rest
            some ((char, char) :: others, behind)
          else do
            let (others, behind) ← splitRanges bound false behind
            some ((char, last) :: others, behind)
        | _ => do
          let (others, behind) ← splitRanges bound false rest
          some ((char, char) :: others, behind)

/-- The form of characters, of which each may be quoted. -/
def formParts : (bound : Nat) → List (Char × Bool) → List FormPart
  | 0, _ | _, [] => []
  | bound + 1, ('*', false) :: rest => .anything :: formParts bound rest
  | bound + 1, ('?', false) :: rest => .anyChar :: formParts bound rest
  | bound + 1, ('\\', false) :: (char, _) :: rest => .char char :: formParts bound rest
  | bound + 1, ('[', false) :: rest =>
    let (others, inner) :=
      match rest with
      | ('!', false) :: rest => (true, rest)
      | rest => (false, rest)
    match splitRanges (inner.length + 1) true inner with
    | some (ranges, behind) => .oneOf ranges others :: formParts bound behind
    | none => .char '[' :: formParts bound rest
  | bound + 1, (char, _) :: rest => .char char :: formParts bound rest

/-- The form of all of some characters. -/
def formOf (chars : List (Char × Bool)) : List FormPart := formParts (chars.length + 1) chars

/-- Whether a character is in one of some ranges. -/
def inRanges (ranges : List (Char × Char)) (char : Char) : Bool :=
  ranges.any fun range => range.1 ≤ char && char ≤ range.2

/-- Whether a text has a form. -/
def fits : List FormPart → List Char → Bool
  | [], text => text.isEmpty
  | .anything :: parts, [] => fits parts []
  | .anything :: parts, char :: text => fits parts (char :: text) || fits (.anything :: parts) text
  | .anyChar :: parts, _ :: text => fits parts text
  | .char char :: parts, found :: text => char == found && fits parts text
  | .oneOf ranges others :: parts, found :: text =>
    inRanges ranges found != others && fits parts text
  | _ :: _, [] => false

/-- Whether some characters have something in them that stands for other characters. -/
def isForm (chars : List (Char × Bool)) : Bool :=
  chars.any fun char => !char.2 && (char.1 == '*' || char.1 == '?' || char.1 == '[')

/-- A text without its front of some form, the shortest or the longest one. -/
def dropFront (parts : List FormPart) (isLongest : Bool) (text : List Char) : List Char :=
  let sizes := List.range (text.length + 1)
  let found :=
    (if isLongest then sizes.reverse else sizes).find? fun size => fits parts (text.take size)
  text.drop (found.getD 0)

/-- A text without its back of some form, the shortest or the longest one. -/
def dropBack (parts : List FormPart) (isLongest : Bool) (text : List Char) : List Char :=
  let sizes := List.range (text.length + 1)
  let found :=
    (if isLongest then sizes else sizes.reverse).find? fun size => fits parts (text.drop size)
  text.take (found.getD text.length)

end ShapeScene.Script
