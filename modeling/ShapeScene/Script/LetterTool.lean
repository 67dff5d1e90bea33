import ShapeScene.Script.Form
import ShapeScene.Script.Formatted
import ShapeScene.Script.Lines

/-!
# Changing letters

The tool that puts letters in the place of others, takes letters away, or makes one letter of
several that stand side by side. Which letters it means is said by sets, in which a range or a
class stands for many.
-/

namespace ShapeScene.Script

/-- A part of a set of letters. -/
inductive LetterPart where
  /-- Letters one after another. -/
  | letters (bytes : List UInt8)
  /-- The letters of a class with a name. -/
  | letterClass (name : String)
  /-- One letter as often as it is said, or as often as it takes. -/
  | again (byte : UInt8) (count : Nat)
deriving DecidableEq, Repr

/-- All bytes. -/
def allBytes : List UInt8 := (List.range 256).map UInt8.ofNat

/-- The bytes of a class. -/
def classBytes (name : String) : List UInt8 :=
  let ranges := ((charClasses.find? fun entry => entry.1 == name).map (·.2)).getD []
  allBytes.filter fun byte => inRanges ranges (Char.ofNat byte.toNat)

/-- The characters of a text without the backslashes of escapes, each with whether it had one. -/
def unescapedLetters : (skip : Nat) → List Char → List (Char × Bool)
  | _, [] => []
  | skip + 1, _ :: rest => unescapedLetters skip rest
  | 0, '\\' :: rest =>
    match readEscape .format rest, rest with
    | _, [] => [('\\', false)]
    | ([92], 0), char :: _ => (char, true) :: unescapedLetters 1 rest
    | (content, length), _ =>
      content.map (fun byte => (Char.ofNat byte.toNat, true)) ++ unescapedLetters length rest
  | 0, char :: rest => (char, false) :: unescapedLetters 0 rest

/-- A character as a byte. -/
def letterByte (char : Char) : UInt8 := UInt8.ofNat char.toNat

/-- A letter as messages show it. -/
def shownLetter (char : Char) : String :=
  if ' ' ≤ char ∧ char ≤ '~' then String.singleton char
  else "\\" ++ String.ofList ((['0', '0'] ++ Nat.toDigits 8 char.toNat).reverse.take 3).reverse

/-- The parts of a set. -/
def letterParts : (bound : Nat) → List (Char × Bool) → Except String (List LetterPart)
  | 0, _ | _, [] => .ok []
  | bound + 1, ('[', false) :: (':', false) :: rest =>
    let name := (rest.map (·.1)).takeWhile (· ≠ ':')
    match rest.drop name.length with
    | (':', false) :: (']', false) :: behind =>
      if charClasses.any fun entry => entry.1.toList == name then
        (letterParts bound behind).map (.letterClass (String.ofList name) :: ·)
      else .error ("invalid character class " ++ quoted (String.ofList name))
    | _ => (letterParts bound ((':', false) :: rest)).map (.letters [91] :: ·)
  | bound + 1, ('[', false) :: ('=', false) :: (char, _) :: ('=', false) :: (']', false) :: rest =>
    (letterParts bound rest).map (.letters [letterByte char] :: ·)
  | bound + 1, (char, isEscaped) :: rest =>
    let behindStar : Option (Char × List Char × List (Char × Bool)) :=
      match char, isEscaped, rest with
      | '[', false, (repeated, _) :: ('*', false) :: more =>
        let digits := (more.map (·.1)).takeWhile Text.isDigit
        match more.drop digits.length with
        | (']', false) :: behind => some (repeated, digits, behind)
        | _ => none
      | _, _, _ => none
    match behindStar, rest with
    | some (repeated, digits, behind), _ =>
      let count :=
        if digits.head? = some '0' then
          digits.foldl (fun value digit => value * 8 + (octalValue? digit).getD 0) 0
        else Text.decimalValue digits
      (letterParts bound behind).map (.again (letterByte repeated) count :: ·)
    | none, ('-', false) :: (last, _) :: behind =>
      if last < char then
        .error ("range-endpoints of '" ++ shownLetter char ++ "-" ++ shownLetter last ++
          "' are in reverse collating sequence order")
      else
        let size := last.toNat - char.toNat + 1
        (letterParts bound behind).map
          (.letters ((List.range size).map fun index => UInt8.ofNat (char.toNat + index)) :: ·)
    | none, _ => (letterParts bound rest).map (.letters [letterByte char] :: ·)

/-- The parts of a set that a text is. -/
def readLetterSet (text : String) : Except String (List LetterPart) :=
  letterParts (text.length + 1) (unescapedLetters 0 text.toList)

/-- The letters of a part; `fill` is how often a letter comes that comes as often as it takes. -/
def LetterPart.bytes (fill : Nat) : LetterPart → List UInt8
  | letters bytes => bytes
  | letterClass name => classBytes name
  | again byte count => List.replicate (if count = 0 then fill else count) byte

/-- The letters of a set, as many as `size` if one comes as often as it takes. -/
def lettersOf (size : Nat) (parts : List LetterPart) : List UInt8 :=
  let fixed := (parts.flatMap fun part => part.bytes 0).length
  parts.flatMap fun part => part.bytes (size - fixed)

/-- The letters that are in no set. -/
def otherLetters (bytes : List UInt8) : List UInt8 :=
  allBytes.filter fun byte => !bytes.contains byte

/-- The bytes with one in the place of several equal ones side by side, if these are in a set. -/
def squeezed (set : Array Bool) (content : List UInt8) : List UInt8 :=
  (content.foldl
    (fun (kept, last) byte =>
      if last == some byte && (set[byte.toNat]?).getD false then (kept, last)
      else (byte :: kept, some byte))
    (([], none) : List UInt8 × Option UInt8)).1.reverse

/-- For each byte whether it is in a set. -/
def membership (bytes : List UInt8) : Array Bool :=
  (allBytes.map bytes.contains).toArray

/-- For each byte the one in its place: the letter of the second set at the last place that the
letter has in the first. -/
def replacements (before after : List UInt8) : Array UInt8 :=
  (before.zip after).foldl (fun table entry => table.setIfInBounds entry.1.toNat entry.2)
    allBytes.toArray

/-- What is wrong with the classes of a second set. -/
def classFault? (first second : List LetterPart) : Option String :=
  let starts (parts : List LetterPart) : List (Nat × LetterPart) :=
    (parts.foldl
      (fun (found, place) part => (found ++ [(place, part)], place + (part.bytes 1).length))
      (([], 0) : List (Nat × LetterPart) × Nat)).1
  let isCase (part : LetterPart) : Bool :=
    part == .letterClass "upper" || part == .letterClass "lower"
  let isClass (part : LetterPart) : Bool := match part with | .letterClass _ => true | _ => false
  if second.any fun part => isClass part && !isCase part then
    some ("when translating, the only character classes that may appear in\n" ++
      "string2 are 'upper' and 'lower'")
  else
    let isAligned (entry : Nat × LetterPart) : Bool :=
      !isCase entry.2 ||
        (starts first).any fun other => other.1 == entry.1 && isCase other.2
    if (starts second).all isAligned then none
    else some "misaligned [:upper:] and/or [:lower:] construct"

/-- What becomes of some bytes. -/
def changedLetters (switches : Switches) (first second : List LetterPart)
    (content : List UInt8) : Except String (List UInt8) :=
  let isOthers := switches.has 'c' || switches.has 'C'
  let named := lettersOf 0 first
  let before := if isOthers then otherLetters named else named
  let set := membership before
  let isIn (byte : UInt8) : Bool := (set[byte.toNat]?).getD false
  let after := lettersOf before.length second
  let squeeze (bytes : List UInt8) (content : List UInt8) : List UInt8 :=
    squeezed (membership bytes) content
  if switches.has 'd' then
    let kept := content.filter fun byte => !isIn byte
    .ok (if switches.has 's' then squeeze (lettersOf 0 second) kept else kept)
  else if switches.operands.length = 1 then .ok (squeeze before content)
  else
    match classFault? first second with
    | some fault => .error fault
    | none =>
      if after.isEmpty && !switches.has 't' then
        .error "when not truncating set1, string2 must be non-empty"
      else
        let last := after.getLast?.getD 0
        let padded :=
          if switches.has 't' then after
          else after ++ List.replicate (before.length - after.length) last
        let table := replacements before padded
        let changed := content.map fun byte => (table[byte.toNat]?).getD byte
        .ok (if switches.has 's' then squeeze after changed else changed)

/-- The input with other letters. -/
def changeLetters (bench : Bench) (arguments : List String) : Deed :=
  let usage : Usage :=
    { tool := "tr", flags := "cCdst", permutes := false,
      long := [("--complement", 'c'), ("--delete", 'd'), ("--squeeze-repeats", 's'),
        ("--truncate-set1", 't')] }
  usage.with bench arguments fun switches =>
    let refuse (message hint : String) : Deed :=
      .refused bench ("tr: " ++ message ++
        (if hint.isEmpty then "" else "\n" ++ hint) ++ advice "tr")
    let deletes := switches.has 'd'
    let squeezes := switches.has 's'
    let lacks (first : String) : Deed :=
      refuse ("missing operand after " ++ quoted first)
        (if deletes then
          "Two strings must be given when both deleting and squeezing repeats."
        else "Two strings must be given when translating.")
    let work (first : String) (second : Option String) : Deed :=
      match readLetterSet first, readLetterSet (second.getD "") with
      | .error message, _ | _, .error message => .refused bench ("tr: " ++ message)
      | .ok firstParts, .ok secondParts =>
        match changedLetters switches firstParts secondParts [] with
        | .error message => .refused bench ("tr: " ++ message)
        | .ok _ =>
          match (Deed.idle bench 0).read "-" with
          | (.error failure, deed) => deed.fail ("tr: read error: " ++ failure.reason)
          | (.ok content, deed) =>
            deed.say
              ((changedLetters switches firstParts secondParts content).toOption.getD [])
    match switches.operands with
    | [] => missingOperand bench "tr"
    | [first] => if deletes == squeezes then lacks first else work first none
    | [first, second] =>
      if deletes && !squeezes then
        refuse ("extra operand " ++ quoted second)
          "Only one string may be given when deleting without squeezing repeats."
      else work first (some second)
    | _ :: second :: third :: _ =>
      refuse ("extra operand " ++ quoted (if deletes && !squeezes then second else third)) ""

end ShapeScene.Script
