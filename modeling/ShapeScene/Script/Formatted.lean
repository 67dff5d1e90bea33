import ShapeScene.Number.Binary64
import ShapeScene.Script.Formula
import ShapeScene.Text.Raw
import ShapeScene.Text.Search

/-!
# Formatted text

Texts with escapes, and formats: texts in which directives stand for arguments. A format is used
again until no arguments are left. All texts are raw.
-/

namespace ShapeScene.Script

/-! ## Escapes -/

/-- The byte that a letter behind a backslash stands for. -/
def escapedByte? (letter : Char) : Option UInt8 :=
  match letter with
  | 'a' => some 7
  | 'b' => some 8
  | 't' => some 9
  | 'n' => some 10
  | 'v' => some 11
  | 'f' => some 12
  | 'r' => some 13
  | 'e' => some 27
  | '\\' => some 92
  | _ => none

/-- The value of an octal digit. -/
def octalValue? (char : Char) : Option Nat :=
  if '0' ≤ char ∧ char ≤ '7' then some (char.toNat - '0'.toNat) else none

/-- The value of at most `limit` digits at the front, and their number. -/
def digitRun (base : Nat) (valueOf? : Char → Option Nat) : (limit value length : Nat) →
    List Char → Nat × Nat
  | limit + 1, value, length, char :: rest =>
    match valueOf? char with
    | some digit => digitRun base valueOf? limit (value * base + digit) (length + 1) rest
    | none => (value, length)
  | _, value, length, _ => (value, length)

/-- Where escapes stand. -/
inductive EscapeGround where
  /-- In a format. -/
  | format
  /-- In an argument, where another zero may stand in front of octal digits. -/
  | argument
  /-- In either, for a tool that knows hexadecimal digits, too. -/
  | tool (isFormat : Bool)
deriving DecidableEq, Repr

/-- The bytes of the escape whose characters behind the backslash are in front, with the number of
these characters. -/
def readEscape (ground : EscapeGround) (chars : List Char) : List UInt8 × Nat :=
  let octal (zeros : Nat) (digits : List Char) : Option (List UInt8 × Nat) :=
    match digitRun 8 octalValue? 3 0 0 digits with
    | (_, 0) => if zeros = 0 then none else some ([0], zeros)
    | (value, length) => some ([UInt8.ofNat value], zeros + length)
  let numbered : Option (List UInt8 × Nat) :=
    match ground, chars with
    | .format, digits | .tool true, digits => octal 0 digits
    | _, '0' :: digits => octal 1 digits
    | .argument, digits => octal 0 digits
    | .tool false, _ => none
  let hexadecimal : Option (List UInt8 × Nat) :=
    match ground, chars with
    | .tool _, 'x' :: digits =>
      match digitRun 16 Text.hexValue? 2 0 0 digits with
      | (_, 0) => none
      | (value, length) => some ([UInt8.ofNat value], length + 1)
    | _, _ => none
  match chars with
  | [] => ([92], 0)
  | char :: _ =>
    match escapedByte? char, numbered, hexadecimal with
    | some byte, _, _ => ([byte], 1)
    | none, some found, _ | none, none, some found => found
    | none, none, none =>
      if char = '"' ∧ (ground = .format ∨ ground = .tool true) then ([34], 1)
      else ([92], 0)

/-- The bytes of a text with escapes. `skip` counts the characters of the last escape still to
pass. -/
def unescape (ground : EscapeGround) : (skip : Nat) → List Char → List UInt8
  | _, [] => []
  | skip + 1, _ :: rest => unescape ground skip rest
  | 0, '\\' :: rest =>
    let (content, length) := readEscape ground rest
    content ++ unescape ground length rest
  | 0, char :: rest => UInt8.ofNat char.toNat :: unescape ground 0 rest

/-- The characters in front of the escape that ends a text, and whether there is one. -/
def beforeStop : List Char → List Char × Bool
  | '\\' :: char :: rest =>
    if char = 'c' then ([], true)
    else
      let (kept, stops) := beforeStop rest
      ('\\' :: char :: kept, stops)
  | char :: rest =>
    let (kept, stops) := beforeStop rest
    (char :: kept, stops)
  | [] => ([], false)

/-- The arguments with spaces between them and escapes resolved, and the end of the line behind
them if there is to be one. -/
def echoed (ground : EscapeGround) (endsLine : Bool) (arguments : List String) : List UInt8 :=
  let line := Text.joinWith " " arguments
  let (kept, stops) := beforeStop line.toList
  unescape ground 0 kept ++ if endsLine && !stops then [10] else []

/-- What a line of arguments writes, with its end unless the first argument forbids it. -/
def spoken : List String → List UInt8
  | "-n" :: rest => echoed .argument false rest
  | arguments => echoed .argument true arguments

/-! ## Directives -/

/-- A number in a directive. -/
inductive Measure where
  /-- A number that the format gives. -/
  | fixed (value : Nat)
  /-- A number that an argument gives. -/
  | given
deriving DecidableEq, Repr

/-- How an argument is written. -/
structure Directive where
  /-- The characters that change the way of writing. -/
  flags : List Char
  /-- The least number of characters. -/
  width : Measure
  /-- The least number of digits, the number of places, or the greatest number of characters of a
  text. -/
  precision : Option Measure
  /-- The letter of the kind of argument. -/
  kind : Char
  /-- The directive as it stands in the format. -/
  text : List Char
deriving DecidableEq, Repr

/-- A part of a format. -/
inductive FormatPart where
  /-- Text with escapes. -/
  | text (chars : List Char)
  /-- The place of an argument. -/
  | directive (directive : Directive)
  /-- A directive without its letter. -/
  | incomplete
deriving DecidableEq, Repr

/-- The number in front of the rest of a directive. -/
def splitMeasure : List Char → Measure × List Char
  | '*' :: rest => (.given, rest)
  | rest =>
    let (digits, rest) := rest.span Text.isDigit
    (.fixed (Text.decimalValue digits), rest)

/-- The parts of a format. -/
def formatParts : (bound : Nat) → List Char → List FormatPart
  | 0, _ | _, [] => []
  | bound + 1, '%' :: '%' :: rest => .text ['%'] :: formatParts bound rest
  | bound + 1, '%' :: start =>
    let (flags, rest) := start.span "-+ #0".toList.contains
    let (width, rest) := splitMeasure rest
    let (precision, rest) :=
      match rest with
      | '.' :: rest =>
        let (precision, rest) := splitMeasure rest
        (some precision, rest)
      | rest => (none, rest)
    match rest with
    | [] => [.incomplete]
    | kind :: rest =>
      let text := '%' :: start.take (start.length - rest.length)
      .directive ⟨flags, width, precision, kind, text⟩ :: formatParts bound rest
  | bound + 1, rest =>
    let (text, rest) := rest.span (· ≠ '%')
    .text text :: formatParts bound rest

/-- The kinds of directives. -/
def directiveKinds : List Char := "sbcdiuxXofeEgG".toList

/-- Whether there are directives of a kind. -/
def Directive.isKnown (directive : Directive) : Bool :=
  directiveKinds.contains directive.kind && !directive.text.contains '\''

/-! ## Numbers of arguments -/

/-- What is wrong with an argument that is to be a number. -/
inductive NumberFault where
  /-- It is none. -/
  | noNumber
  /-- Something stands behind the number. -/
  | moreBehind
  /-- It is too large. -/
  | tooLarge
deriving DecidableEq, Repr

/-- A whole number kept between bounds, with the fault that it was beyond them. -/
def bounded (isSigned : Bool) (value : Int) : Int × Option NumberFault :=
  let limit : Int := Nat.pow 2 63
  let whole : Int := Nat.pow 2 64
  if isSigned then
    if limit ≤ value then (limit - 1, some .tooLarge)
    else if value < -limit then (-limit, some .tooLarge)
    else (value, none)
  else if whole ≤ value ∨ value ≤ -whole then (whole - 1, some .tooLarge)
  else (if value < 0 then value + whole else value, none)

/-- The whole number that an argument is, with what is wrong about it. A quote in front asks for
the code of the character behind it. -/
def wholeArgument (isSigned : Bool) (argument : List Char) : Int × Option NumberFault :=
  match argument with
  | [] => (0, none)
  | '\'' :: char :: _ | '"' :: char :: _ => (char.toNat, none)
  | _ =>
    let trimmed := argument.dropWhile Text.isBlank
    let (isNegative, digits) :=
      match trimmed with
      | '-' :: digits => (true, digits)
      | '+' :: digits => (false, digits)
      | digits => (false, digits)
    if !(digits.head?.map Text.isDigit).getD false then (0, some .noNumber)
    else
      let (size, behind) := splitNumeral digits
      let (value, fault) := bounded isSigned (if isNegative then -(size : Int) else size)
      (value, if behind.isEmpty then fault else some .moreBehind)

/-- The decimal number in front of some characters: its digits, their power of ten, and what is
behind it. -/
def splitDecimal? (chars : List Char) : Option (Nat × Int × List Char) :=
  let (whole, rest) := chars.span Text.isDigit
  let (places, rest) :=
    match rest with
    | '.' :: behind =>
      let (places, later) := behind.span Text.isDigit
      if whole.isEmpty && places.isEmpty then ([], rest) else (places, later)
    | rest => ([], rest)
  if whole.isEmpty && places.isEmpty then none
  else
    let digits := Text.decimalValue (whole ++ places)
    let power : Int := -(places.length : Int)
    let exponent? (behind : List Char) : Option (Int × List Char) :=
      let (isNegative, digits) :=
        match behind with
        | '-' :: digits => (true, digits)
        | '+' :: digits => (false, digits)
        | digits => (false, digits)
      let (written, later) := digits.span Text.isDigit
      if written.isEmpty then none
      else
        let size : Int := Text.decimalValue written
        some (if isNegative then -size else size, later)
    match rest with
    | mark :: behind =>
      if mark = 'e' ∨ mark = 'E' then
        match exponent? behind with
        | some (exponent, later) => some (digits, power + exponent, later)
        | none => some (digits, power, rest)
      else some (digits, power, rest)
    | [] => some (digits, power, rest)

/-- The number with places that an argument is, with what is wrong about it. -/
def placedArgument (argument : List Char) : Binary64 × Option NumberFault :=
  let zero := Binary64.zero false
  match argument with
  | [] => (zero, none)
  | '\'' :: char :: _ | '"' :: char :: _ => (Binary64.ofNat char.toNat, none)
  | _ =>
    let trimmed := argument.dropWhile Text.isBlank
    let (isNegative, digits) :=
      match trimmed with
      | '-' :: digits => (true, digits)
      | '+' :: digits => (false, digits)
      | digits => (false, digits)
    let lowered := digits.map Char.toLower
    let named (name : String) : Bool := name.toList.isPrefixOf lowered
    let behindName (length : Nat) : Option NumberFault :=
      if digits.length = length then none else some .moreBehind
    if named "infinity" then (Binary64.infinity isNegative, behindName 8)
    else if named "inf" then (Binary64.infinity isNegative, behindName 3)
    else if named "nan" then (Binary64.nan, behindName 3)
    else
      match splitDecimal? digits with
      | none => (zero, some .noNumber)
      | some (value, power, behind) =>
        let number := Binary64.ofDecimal isNegative value (max (-2000) (min 2000 power))
        let fault := if number.isFinite then none else some .tooLarge
        (number, if behind.isEmpty then fault else some .moreBehind)

/-! ## Digits -/

/-- A ratio with a number of decimal places, rounded to the nearest, and to the even one of two. -/
def placedDigits (ratio : Nat × Nat) (places : Nat) : List Char :=
  let units := Binary64.divideToEven (ratio.1 * Nat.pow 10 places) ratio.2
  let digits := Text.paddedDigits (places + 1) units
  if places = 0 then digits
  else digits.take (digits.length - places) ++ '.' :: digits.drop (digits.length - places)

/-- The digits of a ratio, one in front of the point and a number of them behind it, and the power
of ten by which they are multiplied. -/
def scientificDigits (ratio : Nat × Nat) (places : Nat) : List Char × Int :=
  let (numerator, denominator) := ratio
  if numerator = 0 then (List.replicate (places + 1) '0', 0)
  else
    let guess : Int :=
      ((Nat.toDigits 10 numerator).length : Int) - (Nat.toDigits 10 denominator).length
    let isAtLeast (power : Int) : Bool :=
      denominator * Nat.pow 10 power.toNat ≤ numerator * Nat.pow 10 (-power).toNat
    let power := if isAtLeast guess then guess else guess - 1
    let shift : Int := places - power
    let units := Binary64.divideToEven (numerator * Nat.pow 10 shift.toNat)
      (denominator * Nat.pow 10 (-shift).toNat)
    let digits := Nat.toDigits 10 units
    if digits.length = places + 2 then (digits.dropLast, power + 1) else (digits, power)

/-- Digits with a point behind the first one and a power of ten behind them. -/
def scientificText (digits : List Char) (power : Int) : List Char :=
  let exponent := Text.paddedDigits 2 power.natAbs
  digits.take 1 ++ (if 1 < digits.length then '.' :: digits.drop 1 else []) ++
    'e' :: (if power < 0 then '-' else '+') :: exponent

/-- Digits without zeros at the end of their places. -/
def withoutZeros (digits : List Char) : List Char :=
  if !digits.contains '.' then digits
  else
    let kept := digits.reverse.dropWhile (· = '0')
    (if kept.head? = some '.' then kept.tail else kept).reverse

/-- The size of a number with places as a directive of a kind writes it. -/
def placedText (kind : Char) (keepsZeros : Bool) (precision : Nat) (number : Binary64) :
    List Char :=
  let ratio := number.ratio
  let general (precision : Nat) : List Char :=
    let (digits, power) := scientificDigits ratio (precision - 1)
    let trim (digits : List Char) := if keepsZeros then digits else withoutZeros digits
    if power < -4 ∨ (precision : Int) ≤ power then
      let kept := if keepsZeros then digits else
        digits.take 1 ++ ((digits.drop 1).reverse.dropWhile (· = '0')).reverse
      scientificText kept power
    else trim (placedDigits ratio ((precision : Int) - 1 - power).toNat)
  if number.isNaN then "nan".toList
  else if number.isInfinite then "inf".toList
  else
    match kind with
    | 'f' => placedDigits ratio precision
    | 'e' =>
      let (digits, power) := scientificDigits ratio precision
      scientificText digits power
    | _ => general (max precision 1)

/-! ## Writing -/

/-- A directive whose numbers are known. -/
structure Settled where
  /-- The characters that change the way of writing. -/
  flags : List Char
  /-- The least number of characters. -/
  width : Nat
  /-- The number behind the point. -/
  precision : Option Nat
  /-- The letter of the kind of argument. -/
  kind : Char
deriving DecidableEq, Repr

namespace Settled

/-- Bytes with blanks beside them up to the width of a directive. -/
def padded (directive : Settled) (content : List UInt8) : List UInt8 :=
  let blanks := List.replicate (directive.width - content.length) 32
  if directive.flags.contains '-' then content ++ blanks else blanks ++ content

/-- A number as a directive wants it: its sign or the mark of its base, and its digits. -/
def number (directive : Settled) (sign digits : List Char) (fills : Bool) : List UInt8 :=
  let zeros :=
    if fills && directive.flags.contains '0' && !directive.flags.contains '-' then
      List.replicate (directive.width - sign.length - digits.length) '0'
    else []
  directive.padded (Text.rawBytes (String.ofList (sign ++ zeros ++ digits)))

/-- A whole number as a directive wants it. -/
def whole (directive : Settled) (sign digits : List Char) : List UInt8 :=
  match directive.precision with
  | some least =>
    directive.number sign (List.replicate (least - digits.length) '0' ++ digits) false
  | none => directive.number sign digits true

/-- The sign of a number that is written with a directive. -/
def signOf (directive : Settled) (isNegative : Bool) : List Char :=
  if isNegative then ['-']
  else if directive.flags.contains '+' then ['+']
  else if directive.flags.contains ' ' then [' ']
  else []

/-- An argument as a directive writes it, and what is wrong about the argument; without an argument
a number is zero and a text is empty. `isStopped` says whether the argument ends the whole text. -/
def write (directive : Settled) (escapes : EscapeGround) (argument : String) :
    List UInt8 × Option NumberFault × Bool :=
  let cut (content : List UInt8) := content.take (directive.precision.getD content.length)
  let hasMark := directive.flags.contains '#'
  let unsigned (base : Nat) (mark : String) (change : Char → Char) :
      List UInt8 × Option NumberFault × Bool :=
    let (value, fault) := wholeArgument false argument.toList
    let digits := (Nat.toDigits base value.toNat).map change
    (directive.whole (if hasMark && value ≠ 0 then mark.toList else []) digits, fault, false)
  match directive.kind with
  | 's' => (directive.padded (cut (Text.rawBytes argument)), none, false)
  | 'b' =>
    let (kept, stops) := beforeStop argument.toList
    (directive.padded (cut (unescape escapes 0 kept)), none, stops)
  | 'c' =>
    let first := (Text.rawBytes argument).head?.getD 0
    (directive.padded [first], none, false)
  | 'd' | 'i' =>
    let (value, fault) := wholeArgument true argument.toList
    (directive.whole (directive.signOf (value < 0)) (Nat.toDigits 10 value.natAbs), fault, false)
  | 'u' => unsigned 10 "" id
  | 'x' => unsigned 16 "0x" id
  | 'X' => unsigned 16 "0X" Char.toUpper
  | 'o' => unsigned 8 "0" id
  | kind =>
    let (value, fault) := placedArgument argument.toList
    let digits := placedText kind.toLower hasMark (directive.precision.getD 6) value
    let written := if kind.isUpper then digits.map Char.toUpper else digits
    (directive.number (directive.signOf value.isNegative) written value.isFinite, fault, false)

end Settled

/-! ## Formats -/

/-- What a format has written so far. -/
structure Written where
  /-- The bytes. -/
  content : List UInt8 := []
  /-- What is wrong with arguments, with the arguments. -/
  faults : List (String × NumberFault) := []
  /-- The directive at which it came to an end, which is empty if one has no letter. -/
  broken : Option String := none
  /-- Whether nothing more is written. -/
  isOver : Bool := false

/-- The number that a directive has, perhaps from an argument, and the arguments behind it. -/
def settleMeasure (measure : Measure) (arguments : List String) : Int × List String :=
  match measure with
  | .fixed value => (value, arguments)
  | .given => ((wholeArgument true (arguments.head?.getD "").toList).1, arguments.tail)

/-- What one use of a format writes, and the arguments that it leaves. -/
def formatOnce (formatEscapes argumentEscapes : EscapeGround) :
    List FormatPart → List String → Written → Written × List String
  | [], arguments, written => (written, arguments)
  | .text chars :: parts, arguments, written =>
    formatOnce formatEscapes argumentEscapes parts arguments
      { written with content := written.content ++ unescape formatEscapes 0 chars }
  | .incomplete :: _, arguments, written =>
    ({ written with broken := some "", isOver := true }, arguments)
  | .directive directive :: parts, arguments, written =>
    let (width, arguments) := settleMeasure directive.width arguments
    let (precision, arguments) :=
      match directive.precision with
      | some measure =>
        let (value, arguments) := settleMeasure measure arguments
        (if value < 0 then none else some value.toNat, arguments)
      | none => (none, arguments)
    let settled : Settled :=
      ⟨if width < 0 then '-' :: directive.flags else directive.flags, width.natAbs, precision,
        directive.kind⟩
    if !directive.isKnown then
      ({ written with broken := some (String.ofList directive.text), isOver := true }, arguments)
    else
      let argument := arguments.head?.getD ""
      let (content, fault, stops) := settled.write argumentEscapes argument
      let after :=
        { written with
          content := written.content ++ content
          faults := written.faults ++ (fault.map fun fault => (argument, fault)).toList
          isOver := stops }
      if stops then (after, arguments.tail)
      else formatOnce formatEscapes argumentEscapes parts arguments.tail after

/-- What a format writes in as many uses as its arguments need, at most `limit`. -/
def format (formatEscapes argumentEscapes : EscapeGround) (parts : List FormatPart) :
    (limit : Nat) → List String → Written → Written × List String
  | 0, arguments, written => (written, arguments)
  | limit + 1, arguments, written =>
    let (after, left) := formatOnce formatEscapes argumentEscapes parts arguments written
    if after.isOver || left.isEmpty || left.length == arguments.length then (after, left)
    else format formatEscapes argumentEscapes parts limit left after

/-- What the format that is the first argument writes with the others, and those that it leaves. -/
def formatted (formatEscapes argumentEscapes : EscapeGround) (pattern : String)
    (arguments : List String) : Written × List String :=
  format formatEscapes argumentEscapes (formatParts (pattern.length + 1) pattern.toList)
    (arguments.length + 1) arguments {}

/-- The complaints of the shell about what a format has written. -/
def Written.complaints (written : Written) : List String :=
  let faults := written.faults.map fun (argument, fault) =>
    argument ++
      match fault with
      | .noNumber => ": expected numeric value"
      | .moreBehind => ": not completely converted"
      | .tooLarge => ": Numerical result out of range"
  let broken :=
    match written.broken with
    | none => []
    | some "" => ["missing format character"]
    | some directive => [directive ++ ": invalid directive"]
  faults ++ broken

end ShapeScene.Script
