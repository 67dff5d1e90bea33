import ShapeScene.Script.Formatted
import ShapeScene.Script.Lines
import ShapeScene.Script.Pattern

/-!
# Tools for numbers

Sequences of numbers, expressions, and pauses.
-/

namespace ShapeScene.Script

/-! ## Sequences -/

/-- A number with decimal places: its value in units of the last place, and the number of places.
-/
structure Placed10 where
  /-- The value in units of the last place. -/
  units : Int
  /-- The number of places. -/
  places : Nat
deriving DecidableEq, Repr

namespace Placed10

/-- The number that a text is. -/
def ofText? (text : String) : Option Placed10 :=
  let (isNegative, digits) :=
    match text.toList with
    | '-' :: digits => (true, digits)
    | '+' :: digits => (false, digits)
    | digits => (false, digits)
  let sized (units : Nat) (places : Nat) : Placed10 :=
    ⟨if isNegative then -(units : Int) else units, places⟩
  match digits with
  | '0' :: 'x' :: hex =>
    if hex.isEmpty || !hex.all (fun char => (Text.hexValue? char).isSome) then none
    else some (sized (splitNumeral digits).1 0)
  | _ =>
    match splitDecimal? digits with
    | some (value, power, []) =>
      if 0 ≤ power then some (sized (value * Nat.pow 10 (min power.toNat 400)) 0)
      else some (sized value (min power.natAbs 400))
    | _ => none

/-- The value in units of a place not before the last one. -/
def unitsAt (number : Placed10) (places : Nat) : Int :=
  number.units * (Nat.pow 10 (places - number.places) : Nat)

end Placed10

/-- A value in units of a place as text. -/
def placedUnits (units : Int) (places : Nat) : String :=
  let digits := Text.paddedDigits (places + 1) units.natAbs
  let sign := if units < 0 then ['-'] else []
  let whole := digits.take (digits.length - places)
  String.ofList (sign ++ whole ++
    if places = 0 then [] else '.' :: digits.drop (digits.length - places))

/-- The greatest number of numbers in a sequence; a longer one counts as one without end. -/
def greatestSequence : Nat := 500000

/-- The text of a number with zeros behind its sign up to a width. -/
def zeroFilled (width : Nat) (text : String) : String :=
  match text.toList with
  | '-' :: digits =>
    String.ofList ('-' :: (List.replicate (width - text.length) '0' ++ digits))
  | digits => String.ofList (List.replicate (width - text.length) '0' ++ digits)

/-- Arguments with a negative number in front marked as an operand. -/
def withNumbers : List String → List String
  | [] => []
  | argument :: rest =>
    match argument.toList with
    | '-' :: char :: letters =>
      if Text.isDigit char || char == '.' then "--" :: argument :: rest
      else if letters.isEmpty && "sf".toList.contains char then
        argument :: rest.take 1 ++ withNumbers (rest.drop 1)
      else argument :: withNumbers rest
    | _ => argument :: rest
termination_by arguments => arguments.length
decreasing_by all_goals simp_all; try omega

/-- The numbers from one number to another, each on a line. -/
def counting (bench : Bench) (arguments : List String) : Deed :=
  let usage : Usage :=
    { tool := "seq", flags := "w", valued := "sf", permutes := false,
      long := [("--separator", 's'), ("--format", 'f'), ("--equal-width", 'w')] }
  usage.with bench (withNumbers arguments) fun switches =>
    let wrong := switches.operands.find? fun text => (Placed10.ofText? text).isNone
    let write (first step last : Placed10) : Deed :=
      let places := max first.places step.places
      let inner := max places last.places
      let start := first.unitsAt inner
      let size := step.unitsAt inner
      let finish := last.unitsAt inner
      if size = 0 then
        misused bench "seq" ("invalid Zero increment value: " ++
          quoted ((switches.operands[1]?).getD ""))
      else
        let count : Nat :=
          if (0 < size ∧ finish < start) ∨ (size < 0 ∧ start < finish) then 0
          else ((finish - start).natAbs / size.natAbs) + 1
        let shownCount := min count greatestSequence
        let valueAt (index : Nat) : Int :=
          (start + size * index).tdiv (Nat.pow 10 (inner - places) : Nat)
        let texts := (List.range shownCount).map fun index => placedUnits (valueAt index) places
        let lastText := placedUnits (finish.tdiv (Nat.pow 10 (inner - places) : Nat)) places
        let width := max ((texts.head?.map String.length).getD 0) lastText.length
        let shown (text : String) : String :=
          match switches.value? 'f' with
          | some pattern =>
            Text.raw (formatted .format .argument pattern [text]).1.content
          | none => if switches.has 'w' then zeroFilled width text else text
        let line := Text.joinWith ((switches.value? 's').getD "\n") (texts.map shown)
        let said := Deed.said bench (if texts.isEmpty then [] else Text.rawBytes (line ++ "\n"))
        if greatestSequence < count then said.stuck else said
    let one : Placed10 := ⟨1, 0⟩
    match wrong, switches.operands.map Placed10.ofText? with
    | some text, _ => misused bench "seq" ("invalid floating point argument: " ++ quoted text)
    | none, [some last] => write one one last
    | none, [some first, some last] => write first one last
    | none, [some first, some step, some last] => write first step last
    | none, [] => missingOperand bench "seq"
    | none, _ => extraOperand bench "seq" ((switches.operands[3]?).getD "")

/-! ## Pauses -/

/-- Number of milliseconds in a duration: seconds with a decimal point and perhaps a unit. -/
def milliseconds? (text : String) : Option Nat :=
  let (unit, chars) :=
    match text.toList.getLast? with
    | some 's' => (1, text.toList.dropLast)
    | some 'm' => (60, text.toList.dropLast)
    | some 'h' => (3600, text.toList.dropLast)
    | some 'd' => (86400, text.toList.dropLast)
    | _ => (1, text.toList)
  let digits := match chars with | '+' :: digits => digits | digits => digits
  if digits.map Char.toLower = "inf".toList ∨ digits.map Char.toLower = "infinity".toList then
    some (Nat.pow 10 12)
  else
    match splitDecimal? digits with
    | some (value, power, []) =>
      let thousand := value * 1000 * unit
      some (if 0 ≤ power then thousand * Nat.pow 10 (min power.toNat 12)
        else thousand / Nat.pow 10 (min power.natAbs 400))
    | _ => none

/-- A pause as long as all arguments together. -/
def pause (bench : Bench) (arguments : List String) : Deed :=
  let usage : Usage := { tool := "sleep" }
  usage.with bench arguments fun switches =>
    if switches.operands.isEmpty then missingOperand bench "sleep"
    else
      match switches.operands.filter fun argument => (milliseconds? argument).isNone with
      | [] =>
        let times := switches.operands.filterMap milliseconds?
        { Deed.idle bench 0 with milliseconds := times.foldl (· + ·) 0 }
      | wrong =>
        let shown := wrong.map fun argument => "sleep: invalid time interval " ++ quoted argument
        .refused bench (Text.joinWith "\n" shown ++ advice "sleep")

/-! ## Expressions -/

/-- Why an expression has no value. -/
inductive ExpressionError where
  /-- A word is missing behind another one. -/
  | missingBehind (word : String)
  /-- A word stands where none should be. -/
  | unexpected (word : String)
  /-- A parenthesis is not closed. -/
  | notClosed (word : String)
  /-- A word is no number. -/
  | noNumber
  /-- A number is divided by zero. -/
  | divisionByZero
  /-- A text is no pattern. -/
  | noPattern (error : PatternError)
deriving DecidableEq, Repr

/-- The wording of an error. -/
def ExpressionError.message : ExpressionError → String
  | missingBehind word => "syntax error: missing argument after " ++ quoted word
  | unexpected word => "syntax error: unexpected argument " ++ quoted word
  | notClosed word => "syntax error: expecting ')' after " ++ quoted word
  | noNumber => "non-integer argument"
  | divisionByZero => "division by zero"
  | noPattern error => error.message

/-- The value of a part of an expression, with the last word of it and the words behind. -/
abbrev Evaluated := Except ExpressionError (String × String × List String)

/-- The whole number that a text is. -/
def wholeNumber? (text : String) : Option Int :=
  match text.toList with
  | '-' :: digits =>
    if digits.isEmpty || !digits.all Text.isDigit then none
    else some (-(Text.decimalValue digits : Int))
  | digits =>
    if digits.isEmpty || !digits.all Text.isDigit then none
    else some (Text.decimalValue digits)

/-- Whether a value counts as nothing. -/
def isNull (value : String) : Bool :=
  value.isEmpty || value == "0" || wholeNumber? value == some 0

/-- What a pattern finds at the beginning of a text: its group, or how much it covers. -/
def matchedFront (text pattern : String) : Except ExpressionError String :=
  match Pattern.read ⟨false, false⟩ pattern with
  | .error error => .error (.noPattern error)
  | .ok (pattern, groups) =>
    let subject : Subject := { chars := text.toList.toArray }
    match pattern.occurrenceAt? subject 0 with
    | none => .ok (if groups = 0 then "0" else "")
    | some occurrence =>
      if groups = 0 then .ok (toString occurrence.finish)
      else
        match occurrence.groups.find? fun entry => entry.1 == 1 with
        | some (_, start, finish) => .ok (String.ofList (subject.between start finish))
        | none => .ok ""

/-- The value of an operator with two operands. -/
def combine (operator left right : String) : Except ExpressionError String :=
  let numbers : Except ExpressionError (Int × Int) :=
    match wholeNumber? left, wholeNumber? right with
    | some first, some second => .ok (first, second)
    | _, _ => .error .noNumber
  let truth (holds : Bool) : Except ExpressionError String := .ok (if holds then "1" else "0")
  let compared (numeric : Int → Int → Bool) (textual : String → String → Bool) :
      Except ExpressionError String :=
    match wholeNumber? left, wholeNumber? right with
    | some first, some second => truth (numeric first second)
    | _, _ => truth (textual left right)
  match operator with
  | "|" => .ok (if !isNull left then left else if isNull right then "0" else right)
  | "&" => .ok (if isNull left || isNull right then "0" else left)
  | "=" | "==" => compared (· == ·) (· == ·)
  | "!=" => compared (· != ·) (· != ·)
  | "<" => compared (fun first second => first < second) fun first second => first < second
  | "<=" => compared (fun first second => first ≤ second) fun first second => first ≤ second
  | ">" => compared (fun first second => second < first) fun first second => second < first
  | ">=" => compared (fun first second => second ≤ first) fun first second => second ≤ first
  | "+" => numbers.map fun (first, second) => toString (first + second)
  | "-" => numbers.map fun (first, second) => toString (first - second)
  | "*" => numbers.map fun (first, second) => toString (first * second)
  | "/" | "%" => do
    let (first, second) ← numbers
    if second = 0 then .error .divisionByZero
    else
      .ok (toString (if operator = "/" then first.tdiv second else first.tmod second))
  | _ => matchedFront left right

/-- The operators of expressions, the weakest first. -/
def expressionRanks : List (List String) :=
  [["|"], ["&"], ["<", "<=", "=", "==", "!=", ">=", ">"], ["+", "-"], ["*", "/", "%"], [":"]]

mutual

/-- The value of what operators of some ranks join. -/
def evaluateRanks : (bound : Nat) → (ranks : List (List String)) → (last : String) →
    List String → Evaluated
  | 0, _, last, _ => .error (.missingBehind last)
  | bound + 1, [], last, words => evaluateOperand bound last words
  | bound + 1, rank :: stronger, last, words => do
    let (first, last, behind) ← evaluateRanks bound stronger last words
    evaluateAfter bound rank stronger first last behind

/-- The value of what operators of one rank join behind a first operand. -/
def evaluateAfter : (bound : Nat) → (rank : List String) → (stronger : List (List String)) →
    String → (last : String) → List String → Evaluated
  | 0, _, _, _, last, _ => .error (.missingBehind last)
  | _ + 1, _, _, first, last, [] => .ok (first, last, [])
  | bound + 1, rank, stronger, first, last, operator :: rest =>
    if rank.contains operator then do
      let (second, last, behind) ← evaluateRanks bound stronger operator rest
      evaluateAfter bound rank stronger (← combine operator first second) last behind
    else .ok (first, last, operator :: rest)

/-- The value of an operand. -/
def evaluateOperand : (bound : Nat) → (last : String) → List String → Evaluated
  | 0, last, _ | _, last, [] => .error (.missingBehind last)
  | bound + 1, _, "(" :: rest => do
    let (value, last, behind) ← evaluateRanks bound expressionRanks "(" rest
    match behind with
    | ")" :: behind => .ok (value, ")", behind)
    | [] => .error (.notClosed last)
    | word :: _ => .error (.unexpected word)
  | _ + 1, _, ")" :: _ => .error (.unexpected ")")
  | _ + 1, _, "+" :: word :: rest => .ok (word, word, rest)
  | bound + 1, _, "length" :: rest => do
    let (value, last, behind) ← evaluateOperand bound "length" rest
    .ok (toString value.length, last, behind)
  | bound + 1, _, "match" :: rest => do
    let (text, last, behind) ← evaluateOperand bound "match" rest
    let (pattern, last, behind) ← evaluateOperand bound last behind
    .ok (← matchedFront text pattern, last, behind)
  | bound + 1, _, "index" :: rest => do
    let (text, last, behind) ← evaluateOperand bound "index" rest
    let (wanted, last, behind) ← evaluateOperand bound last behind
    let place := text.toList.findIdx? wanted.toList.contains
    .ok (toString (place.elim 0 (· + 1)), last, behind)
  | bound + 1, _, "substr" :: rest => do
    let (text, last, behind) ← evaluateOperand bound "substr" rest
    let (start, last, behind) ← evaluateOperand bound last behind
    let (length, last, behind) ← evaluateOperand bound last behind
    let part :=
      match wholeNumber? start, wholeNumber? length with
      | some start, some length =>
        if start ≤ 0 ∨ length ≤ 0 then []
        else (text.toList.drop (start.toNat - 1)).take length.toNat
      | _, _ => []
    .ok (String.ofList part, last, behind)
  | _ + 1, _, word :: rest => .ok (word, word, rest)

end

/-- The value of an expression. -/
def expression (bench : Bench) (arguments : List String) : Deed :=
  let words := match arguments with | "--" :: words => words | words => words
  if words.isEmpty then missingOperand bench "expr" |>.withStatus 2
  else
    let outcome := evaluateRanks (16 * words.length + 16) expressionRanks "expr" words
    match outcome with
    | .error error => .refused bench ("expr: " ++ error.message) 2
    | .ok (_, _, word :: _) =>
      .refused bench ("expr: " ++ (ExpressionError.unexpected word).message) 2
    | .ok (value, _, []) =>
      ((Deed.idle bench 0).sayLine value).withStatus (if isNull value then 1 else 0)

end ShapeScene.Script
