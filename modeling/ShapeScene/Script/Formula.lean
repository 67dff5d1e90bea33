import ShapeScene.Script.Syntax
import ShapeScene.Text.Natural

/-!
# Formulas

A formula is made of numbers, variables, operators of different strength and parentheses. It is
read from the weakest operators to the strongest, and its value is found on the way. A part whose
value does not matter is read without effect.
-/

namespace ShapeScene.Script

/-- Why a formula has no value. -/
inductive FormulaError where
  /-- A number is divided by zero. -/
  | divisionByZero
  /-- An operand is missing. -/
  | noOperand
  /-- Something stands behind the end. -/
  | noEnd
  /-- A parenthesis is not closed. -/
  | notClosed
  /-- A choice has no second value. -/
  | noChoice
  /-- The value of a variable is no number. -/
  | illegalNumber (value : List Char)
deriving DecidableEq, Repr

/-- The wording of an error. -/
def FormulaError.message (formula : String) (error : FormulaError) : String :=
  let inFormula (reason : String) : String :=
    "arithmetic expression: " ++ reason ++ ": \"" ++ formula ++ "\""
  match error with
  | divisionByZero => inFormula "division by zero"
  | noOperand => inFormula "expecting primary"
  | noEnd => inFormula "expecting EOF"
  | notClosed => inFormula "expecting ')'"
  | noChoice => inFormula "expecting ':'"
  | illegalNumber value => "Illegal number: " ++ String.ofList value

/-- A part of a formula. -/
inductive Symbol where
  /-- A number. -/
  | number (value : Int)
  /-- The name of a variable. -/
  | name (chars : List Char)
  /-- An operator or a parenthesis. -/
  | sign (text : String)
deriving DecidableEq, Repr

/-- A whole number as the shell keeps it, in a signed word of eight bytes. -/
def wrapped (value : Int) : Int := (Int64.ofInt value).toInt

/-- The number in front of some characters, and what stands behind it: hexadecimal behind `0x`,
octal behind another zero, else decimal. -/
def splitNumeral (chars : List Char) : Nat × List Char :=
  let isOctal (char : Char) : Bool := '0' ≤ char && char ≤ '7'
  let isHex (char : Char) : Bool := (Text.hexValue? char).isSome
  match chars with
  | '0' :: mark :: rest =>
    if (mark = 'x' ∨ mark = 'X') ∧ (rest.head?.map isHex).getD false then
      let (digits, behind) := rest.span isHex
      (digits.foldl (fun value char => value * 16 + (Text.hexValue? char).getD 0) 0, behind)
    else
      let (digits, behind) := (mark :: rest).span isOctal
      (digits.foldl (fun value char => value * 8 + Text.digitValue char) 0, behind)
  | chars =>
    let (digits, behind) := chars.span Text.isDigit
    (Text.decimalValue digits, behind)

/-- The value of characters as a number of the shell without a sign. -/
def numeral? (chars : List Char) : Option Nat :=
  match chars, splitNumeral chars with
  | first :: _, (value, []) => if Text.isDigit first then some value else none
  | _, _ => none

/-- The value of a text as a number with an optional sign. -/
def integer? (chars : List Char) : Option Int :=
  match chars with
  | '-' :: digits => (numeral? digits).map fun value => -(value : Int)
  | '+' :: digits => (numeral? digits).map Int.ofNat
  | digits => (numeral? digits).map Int.ofNat

/-- The operators with two operands, the weakest first. Operators of one strength are taken from
the left. -/
def operatorRanks : List (List String) :=
  [["||"], ["&&"], ["|"], ["^"], ["&"], ["==", "!="], ["<=", ">=", "<", ">"], ["<<", ">>"],
    ["+", "-"], ["*", "/", "%"]]

/-- The operators that give a variable a new value, each with the operator that makes it of the old
one. -/
def assignmentSigns : List (String × Option String) :=
  [("=", none), ("+=", some "+"), ("-=", some "-"), ("*=", some "*"), ("/=", some "/"),
    ("%=", some "%"), ("<<=", some "<<"), (">>=", some ">>"), ("&=", some "&"), ("^=", some "^"),
    ("|=", some "|")]

/-- The operators of more than one character, the longest first. -/
def longOperators : List String :=
  ["<<=", ">>=", "||", "&&", "==", "!=", "<=", ">=", "<<", ">>", "+=", "-=", "*=", "/=", "%=",
    "&=", "^=", "|="]

/-- The symbols of a formula. -/
def symbols : (bound : Nat) → List Char → List Symbol
  | 0, _ | _, [] => []
  | bound + 1, char :: rest =>
    if char = ' ' ∨ char = '\t' ∨ char = '\n' then symbols bound rest
    else if Text.isDigit char then
      let (value, behind) := splitNumeral (char :: rest)
      .number (wrapped value) :: symbols bound behind
    else if isNameStart char then
      let (name, behind) := (char :: rest).span isNameChar
      .name name :: symbols bound behind
    else
      match longOperators.find? fun operator => operator.toList.isPrefixOf (char :: rest) with
      | some operator => .sign operator :: symbols bound ((char :: rest).drop operator.length)
      | none => .sign (String.singleton char) :: symbols bound rest

/-- The number that a truth value is. -/
def ofBool (truth : Bool) : Int := if truth then 1 else 0

/-- The value of an operator with two operands. -/
def operate (operator : String) (left right : Int) : Except FormulaError Int :=
  match operator with
  | "||" => .ok (ofBool (left != 0 || right != 0))
  | "&&" => .ok (ofBool (left != 0 && right != 0))
  | "|" => .ok (Int64.ofInt left ||| Int64.ofInt right).toInt
  | "^" => .ok (Int64.ofInt left ^^^ Int64.ofInt right).toInt
  | "&" => .ok (Int64.ofInt left &&& Int64.ofInt right).toInt
  | "==" => .ok (ofBool (left == right))
  | "!=" => .ok (ofBool (left != right))
  | "<=" => .ok (ofBool (left ≤ right))
  | ">=" => .ok (ofBool (right ≤ left))
  | "<" => .ok (ofBool (left < right))
  | ">" => .ok (ofBool (right < left))
  | "<<" => .ok (Int64.ofInt left <<< Int64.ofInt right).toInt
  | ">>" => .ok (Int64.ofInt left >>> Int64.ofInt right).toInt
  | "+" => .ok (wrapped (left + right))
  | "-" => .ok (wrapped (left - right))
  | "*" => .ok (wrapped (left * right))
  | "/" => if right = 0 then .error .divisionByZero else .ok (wrapped (left.tdiv right))
  | "%" => if right = 0 then .error .divisionByZero else .ok (left.tmod right)
  | _ => .error .noEnd

/-- The variables of a formula: those that got values in it, and the texts of all others. -/
structure Variables where
  /-- The values that were given, the last one first. -/
  given : List (List Char × Int) := []
  /-- The text of a variable before the formula. -/
  textOf : List Char → List Char

/-- The value of a variable; one without text is zero. -/
def Variables.valueOf (known : Variables) (name : List Char) : Except FormulaError Int :=
  match known.given.find? fun entry => entry.1 == name with
  | some (_, value) => .ok value
  | none =>
    let text := known.textOf name
    let digits := ((text.dropWhile isBlank).reverse.dropWhile isBlank).reverse
    if digits.isEmpty then .ok 0
    else
      match integer? digits with
      | some value => .ok (wrapped value)
      | none => .error (.illegalNumber text)
where
  /-- Whether a character may stand beside a number. -/
  isBlank (char : Char) : Bool := char == ' ' || char == '\t' || char == '\n'

/-- A value with the symbols behind it and the variables after it. -/
abbrev Reckoned := Except FormulaError (Int × List Symbol × Variables)

mutual

/-- The value of a formula in front: an assignment or a choice. Nothing is done about a part that
is not active. -/
def reckon : (bound : Nat) → (isActive : Bool) → List Symbol → Variables → Reckoned
  | 0, _, _, _ => .error .noOperand
  | bound + 1, isActive, .name name :: .sign sign :: rest, known =>
    match assignmentSigns.find? fun entry => entry.1 == sign with
    | none => reckonChoice bound isActive (.name name :: .sign sign :: rest) known
    | some (_, operator) => do
      let (value, behind, known) ← reckon bound isActive rest known
      if !isActive then .ok (value, behind, known)
      else
        let result ← (match operator with
          | none => .ok value
          | some operator => do operate operator (← known.valueOf name) value :
            Except FormulaError Int)
        .ok (result, behind, { known with given := (name, result) :: known.given })
  | bound + 1, isActive, rest, known => reckonChoice bound isActive rest known

/-- The value of a choice between two values by a third. -/
def reckonChoice : (bound : Nat) → (isActive : Bool) → List Symbol → Variables → Reckoned
  | 0, _, _, _ => .error .noOperand
  | bound + 1, isActive, rest, known => do
    let (test, behind, known) ← reckonRanks bound isActive operatorRanks rest known
    match behind with
    | .sign "?" :: behind => do
      let (yes, behind, known) ← reckon bound (isActive && test != 0) behind known
      match behind with
      | .sign ":" :: behind => do
        let (no, behind, known) ← reckonChoice bound (isActive && test == 0) behind known
        .ok (if test = 0 then no else yes, behind, known)
      | _ => .error .noChoice
    | behind => .ok (test, behind, known)

/-- The value of what operators of some ranks join. -/
def reckonRanks : (bound : Nat) → (isActive : Bool) → (ranks : List (List String)) →
    List Symbol → Variables → Reckoned
  | 0, _, _, _, _ => .error .noOperand
  | bound + 1, isActive, [], rest, known => reckonOperand bound isActive rest known
  | bound + 1, isActive, rank :: stronger, rest, known => do
    let (first, behind, known) ← reckonRanks bound isActive stronger rest known
    reckonAfter bound isActive rank stronger first behind known

/-- The value of what operators of one rank join behind a first operand. -/
def reckonAfter : (bound : Nat) → (isActive : Bool) → (rank : List String) →
    (stronger : List (List String)) → Int → List Symbol → Variables → Reckoned
  | 0, _, _, _, _, _, _ => .error .noOperand
  | bound + 1, isActive, rank, stronger, first, .sign operator :: rest, known =>
    if rank.contains operator then do
      let decided := (operator = "||" ∧ first ≠ 0) ∨ (operator = "&&" ∧ first = 0)
      let (second, behind, known) ← reckonRanks bound (isActive && !decided) stronger rest known
      let value ← if isActive then operate operator first second else .ok second
      reckonAfter bound isActive rank stronger value behind known
    else .ok (first, .sign operator :: rest, known)
  | _ + 1, _, _, _, first, rest, known => .ok (first, rest, known)

/-- The value of an operand. -/
def reckonOperand : (bound : Nat) → (isActive : Bool) → List Symbol → Variables → Reckoned
  | 0, _, _, _ => .error .noOperand
  | _ + 1, _, .number value :: rest, known => .ok (value, rest, known)
  | _ + 1, isActive, .name name :: rest, known => do
    .ok (← if isActive then known.valueOf name else .ok 0, rest, known)
  | bound + 1, isActive, .sign "(" :: rest, known => do
    let (value, behind, known) ← reckon bound isActive rest known
    match behind with
    | .sign ")" :: behind => .ok (value, behind, known)
    | _ => .error .notClosed
  | bound + 1, isActive, .sign sign :: rest, known =>
    let applied (act : Int → Int) : Reckoned := do
      let (value, behind, known) ← reckonOperand bound isActive rest known
      .ok (wrapped (act value), behind, known)
    match sign with
    | "-" => applied fun value => -value
    | "+" => applied fun value => value
    | "!" => applied fun value => ofBool (value == 0)
    | "~" => applied fun value => -value - 1
    | _ => .error .noOperand
  | _ + 1, _, [], _ => .error .noOperand

end

/-- The value of a formula with the values that it gives to variables, the last one first. -/
def evaluate (textOf : List Char → List Char) (formula : List Char) :
    Except FormulaError (Int × List (List Char × Int)) := do
  let found := symbols formula.length formula
  let (value, behind, known) ← reckon (32 * (formula.length + 1)) true found { textOf := textOf }
  if behind.isEmpty then .ok (value, known.given) else .error .noEnd

end ShapeScene.Script
