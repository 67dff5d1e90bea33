import ShapeScene.Script.Formula
import ShapeScene.Storage.FileTree

/-!
# Conditions

A condition is a list of words: texts compared, numbers compared, or files looked for, joined by
"not", "and" and "or".
-/

namespace ShapeScene.Script

/-- What a condition comes to, or why it is none. -/
abbrev Verdict := Except String Bool

/-- Whether a file or a text has a property; none if the property has no such name. -/
def property? (files : FileTree) (name operand : String) : Option Bool :=
  let isFolder := files.isFolder operand
  let content? := files.file? operand
  let isDevice := match files.entry? operand with | some (.device _) => true | _ => false
  let isThere := content?.isSome || isFolder || isDevice
  match name with
  | "-n" => some !operand.isEmpty
  | "-z" => some operand.isEmpty
  | "-f" => some content?.isSome
  | "-d" => some isFolder
  | "-e" | "-r" | "-w" | "-O" | "-G" => some isThere
  | "-s" => some (isFolder || (content?.map fun file => !file.1.isEmpty).getD false)
  | "-x" => some (isFolder || (content?.map (·.2)).getD false)
  | "-L" | "-h" => some (files.linkTarget? operand).isSome
  | "-c" => some isDevice
  | "-p" | "-b" | "-S" | "-t" | "-u" | "-g" | "-k" => some false
  | _ => none

/-- The number that a word of a condition is. -/
def operandNumber (word : String) : Except String Int :=
  let digits := Text.trimChars word.toList
  let unsigned := match digits with | '-' :: rest | '+' :: rest => rest | rest => rest
  let size := Text.decimalValue unsigned
  if unsigned.isEmpty || !unsigned.all Text.isDigit || Nat.pow 2 63 ≤ size then
    .error ("Illegal number: " ++ word)
  else .ok (if digits.head? = some '-' then -size else size)

/-- Whether two words are in a relation; none if the relation has no such name. -/
def relation? (name left right : String) : Option Verdict :=
  let compared (holds : Int → Int → Bool) : Option Verdict :=
    some do .ok (holds (← operandNumber left) (← operandNumber right))
  match name with
  | "=" => some (.ok (left == right))
  | "!=" => some (.ok (left != right))
  | "<" => some (.ok (left < right))
  | ">" => some (.ok (right < left))
  | "-eq" => compared fun left right => left == right
  | "-ne" => compared fun left right => left != right
  | "-lt" => compared fun left right => left < right
  | "-le" => compared fun left right => left ≤ right
  | "-gt" => compared fun left right => right < left
  | "-ge" => compared fun left right => right ≤ left
  | "-nt" | "-ot" => some (.ok false)
  | "-ef" => some (.ok (left == right))
  | _ => none

/-- What a word of a condition is at its place. -/
inductive ConditionToken where
  /-- Nothing: the condition is over. -/
  | finish
  /-- A word that stands for itself. -/
  | operand
  /-- The name of a property. -/
  | property
  /-- The name of a relation. -/
  | relation
  /-- "Not". -/
  | not
  /-- "And". -/
  | and
  /-- "Or". -/
  | or
  /-- A parenthesis that opens. -/
  | opening
  /-- A parenthesis that closes. -/
  | closing
deriving DecidableEq, Repr

/-- Whether a word is the name of a relation. -/
def isRelation (word : String) : Bool := (relation? word "" "").isSome

/-- What the word in front is. The name of a property with nothing behind it, or between two
operands, stands for itself. -/
def conditionToken (files : FileTree) : List String → ConditionToken
  | [] => .finish
  | word :: rest =>
    if isRelation word then .relation
    else if word = "!" then .not
    else if word = "-a" then .and
    else if word = "-o" then .or
    else if word = "(" then if rest.isEmpty then .operand else .opening
    else if word = ")" then .closing
    else if (property? files word "").isSome then
      match rest with
      | [] => .operand
      | [_] => .property
      | second :: _ => if isRelation second then .operand else .property
    else .operand

/-- What a part of a condition comes to, with the words from its last one on. -/
abbrev Judged := Except String (Bool × List String)

mutual

/-- What parts joined by "or" come to. -/
def judgeAny (files : FileTree) : (bound : Nat) → List String → Judged
  | 0, words => .ok (false, words)
  | bound + 1, words => do
    let (first, last) ← judgeAll files bound words
    if conditionToken files last.tail = .or then
      let (later, last) ← judgeAny files bound last.tail.tail
      .ok (first || later, last)
    else .ok (first, last)

/-- What parts joined by "and" come to. -/
def judgeAll (files : FileTree) : (bound : Nat) → List String → Judged
  | 0, words => .ok (false, words)
  | bound + 1, words => do
    let (first, last) ← judgeNot files bound words
    if conditionToken files last.tail = .and then
      let (later, last) ← judgeAll files bound last.tail.tail
      .ok (first && later, last)
    else .ok (first, last)

/-- What a part with "not" in front comes to. -/
def judgeNot (files : FileTree) : (bound : Nat) → List String → Judged
  | 0, words => .ok (false, words)
  | bound + 1, words =>
    if conditionToken files words ≠ .not then judgePrimary files bound words
    else if words.tail.isEmpty then .ok (true, words)
    else do
      let (holds, last) ← judgeNot files bound words.tail
      .ok (!holds, last)

/-- What a single part comes to. -/
def judgePrimary (files : FileTree) : (bound : Nat) → List String → Judged
  | 0, words => .ok (false, words)
  | _ + 1, [] => .ok (false, [])
  | bound + 1, word :: rest =>
    match conditionToken files (word :: rest), rest with
    | .opening, _ =>
      if conditionToken files rest = .closing then .ok (false, rest)
      else do
        let (holds, last) ← judgeAny files bound rest
        if conditionToken files last.tail = .closing then .ok (holds, last.tail)
        else .error "closing paren expected"
    | .property, operand :: _ => .ok ((property? files word operand).getD false, rest)
    | _, second :: behind =>
      if isRelation second then
        match behind with
        | third :: _ => do .ok (← (relation? second word third).getD (.ok false), behind)
        | [] => .error (second ++ ": argument expected")
      else .ok (!word.isEmpty, word :: rest)
    | _, [] => .ok (!word.isEmpty, [word])

end

/-- What all words of a condition come to; `first` is what the beginning is taken for. -/
def judgeWhole (files : FileTree) (words : List String) : Verdict := do
  let (holds, last) ←
    match words with
    | [left, relation, right] =>
      match relation? relation left right with
      | some verdict => verdict.map fun holds => (holds, [right])
      | none => judgeAny files (8 * words.length + 8) words
    | words => judgeAny files (8 * words.length + 8) words
  match last with
  | word :: _ :: _ =>
    .error (if word.isEmpty then "unexpected operator" else word ++ ": unexpected operator")
  | _ => .ok holds

/-- What a condition comes to. Three or four words with "not" in front, or with parentheses around
the others, are the denial of the others, or the others. -/
def judge (files : FileTree) (words : List String) : Verdict :=
  match words with
  | [] => .ok false
  | [left, second, right] =>
    if isRelation second then judgeWhole files words
    else if left = "(" ∧ right = ")" then judgeWhole files [second]
    else if left = "!" then (judgeWhole files [second, right]).map (!·)
    else judgeWhole files words
  | [first, second, third, fourth] =>
    if first = "(" ∧ fourth = ")" then judgeWhole files [second, third]
    else if first = "!" then
      (if !isRelation third ∧ second = "!" then (judgeWhole files [third, fourth]).map (!·)
        else judgeWhole files [second, third, fourth]).map (!·)
    else judgeWhole files words
  | words => judgeWhole files words

end ShapeScene.Script
