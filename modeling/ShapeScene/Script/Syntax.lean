import ShapeScene.Text.Character

/-!
# Shell scripts

A script is a command, and larger commands are made of smaller ones: one after the other, one on
the success of another, one reading what another writes, or one over and over. Words are made of
literal text and of parts that get their text when the script runs.
-/

namespace ShapeScene.Script

/-- What a word does beside a parameter. -/
inductive Remedy where
  /-- It stands for a value that is missing. -/
  | replace
  /-- It becomes the value of a parameter that has none. -/
  | assign
  /-- It is the message with which the script ends when there is no value. -/
  | complain
  /-- It stands for a value that is there. -/
  | swap
deriving DecidableEq, Repr

/-- What is made of the value of a parameter. Words are kept as they stand in the script. -/
inductive Treatment where
  /-- Nothing. -/
  | asIs
  /-- Its length. -/
  | length
  /-- A remedy, for which an empty value may count as missing. -/
  | remedy (remedy : Remedy) (countsEmpty : Bool) (word : List Char)
  /-- The value without its front or back of some form, the shortest or the longest. -/
  | trim (atBack : Bool) (isLongest : Bool) (form : List Char)
  /-- Nothing that makes sense. -/
  | bad
deriving DecidableEq, Repr

/-- What stands behind a dollar sign. -/
inductive Expansion where
  /-- The value of a parameter. -/
  | parameter (name : List Char) (treatment : Treatment)
  /-- What a script writes that begins on some line, or whose lines are counted from one. -/
  | output (line : Option Nat) (script : List Char)
  /-- The value of a formula. -/
  | formula (formula : List Char)
deriving DecidableEq, Repr

/-- A piece of a word. What is quoted is never divided into several words. -/
inductive Piece where
  /-- Text that stands for itself. -/
  | text (chars : List Char) (quoted : Bool)
  /-- Text that is found when the script runs. -/
  | expansion (expansion : Expansion) (quoted : Bool)
deriving DecidableEq, Repr

/-- A word: its pieces in order. -/
abbrev Word := List Piece

/-- Where a redirection leads. -/
inductive Target where
  /-- From a file. -/
  | input
  /-- Into a file in the place of what it holds. -/
  | output
  /-- Into a file that must not be there if the script wants so. -/
  | freshOutput
  /-- Into a file behind what it holds. -/
  | append
  /-- From a file and into it. -/
  | both
  /-- To where another stream goes. -/
  | copy
  /-- From a text in the script. -/
  | document
deriving DecidableEq, Repr

/-- A redirection of a stream. The word is a path, the number of a stream, or a text. -/
structure Redirection where
  /-- The stream. -/
  stream : Nat
  /-- Where it leads. -/
  target : Target
  /-- What names the target. -/
  word : Word
deriving DecidableEq, Repr

/-- What makes a text no script. -/
inductive SyntaxError where
  /-- A quote is not closed before the end. -/
  | openQuote (line : Nat)
  /-- A brace is not closed before the end. -/
  | openBrace (line : Nat)
  /-- A backquote is not closed before the end. -/
  | openBackquote (line : Nat)
  /-- A formula is not closed before the end. -/
  | openFormula (line : Nat)
  /-- A token stands where another one is needed. -/
  | unexpected (line : Nat) (token : String) (expected : Option String)
  /-- A redirection leads to no stream. -/
  | badStream (line : Nat)
  /-- A loop is to give values to something that is no variable. -/
  | badVariable (line : Nat)
  /-- A function is to have a name that is none. -/
  | badName (line : Nat)
deriving DecidableEq, Repr

namespace SyntaxError

/-- The line on which the error is noticed. -/
def line : SyntaxError → Nat
  | openQuote line | openBrace line | openBackquote line | openFormula line | badStream line
  | badVariable line | badName line => line
  | unexpected line _ _ => line

/-- The wording of an error. -/
def message : SyntaxError → String
  | openQuote _ => "Syntax error: Unterminated quoted string"
  | openBrace _ => "Syntax error: Missing '\x7d'"
  | openBackquote _ => "Syntax error: EOF in backquote substitution"
  | openFormula _ => "Syntax error: Missing '))'"
  | unexpected _ token none => "Syntax error: " ++ token ++ " unexpected"
  | unexpected _ token (some expected) =>
    "Syntax error: " ++ token ++ " unexpected (expecting " ++ expected ++ ")"
  | badStream _ => "Syntax error: Bad fd number"
  | badVariable _ => "Syntax error: Bad for loop variable"
  | badName _ => "Syntax error: Bad function name"

end SyntaxError

/-- A command. -/
inductive Command where
  /-- Nothing to do. -/
  | nothing
  /-- A program or a function with its arguments, and variables that get values before it runs. -/
  | simple (line : Nat) (assignments : List (List Char × Word)) (words : List Word)
      (redirections : List Redirection)
  /-- Two commands, the second of which reads what the first writes. -/
  | pipe (first second : Command)
  /-- Two commands, one after the other. -/
  | sequence (first second : Command)
  /-- A command that runs on the success of another. -/
  | both (first second : Command)
  /-- A command that runs on the failure of another. -/
  | either (first second : Command)
  /-- A command that fails when it succeeds. -/
  | negation (command : Command)
  /-- A command with other streams. -/
  | redirected (line : Nat) (command : Command) (redirections : List Redirection)
  /-- A command whose variables are its own. -/
  | subshell (command : Command)
  /-- A command that is not waited for. -/
  | background (command : Command)
  /-- A choice between two commands by the success of a third. -/
  | branch (test yes no : Command)
  /-- A command repeated while a test succeeds, or until it does. -/
  | loop (untilSuccess : Bool) (test body : Command)
  /-- A command repeated for each of some words, or of the arguments. -/
  | each (line : Nat) (name : List Char) (values : Option (List Word)) (body : Command)
  /-- A command for a word with one of some forms, or else another one. -/
  | choice (line : Nat) (subject : Word) (forms : List Word) (body next : Command)
  /-- The definition of a function. -/
  | definition (name : List Char) (body : Command)
  /-- The place at which the text is no script. -/
  | broken (error : SyntaxError)
deriving DecidableEq, Repr

/-- Whether a character can begin the name of a variable. -/
def isNameStart (char : Char) : Bool :=
  ('a' ≤ char && char ≤ 'z') || ('A' ≤ char && char ≤ 'Z') || char == '_'

/-- Whether a character can be part of the name of a variable. -/
def isNameChar (char : Char) : Bool := isNameStart char || Text.isDigit char

/-- Whether characters are the name of a variable. -/
def isName : List Char → Bool
  | [] => false
  | char :: rest => isNameStart char && rest.all isNameChar

/-- The text of a word without what its expansions would give. -/
def Word.literal (word : Word) : List Char :=
  word.flatMap fun piece =>
    match piece with
    | .text chars _ => chars
    | .expansion _ _ => []

/-- Whether a part of a word is quoted. -/
def Word.hasQuotes (word : Word) : Bool :=
  word.any fun piece =>
    match piece with
    | .text _ quoted | .expansion _ quoted => quoted

/-- A word with a character behind it. -/
def Word.push (word : Word) (char : Char) (quoted : Bool) : Word :=
  match word.reverse with
  | .text chars sameQuotes :: before =>
    if sameQuotes = quoted then (Piece.text (chars ++ [char]) quoted :: before).reverse
    else word ++ [.text [char] quoted]
  | _ => word ++ [.text [char] quoted]

/-- The text of a word without quotes and expansions. -/
def Word.plain? : Word → Option (List Char)
  | [.text chars false] => some chars
  | _ => none

end ShapeScene.Script
