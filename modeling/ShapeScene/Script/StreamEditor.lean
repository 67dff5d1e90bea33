import ShapeScene.Script.Lines
import ShapeScene.Script.Pattern

/-!
# The stream editor

An editor reads one line after the other into its space, does the commands of a program with it,
and writes it. The commands are read into a flat list, in which blocks are marked by their ends.
-/

namespace ShapeScene.Script.StreamEditor

/-! ## Programs -/

/-- A place in the input. -/
inductive Address where
  /-- A line by its number. -/
  | line (number : Nat)
  /-- The last line. -/
  | last
  /-- The lines with a pattern in them; none stands for the last pattern that was used. -/
  | pattern (pattern : Option Pattern) (ignoresCase hasLines : Bool)
  /-- Every so many lines from one on. -/
  | every (first step : Nat)
  /-- So many lines further. -/
  | further (count : Nat)
  /-- The next line whose number is a multiple. -/
  | multiple (factor : Nat)
deriving DecidableEq, Repr

/-- The lines for which a command is meant. -/
structure Selection where
  /-- The only address, or the first of two. -/
  first : Option Address := none
  /-- The second address. -/
  second : Option Address := none
  /-- Whether all other lines are meant. -/
  isDenied : Bool := false
deriving DecidableEq, Repr

/-- A change of letters in a replacement. -/
inductive LetterChange where
  /-- All letters that follow. -/
  | all (toUpper : Bool)
  /-- The next letter. -/
  | next (toUpper : Bool)
  /-- No more letters. -/
  | none
deriving DecidableEq, Repr

/-- A part of a replacement. -/
inductive ReplacementPart where
  /-- A text. -/
  | text (chars : List Char)
  /-- A remembered part; zero stands for the whole occurrence. -/
  | group (index : Nat)
  /-- A change of letters. -/
  | change (change : LetterChange)
deriving DecidableEq, Repr

/-- A substitution. -/
structure Substitution where
  /-- The pattern; none stands for the last one that was used. -/
  pattern : Option Pattern
  /-- What takes the place of an occurrence. -/
  replacement : List ReplacementPart
  /-- Whether small and capital letters are the same. -/
  ignoresCase : Bool := false
  /-- Whether the beginnings and ends of lines count. -/
  hasLines : Bool := false
  /-- The first occurrence that is replaced. -/
  number : Nat := 1
  /-- Whether those behind it are replaced, too. -/
  isGlobal : Bool := false
  /-- Whether the line is written then. -/
  prints : Bool := false
  /-- The file to which it is written. -/
  path : Option String := none
deriving DecidableEq, Repr

/-- What a command does. -/
inductive Action where
  /-- It begins a block. -/
  | opening
  /-- It ends a block. -/
  | closing
  /-- It is a place to go to. -/
  | label (name : String)
  /-- It goes to a place, or to the end: always, or after a substitution was made or not. -/
  | jump (after : Option Bool) (name : String)
  /-- It writes the number of the line. -/
  | number
  /-- It writes a text behind the line. -/
  | append (text : List Char)
  /-- It writes a text in front of the line. -/
  | insert (text : List Char)
  /-- It writes a text in the place of lines. -/
  | change (text : List Char)
  /-- It drops the space, or its first line. -/
  | delete (isFirst : Bool)
  /-- It takes what is held into the space, or behind it. -/
  | get (isBehind : Bool)
  /-- It holds the space, or holds it behind what is held. -/
  | hold (isBehind : Bool)
  /-- It changes the space and what is held. -/
  | exchange
  /-- It writes the space so that everything can be seen. -/
  | list
  /-- It goes on with the next line in the space, or behind it. -/
  | next (isBehind : Bool)
  /-- It writes the space, or its first line. -/
  | print (isFirst : Bool)
  /-- It ends the work, perhaps after writing the line. -/
  | quit (isSilent : Bool) (status : Nat)
  /-- It writes a file behind the line. -/
  | readFile (path : String)
  /-- It writes the space, or its first line, to a file. -/
  | writeFile (isFirst : Bool) (path : String)
  /-- It makes a substitution. -/
  | substitute (substitution : Substitution)
  /-- It changes characters one by one. -/
  | replaceLetters (pairs : List (Char × Char))
  /-- It empties the space. -/
  | clear
deriving DecidableEq, Repr

/-- A command. -/
structure Step where
  /-- The lines for which it is meant. -/
  selection : Selection
  /-- What it does. -/
  action : Action
deriving DecidableEq, Repr

/-! ## Reading programs -/

/-- Why a text is no program: the number of characters in front of the place, and a message. -/
structure ProgramError where
  /-- The number of characters behind the place. -/
  left : Nat
  /-- The message. -/
  message : String
deriving DecidableEq, Repr

/-- What reading a part of a program gives. -/
abbrev ProgramRead := Except ProgramError

/-- The error at the place in front of some characters. -/
def errorAt {Part : Type} (rest : List Char) (message : String) : ProgramRead Part :=
  .error ⟨rest.length, message⟩

/-- The characters without blanks in front. -/
def skipBlanks (chars : List Char) : List Char :=
  chars.dropWhile fun char => char = ' ' || char = '\t'

/-- The characters up to a mark that has no backslash in front and stands in no brackets, and those
behind it. A line end behind a backslash stands for itself. -/
def splitMarked (mark : Char) (isPattern : Bool) : (inBracket : Nat) → List Char →
    Option (List Char × List Char)
  | _, [] => none
  | inBracket, '\\' :: char :: rest =>
    if inBracket ≠ 0 then
      (splitMarked mark isPattern 2 (char :: rest)).map fun (text, behind) =>
        ('\\' :: text, behind)
    else
      (splitMarked mark isPattern 0 rest).map fun (text, behind) =>
        if char = mark then (if isPattern && "*.[]^$+?()\x7b\x7d|\\".toList.contains mark then
          ('\\' :: char :: text, behind) else (char :: text, behind))
        else if char = '\n' ∧ isPattern then ('\n' :: text, behind)
        else ('\\' :: char :: text, behind)
  | inBracket, char :: rest =>
    if char = mark ∧ inBracket = 0 then some ([], rest)
    else
      let later :=
        if !isPattern then 0
        else if inBracket = 0 then (if char = '[' then 1 else 0)
        else if inBracket = 1 then (if char = '^' then 1 else 2)
        else if char = ']' then 0
        else 2
      (splitMarked mark isPattern later rest).map fun (text, behind) => (char :: text, behind)

/-- The pattern that a text is in a program; the empty one stands for the last that was used. -/
def readPattern (isExtended : Bool) (rest text : List Char) :
    Except ProgramError (Option Pattern × Nat) :=
  if text.isEmpty then .ok (none, 9)
  else
    match Pattern.read ⟨isExtended, true⟩ (String.ofList text) with
    | .ok (pattern, groups) => .ok (some pattern, groups)
    | .error error => .error ⟨rest.length, error.message⟩

/-- The address in front, if there is one. -/
def readAddress (isExtended isSecond : Bool) (chars : List Char) :
    ProgramRead (Option Address × List Char) :=
  let pattern (mark : Char) (rest : List Char) : ProgramRead (Option Address × List Char) :=
    match splitMarked mark true 0 rest with
    | none => errorAt [] "unterminated address regex"
    | some (text, behind) => do
      let (pattern, _) ← readPattern isExtended behind text
      let flags := behind.takeWhile "IM".toList.contains
      .ok (some (.pattern pattern (flags.contains 'I') (flags.contains 'M')),
        behind.drop flags.length)
  match chars with
  | '$' :: rest => .ok (some .last, rest)
  | '/' :: rest => pattern '/' rest
  | '\\' :: mark :: rest => pattern mark rest
  | sign :: rest =>
    let number (chars : List Char) : Nat × List Char :=
      let (digits, behind) := chars.span Text.isDigit
      (Text.decimalValue digits, behind)
    if Text.isDigit sign then
      let (first, behind) := number (sign :: rest)
      match skipBlanks behind with
      | '~' :: later =>
        let (step, later) := number (skipBlanks later)
        .ok (some (.every first step), later)
      | _ => .ok (some (.line first), behind)
    else if isSecond ∧ sign = '+' then
      let (count, behind) := number rest
      .ok (some (.further count), behind)
    else if isSecond ∧ sign = '~' then
      let (factor, behind) := number rest
      .ok (some (.multiple factor), behind)
    else .ok (none, chars)
  | [] => .ok (none, chars)

/-- The parts of a replacement. -/
def readReplacement : (text : List Char) → List Char → List ReplacementPart
  | text, [] => if text.isEmpty then [] else [.text text.reverse]
  | text, char :: rest =>
    let flushed : List ReplacementPart := if text.isEmpty then [] else [.text text.reverse]
    match char, rest with
    | '&', rest => flushed ++ .group 0 :: readReplacement [] rest
    | '\\', letter :: behind =>
      if Text.isDigit letter then
        flushed ++ .group (Text.digitValue letter) :: readReplacement [] behind
      else
        match letter with
        | 'U' => flushed ++ .change (.all true) :: readReplacement [] behind
        | 'L' => flushed ++ .change (.all false) :: readReplacement [] behind
        | 'u' => flushed ++ .change (.next true) :: readReplacement [] behind
        | 'l' => flushed ++ .change (.next false) :: readReplacement [] behind
        | 'E' => flushed ++ .change .none :: readReplacement [] behind
        | letter => readReplacement ((hardChar? letter).getD letter :: text) behind
    | char, rest => readReplacement (char :: text) rest

/-- The flags of a substitution. -/
def readFlags : (bound : Nat) → Substitution → List Char → ProgramRead (Substitution × List Char)
  | 0, substitution, chars => .ok (substitution, chars)
  | bound + 1, substitution, chars =>
    match chars with
    | 'g' :: rest => readFlags bound { substitution with isGlobal := true } rest
    | 'p' :: rest => readFlags bound { substitution with prints := true } rest
    | 'i' :: rest | 'I' :: rest => readFlags bound { substitution with ignoresCase := true } rest
    | 'm' :: rest | 'M' :: rest => readFlags bound { substitution with hasLines := true } rest
    | 'w' :: rest =>
      let (path, behind) := (skipBlanks rest).span (· ≠ '\n')
      .ok ({ substitution with path := some (String.ofList path) }, behind)
    | char :: rest =>
      if Text.isDigit char then
        let (digits, behind) := (char :: rest).span Text.isDigit
        if Text.decimalValue digits = 0 then
          errorAt behind "number option to \x60s' command may not be zero"
        else readFlags bound { substitution with number := Text.decimalValue digits } behind
      else if char = '\n' ∨ char = ';' ∨ char = '\x7d' ∨ char = '#' ∨ char = ' ' ∨ char = '\t' then
        .ok (substitution, chars)
      else errorAt rest "unknown option to \x60s'"
    | [] => .ok (substitution, [])

/-- The substitution behind its letter. -/
def readSubstitution (isExtended : Bool) (chars : List Char) : ProgramRead (Action × List Char) :=
  let unclosed : ProgramRead (Action × List Char) := errorAt [] "unterminated \x60s' command"
  match chars with
  | [] => unclosed
  | mark :: rest =>
    match splitMarked mark true 0 rest with
    | none => unclosed
    | some (text, behind) =>
      match splitMarked mark false 0 behind with
      | none => unclosed
      | some (replacement, behind) => do
        let parts := readReplacement [] replacement
        let (substitution, left) ←
          readFlags (behind.length + 1) { pattern := none, replacement := parts } behind
        let (pattern, groups) ← readPattern isExtended left text
        let highest := parts.foldl
          (fun highest part => match part with | .group index => max highest index | _ => highest) 0
        if groups < highest then
          errorAt left ("invalid reference \\" ++ toString highest ++ " on \x60s' command's RHS")
        else .ok (.substitute { substitution with pattern := pattern }, left)

/-- The characters of a list of letters, with what backslashes stand for. -/
def plainChars : List Char → List Char
  | '\\' :: char :: rest =>
    match hardChar? char with
    | some hard => hard :: plainChars rest
    | none =>
      if char = '\\' then '\\' :: plainChars rest else '\\' :: char :: plainChars rest
  | char :: rest => char :: plainChars rest
  | [] => []

/-- The two lists of letters behind `y`. -/
def readReplacing (chars : List Char) : ProgramRead (Action × List Char) :=
  match chars with
  | [] => errorAt [] "unterminated \x60y' command"
  | mark :: rest =>
    match splitMarked mark false 0 rest with
    | none => errorAt [] "unterminated \x60y' command"
    | some (first, behind) =>
      match splitMarked mark false 0 behind with
      | none => errorAt [] "unterminated \x60y' command"
      | some (second, behind) =>
        let (before, after) := (plainChars first, plainChars second)
        if before.length = after.length then .ok (.replaceLetters (before.zip after), behind)
        else errorAt behind "strings for \x60y' command are different lengths"

/-- The lines of a text up to one without a backslash at its end. -/
def splitText : List Char → List Char × List Char
  | [] => ([], [])
  | '\\' :: char :: rest =>
    let (text, behind) := splitText rest
    (char :: text, behind)
  | '\n' :: rest => ([], rest)
  | char :: rest =>
    let (text, behind) := splitText rest
    (char :: text, behind)

/-- The text behind a letter: on the next line behind a backslash, or on the same line. -/
def readText (chars : List Char) : ProgramRead (List Char × List Char) :=
  let ended (text : List Char) : List Char := text ++ ['\n']
  match skipBlanks chars with
  | [] => errorAt [] "expected \\ after \x60a', \x60c' or \x60i'"
  | '\\' :: rest =>
    match skipBlanks rest with
    | '\n' :: later =>
      let (text, behind) := splitText later
      .ok (ended text, behind)
    | later =>
      let (text, behind) := splitText later
      .ok (ended text, behind)
  | rest =>
    let (text, behind) := splitText rest
    .ok (ended text, behind)

/-- The name of a place, and what is behind it. -/
def readName (isLabel : Bool) (chars : List Char) : String × List Char :=
  let (name, behind) := (skipBlanks chars).span fun char =>
    char ≠ '\n' && char ≠ ';' && (isLabel || char ≠ '\x7d')
  (String.ofList (name.reverse.dropWhile (fun char => char = ' ')).reverse, behind)

/-- The action of a letter in front. -/
def readAction (isExtended : Bool) (letter : Char) (rest : List Char) :
    ProgramRead (Action × List Char) :=
  let plain (action : Action) : ProgramRead (Action × List Char) := .ok (action, rest)
  let text (make : List Char → Action) : ProgramRead (Action × List Char) := do
    let (text, behind) ← readText rest
    .ok (make text, behind)
  let named (make : String → Action) : ProgramRead (Action × List Char) :=
    let (name, behind) := readName false rest
    .ok (make name, behind)
  let path (make : String → Action) : ProgramRead (Action × List Char) :=
    let (path, behind) := (skipBlanks rest).span (· ≠ '\n')
    if path.isEmpty then errorAt behind "missing filename in r/R/w/W commands"
    else .ok (make (String.ofList path), behind)
  let coded (isSilent : Bool) : ProgramRead (Action × List Char) :=
    let (digits, behind) := (skipBlanks rest).span Text.isDigit
    .ok (.quit isSilent (Text.decimalValue digits % 256), behind)
  match letter with
  | '\x7b' => plain .opening
  | '\x7d' => plain .closing
  | ':' =>
    let (name, behind) := readName true rest
    if name.isEmpty then errorAt behind "\":\" lacks a label" else .ok (.label name, behind)
  | 'b' => named (.jump none)
  | 't' => named (.jump (some true))
  | 'T' => named (.jump (some false))
  | '=' => plain .number
  | 'a' => text .append
  | 'i' => text .insert
  | 'c' => text .change
  | 'd' => plain (.delete false)
  | 'D' => plain (.delete true)
  | 'g' => plain (.get false)
  | 'G' => plain (.get true)
  | 'h' => plain (.hold false)
  | 'H' => plain (.hold true)
  | 'x' => plain .exchange
  | 'l' => .ok (.list, (skipBlanks rest).dropWhile Text.isDigit)
  | 'n' => plain (.next false)
  | 'N' => plain (.next true)
  | 'p' => plain (.print false)
  | 'P' => plain (.print true)
  | 'q' => coded false
  | 'Q' => coded true
  | 'r' => path .readFile
  | 'w' => path (.writeFile false)
  | 'W' => path (.writeFile true)
  | 's' => readSubstitution isExtended rest
  | 'y' => readReplacing rest
  | 'z' => plain .clear
  | letter => errorAt rest ("unknown command: \x60" ++ String.singleton letter ++ "'")

/-- Whether an action takes all characters up to the end of its line. -/
def takesLine : Action → Bool
  | .append _ | .insert _ | .change _ | .readFile _ | .writeFile _ _ => true
  | _ => false

/-- The characters behind the end of a command. -/
def behindEnd (action : Action) (chars : List Char) : ProgramRead (Unit × List Char) :=
  if takesLine action ∨ action = .opening then .ok ((), chars)
  else
    match skipBlanks chars with
    | [] => .ok ((), [])
    | '\n' :: rest | ';' :: rest => .ok ((), rest)
    | '\x7d' :: rest => .ok ((), '\x7d' :: rest)
    | '#' :: rest => .ok ((), '#' :: rest)
    | _ :: rest => errorAt rest "extra characters after command"

/-- The steps of a program in front of some characters; `depth` is the number of open blocks. -/
def readSteps (isExtended : Bool) : (bound : Nat) → (depth : Nat) → List Char →
    Except ProgramError (List Step)
  | 0, _, chars => .error ⟨chars.length, "missing command"⟩
  | bound + 1, depth, chars => do
    let isFiller (char : Char) : Bool :=
      char == ' ' || char == '\t' || char == '\n' || char == ';'
    match chars.dropWhile isFiller with
    | [] => if depth = 0 then .ok [] else .error ⟨chars.length, "unmatched \x60\x7b'"⟩
    | '#' :: rest => readSteps isExtended bound depth (rest.dropWhile (· ≠ '\n'))
    | start => do
      let (first, behind) ← readAddress isExtended false start
      let (second, behind) ←
        match first, skipBlanks behind with
        | some _, ',' :: later => do
          let (second, behind) ← readAddress isExtended true (skipBlanks later)
          if second.isNone then .error ⟨behind.length, "unexpected \x60,'"⟩
          .ok (second, behind)
        | _, _ => .ok (none, behind)
      let isDenied := (skipBlanks behind).head? = some '!'
      let behind := (skipBlanks behind).dropWhile fun char => char = '!' || char = ' '
      match first, second with
      | some (.line 0), some (.pattern _ _ _) => pure ()
      | some (.line 0), _ => .error ⟨behind.length - 1, "invalid usage of line address 0"⟩
      | _, _ => pure ()
      match behind with
      | [] => .error ⟨0, "missing command"⟩
      | letter :: rest => do
        if letter = '#' then .error ⟨rest.length, "comments don't accept any addresses"⟩
        if letter = ':' ∧ first.isSome then .error ⟨rest.length, ": doesn't want any addresses"⟩
        if letter = '\x7d' ∧ depth = 0 then .error ⟨rest.length, "unexpected \x60\x7d'"⟩
        if letter = '\x7d' ∧ first.isSome then
          .error ⟨rest.length, "\x7d doesn't want any addresses"⟩
        let (action, rest) ← readAction isExtended letter rest
        let ((), rest) ← behindEnd action rest
        let inner :=
          if letter = '\x7b' then depth + 1 else if letter = '\x7d' then depth - 1 else depth
        let later ← readSteps isExtended bound inner rest
        .ok (⟨⟨first, second, isDenied⟩, action⟩ :: later)

/-- The program that a text is, or the message about it. -/
def readProgram (isExtended : Bool) (text : String) : Except String (Array Step) :=
  let chars := text.toList
  match readSteps isExtended (chars.length + 2) 0 chars with
  | .ok steps =>
    let labels := steps.filterMap fun step =>
      match step.action with | .label name => some name | _ => none
    let missing := steps.findSome? fun step =>
      match step.action with
      | .jump _ name => if name.isEmpty || labels.contains name then none else some name
      | _ => none
    match missing with
    | some name => .error ("sed: -e expression #1, char " ++ toString chars.length ++
        ": can't find label for jump to \x60" ++ name ++ "'")
    | none => .ok steps.toArray
  | .error error =>
    let place :=
      if error.message = "unmatched \x60\x7b'" then 0 else chars.length - error.left
    .error ("sed: -e expression #1, char " ++ toString place ++ ": " ++ error.message)

/-! ## Editing -/

/-- A line of the input, and whether it has an end. -/
abbrev InputLine := List Char × Bool

/-- What is written behind a line. -/
inductive Waiting where
  /-- A text. -/
  | text (chars : List Char)
  /-- A file. -/
  | file (path : String)
deriving DecidableEq, Repr

/-- Whether the lines of a selection are going on, by the number of the step. -/
inductive RangeState where
  /-- Up to a line. -/
  | upTo (line : Nat)
  /-- Up to a line at the second address. -/
  | open
deriving DecidableEq, Repr

/-- The state of the editor. -/
structure Editing where
  /-- The lines that are still to be read. -/
  rest : List InputLine
  /-- The number of the line. -/
  number : Nat := 0
  /-- The space. -/
  space : List Char := []
  /-- Whether the last line that was read has an end. -/
  hasEnd : Bool := true
  /-- What is held. -/
  held : List Char := []
  /-- What is written behind the line. -/
  waiting : List Waiting := []
  /-- The pieces written, the last one first; each with the path of its file if it has one. -/
  written : List (Option String × List Char) := []
  /-- Whether the last piece on the output is a line without an end. -/
  owesEnd : Bool := false
  /-- Whether a substitution was made. -/
  hasReplaced : Bool := false
  /-- The selections that are going on. -/
  ranges : List (Nat × RangeState) := []
  /-- The last pattern that was used. -/
  lastPattern : Option Pattern := none
  /-- The status, when the work is over. -/
  finished : Option Nat := none
  /-- Whether it works without end. -/
  isStuck : Bool := false

/-- Where the work on a line goes on. -/
inductive Course where
  /-- At the next step. -/
  | onward
  /-- At a step. -/
  | at (index : Nat)
  /-- With the next line, perhaps after the space is written. -/
  | nextLine (writes : Bool)
  /-- With what is left of the space. -/
  | again
deriving DecidableEq, Repr

namespace Editing

/-- The editor after characters were written on the output. -/
def put (editing : Editing) (chars : List Char) : Editing :=
  let owed := if editing.owesEnd then ['\n'] else []
  { editing with written := (none, owed ++ chars) :: editing.written, owesEnd := false }

/-- The editor after a line was written on the output. -/
def putLine (editing : Editing) (line : List Char) : Editing :=
  let after := editing.put (if editing.hasEnd then line ++ ['\n'] else line)
  { after with owesEnd := !editing.hasEnd }

/-- The editor after characters were written to a file. -/
def putFile (editing : Editing) (path : String) (chars : List Char) : Editing :=
  if path = "/dev/stdout" then editing.put chars
  else { editing with written := (some path, chars) :: editing.written }

/-- Whether the line is the last one. -/
def isLast (editing : Editing) : Bool := editing.rest.isEmpty

/-- The editor after what waits was written. -/
def flush (files : FileTree) (editing : Editing) : Editing :=
  let after := editing.waiting.foldl
    (fun (editing : Editing) waiting =>
      match waiting with
      | .text chars => editing.put chars
      | .file path =>
        match files.read path with
        | .ok [] | .error _ => editing
        | .ok content => editing.put (Text.raw content).toList)
    editing
  { after with waiting := [] }

/-- Whether an address is that of the line, and the editor afterwards. -/
def meets (editing : Editing) : Address → Bool × Editing
  | .line number => (editing.number = number, editing)
  | .last => (editing.isLast, editing)
  | .every first step =>
    (if step = 0 then editing.number = first
      else first ≤ editing.number && (editing.number - first) % step == 0, editing)
  | .pattern pattern ignoresCase hasLines =>
    match pattern.orElse fun _ => editing.lastPattern with
    | none => (false, editing)
    | some pattern =>
      (pattern.occursIn ⟨editing.space.toArray, ignoresCase, hasLines⟩,
        { editing with lastPattern := some pattern })
  | .further _ | .multiple _ => (false, editing)

/-- The editor with a selection going on or not. -/
def setRange (editing : Editing) (index : Nat) (state : Option RangeState) : Editing :=
  let others := editing.ranges.filter fun entry => entry.1 != index
  { editing with ranges := (state.map fun state => (index, state)).toList ++ others }

/-- Whether a step is meant for the line, and the editor afterwards. -/
def selects (editing : Editing) (index : Nat) (selection : Selection) : Bool × Editing :=
  let (isIn, after) :=
    match selection.first, selection.second with
    | none, _ => (true, editing)
    | some first, none => editing.meets first
    | some first, some second =>
      let begun := editing.ranges.find? fun entry => entry.1 == index
      let isFromStart := first == .line 0 && editing.number == 1 && begun.isNone
      match begun with
      | some (_, .upTo line) =>
        if editing.number < line then (true, editing)
        else (editing.number = line, editing.setRange index none)
      | some (_, .open) =>
        let (isEnd, editing) := editing.meets second
        (true, if isEnd then editing.setRange index none else editing)
      | none =>
        if isFromStart then
          let (isEnd, editing) := editing.meets second
          (true, if isEnd then editing else editing.setRange index (some .open))
        else
          let (isStart, editing) := editing.meets first
          if !isStart then (false, editing)
          else
            let upTo (line : Nat) : Editing :=
              if line ≤ editing.number then editing
              else editing.setRange index (some (.upTo line))
            match second with
            | .line number => (true, upTo number)
            | .further count => (true, upTo (editing.number + count))
            | .multiple factor =>
              (true, if factor = 0 then editing
                else upTo ((editing.number + factor - 1) / factor * factor))
            | .last => (true, if editing.isLast then editing
                else editing.setRange index (some .open))
            | _ => (true, editing.setRange index (some .open))
  (isIn != selection.isDenied, after)

end Editing

/-! ## Substitutions -/

/-- Characters with a change of letters: one for all and one for the next. -/
def changeLetters (all next : Option Bool) (chars : List Char) : List Char :=
  let change (toUpper : Option Bool) (char : Char) : Char :=
    match toUpper with
    | some true => char.toUpper
    | some false => char.toLower
    | none => char
  match chars with
  | [] => []
  | first :: rest =>
    change (next.orElse fun _ => all) first :: rest.map (change all)

/-- The text that takes the place of an occurrence. -/
def replaced (subject : Subject) (occurrence : Occurrence) : (all next : Option Bool) →
    List ReplacementPart → List Char
  | _, _, [] => []
  | all, next, part :: parts =>
    let put (chars : List Char) : List Char :=
      changeLetters all next chars ++
        replaced subject occurrence all (if chars.isEmpty then next else none) parts
    match part with
    | .text chars => put chars
    | .group 0 => put (subject.between occurrence.start occurrence.finish)
    | .group index =>
      match occurrence.groups.find? fun entry => entry.1 == index with
      | some (_, start, finish) => put (subject.between start finish)
      | none => put []
    | .change (.all toUpper) => replaced subject occurrence (some toUpper) none parts
    | .change (.next toUpper) => replaced subject occurrence all (some toUpper) parts
    | .change .none => replaced subject occurrence none none parts

/-- The text behind a place with occurrences replaced, and whether there was one. `number` is the
number of the next occurrence, and `before` the end of the last one. -/
def substituteFrom (substitution : Substitution) (pattern : Pattern) (subject : Subject) :
    (bound : Nat) → (number : Nat) → (before : Option Nat) → (place : Nat) → List Char × Bool
  | 0, _, _, place => (subject.between place subject.chars.size, false)
  | bound + 1, number, before, place =>
    let rest : List Char × Bool := (subject.between place subject.chars.size, false)
    if subject.chars.size < place then ([], false)
    else
      match pattern.occurrence? subject place with
      | none => rest
      | some occurrence =>
        let lead := subject.between place occurrence.start
        let isEmpty := occurrence.start = occurrence.finish
        let further (number : Nat) (text : List Char) (isReplaced : Bool) : List Char × Bool :=
          let passed := if isEmpty then
            subject.between occurrence.finish (occurrence.finish + 1) else []
          let (later, found) :=
            substituteFrom substitution pattern subject bound number (some occurrence.finish)
              (if isEmpty then occurrence.finish + 1 else occurrence.finish)
          (lead ++ text ++ passed ++ later, isReplaced || found)
        if isEmpty && before = some occurrence.start then further number [] false
        else if number < substitution.number then
          further (number + 1) (subject.between occurrence.start occurrence.finish) false
        else
          let text := replaced subject occurrence none none substitution.replacement
          if substitution.isGlobal then further (number + 1) text true
          else
            (lead ++ text ++ subject.between occurrence.finish subject.chars.size, true)

/-! ## Steps -/

/-- The characters up to the first end of a line. -/
def firstLine (chars : List Char) : List Char := chars.takeWhile (· ≠ '\n')

/-- Characters so that everything can be seen. -/
def visible (chars : List Char) : List String :=
  chars.map fun char =>
    match char with
    | '\\' => "\\\\"
    | '\x07' => "\\a"
    | '\x08' => "\\b"
    | '\x0c' => "\\f"
    | '\n' => "\\n"
    | '\r' => "\\r"
    | '\t' => "\\t"
    | '\x0b' => "\\v"
    | char =>
      if ' ' ≤ char ∧ char ≤ '~' then String.singleton char
      else
        let code := char.toNat
        String.ofList ['\\', Char.ofNat (48 + code / 64), Char.ofNat (48 + code / 8 % 8),
          Char.ofNat (48 + code % 8)]

/-- Visible characters on lines of at most 69 of them. -/
def wrappedLines (shown : List String) : String :=
  let (line, lines) := shown.foldl
    (fun ((line, lines) : String × String) text =>
      if 69 < line.length + text.length then (text, lines ++ line ++ "\\\n")
      else (line ++ text, lines))
    ("", "")
  lines ++ line ++ "$\n"

/-- The step behind the end of the block that a step begins. -/
def behindBlock (steps : Array Step) : (bound : Nat) → (depth index : Nat) → Nat
  | 0, _, index => index
  | bound + 1, depth, index =>
    match (steps[index]?).map Step.action with
    | none => index
    | some .opening => behindBlock steps bound (depth + 1) (index + 1)
    | some .closing =>
      if depth ≤ 1 then index + 1 else behindBlock steps bound (depth - 1) (index + 1)
    | some _ => behindBlock steps bound depth (index + 1)

/-- The place of a label; the empty name stands for the end. -/
def labelIndex (steps : Array Step) (name : String) : Nat :=
  if name.isEmpty then steps.size
  else (steps.findIdx? fun step => step.action == .label name).getD steps.size

namespace Editing

/-- The editor with the next line of the input in the place of the space, or behind it. -/
def advance (editing : Editing) (isBehind : Bool) : Option Editing :=
  match editing.rest with
  | [] => none
  | (line, hasEnd) :: rest =>
    some { editing with
      rest := rest
      number := editing.number + 1
      space := if isBehind then editing.space ++ '\n' :: line else line
      hasEnd := hasEnd }

/-- The editor after an action, and where it goes on. -/
def act (files : FileTree) (isQuiet : Bool) (steps : Array Step) (index : Nat) (editing : Editing) :
    Action → Editing × Course
  | .opening | .closing | .label _ => (editing, .onward)
  | .jump none name => (editing, .at (labelIndex steps name))
  | .jump (some after) name =>
    let jumps := editing.hasReplaced == after
    let settled := { editing with hasReplaced := false }
    (settled, if jumps then .at (labelIndex steps name) else .onward)
  | .number => (editing.put (toString editing.number ++ "\n").toList, .onward)
  | .append text => ({ editing with waiting := editing.waiting ++ [.text text] }, .onward)
  | .insert text => (editing.put text, .onward)
  | .change text =>
    let isOpen := editing.ranges.any fun entry => entry.1 == index
    let isDenied := ((steps[index]?).map fun step => step.selection.isDenied).getD false
    (if isOpen && !isDenied then editing else editing.put text, .nextLine false)
  | .delete isFirst =>
    if isFirst && editing.space.contains '\n' then
      ({ editing with space := (editing.space.dropWhile (· ≠ '\n')).tail }, .again)
    else (editing, .nextLine false)
  | .get isBehind =>
    ({ editing with
        space := if isBehind then editing.space ++ '\n' :: editing.held else editing.held },
      .onward)
  | .hold isBehind =>
    ({ editing with
        held := if isBehind then editing.held ++ '\n' :: editing.space else editing.space },
      .onward)
  | .exchange => ({ editing with space := editing.held, held := editing.space }, .onward)
  | .list => (editing.put (wrappedLines (visible editing.space)).toList, .onward)
  | .next isBehind =>
    let shown := if isBehind || isQuiet then editing else editing.putLine editing.space
    match (shown.flush files).advance isBehind with
    | some advanced => (advanced, .onward)
    | none =>
      let last := if isQuiet then editing else editing.putLine editing.space
      ({ last with finished := some 0 }, .nextLine false)
  | .print isFirst =>
    (if isFirst then editing.put (firstLine editing.space ++ ['\n'])
      else editing.putLine editing.space, .onward)
  | .quit isSilent status =>
    ({ editing with finished := some status }, .nextLine (!isSilent))
  | .readFile path => ({ editing with waiting := editing.waiting ++ [.file path] }, .onward)
  | .writeFile isFirst path =>
    let line := if isFirst then firstLine editing.space else editing.space
    (editing.putFile path (line ++ ['\n']), .onward)
  | .substitute substitution =>
    match substitution.pattern.orElse fun _ => editing.lastPattern with
    | none => (editing, .onward)
    | some pattern =>
      let subject : Subject :=
        ⟨editing.space.toArray, substitution.ignoresCase, substitution.hasLines⟩
      let (text, isReplaced) :=
        substituteFrom substitution pattern subject (editing.space.length + 2) 1 none 0
      let settled := { editing with lastPattern := some pattern }
      if !isReplaced then (settled, .onward)
      else
        let changed := { settled with space := text, hasReplaced := true }
        let printed := if substitution.prints then changed.putLine text else changed
        (substitution.path.elim printed fun path => printed.putFile path (text ++ ['\n']), .onward)
  | .replaceLetters pairs =>
    let replaced := editing.space.map fun char =>
      ((pairs.find? fun pair => pair.1 == char).map (·.2)).getD char
    ({ editing with space := replaced }, .onward)
  | .clear => ({ editing with space := [] }, .onward)

/-- The editor after the steps from one on, and where it goes on. -/
def runSteps (files : FileTree) (isQuiet : Bool) (steps : Array Step) : (bound : Nat) →
    (index : Nat) → Editing → Editing × Course
  | 0, _, editing => ({ editing with isStuck := true, finished := some 0 }, .nextLine false)
  | bound + 1, index, editing =>
    match steps[index]? with
    | none => (editing, .nextLine true)
    | some step =>
      let (isMeant, editing) := editing.selects index step.selection
      if !isMeant then
        let next :=
          if step.action = .opening then behindBlock steps (steps.size + 1) 0 index
          else index + 1
        runSteps files isQuiet steps bound next editing
      else
        match editing.act files isQuiet steps index step.action with
        | (after, .onward) => runSteps files isQuiet steps bound (index + 1) after
        | (after, .at place) => runSteps files isQuiet steps bound place after
        | (after, course) => (after, course)

/-- The greatest number of steps for a line. -/
def greatestSteps : Nat := 100000

/-- The editor after all lines. -/
def runLines (files : FileTree) (isQuiet : Bool) (steps : Array Step) : (bound : Nat) →
    (isAgain : Bool) → Editing → Editing
  | 0, _, editing => editing
  | bound + 1, isAgain, editing =>
    if editing.finished.isSome then editing
    else
      let begun := if isAgain then some editing else editing.advance false
      match begun with
      | none => editing
      | some ready =>
        let (ran, course) := ready.runSteps files isQuiet steps greatestSteps 0
        match course with
        | .again => runLines files isQuiet steps bound true (ran.flush files)
        | .nextLine writes =>
          let shown := if writes && !isQuiet then ran.putLine ran.space else ran
          runLines files isQuiet steps bound false
            { shown.flush files with hasReplaced := false }
        | _ => runLines files isQuiet steps bound false (ran.flush files)

end Editing

/-! ## The tool -/

/-- The lines of some bytes, each with whether it has an end. -/
def inputLines (content : List UInt8) : List InputLine :=
  (linesOf content).map fun line =>
    ((Text.raw (bareLine line)).toList, line.getLast? = some 10)

/-- The editor after its work on lines. -/
def edit (files : FileTree) (isQuiet : Bool) (steps : Array Step) (lines : List InputLine) :
    Editing :=
  Editing.runLines files isQuiet steps (8 * lines.length + greatestRestarts) false
    { rest := lines }
where
  /-- The number of times that work goes on with what is left of the space. -/
  greatestRestarts : Nat := 10000

/-- What the editor wrote to a file, or on the output. -/
def Editing.outputOf (editing : Editing) (path : Option String) : List UInt8 :=
  Text.rawBytes (String.ofList
    ((editing.written.reverse.filter fun piece => piece.1 == path).flatMap (·.2)))

/-- The paths to which steps write. -/
def writtenPaths (steps : Array Step) : List String :=
  (steps.toList.filterMap fun step =>
    match step.action with
    | .writeFile _ path => some path
    | .substitute substitution => substitution.path
    | _ => none).filter fun path => path != "/dev/stdout"

/-- The deed after the files of an editor were written. -/
def writeAll (steps : Array Step) (editing : Editing) (deed : Deed) : Deed :=
  (writtenPaths steps).eraseDups.foldl
    (fun deed path =>
      match deed.write path (editing.outputOf (some path)) with
      | .ok written => written
      | .error failure =>
        deed.fail ("sed: couldn't open file " ++ path ++ ": " ++ failure.reason) 4)
    deed

/-- The whole content of paths one after the other, where a line without an end in front of another
file gets one. A path that cannot be read is passed over with a message. -/
def gather : List String → Deed → List UInt8 × Deed
  | [], deed => ([], deed)
  | path :: paths, deed =>
    let (content, deed) := deed.read path
    match content with
    | .ok content =>
      let (later, deed) := gather paths deed
      let isOpen := !content.isEmpty && content.getLast? != some 10 && !later.isEmpty
      (content ++ (if isOpen then [10] else []) ++ later, deed)
    | .error failure =>
      let name := if path = "-" then "stdin" else path
      let message :=
        match failure with
        | .isFolder | .notOpen =>
          if path = "-" then "sed: read error on stdin: " ++ failure.reason
          else "sed: couldn't edit " ++ name ++ ": not a regular file"
        | failure => "sed: can't read " ++ name ++ ": " ++ failure.reason
      let shown :=
        if failure = .isFolder ∧ path ≠ "-" then
          "sed: read error on " ++ name ++ ": " ++ failure.reason
        else message
      gather paths (deed.fail shown (if failure = .notFound then 2 else 4))

/-- The deed of the editor with a program, for paths. -/
def work (bench : Bench) (switches : Switches) (steps : Array Step) (paths : List String) : Deed :=
  let isQuiet := switches.has 'n'
  let settle (editing : Editing) (deed : Deed) : Deed :=
    let done := writeAll steps editing deed
    let ended := { done with status := max done.status (editing.finished.getD 0) }
    if editing.isStuck then ended.stuck else ended
  if switches.has 'i' then
    paths.foldl
      (fun deed path =>
        match deed.bench.files.read path with
        | .error failure =>
          if failure = .isFolder then
            deed.fail ("sed: couldn't edit " ++ path ++ ": not a regular file") 4
          else deed.fail ("sed: can't read " ++ path ++ ": " ++ failure.reason) 2
        | .ok content =>
          let editing := edit deed.bench.files isQuiet steps (inputLines content)
          let unread := editing.rest.flatMap fun line =>
            Text.rawBytes (String.ofList line.1) ++ if line.2 then [10] else []
          let ending := (switches.value? 'i').getD ""
          let kept :=
            if ending.isEmpty then deed
            else (deed.write (path ++ ending) content).toOption.getD deed
          let content := editing.outputOf none ++ if editing.finished.isSome then unread else []
          settle editing ((kept.write path content).toOption.getD kept))
      (.idle bench 0)
  else
    let (content, deed) := gather (if paths.isEmpty then ["-"] else paths) (.idle bench 0)
    let editing := edit bench.files isQuiet steps (inputLines content)
    settle editing (deed.say (editing.outputOf none))

/-- The editor as a tool. -/
def tool (bench : Bench) (arguments : List String) : Deed :=
  let usage : Usage :=
    { tool := "sed", flags := "nErsuz", valued := "efl", attached := "i",
      long := [("--quiet", 'n'), ("--silent", 'n'), ("--expression", 'e'), ("--file", 'f'),
        ("--regexp-extended", 'E'), ("--in-place", 'i'), ("--separate", 's'),
        ("--unbuffered", 'u'), ("--null-data", 'z')] }
  usage.with bench arguments fun switches =>
    let isProgram (option : Char × String) : Bool := option.1 == 'e' || option.1 == 'f'
    let textOf (option : Char × String) : Except String String :=
      if option.1 = 'e' then .ok option.2
      else
        match bench.files.read option.2 with
        | .ok content => .ok (Text.raw (if content.getLast? = some 10 then content.dropLast
            else content))
        | .error failure =>
          .error ("sed: couldn't open file " ++ option.2 ++ ": " ++ failure.reason)
    let given := (switches.options.filter isProgram).mapM textOf
    match given, switches.operands with
    | .error message, _ => .refused bench message
    | .ok [], [] => .refused bench usageText
    | .ok texts, operands =>
      let (text, paths) :=
        match texts, operands with
        | [], text :: paths => (text, paths)
        | texts, paths => (Text.joinWith "\n" texts, paths)
      let isQuiet := "#n\n".toList.isPrefixOf text.toList || text = "#n"
      match readProgram (switches.has 'E' || switches.has 'r') text with
      | .error message => .refused bench message
      | .ok steps =>
        work bench (if isQuiet then switches.add 'n' "" else switches) steps paths
where
  /-- What is said when there is no program. -/
  usageText : String :=
    "Usage: sed [OPTION]... \x7bscript-only-if-no-other-script\x7d [input-file]..."

end ShapeScene.Script.StreamEditor
