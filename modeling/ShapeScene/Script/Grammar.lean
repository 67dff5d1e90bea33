import ShapeScene.Script.Token

/-!
# Reading scripts

The tokens of a script are read line by line. Each line is read as a whole before it can run, so an
error in a later line does not keep the lines before it from running.
-/

namespace ShapeScene.Script

/-- What reading gives: a value or an error. -/
abbrev Attempt := Except SyntaxError

/-- A command and the tokens behind it. -/
abbrev Parsed := Command × List Placed

/-- The words that have a meaning of their own where a command can begin. -/
def keywords : List String :=
  ["if", "then", "elif", "else", "fi", "while", "until", "for", "do", "done", "case", "esac",
    "\x7b", "\x7d", "!", "in"]

/-- The commands of the shell that cannot be defined anew. A script ends when one of them fails,
and the assignments in front of them last. -/
def specials : List String :=
  [":", ".", "break", "continue", "eval", "exec", "exit", "export", "local", "readonly", "return",
    "set", "shift", "times", "trap", "unset"]

/-- The commands of the shell that are not special. -/
def ordinaryBuiltins : List String :=
  ["[", "alias", "bg", "cd", "chdir", "command", "echo", "false", "fg", "getopts", "hash", "jobs",
    "kill", "printf", "pwd", "read", "test", "true", "type", "ulimit", "umask", "unalias",
    "wait"]

/-- Whether a name is that of a command of the shell. -/
def isBuiltin (name : String) : Bool :=
  specials.contains name || ordinaryBuiltins.contains name

/-- The words that end a list of commands. -/
def closers : List String := ["then", "elif", "else", "fi", "do", "done", "esac", "\x7d"]

/-- The text of the word in front, if it has no quotes and expansions. -/
def plainFront? : List Placed → Option String
  | ⟨.word word, _⟩ :: _ => word.plain?.map String.ofList
  | _ => none

/-- The token in front as an error message shows it. -/
def shownFront (tokens : List Placed) : String :=
  match plainFront? tokens, tokens with
  | some text, _ => if keywords.contains text then "\"" ++ text ++ "\"" else "word"
  | none, placed :: _ => placed.token.shown
  | none, [] => Token.finish.shown

/-- The line of the token in front. -/
def lineFront (tokens : List Placed) : Nat := (tokens.head?.map (·.line)).getD 0

/-- The error that the token in front should not be there. -/
def unexpected (tokens : List Placed) (expected : Option String) : SyntaxError :=
  match tokens with
  | ⟨.broken error, _⟩ :: _ => error
  | ⟨_, line⟩ :: _ => .unexpected line (shownFront tokens) expected
  | [] => .unexpected 0 (shownFront []) expected

/-- Whether the token in front is an operator. -/
def isOperator (symbol : String) : List Placed → Bool
  | ⟨.operator found, _⟩ :: _ => found == symbol
  | _ => false

/-- The tokens behind ends of lines. -/
def skipNewlines (tokens : List Placed) : List Placed :=
  tokens.dropWhile fun placed => placed.token == .newline

/-- The tokens behind a keyword that must stand in front. -/
def behindKeyword (keyword : String) (tokens : List Placed) : Attempt (List Placed) :=
  if plainFront? tokens = some keyword then .ok tokens.tail
  else .error (unexpected tokens (some ("\"" ++ keyword ++ "\"")))

/-- The tokens behind an operator that must stand in front. -/
def behindOperator (symbol : String) (tokens : List Placed) : Attempt (List Placed) :=
  if isOperator symbol tokens then .ok tokens.tail
  else .error (unexpected tokens (some ("\"" ++ symbol ++ "\"")))

/-- The tokens behind a closing parenthesis that must stand in front, where words mean nothing. -/
def behindParenthesis (tokens : List Placed) : Attempt (List Placed) :=
  match tokens with
  | ⟨.word _, line⟩ :: _ => .error (.unexpected line "word" (some "\")\""))
  | tokens => behindOperator ")" tokens

/-- Whether no command can begin with the token in front, so that a list of commands ends. -/
def endsList (tokens : List Placed) : Bool :=
  isOperator ")" tokens || isOperator ";;" tokens || (plainFront? tokens).any closers.contains ||
    tokens.head?.all fun placed => placed.token == .finish

/-- A word as an assignment: the name of the variable and its value. -/
def assignment? : Word → Option (List Char × Word)
  | .text chars false :: pieces =>
    match Text.splitFirst (· = '=') chars with
    | some (name, value) =>
      if isName name then
        some (name, if value.isEmpty then pieces else .text value false :: pieces)
      else none
    | none => none
  | _ => none

/-- The redirections in front. -/
def readRedirections : List Placed → Attempt (List Redirection × List Placed)
  | ⟨.redirection redirection, _⟩ :: rest => do
    let (others, behind) ← readRedirections rest
    .ok (redirection :: others, behind)
  | ⟨.redirect stream target, _⟩ :: ⟨.word word, _⟩ :: rest => do
    let (others, behind) ← readRedirections rest
    .ok (⟨stream, target, word⟩ :: others, behind)
  | ⟨.redirect _ _, _⟩ :: rest => .error (unexpected rest none)
  | tokens => .ok ([], tokens)

/-- The words and redirections of a simple command, behind those read so far. -/
def readSimple (line : Nat) : (assignments : List (List Char × Word)) → (words : List Word) →
    (redirections : List Redirection) → List Placed → Attempt Parsed
  | assignments, words, redirections, ⟨.word word, _⟩ :: rest =>
    match assignment? word with
    | some assignment =>
      if words.isEmpty then
        readSimple line (assignments ++ [assignment]) words redirections rest
      else readSimple line assignments (words ++ [word]) redirections rest
    | none => readSimple line assignments (words ++ [word]) redirections rest
  | assignments, words, redirections, ⟨.redirection redirection, _⟩ :: rest =>
    readSimple line assignments words (redirections ++ [redirection]) rest
  | assignments, words, redirections, ⟨.redirect stream target, _⟩ :: ⟨.word word, _⟩ :: rest =>
    readSimple line assignments words (redirections ++ [⟨stream, target, word⟩]) rest
  | _, _, _, ⟨.redirect _ _, _⟩ :: rest => .error (unexpected rest none)
  | assignments, words, redirections, tokens =>
    if assignments.isEmpty && words.isEmpty && redirections.isEmpty then
      .error (unexpected tokens none)
    else
      match tokens with
      | ⟨.broken error, _⟩ :: _ => .error error
      | _ => .ok (.simple line assignments words redirections, tokens)

/-- The words in front. -/
def readWords : List Placed → List Word × List Placed
  | ⟨.word word, _⟩ :: rest =>
    let (words, behind) := readWords rest
    (word :: words, behind)
  | tokens => ([], tokens)

/-- The forms of a choice with bars between them, and the tokens behind the parenthesis after
them. Any token can stand for a form as long as there is such a parenthesis. -/
def readForms : List Placed → Attempt (List Word × List Placed)
  | placed :: ⟨.operator "|", _⟩ :: rest => do
    let (others, behind) ← readForms rest
    .ok (placed.token.form :: others, behind)
  | placed :: rest => do
    if let .broken error := placed.token then .error error
    let behind ← behindParenthesis (if placed.token = .finish then [placed] else rest)
    .ok ([placed.token.form], behind)
  | [] => .error (unexpected [] none)

/-- The error of a reader that ran out of its bound. -/
def exhausted (tokens : List Placed) : SyntaxError := unexpected tokens none

mutual

/-- Commands up to a token with which none can begin. -/
def readList : (bound : Nat) → List Placed → Attempt Parsed
  | 0, tokens => .error (exhausted tokens)
  | bound + 1, tokens =>
    if endsList (skipNewlines tokens) then .ok (.nothing, skipNewlines tokens)
    else do
      let (first, behind) ← readChain bound (skipNewlines tokens)
      match behind with
      | ⟨.newline, _⟩ :: rest | ⟨.operator ";", _⟩ :: rest => do
        let (later, behind) ← readList bound rest
        .ok (.sequence first later, behind)
      | ⟨.operator "&", _⟩ :: rest => do
        let (later, behind) ← readList bound rest
        .ok (.sequence (.background first) later, behind)
      | behind => .ok (first, behind)

/-- Commands up to a token with which none can begin, at least one before the end. -/
def readBody : (bound : Nat) → List Placed → Attempt Parsed
  | 0, tokens => .error (exhausted tokens)
  | bound + 1, tokens =>
    let behind := skipNewlines tokens
    if endsList behind && !behind.all (·.token == .finish) then .error (unexpected behind none)
    else readList bound tokens

/-- Pipelines joined by their success and failure. -/
def readChain : (bound : Nat) → List Placed → Attempt Parsed
  | 0, tokens => .error (exhausted tokens)
  | bound + 1, tokens => do
    let (first, behind) ← readPipeline bound tokens
    readChainAfter bound first behind

/-- The rest of a chain behind its beginning. -/
def readChainAfter : (bound : Nat) → Command → List Placed → Attempt Parsed
  | 0, _, tokens => .error (exhausted tokens)
  | bound + 1, first, tokens =>
    match tokens with
    | ⟨.operator "&&", _⟩ :: rest => do
      let (second, behind) ← readPipeline bound (skipNewlines rest)
      readChainAfter bound (.both first second) behind
    | ⟨.operator "||", _⟩ :: rest => do
      let (second, behind) ← readPipeline bound (skipNewlines rest)
      readChainAfter bound (.either first second) behind
    | tokens => .ok (first, tokens)

/-- Commands of which each reads what the one before it writes. -/
def readPipeline : (bound : Nat) → List Placed → Attempt Parsed
  | 0, tokens => .error (exhausted tokens)
  | bound + 1, tokens =>
    let isNegated := plainFront? tokens = some "!"
    do
      let (first, behind) ← readCommand bound (if isNegated then tokens.tail else tokens)
      let (command, behind) ← readPipelineAfter bound first behind
      .ok (if isNegated then .negation command else command, behind)

/-- The rest of a pipeline behind its beginning. -/
def readPipelineAfter : (bound : Nat) → Command → List Placed → Attempt Parsed
  | 0, _, tokens => .error (exhausted tokens)
  | bound + 1, first, tokens =>
    match tokens with
    | ⟨.operator "|", _⟩ :: rest => do
      let (second, behind) ← readCommand bound (skipNewlines rest)
      readPipelineAfter bound (.pipe first second) behind
    | tokens => .ok (first, tokens)

/-- A command with its redirections. -/
def readCommand : (bound : Nat) → List Placed → Attempt Parsed
  | 0, tokens => .error (exhausted tokens)
  | bound + 1, tokens =>
    let line := lineFront tokens
    if isOperator "(" tokens || (plainFront? tokens).any keywords.contains then do
      let (command, behind) ← readCompound bound tokens
      let (redirections, behind) ← readRedirections behind
      .ok (if redirections.isEmpty then command else .redirected line command redirections, behind)
    else
      match tokens with
      | ⟨.word name, _⟩ :: ⟨.operator "(", _⟩ :: rest =>
        if (assignment? name).isSome then readSimple line [] [] [] tokens else do
        let behind ← behindParenthesis rest
        match name.plain? with
        | some chars =>
          if !isName chars || specials.contains (String.ofList chars) then
            .error (.badName (lineFront tokens))
          else do
            let (body, behind) ← readCommand bound (skipNewlines behind)
            .ok (.definition chars body, behind)
        | none => .error (.badName (lineFront tokens))
      | tokens => readSimple line [] [] [] tokens

/-- A command that begins with a keyword or a parenthesis. -/
def readCompound : (bound : Nat) → List Placed → Attempt Parsed
  | 0, tokens => .error (exhausted tokens)
  | bound + 1, tokens =>
    if isOperator "(" tokens then do
      let (body, behind) ← readBody bound tokens.tail
      .ok (.subshell body, ← behindOperator ")" behind)
    else
      match plainFront? tokens with
      | some "\x7b" => do
        let (body, behind) ← readBody bound tokens.tail
        .ok (body, ← behindKeyword "\x7d" behind)
      | some "if" => readBranch bound tokens.tail
      | some "while" => readLoop bound false tokens.tail
      | some "until" => readLoop bound true tokens.tail
      | some "for" => readEach bound (lineFront tokens) tokens.tail
      | some "case" =>
        match tokens.tail with
        | ⟨.word subject, _⟩ :: rest => do
          let behind ← behindKeyword "in" (skipNewlines rest)
          let (command, behind) ← readChoices bound (lineFront tokens) subject (skipNewlines behind)
          .ok (if command = .nothing then .choice (lineFront tokens) subject [] .nothing .nothing
            else command, behind)
        | rest => .error (unexpected rest (some "word"))
      | _ => .error (unexpected tokens none)

/-- The rest of a branch behind its first keyword. -/
def readBranch : (bound : Nat) → List Placed → Attempt Parsed
  | 0, tokens => .error (exhausted tokens)
  | bound + 1, tokens => do
    let (test, behind) ← readBody bound tokens
    let (yes, behind) ← readBody bound (← behindKeyword "then" behind)
    match plainFront? behind with
    | some "elif" => do
      let (no, behind) ← readBranch bound behind.tail
      .ok (.branch test yes no, behind)
    | some "else" => do
      let (no, behind) ← readBody bound behind.tail
      .ok (.branch test yes no, ← behindKeyword "fi" behind)
    | _ => .ok (.branch test yes .nothing, ← behindKeyword "fi" behind)

/-- The rest of a loop behind its first keyword. -/
def readLoop : (bound : Nat) → (untilSuccess : Bool) → List Placed → Attempt Parsed
  | 0, _, tokens => .error (exhausted tokens)
  | bound + 1, untilSuccess, tokens => do
    let (test, behind) ← readBody bound tokens
    let (body, behind) ← readBody bound (← behindKeyword "do" behind)
    .ok (.loop untilSuccess test body, ← behindKeyword "done" behind)

/-- The rest of a repetition for each word, behind its first keyword. -/
def readEach : (bound : Nat) → (line : Nat) → List Placed → Attempt Parsed
  | 0, _, tokens => .error (exhausted tokens)
  | bound + 1, line, tokens =>
    match (plainFront? tokens).map String.toList with
    | none => .error (.badVariable (lineFront tokens))
    | some name => do
      if !isName name then .error (.badVariable (lineFront tokens))
      let behind := skipNewlines tokens.tail
      let (values, behind) :=
        if plainFront? behind = some "in" then
          let (words, behind) := readWords behind.tail
          (some words, behind)
        else (none, behind)
      let behind := if isOperator ";" behind then behind.tail else behind
      let (body, behind) ← readBody bound (← behindKeyword "do" (skipNewlines behind))
      .ok (.each line name values body, ← behindKeyword "done" behind)

/-- The alternatives of a choice up to its last keyword. -/
def readChoices : (bound : Nat) → (line : Nat) → Word → List Placed → Attempt Parsed
  | 0, _, _, tokens => .error (exhausted tokens)
  | bound + 1, line, subject, tokens =>
    if plainFront? tokens = some "esac" then .ok (.nothing, tokens.tail)
    else do
      let (forms, behind) ← readForms (if isOperator "(" tokens then tokens.tail else tokens)
      let (body, behind) ← readList bound behind
      let behind ← (if plainFront? behind = some "esac" then .ok behind
        else (behindOperator ";;" behind).map skipNewlines : Attempt (List Placed))
      let (next, behind) ← readChoices bound line subject behind
      .ok (.choice line subject forms body next, behind)

end

/-- The commands of a line behind its beginning, and the tokens of the lines after it. -/
def readLine : (bound : Nat) → List Placed → Attempt Parsed
  | 0, tokens => .error (exhausted tokens)
  | bound + 1, tokens => do
    let (first, behind) ← readChain bound tokens
    let endsLine (tokens : List Placed) : Bool :=
      tokens.head?.all fun placed => placed.token == .newline || placed.token == .finish
    match behind with
    | ⟨.operator symbol, _⟩ :: rest =>
      if symbol = ";" ∨ symbol = "&" then do
        let command := if symbol = "&" then .background first else first
        if endsLine rest then .ok (command, rest.tail)
        else
          let (later, behind) ← readLine bound rest
          .ok (.sequence command later, behind)
      else .error (unexpected behind none)
    | behind =>
      if endsLine behind then .ok (first, behind.tail) else .error (unexpected behind none)

/-! ## Scripts in words -/

/-- The first fault of the scripts whose output a word takes. -/
def wordFault? (read : Option Nat → List Char → Option SyntaxError) (word : Word) :
    Option SyntaxError :=
  word.findSome? fun piece =>
    match piece with
    | .expansion (.output line script) _ => read line script
    | _ => none

/-- The first fault of the scripts in the words of tokens. -/
def tokenFault? (read : Option Nat → List Char → Option SyntaxError) (tokens : List Placed) :
    Option SyntaxError :=
  tokens.findSome? fun placed =>
    match placed.token with
    | .word word => wordFault? read word
    | .redirection redirection => wordFault? read redirection.word
    | _ => none

/-- The first fault of a script within a word. One that begins on a known line stands between
parentheses. -/
def scriptFault? : (bound : Nat) → (line : Option Nat) → List Char → Option SyntaxError
  | 0, _, _ => none
  | bound + 1, line, script =>
    let found := tokens (line.getD 1) (if line.isSome then script ++ [')'] else script)
    match tokenFault? (scriptFault? bound) found with
    | some fault => some fault
    | none =>
      match readList (8 * found.length + 8) found with
      | .error error => some error
      | .ok (_, behind) =>
        if line.isSome then
          match behindOperator ")" behind with
          | .error error => some error
          | .ok _ => none
        else if behind.all (·.token == .finish) then none
        else some (unexpected behind none)

/-- How deep scripts in words are looked through for faults. -/
def greatestNesting : Nat := 16

/-- The commands of all lines, up to the first line with an error. -/
def readLines : (bound : Nat) → List Placed → Command
  | 0, tokens => .broken (exhausted tokens)
  | bound + 1, tokens =>
    match skipNewlines tokens with
    | [] | ⟨.finish, _⟩ :: _ => .nothing
    | ⟨.broken error, _⟩ :: _ => .broken error
    | tokens =>
      match readLine (8 * tokens.length) tokens with
      | .error error => .broken error
      | .ok (line, behind) =>
        match tokenFault? (scriptFault? greatestNesting)
            (tokens.take (tokens.length - behind.length)) with
        | some fault => .broken fault
        | none => .sequence line (readLines bound behind)

/-- The command that a script is whose first line has a number. -/
def Command.ofScript (line : Nat) (script : List Char) : Command :=
  readLines (script.length + 1) (tokens line script)

end ShapeScene.Script
