import ShapeScene.Script.Builtin
import ShapeScene.Script.Tool

/-!
# Processes

A part of a shell that runs beside it, a shell of its own, and a tool are processes. Each begins
with what its parent has, and leaves to it the files, what it wrote and read, the time that went
by, and a status.
-/

namespace ShapeScene.Script

namespace Machine

/-! ## Ends -/

/-- The machine behind another process that has ended. -/
def behind (machine ended : Machine) : Machine :=
  { machine with
    files := { ended.files with here := machine.files.here }
    channels := ended.channels
    milliseconds := ended.milliseconds
    companions := ended.companions
    started := ended.started
    burial := if machine.isCompanion then ended.burial else ended.milliseconds
    status := ended.finalStatus }

/-- The machine behind another process for which it has waited. -/
def behindAwaited (again : Runner) (machine ended : Machine) : Machine :=
  let after := machine.behind ended
  let told :=
    match if ended.isOver then none else ended.finalSignal?.bind accountOf? with
    | some account => after.put 2 (Text.rawBytes (account ++ "\n"))
    | none => after
  if !ended.isPart then told
  else
    let pending := { told with pending := ended.pending ++ told.pending }
    if machine.isPart then pending else pending.receiveAll again

/-! ## Parts of a shell -/

/-- The end of a part of a machine that runs an action beside it. -/
def partEnd (again : Runner) (action : Machine → Machine) (machine : Machine) : Machine :=
  (action { machine with toShell := machine.part }).concluded again

/-- The machine after a part of it. -/
def isolated (again : Runner) (action : Machine → Machine) (machine : Machine) : Machine :=
  let ready := machine.forgetful.caughtUp again (machine.milliseconds + 1)
  ready.behindAwaited again (ready.partEnd again action)

/-- What an action writes on standard output, and the machine after it, when nothing that it started
can write there any more. -/
def collect (again : Runner) (action : Machine → Machine) (machine : Machine) :
    List UInt8 × Machine :=
  let (index, opened) := machine.addChannel (.buffer [])
  let ended := (opened.setDescriptor 1 (some { writer := some index })).isolated again action
  let ran := ended.waitedFor again (fun machine => !machine.isHeld (· == index)) machine.limit
  (ran.bufferAt index,
    { ran with descriptors := machine.descriptors }.trimmed machine.channels.length)

/-- What a script writes on standard output, and the machine after it. -/
def capture (again : Runner) : Capture := fun line script machine =>
  let (written, ran) :=
    { machine with isTested := false }.collect again (again (.ofScript line script))
  (written,
    { ran with
      isTested := machine.isTested
      status := if ran.flow = .onward then machine.status else ran.status
      captured := some ran.status })

/-- The machine after two commands that run at the same time, the second of which reads what the
first writes. The first ends when it would go on writing and nobody reads any more. -/
def piped (again : Runner) (first second : Machine → Machine) (machine : Machine) : Machine :=
  let (written, before) := machine.collect again first
  let between :=
    { before with milliseconds := machine.milliseconds, status := machine.status }.readFrom 0
      (.bytes written)
  let after := between.isolated again second
  let isUnread := !after.input.all.isEmpty
  let awaited :=
    if isUnread && before.milliseconds == machine.limit then 0 else before.milliseconds
  { after with
    descriptors := machine.descriptors
    milliseconds := max awaited after.milliseconds }.trimmed machine.channels.length

/-! ## Shells -/

/-- The variables that a shell sets when it starts. -/
def shellValues (machine : Machine) : List (String × String) :=
  let fixed := [("IFS", " \t\n"), ("OPTIND", "1"), ("PWD", machine.herePath)]
  let given := machine.settings.filter fun entry => !fixed.any fun other => other.1 == entry.1
  let usual := [("PATH", usualFolders), ("PS1", "# "), ("PS2", "> "), ("PS4", "+ ")]
  given ++ fixed ++ usual.filter fun entry => !given.any fun other => other.1 == entry.1

/-- A shell that begins in the place of a machine. -/
def newShell (machine : Machine) (name : String) : Machine :=
  { machine.share "PWD" with
    name := name
    arguments := []
    process := machine.process + 1000
    jobs := []
    lastJob := none
    values := machine.shellValues
    constants := []
    shadowed := none
    functions := []
    actions := machine.keptActions
    pending := []
    isPart := false
    optionSpot := (1, none)
    loops := 0
    switches := []
    isTested := false
    line := 0
    speaker := none }

/-- What a shell is to run. -/
inductive Task where
  /-- A text among its arguments. -/
  | text
  /-- Its input. -/
  | input
  /-- A file. -/
  | file
deriving DecidableEq, Repr

/-- The switches of a shell among the letters of an argument, with the task and the words behind
those that were used. -/
def readShellLetters (sign : Char) : List Char → Task → List String → Machine →
    Except (String × Machine) (Task × List String × Machine)
  | [], task, words, machine => .ok (task, words, machine)
  | 'c' :: letters, _, words, machine => readShellLetters sign letters .text words machine
  | letter :: letters, task, words, machine =>
    match setLetters sign [letter] words machine with
    | .ok (words, machine) => readShellLetters sign letters task words machine
    | .error refusal => .error refusal

/-- The switches in front of the arguments of a shell, with its task and the other arguments. -/
def readShellArguments : (bound : Nat) → Task → List String → Machine →
    Except (String × Machine) (Task × List String × Machine)
  | 0, task, words, machine => .ok (task, words, machine)
  | _, task, [], machine => .ok (task, [], machine)
  | bound + 1, task, word :: words, machine =>
    match word.toList with
    | ['-'] | ['-', '-'] => .ok (task, words, machine)
    | '-' :: letters => do
      let (task, words, machine) ← readShellLetters '-' letters task words machine
      readShellArguments bound task words machine
    | '+' :: letters => do
      let (task, words, machine) ← readShellLetters '+' letters task words machine
      readShellArguments bound task words machine
    | _ => .ok (task, word :: words, machine)

/-- The end of a shell that runs a script. -/
def shellEnd (again : Runner) (name : String) (arguments : List String) (script : String)
    (shell : Machine) : Machine :=
  (again (.ofScript 1 script.toList) { shell with name := name, arguments := arguments }).concluded
    again

/-- The end of a shell with a name and arguments in the place of a machine. -/
def asShell (again : Runner) (name : String) (arguments : List String) (machine : Machine) :
    Machine :=
  let shell := machine.newShell name
  match readShellArguments arguments.length .file arguments shell with
  | .error (text, shell) => shell.abort text
  | .ok (.text, [], shell) => shell.abort "-c requires an argument"
  | .ok (.text, script :: words, shell) =>
    shell.shellEnd again (words.head?.getD name) words.tail script
  | .ok (task, words, shell) =>
    let isInput := words.isEmpty || shell.has 's' || task = .input
    match isInput, words with
    | false, path :: words =>
      match Source.ofPath shell.files path with
      | .ok source => shell.shellEnd again path words (Text.raw source.all)
      | .error failure =>
        shell.abort ("cannot open " ++ path ++ ": " ++ openingReason false failure)
    | _, words =>
      let script := shell.input.all
      (shell.leave 0 shell.input.drained).shellEnd again name words (Text.raw script)

/-! ## Finding programs -/

/-- The program that a file without an interpreter is: a script. -/
def scriptProgram (path : String) (arguments : List String) : Program :=
  ⟨"sh", "/bin/sh", path :: arguments⟩

/-- The first of some attempts that found something, or the last refusal. If there are several, that
nothing is there counts less than any other refusal. -/
def firstFound (attempts : List (Except IoFailure Program)) : Except IoFailure Program :=
  let refusals := attempts.filterMap fun attempt =>
    match attempt with
    | .error failure =>
      if failure = .notFound ∨ failure = .notFolder then none else some failure
    | .ok _ => none
  match attempts, attempts.find? fun attempt => attempt.isOk with
  | [attempt], _ => attempt
  | _, some found => found
  | _, none => .error (refusals.getLast?.getD .notFound)

/-- The program of a name with arguments, in one of some folders. -/
def findProgram (files : FileTree) (folders name : String) (arguments : List String) :
    Except IoFailure Program :=
  firstFound ((pathsOfProgram folders name).map fun path =>
    match programFrom files maxInterpreters path name arguments with
    | .error .notExecutable => .ok (scriptProgram path arguments)
    | found => found)

/-- The program of a name with arguments. -/
def programOf (machine : Machine) (name : String) (arguments : List String) :
    Except IoFailure Program :=
  if name.isEmpty then .error .notFound
  else findProgram machine.files machine.programFolders name arguments

/-- The program of a name with arguments that a tool starts. Without folders to look in, a tool has
some of its own. -/
def programForTool (machine : Machine) (name : String) (arguments : List String) :
    Except IoFailure Program :=
  if name.isEmpty then .error .notFound
  else findProgram machine.files ((machine.valueOf? "PATH").getD "/bin:/usr/bin") name arguments

/-! ## Tools that start others -/

/-- The machine after an action with other variables for tools. -/
def withSettings (settings : List (String × String)) (action : Machine → Machine)
    (machine : Machine) : Machine :=
  let ran := action { machine with values := settings, exported := settings.map (·.1) }
  { ran with values := machine.values, exported := machine.exported }

/-- The machine after a tool complained. -/
def toolFailure (machine : Machine) (text : String) (status : Nat) : Machine :=
  (machine.put 2 (Text.rawBytes (text ++ "\n"))).answer status

/-- The machine after a tool did what its arguments say, or after the refusal of these. -/
def withUsage (machine : Machine) (usage : Usage) (arguments : List String)
    (act : Switches → Machine) : Machine :=
  match Switches.readAll usage none arguments {} with
  | .ok switches => act switches
  | .error fault =>
    machine.toolFailure (usage.tool ++ ": " ++ fault.message ++ advice usage.tool) usage.status

/-- The status of a tool that could not start a program. -/
def startStatus (failure : IoFailure) : Nat := if failure = .notFound then 127 else 126

/-- The words of a text with quotes. -/
def splitWords (text : String) : List String :=
  let word (piece : List (Char × Bool)) : String := String.ofList (piece.map (·.1))
  let rec scan : (quote : Option Char) → (current : Option (List (Char × Bool))) → List Char →
      List (List (Char × Bool))
    | _, current, [] => (current.map List.reverse).toList
    | some quote, current, char :: rest =>
      if char = quote then scan none current rest
      else scan (some quote) (some ((char, true) :: current.getD [])) rest
    | none, current, '\\' :: char :: rest => scan none (some ((char, true) :: current.getD [])) rest
    | none, current, char :: rest =>
      if char = '"' ∨ char = '\'' then scan (some char) (some (current.getD [])) rest
      else if Text.isBlank char then (current.map List.reverse).toList ++ scan none none rest
      else scan none (some ((char, false) :: current.getD [])) rest
  (scan none none text.toList).map word

/-- The settings with some taken away and others put in. -/
def changedSettings (settings : List (String × String)) (removed : List String)
    (added : List (String × String)) : List (String × String) :=
  let kept := settings.filter fun entry => !removed.contains entry.1
  added.foldl
    (fun kept entry =>
      if kept.any fun other => other.1 == entry.1 then
        kept.map fun other => if other.1 = entry.1 then entry else other
      else kept ++ [entry])
    kept

/-- The text of an argument that a lone dash or `-S` stands for, if it is one. -/
def settledArguments : List String → List String
  | word :: words =>
    match word.toList with
    | '-' :: 'S' :: rest =>
      if rest.isEmpty then splitWords (words.head?.getD "") ++ words.tail
      else splitWords (String.ofList rest) ++ words
    | _ => word :: words
  | [] => []

/-- The machine after a program that gets other variables. `start` starts it. -/
def startWithSettings (start : Program → Machine → Machine) (program : Program)
    (machine : Machine) : Machine :=
  let usage : Usage :=
    { tool := program.name, flags := "i0v", valued := "uC", permutes := false, status := 125,
      long := [("--ignore-environment", 'i'), ("--null", '0'), ("--unset", 'u'), ("--chdir", 'C'),
        ("--debug", 'v')] }
  let given := settledArguments program.arguments
  machine.withUsage usage given fun switches =>
    let isDash := switches.operands.head? == some "-"
    let operands := if isDash then switches.operands.tail else switches.operands
    let (settingWords, command) := operands.span fun word => word.toList.contains '='
    let added := settingWords.filterMap fun word =>
      (splitAssignment word).2.map fun value => ((splitAssignment word).1, value)
    let settings :=
      changedSettings (if isDash || switches.has 'i' then [] else machine.settings)
        (switches.values 'u') added
    match (switches.value? 'C').map machine.files.folderPlace, command with
    | some (.error failure), _ =>
      machine.toolFailure (program.name ++ ": cannot change directory to " ++
        quoted ((switches.value? 'C').getD "") ++ ": " ++ failure.reason) 125
    | _, [] =>
      let ending := if switches.has '0' then "\x00" else "\n"
      machine.after "env" program.name
        (.said machine.bench
          (settings.flatMap fun setting => Text.rawBytes (settingLine setting ++ ending)))
    | place, name :: arguments =>
      machine.withSettings settings fun machine =>
        let here :=
          match place with
          | some (.ok place) => place
          | _ => machine.files.here
        let machine := { machine with files := { machine.files with here := here } }
        match machine.programForTool name arguments with
        | .ok found => start found machine
        | .error failure =>
          let hint :=
            if name.toList.contains ' ' then
              "\n" ++ program.name ++ ": use -[v]S to pass options in shebang lines"
            else ""
          machine.toolFailure
            (program.name ++ ": " ++ quoted name ++ ": " ++ failure.reason ++ hint)
            (startStatus failure)

/-- The machine after a program that is stopped after a time, with all that it started. -/
def startWithLimit (again : Runner) (start : Program → Machine → Machine) (program : Program)
    (machine : Machine) : Machine :=
  let name := program.name
  let usage : Usage :=
    { tool := name, flags := "fpv", valued := "sk", permutes := false, status := 125,
      long := [("--signal", 's'), ("--kill-after", 'k'), ("--foreground", 'f'),
        ("--preserve-status", 'p'), ("--verbose", 'v')] }
  machine.withUsage usage program.arguments fun switches =>
    let word := (switches.value? 's').getD "TERM"
    let bare :=
      if "SIG".toList.isPrefixOf word.toList then String.ofList (word.toList.drop 3) else word
    match switches.operands, signal? bare with
    | duration :: command :: arguments, some signal =>
      match milliseconds? duration, machine.programForTool command arguments with
      | none, _ =>
        machine.toolFailure
          (name ++ ": invalid time interval " ++ quoted duration ++ advice name) 125
      | some _, .error failure =>
        machine.toolFailure
          (name ++ ": failed to run command " ++ quoted command ++ ": " ++ failure.reason)
          (startStatus failure)
      | some limit, .ok found =>
        let deadline := machine.milliseconds + limit
        let cut := if limit = 0 then machine.limit else min machine.limit deadline
        let ran := start found { machine with limit := cut }
        if ran.isOver && limit != 0 && deadline < machine.limit then
          let caught := ran.caughtUp again deadline
          let stopped :=
            { caught with
              limit := machine.limit
              milliseconds := deadline
              flow := .onward
              companions := caught.companions.filter fun companion =>
                machine.companions.any fun other => other.number == companion.number }
          let told :=
            if switches.has 'v' then
              stopped.toolFailure (name ++ ": sending signal " ++ signal.name ++ " to command " ++
                quoted command) 0
            else stopped
          if signal.name = "KILL" then { told with flow := .killed 9 }
          else told.answer (if switches.has 'p' then 128 + signal.number else 124)
        else { ran with limit := machine.limit }
    | _ :: _ :: _, none =>
      machine.toolFailure (name ++ ": " ++ quoted word ++ ": invalid signal" ++ advice name) 125
    | _, _ => machine.toolFailure ("Try '" ++ name ++ " --help' for more information.") 125

/-- The machine after a program that another one starts without a change that can be seen. -/
def startPlainly (start : Program → Machine → Machine) (program : Program) (usage : Usage)
    (machine : Machine) : Machine :=
  let name := program.name
  machine.withUsage { usage with tool := name, permutes := false, status := 125 } program.arguments
    fun switches =>
      match switches.operands with
      | [] => machine.toolFailure (name ++ ": missing operand" ++ advice name) 125
      | command :: arguments =>
        match machine.programForTool command arguments with
        | .ok found => start found machine
        | .error failure =>
          let before := if usage.tool = "nice" then ": " else ": failed to run command "
          machine.toolFailure (name ++ before ++ quoted command ++ ": " ++ failure.reason)
            (startStatus failure)

/-- The items of the input for a tool that makes arguments of them, each with whether it ends a
line, or the complaint about a quote that is not closed. -/
def itemsOf : (quote : Option Char) → (current : Option (List Char)) → List Char →
    List (String × Bool) × Option String
  | quote, current, [] =>
    match quote with
    | some '\'' => ([], some "single")
    | some _ => ([], some "double")
    | none => ((current.map fun chars => (String.ofList chars.reverse, true)).toList, none)
  | some quote, current, char :: rest =>
    if char = '\n' then ([], some (if quote = '\'' then "single" else "double"))
    else if char = quote then itemsOf none current rest
    else itemsOf (some quote) (some (char :: current.getD [])) rest
  | none, current, '\\' :: char :: rest => itemsOf none (some (char :: current.getD [])) rest
  | none, current, char :: rest =>
    if char = '"' ∨ char = '\'' then itemsOf (some char) (some (current.getD [])) rest
    else if Text.isBlank char then
      let (items, open?) := itemsOf none none rest
      let ended := current.map fun chars => (String.ofList chars.reverse, char == '\n')
      (ended.toList ++ items, open?)
    else itemsOf none (some (char :: current.getD [])) rest

/-- Lists of at most some items each. -/
def chunks {Item : Type} (size : Nat) : (bound : Nat) → List Item → List (List Item)
  | 0, _ | _, [] => []
  | bound + 1, items => items.take (max size 1) :: chunks size bound (items.drop (max size 1))

/-- The texts of items in groups of at most some lines. -/
def lineGroups (size : Nat) (items : List (String × Bool)) : List (List String) :=
  let lines := items.foldr
    (fun item lines =>
      if item.2 then [item.1] :: lines
      else
        match lines with
        | line :: lines => (item.1 :: line) :: lines
        | [] => [[item.1]])
    []
  (chunks size lines.length lines).map List.flatten

/-- A text with another one in the place of a part wherever this stands. -/
def replacing (part value : List Char) : (bound : Nat) → List Char → List Char
  | 0, chars => chars
  | _, [] => []
  | bound + 1, char :: rest =>
    if !part.isEmpty && part.isPrefixOf (char :: rest) then
      value ++ replacing part value bound ((char :: rest).drop part.length)
    else char :: replacing part value bound rest

/-- The machine after a program that is started with the items of the input as arguments, as often
as needed. -/
def startWithItems (start : Program → Machine → Machine) (program : Program)
    (machine : Machine) : Machine :=
  let name := program.name
  let usage : Usage :=
    { tool := name, flags := "0rtx", valued := "nIdLPsE", permutes := false,
      long := [("--null", '0'), ("--no-run-if-empty", 'r'), ("--max-args", 'n'),
        ("--verbose", 't'), ("--delimiter", 'd'), ("--max-lines", 'L'), ("--max-procs", 'P')] }
  machine.withUsage usage program.arguments fun switches =>
    let text := (Text.raw machine.input.all).toList
    let machine := machine.leave 0 machine.input.drained
    let divided (mark : Char) : List (String × Bool) :=
      let parts := text.splitOn mark
      (if parts.getLast? = some [] then parts.dropLast else parts).map fun part =>
        (String.ofList part, true)
    let lineItems : List (String × Bool) :=
      (text.splitOn '\n').filterMap fun line =>
        let line := line.dropWhile Text.isBlank
        if line.isEmpty then none else some (String.ofList line, true)
    let (items, open?) :=
      if switches.has '0' then (divided '\x00', none)
      else
        match (switches.value? 'd').map String.toList with
        | some ['\\', 'n'] => (divided '\n', none)
        | some ['\\', 't'] => (divided '\t', none)
        | some (mark :: _) => (divided mark, none)
        | _ => if switches.has 'I' then (lineItems, none) else itemsOf none none text
    let command := switches.operandsOr ["echo"]
    let numberOf (letter : Char) : Option Nat := (switches.value? letter).bind wordNumber?
    let texts := items.map (·.1)
    let calls : List (List String) :=
      match switches.value? 'I', numberOf 'n', numberOf 'L' with
      | some mark, _, _ =>
        texts.map fun item =>
          command.map fun word =>
            String.ofList
              (replacing mark.toList item.toList (word.length + 1) word.toList)
      | none, some size, _ => (chunks size texts.length texts).map fun words => command ++ words
      | none, none, some size => (lineGroups size items).map fun words => command ++ words
      | none, none, none =>
        if texts.isEmpty && (switches.has 'r' || open?.isSome) then [] else [command ++ texts]
    let calls :=
      if texts.isEmpty && calls.isEmpty && !switches.has 'r' && !switches.has 'I' && open?.isNone
      then [command] else calls
    let run (machine : Machine) (words : List String) : Machine :=
      if machine.status = 124 ∨ 126 ≤ machine.status ∨ !machine.isRunning then machine
      else
        let shown :=
          if switches.has 't' then machine.put 2 (Text.rawBytes (Text.joinWith " " words ++ "\n"))
          else machine
        match words with
        | [] => machine
        | command :: arguments =>
          match shown.programForTool command arguments with
          | .error failure =>
            shown.toolFailure (name ++ ": " ++ command ++ ": " ++ failure.reason)
              (startStatus failure)
          | .ok found =>
            let input := shown.readFrom 0 (.bytes [])
            let ended := start found input
            let after := (shown.behind ended).trimmed shown.channels.length
            match ended.finalSignal?, ended.finalStatus with
            | some signal, _ =>
              after.toolFailure
                (name ++ ": " ++ command ++ ": terminated by signal " ++ toString signal) 125
            | none, 255 =>
              after.toolFailure
                (name ++ ": " ++ command ++ ": exited with status 255; aborting") 124
            | none, 0 => after.answer shown.status
            | none, _ => after.answer 123
    let ran := calls.foldl run (machine.answer 0)
    match open? with
    | some kind =>
      ran.toolFailure (name ++ ": unmatched " ++ kind ++ " quote; by default quotes are special" ++
        " to xargs unless you use the -0 option") 1
    | none => ran

/-! ## Starting programs -/

/-- How many programs may start each other. -/
def greatestChain : Nat := 64

/-- The end of a program that runs in the place of a machine. -/
def startWithin (again : Runner) : (bound : Nat) → Program → Machine → Machine
  | 0, _, machine => machine.exhaust
  | bound + 1, program, machine =>
    let start := startWithin again bound
    match program.tool with
    | "sh" | "dash" | "bash" => machine.asShell again program.name program.arguments
    | "env" => machine.startWithSettings start program
    | "timeout" => machine.startWithLimit again start program
    | "xargs" => machine.startWithItems start program
    | "nice" => machine.startPlainly start program { tool := "nice", valued := "n" }
    | "nohup" => machine.startPlainly start program { tool := "nohup" }
    | name =>
      match tool? name with
      | some tool => machine.after name program.name (tool machine.bench program.arguments)
      | none => machine.answer 0

/-- The shelf on which a shell keeps the variable of a name. -/
def shelf (name : String) : Nat :=
  match name.toList with
  | [] => 0
  | first :: rest =>
    (rest.foldl (fun sum char => sum + char.toNat) (17 * first.toNat)) % 39

/-- The machine with its variables in the order in which a shell hands them to a program: shelf by
shelf. -/
def arranged (machine : Machine) : Machine :=
  { machine with
    values := machine.values.reverse.mergeSort fun first second => shelf first.1 ≤ shelf second.1 }

/-- The end of a program that runs in the place of a machine. -/
def start (again : Runner) (program : Program) (machine : Machine) : Machine :=
  startWithin again greatestChain program { machine.arranged with actions := machine.keptActions }

/-- The machine after a program for which it has waited. -/
def runProgram (again : Runner) (program : Program) (machine : Machine) : Machine :=
  let ready := machine.forgetful.caughtUp again (machine.milliseconds + 1)
  if ready.isRunning then
    ready.behindAwaited again { ready.start again program with isPart := false }
  else ready

end Machine

end ShapeScene.Script
