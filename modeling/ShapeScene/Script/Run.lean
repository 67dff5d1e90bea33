import ShapeScene.Script.Process

/-!
# Running scripts

A command is run by running its parts. How deep commands lie in each other, and how often a loop
goes round, are bounded; a script that goes beyond a bound counts as one that never ends.
-/

namespace ShapeScene.Script

/-- The greatest number of rounds of a loop. -/
def greatestRounds : Nat := 100000

/-- The greatest depth of commands in each other. -/
def greatestDepth : Nat := 4000

/-- Whether a command is no more than the commands that it is made of, or none at all. A shell that
only reads goes through these. -/
def Command.isScript : Command → Bool
  | .sequence _ _ | .broken _ => true
  | _ => false

namespace Machine

/-! ## Programs -/

/-- The machine after the complaint that a program cannot be started. -/
def missProgram (machine : Machine) (name : String) (failure : IoFailure) : Machine :=
  let reason :=
    if failure = .notFound ∨ failure = .notFolder then "not found" else failure.reason
  let isMissing :=
    !name.toList.contains '/' || failure = .notFound || failure = .notFolder ||
      failure = .tooManyLinks || failure = .nameTooLong
  (machine.complain (name ++ ": " ++ reason)).answer (if isMissing then 127 else 126)

/-- The program of a name with arguments. Nothing has an empty name, and nobody may run it. -/
def namedProgram (machine : Machine) (name : String) (arguments : List String) :
    Except IoFailure Program :=
  if name.isEmpty then .error .permissionDenied else machine.programOf name arguments

/-- The machine after a program with arguments. -/
def runFile (again : Runner) (name : String) (arguments : List String) (machine : Machine) :
    Machine :=
  match machine.namedProgram name arguments with
  | .ok program => machine.runProgram again program
  | .error failure => machine.missProgram name failure

/-- The end of a machine in the place of which a program runs. -/
def replaceBy (again : Runner) (name : String) (arguments : List String) (machine : Machine) :
    Machine :=
  match machine.namedProgram name arguments with
  | .ok program =>
    let ended := machine.start again program
    { machine.behind ended with
      actions := []
      flow := match ended.flow with | .killed signal => .killed signal | _ => .ended }
  | .error failure => (machine.missProgram name failure).finish

/-! ## Functions and scripts of the shell -/

/-- The machine after the body of a function. -/
def runFunction (again : Runner) (body : Command) (arguments : List String) (machine : Machine) :
    Machine :=
  let ran := again body { machine with arguments := arguments, loops := 0, shadowed := some [] }
  let restored := (ran.shadowed.getD []).foldl
    (fun machine entry => machine.restore entry.1 entry.2) ran
  { restored with
    arguments := machine.arguments
    loops := machine.loops
    shadowed := machine.shadowed
    flow := if ran.flow = .returning then .onward else ran.flow }

/-- The machine after a script in a file that runs as a part of another one. -/
def runIncluded (again : Runner) (path : String) (source : Source) (machine : Machine) : Machine :=
  let ran := again (.ofScript 1 (Text.raw source.all).toList)
    { machine with speaker := some path, isTested := false }
  { ran with
    isTested := machine.isTested
    flow := if ran.flow = .returning then .onward else ran.flow }

/-- What comes of a script in a file. -/
def included (again : Runner) (arguments : List String) (machine : Machine) : Response :=
  match arguments with
  | [] => .ok (machine.answer 0)
  | path :: _ =>
    let paths := pathsOfProgram machine.programFolders path
    let sources := paths.filterMap fun path =>
      match Source.ofPath machine.files path with
      | .ok source => some (path, source)
      | .error _ => none
    match sources, path.toList.contains '/' with
    | (found, source) :: _, _ => .ok (machine.runIncluded again found source)
    | [], false => machine.refuse (path ++ ": not found")
    | [], true =>
      let failure :=
        match Source.ofPath machine.files path with
        | .error failure => failure
        | .ok _ => .notFound
      machine.refuse ("cannot open " ++ path ++ ": " ++ openingReason false failure)

/-! ## Commands by name -/

/-- The machine after a command of the shell. -/
def settle (isFatal : Bool) (name : String) (machine : Machine) (act : Machine → Response) :
    Machine :=
  let ran :=
    match act { machine with speaker := some name } with
    | .ok ran => ran
    | .error (text, refused) =>
      let told := (refused.complain text).answer 2
      if isFatal then told.finish else told
  { ran with speaker := machine.speaker }

/-- The machine after a command of words. `isForced` says that functions do not count, and that no
command of the shell is special. -/
def runNamed (again : Runner) : (isForced : Bool) → List String → Machine → Machine
  | _, [], machine => machine.answer 0
  | isForced, name :: arguments, machine =>
    let body := (machine.functions.find? fun entry => entry.1 == name).map (·.2)
    let settled := machine.settle (!isForced && specials.contains name) name
    match if isForced || specials.contains name then none else body, name with
    | some body, _ => machine.runFunction again body arguments
    | none, "eval" =>
      settled fun machine =>
        .ok (again (.ofScript 1 (Text.joinWith " " arguments).toList) machine)
    | none, "." => settled fun machine => included again arguments machine
    | none, "exec" =>
      match arguments with
      | [] => machine.answer 0
      | program :: arguments =>
        settled fun machine => .ok (machine.replaceBy again program arguments)
    | none, "command" =>
      let told (path : String → Machine → Response) : Machine :=
        settled fun machine => (arguments[1]?).elim (.ok (machine.answer 0)) fun name =>
          path name machine
      match arguments with
      | [] => machine.answer 0
      | word :: words =>
        match word.toList with
        | ['-', 'v'] =>
          told fun name machine =>
            match machine.describeCommand? name with
            | some found => .ok (machine.sayLine found.2)
            | none => .ok (machine.answer 127)
        | ['-', 'V'] => told fun name machine => .ok (machine.tellCommands [name])
        | ['-', 'p'] | ['-', '-'] => runNamed again true words machine
        | '-' :: letter :: _ =>
          settled fun machine =>
            machine.refuse ("Illegal option -" ++ String.singleton letter)
        | _ => runNamed again true (word :: words) machine
    | none, _ =>
      if isBuiltin name then
        settled fun machine => (machine.builtin? again name arguments).getD (.ok machine)
      else machine.runFile again name arguments
termination_by _ words => words.length

/-! ## Simple commands -/

/-- The texts of the words behind the name of a command of the shell that can declare variables:
the value of a variable is one text. -/
def expandDeclared (capture : Capture) : List Word → Machine → List String × Machine
  | [], machine => ([], machine)
  | word :: words, machine =>
    let (texts, machine) :=
      match assignment? word with
      | some (name, value) =>
        let (text, machine) := machine.expand capture value
        ([String.ofList name ++ "=" ++ text], machine)
      | none => machine.expandAll capture [word]
    if !machine.isRunning then ([], machine)
    else
      let (later, machine) := expandDeclared capture words machine
      (texts ++ later, machine)

/-- The texts of the words of a command. -/
def expandCommand (capture : Capture) : List Word → Machine → List String × Machine
  | [], machine => ([], machine)
  | word :: words, machine =>
    let (texts, machine) := machine.expandAll capture [word]
    let (later, machine) :=
      if !machine.isRunning then ([], machine)
      else
        match texts with
        | [] | ["command"] => expandCommand capture words machine
        | name :: _ =>
          if declarers.contains name then machine.expandDeclared capture words
          else machine.expandAll capture words
    (texts ++ later, machine)

/-- The machine after it told which command runs, as it does if a switch is set. It speaks to where
standard error led before the redirections of the command. -/
def traced (before : Option Descriptor) (given : List (String × String)) (texts : List String)
    (machine : Machine) : Machine :=
  if machine.has 'x' then
    let shown := given.map settingLine ++ texts
    let line := (machine.valueOf? "PS4").getD "" ++ Text.joinWith " " shown ++ "\n"
    ((machine.setDescriptor 2 before).put 2 (Text.rawBytes line)).setDescriptor 2
      (machine.descriptor? 2)
  else machine

/-- The machine after a command of words, for the time of which variables have other values. -/
def withValues (given : List (String × String)) (action : Machine → Machine) (machine : Machine)
    (before : Machine) : Machine :=
  let names := given.map (·.1)
  let ran := action (names.foldl share machine)
  let restored := names.foldl (fun ran name => ran.restore name (before.valueOf? name)) ran
  { restored with
    exported := restored.exported.filter fun name =>
      !names.contains name || before.exported.contains name }

/-- The machine after a command whose words have their texts. -/
def runTexts (again : Runner) (assignments : List (List Char × Word)) (texts : List String)
    (before : Option Descriptor) (machine : Machine) : Machine :=
  let (given, ready) := machine.assignAll (capture again) assignments
  if !ready.isRunning then ready
  else
    let told := ready.traced before given texts
    let act := fun machine => runNamed again false texts machine
    if given.isEmpty || (texts.head?.any specials.contains) then act told
    else withValues given act told machine

/-- The machine after a command without words. -/
def runAssignments (again : Runner) (assignments : List (List Char × Word))
    (before : Option Descriptor) (machine : Machine) : Machine :=
  let (given, assigned) := machine.assignAll (capture again) assignments
  if !assigned.isRunning then assigned
  else
    let told := if given.isEmpty then assigned else assigned.traced before given []
    told.answer (told.captured.getD 0)

/-- The machine after a simple command. -/
def runSimple (again : Runner) (assignments : List (List Char × Word)) (words : List Word)
    (redirections : List Redirection) (machine : Machine) : Machine :=
  let (texts, expanded) := machine.expandCommand (capture again) words
  if !expanded.isRunning then expanded
  else
    let before := expanded.descriptor? 2
    match texts with
    | [] =>
      expanded.withRedirections (capture again) redirections id
        (runAssignments again assignments before)
    | ["exec"] =>
      match expanded.redirect (capture again) redirections with
      | .error failed => failed.finish
      | .ok ready => runTexts again assignments texts before ready
    | name :: _ =>
      let isFatal := specials.contains name
      expanded.withRedirections (capture again) redirections
        (fun failed => if isFatal then failed.finish else failed)
        (runTexts again assignments texts before)

/-! ## Loops -/

/-- The machine with which a loop goes on, or the one with which it is over. -/
def nextRound (ran : Machine) : Except Machine Machine :=
  match ran.flow with
  | .onward => if ran.isRunning then .ok ran else .error ran
  | .breaking loops =>
    .error { ran with flow := if loops ≤ 1 then .onward else .breaking (loops - 1) }
  | .continuing loops =>
    if loops ≤ 1 then .ok { ran with flow := .onward }
    else .error { ran with flow := .continuing (loops - 1) }
  | _ => .error ran

/-- The machine after the rounds of a loop. `status` is the status of the last round. -/
def rounds (test body : Machine → Machine) (untilSuccess : Bool) : (bound : Nat) →
    (status : Nat) → Machine → Machine
  | 0, _, machine => machine.exhaust
  | bound + 1, status, machine =>
    let judged := machine.tested test
    match judged.nextRound with
    | .error behind => behind
    | .ok next =>
      if judged.flow = .onward ∧ (next.status == 0) = untilSuccess then next.answer status
      else if judged.flow ≠ .onward then rounds test body untilSuccess bound status next
      else
        match (body next).nextRound with
        | .error behind => behind
        | .ok ran => rounds test body untilSuccess bound ran.status ran

/-- The machine after a round for each of some texts. -/
def roundForEach (name : String) (body : Machine → Machine) : List String → Machine → Machine
  | [], machine => machine
  | value :: values, machine =>
    let given := machine.assign name value
    if !given.isRunning then given
    else
      match (body given).nextRound with
      | .error behind => behind
      | .ok ran => roundForEach name body values ran

/-- The machine after a command that is a loop. -/
def looped (action : Machine → Machine) (machine : Machine) : Machine :=
  { action { machine with loops := machine.loops + 1 } with loops := machine.loops }

/-! ## Commands -/

/-- The machine after the command for a word with one of some forms, or after another one. -/
def choose (again : Runner) (subject : Word) (forms : List Word) (body next : Command)
    (machine : Machine) : Machine :=
  let (text, ready) := machine.expand (capture again) subject
  let rec fitting : List Word → Machine → Bool × Machine
    | [], machine => (false, machine)
    | form :: forms, machine =>
      let (parts, machine) := machine.expandForm (capture again) form
      if !machine.isRunning then (false, machine)
      else if fits parts text.toList then (true, machine)
      else fitting forms machine
  if !ready.isRunning then ready
  else
    let (isFitting, ready) := fitting forms ready
    if !ready.isRunning then ready
    else if isFitting then again body ready
    else
      match next with
      | .choice line _ forms body next =>
        again (.choice line [.text text.toList true] forms body next) ready
      | next => again next ready

/-- The machine after a command, of which `again` runs the parts. -/
def step (again : Runner) (command : Command) (before : Machine) : Machine :=
  let machine := before.caughtUp again before.milliseconds
  if !machine.isRunning then machine
  else if machine.has 'n' && !command.isScript then machine
  else
    match command with
    | .nothing => machine.answer 0
    | .simple line assignments words redirections =>
      ({ machine with line := line, captured := none }.runSimple again assignments words
        redirections).checked
    | .pipe first second => (machine.piped again (again first) (again second)).checked
    | .sequence first .nothing => again first machine
    | .sequence first second => again second (again first machine)
    | .both first second =>
      let ran := machine.tested (again first)
      if ran.status = 0 then again second ran else ran
    | .either first second =>
      let ran := machine.tested (again first)
      if ran.status = 0 then ran else again second ran
    | .negation inner =>
      let ran := machine.tested (again inner)
      if ran.isRunning then ran.answer (if ran.status = 0 then 1 else 0) else ran
    | .redirected line inner redirections =>
      ({ machine with line := line }.withRedirections (capture again) redirections id
        (again inner)).checked
    | .subshell inner => (machine.isolated again (again inner)).checked
    | .background inner => machine.accompanied inner
    | .branch test yes no =>
      let judged := machine.tested (again test)
      if !judged.isRunning then judged
      else if judged.status = 0 then again yes judged
      else again no judged
    | .loop untilSuccess test body =>
      machine.looped (rounds (again test) (again body) untilSuccess greatestRounds 0)
    | .each line name values body =>
      let machine := { machine with line := line }
      let (texts, ready) :=
        match values with
        | some words => machine.expandAll (capture again) words
        | none => (machine.arguments, machine)
      if !ready.isRunning then ready
      else if texts.isEmpty then ready.answer 0
      else ready.looped (roundForEach (String.ofList name) (again body) texts)
    | .choice line subject forms body next =>
      { machine with line := line }.choose again subject forms body next
    | .definition name body =>
      { machine with
        status := 0
        functions := (String.ofList name, body) :: machine.functions }
    | .broken error => { machine with line := error.line }.abort error.message

/-- The machine after a command. `depth` bounds how deep its parts may lie. -/
def run : (depth : Nat) → Command → Machine → Machine
  | 0, _, machine => machine.exhaust
  | depth + 1, command, machine => machine.step (run depth) command

end Machine

end ShapeScene.Script
