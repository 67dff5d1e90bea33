import ShapeScene.Script.Companion
import ShapeScene.Script.Condition
import ShapeScene.Script.Expand
import ShapeScene.Script.Formatted
import ShapeScene.Script.Program

/-!
# The commands of the shell itself

Some commands are no programs: they change the variables, the streams or the course of the script
that runs them. What such a command complains about ends the script if the command is special.
-/

namespace ShapeScene.Script

/-- What comes of a command of the shell: the machine after it, or a complaint and the machine
before. -/
abbrev Response := Except (String × Machine) Machine

/-- The commands of the shell whose arguments can be assignments. -/
def declarers : List String := ["export", "readonly", "local"]

/-- A text in quotes from which the shell reads it back. -/
def shellQuoted (text : String) : String :=
  let rec segments : (isInside : Bool) → List Char → List Char
    | isInside, [] => if isInside then ['\''] else []
    | isInside, '\'' :: rest =>
      (if isInside then ['\''] else []) ++ '"' :: '\'' :: '"' :: segments false rest
    | isInside, char :: rest =>
      (if isInside then [char] else ['\'', char]) ++ segments true rest
  if text.isEmpty then "''" else String.ofList (segments false text.toList)

namespace Machine

/-! ## Arguments -/

/-- A complaint about a machine. -/
def refuse (machine : Machine) (text : String) : Response := .error (text, machine)

/-- The complaint about a number. -/
def refuseNumber (machine : Machine) (word : String) : Response :=
  machine.refuse ("Illegal number: " ++ word)

/-- The greatest number that an argument can be. -/
def greatestNumber : Nat := 2147483647

/-- The number that a word is. -/
def wordNumber? (word : String) : Option Nat :=
  Text.readNatural? (greatestNumber + 1) (word.toList.dropWhile Text.isBlank)

/-- What comes of a command with an optional number. -/
def withNumber (machine : Machine) (arguments : List String) (default : Nat)
    (act : Nat → Response) : Response :=
  match arguments with
  | [] => act default
  | word :: _ =>
    match wordNumber? word with
    | some number => act number
    | none => machine.refuseNumber word

/-- What comes of a command with the switches in front of its arguments and the others. Letters in
`valued` have a value. -/
def withLetters (machine : Machine) (letters valued : String) (arguments : List String)
    (act : List (Char × String) → List String → Response) : Response :=
  let usage : Usage := { tool := "", flags := letters, valued := valued, permutes := false }
  let isLong (word : String) : Bool := "--".toList.isPrefixOf word.toList && word != "--"
  match (arguments.takeWhile fun word => word.toList.head? == some '-').find? isLong with
  | some _ => machine.refuse "Illegal option --"
  | none =>
    match Switches.readAll usage none arguments {} with
    | .ok switches => act switches.options switches.operands
    | .error (.unknownLetter letter) =>
      machine.refuse ("Illegal option -" ++ String.singleton letter)
    | .error (.noValue letter) =>
      machine.refuse ("No arg for -" ++ String.singleton letter ++ " option")
    | .error fault => machine.refuse fault.message

/-! ## Variables -/

/-- The machine with a value for a variable, unless the variable is a constant or no variable. -/
def assign? (machine : Machine) (name value : String) : Response :=
  if !isName name.toList then machine.refuse (name ++ ": bad variable name")
  else if machine.constants.contains name then machine.refuse (name ++ ": is read only")
  else .ok (machine.assign name value)

/-- A word that gives a value to a variable, in two parts. -/
def splitAssignment (word : String) : String × Option String :=
  match Text.splitFirst (· = '=') word.toList with
  | some (name, value) => (String.ofList name, some (String.ofList value))
  | none => (word, none)

/-- The machine after variables were declared, each of which gets its value before. -/
def declare (act : String → Machine → Machine) : List String → Machine → Response
  | [], machine => .ok (machine.answer 0)
  | word :: words, machine => do
    let (name, value) := splitAssignment word
    if !isName name.toList then machine.refuse (name ++ ": bad variable name")
    else
      let machine ←
        match value with
        | some value => machine.assign? name value
        | none => .ok machine
      declare act words (act name machine)

/-- Names of variables with their values as a command of the shell that sets them. -/
def declarations (machine : Machine) (command : String) (names : List String) : List String :=
  (names.mergeSort fun first second => first ≤ second).map fun name =>
    command ++ name ++
      ((machine.valueOf? name).map fun value => "=" ++ shellQuoted value).getD ""

/-- The machine after it wrote lines. -/
def sayLines (machine : Machine) (lines : List String) : Machine :=
  if lines.isEmpty then machine.answer 0
  else machine.say (Text.rawBytes (Text.joinWith "\n" lines ++ "\n"))

/-- The machine after variables were declared, or after the names of those that are were told. -/
def declareAll (machine : Machine) (command : String) (names : List String)
    (act : String → Machine → Machine) (arguments : List String) : Response :=
  machine.withLetters "p" "" arguments fun switches words =>
    if words.isEmpty || !switches.isEmpty then
      .ok (machine.sayLines (machine.declarations (command ++ " ") names))
    else declare act words machine

/-- The machine in which a variable gets its value back when the function is over. -/
def shadow (machine : Machine) (name : String) : Machine :=
  match machine.shadowed with
  | none => machine
  | some shadowed =>
    if shadowed.any fun entry => entry.1 == name then machine
    else { machine with shadowed := some ((name, machine.valueOf? name) :: shadowed) }

/-- The machine after variables became those of a function. -/
def localize (machine : Machine) (arguments : List String) : Response :=
  if machine.shadowed.isNone then machine.refuse "not in a function"
  else
    arguments.foldlM
      (fun machine word => do
        let (name, value) := splitAssignment word
        if !isName name.toList then machine.refuse (name ++ ": bad variable name")
        else
          match value with
          | some value => (machine.shadow name).assign? name value
          | none => .ok (machine.shadow name))
      (machine.answer 0)

/-- The machine without variables or functions. -/
def unset (machine : Machine) (arguments : List String) : Response :=
  machine.withLetters "fv" "" arguments fun switches names =>
    let isFunction := (switches.getLast?.map (·.1)) == some 'f'
    names.foldlM
      (fun machine name =>
        if isFunction then
          .ok { machine with
            functions := machine.functions.filter fun entry => entry.1 != name }
        else if !isName name.toList then machine.refuse (name ++ ": bad variable name")
        else if machine.constants.contains name then machine.refuse (name ++ ": is read only")
        else
          .ok { machine.forget name with
            exported := machine.exported.filter fun other => other != name })
      (machine.answer 0)

/-! ## Reading -/

/-- The characters of the line that was read, with whether a backslash stood before them, and the
bytes behind it if its end was there. -/
def readChars (keepsBackslashes : Bool) : (isEscaped : Bool) → List UInt8 →
    List (Char × Bool) × Option (List UInt8)
  | _, [] => ([], none)
  | isEscaped, byte :: rest =>
    if byte = 10 ∧ !isEscaped then ([], some rest)
    else if byte = 0 ∨ byte = 10 then readChars keepsBackslashes false rest
    else if byte = 92 ∧ !isEscaped ∧ !keepsBackslashes then readChars keepsBackslashes true rest
    else
      let (chars, behind) := readChars keepsBackslashes false rest
      ((Char.ofNat byte.toNat, isEscaped) :: chars, behind)

/-- The fields of a line for some variables. The last one gets all that is left, without the blanks
at its end, and without a separator behind a single field. -/
def fieldsOf (separators : List Char) : (count : Nat) → List (Char × Bool) → List String
  | 0, _ => []
  | count + 1, chars =>
    let divides (char : Char × Bool) : Bool := !char.2 && separators.contains char.1
    let isSpace (char : Char × Bool) : Bool := divides char && isSoft char.1
    let start := chars.dropWhile isSpace
    let (field, behind) := start.span fun char => !divides char
    let later :=
      match behind.dropWhile isSpace with
      | char :: rest => if divides char then rest.dropWhile isSpace else char :: rest
      | [] => []
    let textOf (chars : List (Char × Bool)) : String := String.ofList (chars.map (·.1))
    if count = 0 then
      if later.isEmpty then [textOf field]
      else [textOf ((start.reverse.dropWhile isSpace).reverse)]
    else textOf field :: fieldsOf separators count later

/-- The machine after a line was read into variables. -/
def readInto (machine : Machine) (arguments : List String) : Response :=
  machine.withLetters "r" "p" arguments fun switches names =>
    if names.isEmpty then machine.refuse "arg count"
    else
      let keeps := switches.any fun switch => switch.1 == 'r'
      let (content, left) :=
        match machine.input with
        | .bytes content isFile => (content, fun rest => Source.bytes rest isFile)
        | source => (source.all, fun _ => source)
      let (chars, behind) := readChars keeps false content
      let read := machine.leave 0 (left (behind.getD []))
      let read := if machine.input.isEndless && behind.isNone then read.exhaust else read
      let fields := fieldsOf machine.separators names.length chars
      (names.zip fields).foldlM (fun machine field => machine.assign? field.1 field.2)
        (read.answer (if behind.isSome then 0 else 1))

/-! ## Switches -/

/-- The letter of a switch with a name. -/
def switchOfName? (name : String) : Option Char :=
  (switchNames.find? fun switch => switch.2 == name).map (·.1)

/-- The switches and whether they are set. -/
def switchLines (machine : Machine) : List String :=
  "Current option settings" ::
    (switchNames.map fun switch =>
      String.ofList (switch.2.toList ++ List.replicate (16 - switch.2.length) ' ') ++
        if machine.has switch.1 then "on" else "off")

/-- The machine with the switches of letters, and the words behind those that were used. -/
def setLetters (sign : Char) : List Char → List String → Machine →
    Except (String × Machine) (List String × Machine)
  | [], words, machine => .ok (words, machine)
  | letter :: letters, words, machine =>
    let isSet := sign == '-'
    let illegal (shown : String) : Except (String × Machine) (List String × Machine) :=
      .error ("Illegal option " ++ shown, machine)
    if letter = 'o' then
      match words with
      | [] => setLetters sign letters [] (machine.sayLines machine.switchLines)
      | name :: words =>
        match switchOfName? name with
        | some switch => setLetters sign letters words (machine.withSwitch switch isSet)
        | none => illegal (String.ofList [sign, 'o'] ++ " " ++ name)
    else if (switchNames.map (·.1)).contains letter then
      setLetters sign letters words (machine.withSwitch letter isSet)
    else illegal (String.ofList [sign, letter])

/-- The machine with the switches in front of words, and the words behind them, with whether these
are arguments even if there are none. -/
def setSwitches : (bound : Nat) → List String → Machine →
    Except (String × Machine) (List String × Bool × Machine)
  | 0, words, machine => .ok (words, false, machine)
  | _, [], machine => .ok ([], false, machine)
  | bound + 1, word :: words, machine =>
    match word.toList with
    | ['-', '-'] => .ok (words, true, machine)
    | ['-'] => .ok (words, !words.isEmpty, machine)
    | '-' :: letters => do
      let (words, machine) ← setLetters '-' letters words machine
      setSwitches bound words machine
    | '+' :: letters => do
      let (words, machine) ← setLetters '+' letters words machine
      setSwitches bound words machine
    | _ => .ok (word :: words, true, machine)

/-- The machine with the switches and arguments that words set. -/
def configure (machine : Machine) (words : List String) : Response := do
  if words.isEmpty then .ok (machine.sayLines (machine.declarations "" (machine.values.map (·.1))))
  else
    let (arguments, replaces, machine) ← setSwitches words.length words (machine.answer 0)
    .ok (if replaces then { machine with arguments := arguments } else machine)

/-- The machine after the next option among its arguments was given to a variable. -/
def nextOption (machine : Machine) (arguments : List String) : Response :=
  match arguments with
  | pattern :: name :: given =>
    let words := if given.isEmpty then machine.arguments else given
    let start := ((machine.valueOf? "OPTIND").bind wordNumber?).getD 1
    let spot := if machine.optionSpot.1 = start then machine.optionSpot.2 else none
    let isQuiet := pattern.toList.head? == some ':'
    let current := (words[start - 2]?).getD ""
    let inWord : Option (List Char) :=
      match spot with
      | some offset =>
        let rest := current.toList.drop offset
        if start ≤ 1 || rest.isEmpty then none else some rest
      | none => none
    let finishAt (index : Nat) (offset : Option Nat) (letter : Char) (value : Option String)
        (status : Nat) (machine : Machine) : Response := do
      let machine := match value with
        | some value => machine.restore "OPTARG" (some value)
        | none => machine.forget "OPTARG"
      let machine := machine.restore "OPTIND" (some (toString index))
      let machine ← machine.assign? name (String.singleton letter)
      .ok { machine.answer status with optionSpot := (index, offset) }
    let keepValue := machine.valueOf? "OPTARG"
    let found : Except Nat (List Char × Nat) :=
      match inWord with
      | some rest => .ok (rest, start)
      | none =>
        match ((words[start - 1]?).getD "").toList with
        | ['-', '-'] => .error (start + 1)
        | '-' :: letter :: rest => .ok (letter :: rest, start + 1)
        | _ => .error start
    match found with
    | .error index => finishAt index none '?' keepValue 1 machine
    | .ok ([], index) => finishAt index none '?' keepValue 1 machine
    | .ok (letter :: rest, index) =>
      let offset :=
        if rest.isEmpty then none
        else some (((words[index - 2]?).getD "").length - rest.length)
      let kind := (pattern.toList.dropWhile (· = ':')).dropWhile (· ≠ letter)
      match if letter = ':' then [] else kind with
      | [] =>
        if isQuiet then finishAt index offset '?' (some (String.singleton letter)) 0 machine
        else
          finishAt index offset '?' none 0
            (machine.put 2 (Text.rawBytes
              ("Illegal option -" ++ String.singleton letter ++ "\n")))
      | _ :: ':' :: _ =>
        if !rest.isEmpty then finishAt index none letter (some (String.ofList rest)) 0 machine
        else
          match words[index - 1]? with
          | some value => finishAt (index + 1) none letter (some value) 0 machine
          | none =>
            if isQuiet then finishAt index none ':' (some (String.singleton letter)) 0 machine
            else
              finishAt index none '?' none 0
                (machine.put 2 (Text.rawBytes
                  ("No arg for -" ++ String.singleton letter ++ " option\n")))
      | _ => finishAt index offset letter (some "") 0 machine
  | _ => machine.refuse "Usage: getopts optstring var [arg...]"

/-! ## Signals and jobs -/

/-- The machine with a script for the time of some signals. -/
def trap (machine : Machine) (arguments : List String) : Response :=
  machine.withLetters "" "" arguments fun _ words =>
    match words with
    | [] =>
      let planned := signals.filterMap fun signal =>
        (machine.action? signal.name).map fun action =>
          "trap -- " ++ shellQuoted action ++ " " ++ signal.name
      .ok ((machine.sayLines planned).answer 0)
    | word :: others =>
      let isSignal := (Text.readNatural? 65 word.toList).isSome && !word.isEmpty
      let (action, names) :=
        if others.isEmpty || isSignal then (none, word :: others)
        else (if word = "-" then none else some word, others)
      .ok (names.foldl
        (fun machine name =>
          if machine.status != 0 then machine
          else
            match signal? name with
            | some signal => machine.plan [signal.name] action
            | none =>
              (machine.put 2 (Text.rawBytes ("trap: " ++ name ++ ": bad trap\n"))).answer 1)
        (machine.answer 0))

/-- The machine after a signal to some processes. -/
def sendTo (again : Runner) (signal : String) : List String → Machine → Machine
  | [], machine => machine
  | process :: others, machine =>
    let after :=
      match process.toList, wordNumber? process with
      | '%' :: _, _ => (machine.complain ("No such job: " ++ process)).answer 2
      | _, none =>
        let shown :=
          match process.toList with
          | '-' :: digits => String.ofList digits
          | _ => process
        (machine.complain ("Illegal number: " ++ shown)).answer 2
      | _, some number =>
        if number = machine.process ∧ machine.gone ≠ some number then
          if machine.isPart then { machine with pending := signal :: machine.pending }
          else machine.receive again signal
        else if machine.companions.any fun companion =>
            companion.number == number && !machine.hasBuried companion then
          machine.signalCompanion again number signal
        else (machine.complain "No such process\n").answer 1
    if after.flow = .onward then sendTo again signal others after else after

/-- The names of all signals. -/
def signalNames : List String :=
  "0" :: (signals.drop 1).map Signal.name

/-- The machine after it told the name of the signal of a number or a status. -/
def tellSignal (machine : Machine) : List String → Response
  | [] => .ok (machine.sayLines signalNames)
  | word :: _ =>
    match wordNumber? word with
    | none => machine.refuseNumber word
    | some number =>
      let wanted := if 128 < number then number - 128 else number
      match signals.find? fun signal => signal.number == wanted && wanted != 0 with
      | some signal => .ok (machine.sayLine signal.name)
      | none => machine.refuse ("invalid signal number or exit status: " ++ word)

/-- The machine after a signal that arguments describe. -/
def kill (again : Runner) (machine : Machine) (arguments : List String) : Response :=
  let send (signal : String) (processes : List String) : Response :=
    if processes.isEmpty then
      machine.refuse ("Usage: kill [-s sigspec | -signum | -sigspec] [pid | job]... or\n" ++
        "kill -l [exitstatus]")
    else .ok (sendTo again signal processes (machine.answer 0))
  let named (word : String) (processes : List String) : Response :=
    match signal? word with
    | some signal => send signal.name processes
    | none => machine.refuse ("invalid signal number or name: " ++ word)
  match arguments with
  | "--" :: processes => send "TERM" processes
  | "-l" :: words => machine.tellSignal words
  | ["-s"] => machine.refuse "No arg for -s option"
  | "-s" :: word :: processes => named word processes
  | word :: processes =>
    match word.toList with
    | '-' :: letter :: letters =>
      let processes := if processes.head? = some "--" then processes.tail else processes
      match signal? (String.ofList (letter :: letters)) with
      | some signal => send signal.name processes
      | none =>
        if letter = 's' then named (String.ofList letters) processes
        else machine.refuse ("Illegal option -" ++ String.singleton letter)
    | _ => send "TERM" (word :: processes)
  | [] => send "TERM" []

/-- The machine after jobs were waited for. A signal that the script does not ignore wakes it. -/
def awaitJobs (again : Runner) (numbers : List Nat) (machine : Machine) : Machine :=
  let waking? (machine : Machine) : Option String :=
    if machine.isPart then none
    else machine.pending.find? fun signal => machine.action? signal != some ""
  let isDone (machine : Machine) : Bool :=
    (waking? machine).isSome || machine.companions.all fun companion =>
      companion.hasEnded || !numbers.contains companion.number
  let ended := machine.waitedFor again isDone machine.limit
  let waited := { ended with
    burial := if ended.isCompanion then ended.burial else ended.milliseconds + 1
    awaited := numbers ++ ended.awaited }
  match waking? waited with
  | some signal =>
    { waited.receiveAll again with status := 128 + numberOfSignal signal }
  | none => waited.answer 0

/-- The machine after the job of a number was waited for, with the status of the job. -/
def awaitJob (again : Runner) (number : Nat) (machine : Machine) : Machine :=
  let waited := machine.awaitJobs again [number]
  match waited.companions.find? fun companion => companion.number == number with
  | none => waited.answer 127
  | some companion =>
    if !companion.hasEnded then waited
    else
      let account := (companion.shell.finalSignal?.bind accountOf?).toList
      let told := account.foldl
        (fun machine text => machine.put 2 (Text.rawBytes (text ++ "\n"))) waited
      (told.withCompanion companion.settled).answer companion.shell.finalStatus

/-- The machine after all jobs were waited for. -/
def awaitAll (again : Runner) (machine : Machine) : Machine :=
  let waited := machine.awaitJobs again machine.jobs
  { waited with
    companions := waited.companions.map fun companion =>
      if companion.hasEnded && machine.jobs.contains companion.number then companion.settled
      else companion }

/-- The machine after jobs were waited for, all if none is named. -/
def await (again : Runner) (machine : Machine) (arguments : List String) : Response :=
  if arguments.isEmpty then .ok (machine.awaitAll again)
  else
    arguments.foldlM
      (fun machine word =>
        match word.toList, wordNumber? word with
        | '%' :: _, _ => machine.refuse ("No such job: " ++ word)
        | _, none => machine.refuseNumber word
        | _, some number =>
          .ok (if machine.jobs.contains number then machine.awaitJob again number
            else machine.answer 127))
      machine

/-! ## Folders -/

/-- The path of the working folder as the script knows it. -/
def herePath (machine : Machine) : String :=
  let place := "/" ++ Text.joinWith "/" machine.files.here
  match machine.valueOf? "PWD" with
  | some path =>
    if Path.isAbsolute path && (machine.files.folderPlace path).toOption == some machine.files.here
    then path else place
  | none => place

/-- A path from the root without dots, each of which stands for what is before it. -/
def settledPath (path : String) : String :=
  let parts := (Path.parts path).foldl
    (fun parts part => if part = ".." then parts.dropLast else parts ++ [part]) []
  "/" ++ Text.joinWith "/" parts

/-- The machine in another working folder. -/
def enter (machine : Machine) (arguments : List String) : Response :=
  machine.withLetters "LP" "" arguments fun switches words =>
    let wanted := words.head?.getD ((machine.valueOf? "HOME").getD "")
    let (target, isTold) :=
      if wanted = "-" then ((machine.valueOf? "OLDPWD").getD "", true) else (wanted, false)
    let before := machine.herePath
    let isPlain := (switches.getLast?.map (·.1)) == some 'P'
    let path :=
      if target.isEmpty then before
      else if isPlain then target
      else
        settledPath (if Path.isAbsolute target then target else before ++ "/" ++ target)
    match machine.files.folderPlace path with
    | .error _ => machine.refuse ("can't cd to " ++ target)
    | .ok place =>
      let moved := { machine with files := { machine.files with here := place } }
      let known := if isPlain then "/" ++ Text.joinWith "/" place else path
      let named := (moved.restore "OLDPWD" (some before)).restore "PWD" (some known)
      let named := (named.share "OLDPWD").share "PWD"
      .ok (if isTold then named.sayLine known else named.answer 0)

/-! ## Names of commands -/

/-- The folders in which programs are looked for. -/
def programFolders (machine : Machine) : String := (machine.valueOf? "PATH").getD ""

/-- What a command of some name is, and how it is told in short. -/
def describeCommand? (machine : Machine) (name : String) : Option (String × String) :=
  if keywords.contains name then some ("a shell keyword", name)
  else if specials.contains name then some ("a special shell builtin", name)
  else if machine.functions.any fun entry => entry.1 == name then
    some ("a shell function", name)
  else if isBuiltin name then some ("a shell builtin", name)
  else if name.toList.contains '/' then
    if hasEntry machine.files name then some (name, name) else none
  else (findProgram? machine.files machine.programFolders name).map fun path => (path, path)

/-- The machine after it told what commands are. -/
def tellCommands (machine : Machine) (names : List String) : Machine :=
  let lines := names.map fun name =>
    name ++ ((machine.describeCommand? name).map fun found => " is " ++ found.1).getD ": not found"
  let areAll := names.all fun name => (machine.describeCommand? name).isSome
  let told := machine.sayLines lines
  if told.status = 0 ∧ !areAll then told.answer 127 else told

/-! ## Other commands -/

/-- The machine with the verdict on a condition as its status. -/
def condition (machine : Machine) (words : List String) : Response :=
  match judge machine.files words with
  | .ok holds => .ok (machine.answer (if holds then 0 else 1))
  | .error reason => machine.refuse reason

/-- The machine after a format and its arguments were written. -/
def writeFormatted (machine : Machine) (arguments : List String) : Response :=
  machine.withLetters "" "" arguments fun _ words =>
    match words with
    | [] => machine.refuse "usage: printf format [arg ...]"
    | pattern :: given =>
      let (written, _) := formatted .format .argument pattern given
      let told := written.complaints.foldl (fun machine text => machine.complain text) machine
      let status :=
        if written.broken.isSome then 2 else if written.faults.isEmpty then 0 else 1
      .ok (told.say written.content status)

/-- The machine with other permissions for new files, or after it told which these are. -/
def changeMask (machine : Machine) (arguments : List String) : Response :=
  machine.withLetters "S" "" arguments fun switches words =>
    let octal (value : Nat) : String :=
      String.ofList ((List.replicate 4 '0' ++ Nat.toDigits 8 value).reverse.take 4).reverse
    match words with
    | [] =>
      if switches.isEmpty then .ok (machine.sayLine (octal machine.mask))
      else
        let rights (shift : Nat) : String :=
          let bits := machine.mask / Nat.pow 8 shift % 8
          String.ofList ([('r', 4), ('w', 2), ('x', 1)].filterMap fun (letter, bit) =>
            if bits / bit % 2 = 0 then some letter else none)
        .ok (machine.sayLine ("u=" ++ rights 2 ++ ",g=" ++ rights 1 ++ ",o=" ++ rights 0))
    | word :: _ =>
      if word.toList.head?.any Text.isDigit then
        if word.toList.all fun char => (octalValue? char).isSome then
          let value := word.toList.foldl
            (fun value char => value * 8 + (octalValue? char).getD 0) 0
          .ok { machine.answer 0 with mask := value % 512 }
        else machine.refuseNumber word
      else if word.toList.any fun char => "=+-".toList.contains char then .ok (machine.answer 0)
      else machine.refuse ("Illegal mode: " ++ word)

/-- The machine after the course of the script was changed. -/
def leaveLoops (machine : Machine) (arguments : List String) (flow : Nat → Flow) : Response :=
  machine.withNumber arguments 1 fun count =>
    if count = 0 then machine.refuseNumber (arguments.head?.getD "")
    else if machine.loops = 0 then .ok (machine.answer 0)
    else .ok { machine.answer 0 with flow := flow (min count machine.loops) }

/-- What comes of a command of the shell that runs no other command; none if there is no such
command. -/
def builtin? (again : Runner) (name : String) (arguments : List String) (machine : Machine) :
    Option Response :=
  match name with
  | ":" | "true" => some (.ok (machine.answer 0))
  | "false" => some (.ok (machine.answer 1))
  | "echo" => some (.ok (machine.say (spoken arguments)))
  | "printf" => some (machine.writeFormatted arguments)
  | "test" => some (machine.condition arguments)
  | "[" =>
    some (if arguments.getLast? = some "]" then machine.condition arguments.dropLast
      else machine.refuse "missing ]")
  | "exit" =>
    some (machine.withNumber arguments machine.status fun code =>
      .ok (machine.answer (code % 256)).finish)
  | "return" =>
    some (machine.withNumber arguments machine.status fun code =>
      .ok { machine.answer code with flow := .returning })
  | "break" => some (machine.leaveLoops arguments .breaking)
  | "continue" => some (machine.leaveLoops arguments .continuing)
  | "shift" =>
    some (machine.withNumber arguments 1 fun count =>
      if machine.arguments.length < count then machine.refuse "can't shift that many"
      else .ok { machine.answer 0 with arguments := machine.arguments.drop count })
  | "set" => some (machine.configure arguments)
  | "trap" => some (machine.trap arguments)
  | "unset" => some (machine.unset arguments)
  | "export" =>
    some (machine.declareAll name machine.exported (fun name machine => machine.share name)
      arguments)
  | "readonly" =>
    some (machine.declareAll name machine.constants
      (fun name machine => { machine with constants := name :: machine.constants.erase name })
      arguments)
  | "local" => some (machine.localize arguments)
  | "read" => some (machine.readInto arguments)
  | "getopts" => some (machine.nextOption arguments)
  | "kill" => some (kill again machine arguments)
  | "wait" => some (machine.withLetters "" "" arguments fun _ words => machine.await again words)
  | "cd" | "chdir" => some (machine.enter arguments)
  | "pwd" =>
    some (machine.withLetters "LP" "" arguments fun switches _ =>
      .ok (machine.sayLine
        (if (switches.getLast?.map (·.1)) == some 'P' then
          "/" ++ Text.joinWith "/" machine.files.here
        else machine.herePath)))
  | "type" => some (.ok (machine.tellCommands arguments))
  | "umask" => some (machine.changeMask arguments)
  | "ulimit" =>
    some (.ok (if arguments.any fun word => word.toList.head? != some '-' then machine.answer 0
      else machine.sayLine "unlimited"))
  | "times" => some (.ok (machine.sayLines ["0m0.000000s 0m0.000000s", "0m0.000000s 0m0.000000s"]))
  | "hash" =>
    some (machine.withLetters "rv" "" arguments fun _ words =>
      match words.filter fun word => (machine.describeCommand? word).isNone with
      | [] => .ok (machine.answer 0)
      | missing =>
        .ok ((missing.foldl (fun machine word => machine.complain (word ++ ": not found"))
          machine).answer 1))
  | "jobs" | "alias" | "unalias" => some (.ok (machine.answer 0))
  | "fg" | "bg" => some (machine.refuse "No current job")
  | _ => none

end Machine

end ShapeScene.Script
