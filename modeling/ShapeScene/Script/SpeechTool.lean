import ShapeScene.Script.Condition
import ShapeScene.Script.Deed
import ShapeScene.Script.Formatted

/-!
# Tools that say something

What these tools write comes from their arguments, from settings, or from what is known of the
system; they read no files.
-/

namespace ShapeScene.Script

/-! ## Echoes -/

/-- The switches in front of what is to be echoed: whether escapes are resolved, and whether the
line is ended. -/
def splitEchoSwitches : (resolves endsLine : Bool) → List String → Bool × Bool × List String
  | resolves, endsLine, [] => (resolves, endsLine, [])
  | resolves, endsLine, word :: words =>
    match word.toList with
    | '-' :: letter :: letters =>
      if (letter :: letters).all "neE".toList.contains then
        let last := (letter :: letters).reverse.find? fun letter => letter == 'e' || letter == 'E'
        splitEchoSwitches ((last.map (· == 'e')).getD resolves)
          (endsLine && !(letter :: letters).contains 'n') words
      else (resolves, endsLine, word :: words)
    | _ => (resolves, endsLine, word :: words)

/-- The arguments in a line. -/
def echoArguments (bench : Bench) (arguments : List String) : Deed :=
  let (resolves, endsLine, words) := splitEchoSwitches false true arguments
  if resolves then .said bench (echoed (.tool false) endsLine words)
  else
    .said bench (Text.rawBytes (Text.joinWith " " words) ++ if endsLine then [10] else [])

/-- What a format makes of the arguments. -/
def formatArguments (bench : Bench) (arguments : List String) : Deed :=
  match if arguments.head? = some "--" then arguments.tail else arguments with
  | [] => missingOperand bench "printf"
  | pattern :: given =>
    let (written, left) := formatted (.tool true) (.tool false) pattern given
    let fault (entry : String × NumberFault) : String :=
      "printf: " ++ quoted entry.1 ++
        match entry.2 with
        | .noNumber => ": expected a numeric value"
        | .moreBehind => ": value not completely converted"
        | .tooLarge => ": Numerical result out of range"
    let faults := written.faults.filter fun entry => !entry.1.isEmpty
    let told := faults.foldl (fun (deed : Deed) entry => deed.fail (fault entry)) (.idle bench 0)
    let said := told.say written.content
    match written.broken, left with
    | some directive, _ =>
      let shown := if directive.isEmpty then "%" else directive
      said.fail ("printf: " ++ shown ++ ": invalid conversion specification")
    | none, [] => said
    | none, extra :: _ =>
      if written.isOver then said
      else
        said.warn ("printf: warning: ignoring excess arguments, starting with " ++ quoted extra)

/-- A line again and again. -/
def repeatLine (bench : Bench) (arguments : List String) : Deed :=
  let usage : Usage := { tool := "yes" }
  usage.with bench arguments fun switches =>
    let line := Text.rawBytes (Text.joinWith " " (switches.operandsOr ["y"]) ++ "\n")
    ((Deed.idle bench 0).say (repeated line endlessSize)).stuck

/-! ## Conditions -/

/-- The status of the verdict on a condition. -/
def testCondition (bench : Bench) (name : String) (arguments : List String) : Deed :=
  match judge bench.files arguments with
  | .ok holds => .idle bench (if holds then 0 else 1)
  | .error reason => .refused bench (name ++ ": " ++ reason) 2

/-- The status of the verdict on a condition between brackets. -/
def testBracketed (bench : Bench) (arguments : List String) : Deed :=
  if arguments.getLast? = some "]" then testCondition bench "[" arguments.dropLast
  else .refused bench "[: missing ']'" 2

/-! ## Settings -/

/-- A variable with its value in a line. -/
def settingLine (setting : String × String) : String := setting.1 ++ "=" ++ setting.2

/-- The values of variables. -/
def showSettings (bench : Bench) (arguments : List String) : Deed :=
  let usage : Usage := { tool := "printenv", flags := "0", long := [("--null", '0')], status := 2 }
  usage.with bench arguments fun switches =>
    let ending := if switches.has '0' then "\x00" else "\n"
    let tell (deed : Deed) (line : String) : Deed := deed.say (Text.rawBytes (line ++ ending))
    match switches.operands with
    | [] => (bench.settings.map settingLine).foldl tell (.idle bench 0)
    | names =>
      let values := names.filterMap bench.setting?
      (values.foldl tell (.idle bench 0)).withStatus
        (if values.length = names.length then 0 else 1)

/-! ## The system -/

/-- The place of the working folder. -/
def tellFolder (bench : Bench) (arguments : List String) : Deed :=
  let usage : Usage :=
    { tool := "pwd", flags := "LP", long := [("--logical", 'L'), ("--physical", 'P')] }
  usage.with bench arguments fun switches =>
    let place := "/" ++ Text.joinWith "/" bench.files.here
    let told :=
      if switches.operands.isEmpty then Deed.idle bench 0
      else (Deed.idle bench 0).warn "pwd: ignoring non-option arguments"
    told.sayLine place

/-- What is known of the user. -/
def tellUser (bench : Bench) (arguments : List String) : Deed :=
  let usage : Usage :=
    { tool := "id", flags := "ugGnr",
      long := [("--user", 'u'), ("--group", 'g'), ("--groups", 'G'), ("--name", 'n'),
        ("--real", 'r')] }
  usage.with bench arguments fun switches =>
    match switches.lastOf "ugG" with
    | some _ => (Deed.idle bench 0).sayLine (if switches.has 'n' then "root" else "0")
    | none => (Deed.idle bench 0).sayLine "uid=0(root) gid=0(root) groups=0(root)"

/-- The name of the user. -/
def tellUserName (bench : Bench) (arguments : List String) : Deed :=
  let usage : Usage := { tool := "whoami" }
  usage.with bench arguments fun switches =>
    match switches.operands with
    | [] => (Deed.idle bench 0).sayLine "root"
    | extra :: _ => extraOperand bench "whoami" extra

/-- What is known of the machine. -/
def tellSystem (bench : Bench) (arguments : List String) : Deed :=
  let usage : Usage :=
    { tool := "uname", flags := "smo",
      long := [("--kernel-name", 's'), ("--machine", 'm'), ("--operating-system", 'o')] }
  usage.with bench arguments fun switches =>
    match switches.operands with
    | [] =>
      let facts := [('s', "Linux"), ('m', "x86_64"), ('o', "GNU/Linux")]
      let asked := facts.filter fun fact => switches.has fact.1
      (Deed.idle bench 0).sayLine
        (if asked.isEmpty then "Linux" else Text.joinWith " " (asked.map (·.2)))
    | extra :: _ => extraOperand bench "uname" extra

end ShapeScene.Script
