import ShapeScene.Storage.FileTree
import ShapeScene.Text.Raw
import ShapeScene.Text.Search

/-!
# Deeds of tools

A tool finds its input, the files and some settings on a bench. What it does is a deed: the bench
afterwards, what it wrote, its status, and the time it took. All texts are raw.
-/

namespace ShapeScene.Script

/-! ## Sources -/

/-- What is left to read. -/
inductive Source where
  /-- Some bytes. Those of a file can be read again. -/
  | bytes (content : List UInt8) (isFile : Bool := false)
  /-- Some bytes again and again. -/
  | endless (content : List UInt8)
  /-- A folder, which cannot be read. -/
  | folder
  /-- Nothing, since nothing was opened. -/
  | closed
deriving DecidableEq, Repr

/-- The number of bytes behind which a source without end is cut where all of it is asked for.
Whoever asks so much has stopped reading before. -/
def endlessSize : Nat := 262144

/-- The first bytes of bytes that come again and again. -/
def repeated (content : List UInt8) (count : Nat) : List UInt8 :=
  if content.isEmpty then []
  else ((List.replicate (count / content.length + 1) content).flatten).take count

namespace Source

/-- The first bytes, and what is left behind them. -/
def take (count : Nat) : Source → List UInt8 × Source
  | bytes content isFile => (content.take count, bytes (content.drop count) isFile)
  | endless content =>
    let cut := count % content.length
    (repeated content count, endless (content.drop cut ++ content.take cut))
  | source => ([], source)

/-- All bytes of a source. -/
def all : Source → List UInt8
  | bytes content _ => content
  | endless content => repeated content endlessSize
  | folder | closed => []

/-- What is left when all was read. -/
def drained : Source → Source
  | bytes _ isFile => bytes [] isFile
  | source => source

/-- Whether reading comes to no end. -/
def isEndless : Source → Bool
  | endless _ => true
  | _ => false

/-- All bytes of a source that can be read. -/
def content : Source → Except IoFailure (List UInt8)
  | folder => .error .isFolder
  | closed => .error .notOpen
  | source => .ok source.all

end Source

/-- What the files have at a path. -/
def Source.ofPath (files : FileTree) (path : String) : Except IoFailure Source :=
  match files.entry? path with
  | some (.device .null) => .ok (.bytes [])
  | some (.device _) => .ok (.endless [0])
  | _ => if files.isFolder path then .ok .folder else (files.read path).map (.bytes · true)

/-- The paths that name standard input. -/
def inputPaths : List String := ["/dev/stdin", "/dev/fd/0", "/proc/self/fd/0"]

/-- Whether something is at a path. -/
def hasEntry (files : FileTree) (path : String) : Bool :=
  (files.entry? path).isSome || files.isFolder path

/-- The paths that name the streams for writing. -/
def outputPaths : List (String × Nat) :=
  [("/dev/stdout", 1), ("/dev/stderr", 2), ("/dev/fd/1", 1), ("/dev/fd/2", 2),
    ("/proc/self/fd/1", 1), ("/proc/self/fd/2", 2)]

/-- The stream for writing that a path names. -/
def outputStream? (path : String) : Option Nat :=
  (outputPaths.find? fun entry => entry.1 == path).map (·.2)

/-! ## Benches -/

/-- What a tool works with. -/
structure Bench where
  /-- Its standard input. -/
  input : Source
  /-- The files. -/
  files : FileTree
  /-- The variables that it knows. -/
  settings : List (String × String) := []
  /-- Whether it waits for an end that does not come. -/
  isStuck : Bool := false

namespace Bench

/-- The source that a path names. A dash stands for the input. -/
def source (bench : Bench) (path : String) : Except IoFailure Source :=
  if path = "-" ∨ inputPaths.contains path then .ok bench.input
  else Source.ofPath bench.files path

/-- The bench on which the input is what is left of it. -/
def leave (bench : Bench) (path : String) (left : Source) : Bench :=
  if path = "-" ∨ inputPaths.contains path then { bench with input := left } else bench

/-- All bytes that a path names, and the bench afterwards. -/
def read (bench : Bench) (path : String) : Except IoFailure (List UInt8) × Bench :=
  match bench.source path with
  | .error failure => (.error failure, bench)
  | .ok source =>
    (source.content,
      { bench.leave path source.drained with isStuck := bench.isStuck || source.isEndless })

/-- The value of a variable. -/
def setting? (bench : Bench) (name : String) : Option String :=
  (bench.settings.find? fun entry => entry.1 == name).map (·.2)

end Bench

/-! ## Deeds -/

/-- What a tool did. -/
structure Deed where
  /-- The bench afterwards. -/
  bench : Bench
  /-- The status; zero stands for success. -/
  status : Nat := 0
  /-- What it wrote, each piece with its stream; the last one first. -/
  written : List (Nat × List UInt8) := []
  /-- The time it took in milliseconds. -/
  milliseconds : Nat := 0

namespace Deed

/-- A deed without effect. -/
def idle (bench : Bench) (status : Nat) : Deed := { bench := bench, status := status }

/-- The deed after more bytes on standard output. -/
def say (deed : Deed) (content : List UInt8) : Deed :=
  { deed with written := (1, content) :: deed.written }

/-- The deed after a line on standard output. -/
def sayLine (deed : Deed) (line : String) : Deed := deed.say (Text.rawBytes (line ++ "\n"))

/-- The deed after a line on standard error. -/
def warn (deed : Deed) (message : String) : Deed :=
  { deed with written := (2, Text.rawBytes (message ++ "\n")) :: deed.written }

/-- The deed after a line on standard error, with a status that is no success. -/
def fail (deed : Deed) (message : String) (status : Nat := 1) : Deed :=
  { deed.warn message with status := max deed.status status }

/-- The deed with other files. -/
def withFiles (deed : Deed) (files : FileTree) : Deed :=
  { deed with bench := { deed.bench with files := files } }

/-- The deed with a status. -/
def withStatus (deed : Deed) (status : Nat) : Deed := { deed with status := status }

/-- The deed of a tool that goes on without end. -/
def stuck (deed : Deed) : Deed := { deed with bench := { deed.bench with isStuck := true } }

/-- A deed that wrote on standard output. -/
def said (bench : Bench) (content : List UInt8) : Deed := (idle bench 0).say content

/-- A deed that failed with a message. -/
def refused (bench : Bench) (message : String) (status : Nat := 1) : Deed :=
  (idle bench 0).fail message status

/-- What was written on a stream. -/
def outputOf (deed : Deed) (stream : Nat) : List UInt8 :=
  (deed.written.reverse.filter fun piece => piece.1 == stream).flatMap (·.2)

/-- The deed of a tool that keeps its output until its end. -/
def buffered (deed : Deed) : Deed :=
  { deed with
    written := [(1, deed.outputOf 1), (2, deed.outputOf 2)] }

/-- The deed after all that a path names was read. -/
def read (deed : Deed) (path : String) : Except IoFailure (List UInt8) × Deed :=
  let (content, bench) := deed.bench.read path
  (content, { deed with bench := bench })

/-- The deed after bytes were written to what a path names, in the place of what it holds. -/
def write (deed : Deed) (path : String) (content : List UInt8) : Except IoFailure Deed :=
  match outputStream? path with
  | some stream => .ok { deed with written := (stream, content) :: deed.written }
  | none => (deed.bench.files.write path content).map deed.withFiles

end Deed

/-! ## Names of tools -/

/-- A text in which `name` stands in the place of the name of a tool where a line begins with it
or gives advice about it. -/
def calledBy (tool name : String) (text : String) : String :=
  let rename (line : List Char) : List Char :=
    let replaced (before : String) : Option (List Char) :=
      let front := (before ++ tool).toList
      if front.isPrefixOf line then some (before.toList ++ name.toList ++ line.drop front.length)
      else none
    match replaced "Try '", replaced "Usage: " with
    | some line, _ | none, some line => line
    | none, none => if (tool ++ ":").toList.isPrefixOf line then (replaced "").getD line else line
  String.ofList (['\n'].intercalate ((text.toList.splitOn '\n').map rename))

/-- The deed of a tool that was called by another name. -/
def Deed.calledBy (deed : Deed) (tool name : String) : Deed :=
  if tool = name then deed
  else
    { deed with
      written := deed.written.map fun (stream, content) =>
        (stream,
          if stream = 2 then Text.rawBytes (Script.calledBy tool name (Text.raw content))
          else content) }

/-! ## Arguments -/

/-- A text in quotes that it does not have in itself. -/
def quoted (text : String) : String :=
  if text.toList.contains '\'' then "\"" ++ text ++ "\"" else "'" ++ text ++ "'"

/-- Whether a character makes quotes necessary around a name in a message. -/
def needsQuotes (char : Char) : Bool := " !\"$&'()*:;<=>?[\\^\x60|\t\n".toList.contains char

/-- A name as a message shows it: in quotes only if a shell would misread it without them. -/
def shownName (name : String) : String :=
  let misread :=
    match name.toList with
    | [] | ['\x7b'] | ['\x7d'] | '#' :: _ | '~' :: _ => true
    | chars => chars.any needsQuotes
  if misread then quoted name else name

/-- The advice that follows a wrong use of a tool. -/
def advice (tool : String) : String := "\nTry '" ++ tool ++ " --help' for more information."

/-- A refusal with the advice how to use a tool. -/
def misused (bench : Bench) (tool message : String) (status : Nat := 1) : Deed :=
  .refused bench (tool ++ ": " ++ message ++ advice tool) status

/-- A refusal for want of an argument. -/
def missingOperand (bench : Bench) (tool : String) (what : String := "operand") : Deed :=
  misused bench tool ("missing " ++ what)

/-- A refusal of an argument that is one too many. -/
def extraOperand (bench : Bench) (tool operand : String) : Deed :=
  misused bench tool ("extra operand " ++ quoted operand)

/-- The switches and options of a tool. -/
structure Usage where
  /-- The name of the tool. -/
  tool : String
  /-- The letters that stand alone. -/
  flags : String := ""
  /-- The letters with a value. -/
  valued : String := ""
  /-- The letters whose value, if there is one, stands in the same argument. -/
  attached : String := ""
  /-- The letters that stand for long words. -/
  long : List (String × Char) := []
  /-- Whether switches may stand behind operands. -/
  permutes : Bool := true
  /-- The status of a refusal. -/
  status : Nat := 1
deriving DecidableEq, Repr

/-- The switches, options and operands among some arguments. -/
structure Switches where
  /-- The switches and options with their values, in order. -/
  options : List (Char × String) := []
  /-- The other arguments. -/
  operands : List String := []
deriving DecidableEq, Repr

namespace Switches

/-- Whether a switch is set. -/
def has (switches : Switches) (letter : Char) : Bool :=
  switches.options.any fun option => option.1 == letter

/-- The last value of an option. -/
def value? (switches : Switches) (letter : Char) : Option String :=
  (switches.options.reverse.find? fun option => option.1 == letter).map (·.2)

/-- All values of an option. -/
def values (switches : Switches) (letter : Char) : List String :=
  switches.options.filterMap fun option => if option.1 = letter then some option.2 else none

/-- The last of some switches that is set. -/
def lastOf (switches : Switches) (letters : String) : Option Char :=
  (switches.options.reverse.find? fun option => letters.toList.contains option.1).map (·.1)

/-- The switches and options with one more. -/
def add (switches : Switches) (letter : Char) (value : String) : Switches :=
  { switches with options := switches.options ++ [(letter, value)] }

/-- The operands, or those that stand for none. -/
def operandsOr (switches : Switches) (default : List String) : List String :=
  if switches.operands.isEmpty then default else switches.operands

/-- What is wrong with the arguments of a tool. -/
inductive Fault where
  /-- A letter means nothing. -/
  | unknownLetter (letter : Char)
  /-- A long word means nothing. -/
  | unknownWord (word : String)
  /-- A letter is without its value. -/
  | noValue (letter : Char)
  /-- A long word is without its value. -/
  | noWordValue (word : String)
deriving DecidableEq, Repr

/-- The wording of a fault. -/
def Fault.message : Fault → String
  | unknownLetter letter => "invalid option -- " ++ quoted (String.singleton letter)
  | unknownWord word => "unrecognized option " ++ quoted word
  | noValue letter => "option requires an argument -- " ++ quoted (String.singleton letter)
  | noWordValue word => "option " ++ quoted word ++ " requires an argument"

/-- The switches in the letters of one argument, and the letter whose value is the next argument.
-/
def readLetters (usage : Usage) : List Char → Switches → Except Fault (Switches × Option Char)
  | [], switches => .ok (switches, none)
  | letter :: rest, switches =>
    if usage.valued.toList.contains letter then
      if rest.isEmpty then .ok (switches, some letter)
      else .ok (switches.add letter (String.ofList rest), none)
    else if usage.attached.toList.contains letter then
      .ok (switches.add letter (String.ofList rest), none)
    else if usage.flags.toList.contains letter then readLetters usage rest (switches.add letter "")
    else .error (.unknownLetter letter)

/-- The letter for which a long word or the only one that begins so stands. -/
def letterOf? (usage : Usage) (word : String) : Option (String × Char) :=
  match usage.long.find? fun name => name.1 == word with
  | some found => some found
  | none =>
    match usage.long.filter fun name => word.toList.isPrefixOf name.1.toList with
    | [found] => some found
    | _ => none

/-- The switches, options and operands of arguments. `pending` is an option whose value is the next
argument, with its long word if it had one. -/
def readAll (usage : Usage) : (pending : Option (Char × Option String)) → List String →
    Switches → Except Fault Switches
  | some (letter, none), [], _ => .error (.noValue letter)
  | some (_, some word), [], _ => .error (.noWordValue word)
  | none, [], switches => .ok switches
  | some (letter, _), value :: rest, switches =>
    readAll usage none rest (switches.add letter value)
  | none, argument :: rest, switches =>
    match argument.toList with
    | ['-', '-'] => .ok { switches with operands := switches.operands ++ rest }
    | '-' :: '-' :: _ =>
      let (word, value) :=
        match Text.splitFirst (· = '=') argument.toList with
        | some (word, value) => (String.ofList word, some (String.ofList value))
        | none => (argument, none)
      match letterOf? usage word, value with
      | some (_, letter), some value => readAll usage none rest (switches.add letter value)
      | some (word, letter), none =>
        if usage.valued.toList.contains letter then
          readAll usage (some (letter, some word)) rest switches
        else readAll usage none rest (switches.add letter "")
      | none, _ => .error (.unknownWord argument)
    | '-' :: letter :: letters =>
      match readLetters usage (letter :: letters) switches with
      | .ok (switches, pending) => readAll usage (pending.map (·, none)) rest switches
      | .error fault => .error fault
    | _ =>
      if usage.permutes then
        readAll usage none rest { switches with operands := switches.operands ++ [argument] }
      else .ok { switches with operands := switches.operands ++ argument :: rest }

end Switches

/-- A deed by the switches, options and operands of a tool, or the refusal of arguments that are
wrong. -/
def Usage.with (usage : Usage) (bench : Bench) (arguments : List String)
    (act : Switches → Deed) : Deed :=
  match Switches.readAll usage none arguments {} with
  | .ok switches => act switches
  | .error fault => misused bench usage.tool fault.message usage.status

end ShapeScene.Script
