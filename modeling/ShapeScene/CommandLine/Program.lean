import ShapeScene.CommandLine.Help
import ShapeScene.CommandLine.Options
import ShapeScene.Console.Dialogue
import ShapeScene.Console.Typing

/-!
# The program

What the program does with its arguments: it shows help, version or the availability of a
raytracer, makes one scene from a description, or begins a dialogue. A scene that was made is
exported when an output is named, saved when there is a store, and printed when there is neither.
-/

namespace ShapeScene.CommandLine

/-- What the program finds when it is called. -/
structure World where
  /-- The path that the environment gives for the raytracer. -/
  environment : Option String
  /-- The source of names for a given seed, or for none. -/
  ids : Option Nat → IdSource
  /-- The behaviour of programs. -/
  launcher : Launcher
  /-- The files. -/
  files : FileTree

/-- What the program leaves. -/
structure Outcome where
  /-- Whether it succeeded. -/
  succeeded : Bool := true
  /-- What it printed. -/
  stdout : String := ""
  /-- What it complained about. -/
  stderr : String := ""
  /-- The files. -/
  files : FileTree

namespace Outcome

/-- The outcome with one more line printed. -/
def print (outcome : Outcome) (text : String) : Outcome :=
  { outcome with stdout := outcome.stdout ++ text ++ "\n" }

/-- The outcome with an error, which ends the program. -/
def fail (outcome : Outcome) (message : String) : Outcome :=
  { outcome with
    succeeded := false
    stderr := outcome.stderr ++ Console.errorLine message }

/-- The outcome after an operation on files: on to the next thing, or an error. -/
def andThen {α : Type} (outcome : Outcome) (answer : Except SceneError α × FileTree)
    (next : Outcome → α → Outcome) : Outcome :=
  let outcome := { outcome with files := answer.2 }
  match answer.1 with
  | .ok value => next outcome value
  | .error error => outcome.fail error.message

end Outcome

/-- What arguments ask the program to do. -/
inductive Task where
  /-- Print a text. -/
  | print (text : String)
  /-- Show whether a raytracer is available. -/
  | status
  /-- Begin a dialogue. -/
  | dialogue
  /-- Make one scene. -/
  | generate (description : String)
deriving DecidableEq, Repr

namespace Options

/-- The task that options set. -/
def task (options : Options) : Task :=
  if options.help then .print helpText
  else if options.version then .print ("textscene " ++ Console.version ++ "\n")
  else if options.status then .status
  else
    match options.description with
    | none => .dialogue
    | some description => .generate description

/-- Begin the session that options describe. -/
def startSession (options : Options) (world : World) : Except SceneError Session × FileTree :=
  Session.start (options.sessionSettings (world.ids options.seed)) world.environment world.files

/-- Begin the dialogue that options describe. -/
def startDialogue (options : Options) (world : World) :
    Except SceneError Console.Dialogue × FileTree :=
  let (started, files) := options.startSession world
  (started.map fun session => .start ⟨session, options.exportFormat, files⟩, files)

/-- Show whether a raytracer is available. -/
def showStatus (options : Options) (world : World) : Outcome :=
  let outcome : Outcome := { files := world.files }
  outcome.andThen (options.startSession world) fun outcome session =>
    outcome.print (Json.pretty session.raytracer.availability.toDatum)

/-- Export a scene that was made, or print it when it goes nowhere else. -/
def deliver (options : Options) (world : World) (session : Session) (scene : SceneRecord)
    (outcome : Outcome) (next : Outcome → Outcome) : Outcome :=
  match options.output with
  | some path =>
    outcome.andThen
      (Export.toFile scene path options.exportFormat session.size session.raytracer world.launcher
        outcome.files)
      fun outcome _ =>
        next (outcome.print ("exported " ++ options.exportFormat.name ++ " to " ++ path))
  | none => next (if options.store.isNone then outcome.print scene.toJson else outcome)

/-- Save the last scene if there is a store. -/
def keep (session : Session) (outcome : Outcome) : Outcome :=
  if session.store.isNone then outcome
  else
    outcome.andThen (session.save outcome.files) fun outcome path =>
      outcome.print ("saved to " ++ path)

/-- Make one scene and export, save or print it. -/
def generate (options : Options) (world : World) (now : Moment) (description : String) : Outcome :=
  let outcome : Outcome := { files := world.files }
  outcome.andThen (options.startSession world) fun outcome session =>
    match session.generate description now with
    | .error error => outcome.fail error.message
    | .ok (generated, session) =>
      options.deliver world session generated.scene
        (outcome.print (Console.describeScene generated.scene)) (keep session)

/-- The outcome of a dialogue that is over. -/
def afterDialogue (dialogue : Console.Dialogue) : Outcome where
  stdout := dialogue.stdout ++ Console.farewell
  stderr := dialogue.stderr
  files := dialogue.desk.files

/-- Hold a dialogue over a text. -/
def converse (options : Options) (world : World) (clock : Nat → Moment) (input : String) :
    Outcome :=
  let outcome : Outcome := { files := world.files }
  outcome.andThen (options.startDialogue world) fun _ dialogue =>
    let inputs := (Console.linesOf input).mapIdx fun index line =>
      ((⟨clock index, world.launcher⟩ : Console.Surroundings), Console.Input.line line)
    afterDialogue (dialogue.run inputs)

end Options

/-- The outcome of the program for arguments and an input, where `clock` says the time at each
line. -/
def run (arguments : List String) (input : String) (world : World) (clock : Nat → Moment) :
    Outcome :=
  let outcome : Outcome := { files := world.files }
  match Options.parse arguments with
  | .error error => outcome.fail error.message
  | .ok options =>
    match options.task with
    | .print text => { outcome with stdout := text }
    | .status => options.showStatus world
    | .generate description => options.generate world (clock 0) description
    | .dialogue => options.converse world clock input

end ShapeScene.CommandLine
