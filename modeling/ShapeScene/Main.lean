import ShapeScene.CommandLine.Program
import ShapeScene.Scene.SeededIds
import ShapeScene.Script.Launcher
import ShapeScene.Storage.Change
import Std.Time

/-!
# The executable

Before a task the files that it may touch are read into a file tree, and after it the changes of
the tree are made on disk. In a dialogue this happens for every line.
-/

namespace ShapeScene.Executable

/-- The time on the clock of this machine. -/
def now : IO Moment := do
  let time ← Std.Time.PlainDateTime.now
  pure ⟨time.year.toInt, time.month.toNat, time.day.toNat, time.hour.toNat, time.minute.toNat,
    time.second.toNat, time.nanosecond.toNat⟩

/-- The seed of names when none is given. -/
def randomSeed : IO UInt64 := do
  pure ((← IO.getRandomBytes 8).toList.foldl (fun seed byte => seed * 256 + byte.toUInt64) 0)

/-- The path of a place. -/
def pathOf (place : List String) : String := "/" ++ Text.joinWith "/" place

/-- Read the folders and the file on the way along some names into a file tree. -/
def gatherAlong : (place : List String) → List String → FileTree → IO FileTree
  | _, [], files => pure files
  | place, part :: parts, files => do
    if part = ".." then gatherAlong place.dropLast parts files
    else
      let place := place ++ [part]
      let here := (← IO.currentDir) / pathOf place
      if ← here.isDir then
        gatherAlong place parts ((files.makeFolder (pathOf place)).toOption.getD files)
      else if ← here.pathExists then
        let content := (← IO.FS.readBinFile here).toList
        let written := (files.write (pathOf place) content).toOption.getD files
        pure ((written.markProgram (pathOf place)).toOption.getD written)
      else pure files

/-- Read what a path names into a file tree. -/
def gather (files : FileTree) (path : String) : IO FileTree :=
  gatherAlong (if Path.isAbsolute path then [] else files.here) (Path.parts path) files

/-- Read a folder and the files directly in it into a file tree. -/
def gatherFolder (files : FileTree) (path : String) : IO FileTree := do
  let files ← gather files path
  let here := (← IO.currentDir) / path
  if ← here.isDir then
    (← here.readDir).foldlM (fun files entry => gather files (Path.join path entry.fileName)) files
  else pure files

/-- Make a change on disk. -/
def apply (change : Change) : IO Unit := do
  let here ← IO.currentDir
  match change with
  | .makeFolder place => IO.FS.createDirAll (here / pathOf place)
  | .writeFile place content => IO.FS.writeBinFile (here / pathOf place) ⟨content.toArray⟩
  | .removeFile place => IO.FS.removeFile (here / pathOf place)
  | .removeFolder place => IO.FS.removeDirAll (here / pathOf place)

/-- The file tree of the system's tools, the working folder, what some paths name, and the folder
of a store. -/
def filesFor (paths : List String) (store : Option String) : IO FileTree := do
  let here := Path.parts (toString (← IO.currentDir))
  let bare ← gatherAlong [] here ⟨Script.systemFolder, here⟩
  store.toList.foldlM gatherFolder (← paths.foldlM gather bare)

/-- The paths that a command may read or write. -/
def commandPaths : Command → List String
  | .render (some path) | .export path _ => [path]
  | _ => []

/-- Print what a dialogue has said since an earlier state. -/
def printSince (before after : Console.Dialogue) : IO Unit := do
  IO.print (String.ofList (after.stdout.toList.drop before.stdout.length))
  IO.eprint (String.ofList (after.stderr.toList.drop before.stderr.length))

/-- Hold a dialogue over standard input. -/
partial def converse (input : IO.FS.Stream) (dialogue : Console.Dialogue) : IO Unit := do
  let text ← input.getLine
  let read := if text.isEmpty then .endOfInput else
    Console.Input.line ((Console.linesOf text).headD "")
  let named := match Command.parse text with | .ok command => commandPaths command | .error _ => []
  let session := dialogue.desk.session
  let files ← filesFor (session.raytracer.program.toList ++ named)
    (session.store.map SceneStore.root)
  let ready := { dialogue with desk := { dialogue.desk with files := files } }
  let after := ready.step ⟨← now, Script.launcher⟩ read
  (Change.between files.root after.desk.files.root).forM apply
  printSince dialogue after
  if after.isOver then IO.print Console.farewell else converse input after

/-- The world in which arguments are carried out. -/
def worldFor (options : CommandLine.Options) : IO CommandLine.World := do
  let environment ← IO.getEnv RaytracerSettings.variable
  let seed ← randomSeed
  let named := options.output.toList ++ options.raytracer.toList ++ environment.toList ++
    options.raytracerSettings.searchPaths
  pure
    { environment := environment
      ids := fun chosen => SeededIds.source ((chosen.map UInt64.ofNat).getD seed)
      launcher := Script.launcher
      files := ← filesFor named options.store }

/-- Print an outcome and make its changes; the answer is the exit code. -/
def finish (before : FileTree) (outcome : CommandLine.Outcome) : IO UInt32 := do
  (Change.between before.root outcome.files.root).forM apply
  IO.print outcome.stdout
  IO.eprint outcome.stderr
  pure (if outcome.succeeded then 0 else 1)

/-- The dialogue that options ask for, with the files around it, if they ask for one that can
begin. -/
def dialogueFor? (options : CommandLine.Options) (world : CommandLine.World) :
    Option (Console.Dialogue × FileTree) :=
  match options.task, options.startDialogue world with
  | .dialogue, (.ok dialogue, files) => some (dialogue, files)
  | _, _ => none

/-- Run the program with arguments; the answer is its exit code. -/
def run (arguments : List String) : IO UInt32 := do
  let options := (CommandLine.Options.parse arguments).toOption
  let world ← worldFor (options.getD {})
  match options.bind (dialogueFor? · world) with
  | some (dialogue, files) => do
    (Change.between world.files.root files.root).forM apply
    IO.print dialogue.stdout
    converse (← IO.getStdin) dialogue
    pure 0
  | none => do
    let time ← now
    finish world.files (CommandLine.run arguments "" world fun _ => time)

end ShapeScene.Executable

/-- The program. -/
def main (arguments : List String) : IO UInt32 := ShapeScene.Executable.run arguments
