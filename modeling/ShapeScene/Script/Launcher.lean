import ShapeScene.Raytracer.Process
import ShapeScene.Script.Run
import ShapeScene.Storage.Renaming

/-!
# Launching programs

A program that is launched gets a folder of its own for its output, which is gone when it has
ended. It knows raw texts only, so names of files are raw while it runs.
-/

namespace ShapeScene.Script

/-- The folder of the output files of running programs. -/
def outputFolder : String := "/tmp/render"

/-- The path of the output file of a program. -/
def outputPath : String := outputFolder ++ "/render.ppm"

/-- The variables with which programs are launched. -/
def launchSettings : List (String × String) := [("HOME", "/root"), ("PATH", usualFolders)]

/-- The machine in which a program is launched. What it writes is kept in its first two channels. -/
def launchMachine (launch : Launch) (files : FileTree) : Machine :=
  { files := files
    name := ""
    arguments := []
    limit := launch.limit
    channels := [.buffer [], .buffer [], .source (.bytes launch.input)]
    descriptors := [(0, { reader := some 2 }), (1, { writer := some 0 }), (2, { writer := some 1 })]
    values := launchSettings
    exported := launchSettings.map (·.1) }

/-- The time for which what a program wrote is looked for when nothing can write any more, in
milliseconds. -/
def lastLook : Nat := 10

/-- The time after which a companion that can still write counts as one that never ends, in
milliseconds. -/
def greatestWait : Nat := 86400000

/-- A machine whose time is over, or the one that ended before because a companion sent it a signal
against which it had planned nothing. -/
def endedBySignal (again : Runner) (machine : Machine) : Machine :=
  let isFatal (signal : String) : Bool :=
    (machine.action? signal).isNone && !quietSignals.contains signal &&
      !stoppingSignals.contains signal
  let (time, caught) := machine.pursuedAll again (fun machine => machine.pending.any isFatal)
    machine.limit greatestTurns 0
  match caught.pending.find? isFatal with
  | some signal =>
    { caught with milliseconds := time, flow := .killed (numberOfSignal signal) }
  | none => machine

/-- How a machine ended, and the machine when nobody looks at it any more. Only the time until its
own end is limited: what it wrote is complete when no companion can write any more. -/
def endingOf (again : Runner) (machine : Machine) : Ending × Machine :=
  let machine := if machine.isOver then endedBySignal again machine else machine
  if machine.isOver then
    (.overtime, { machine.abandoned again machine.limit with milliseconds := machine.limit })
  else
    let gone := { machine with gone := some machine.process }
    let silent := gone.waitedFor again (fun machine => !machine.isHeld (· < 2)) greatestWait
    let code := if machine.finalSignal?.isSome then none else some machine.finalStatus
    (.exited code (silent.bufferAt 0) (silent.bufferAt 1),
      silent.abandoned again (silent.milliseconds + lastLook))

/-- The launcher that runs tools and scripts. -/
def launcher : Launcher := fun launch files =>
  let made := (files.makeFolders outputFolder).2.renamed Text.toRaw
  let arguments :=
    [outputPath, toString launch.size.width.toNat, toString launch.size.height.toNat]
  let name := Text.toRaw launch.program
  match Machine.firstFound ((pathsOfProgram usualFolders name).map fun path =>
    programFrom made maxInterpreters path name arguments) with
  | .error failure => (⟨.notStarted failure, .error .notFound, 0⟩, files)
  | .ok program =>
    let again := Machine.run greatestDepth
    let (ending, machine) := endingOf again ((launchMachine launch made).start again program)
    let after : FileTree :=
      { machine.files.renamed Text.ofRaw with here := files.here }
    (⟨ending, after.read outputPath, machine.milliseconds⟩,
      (after.removeFolder outputFolder).2)

end ShapeScene.Script
