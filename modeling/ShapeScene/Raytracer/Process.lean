import ShapeScene.Raytracer.Rendering
import ShapeScene.Storage.FileTree

/-!
# Raytracer processes

The raytracer is a program of its own. What is known of a run is how it ended and what it left in
its output file; `Rendering.ofRun` judges it by these alone. What a program does in between is the
business of a launcher, which may be any function.
-/

namespace ShapeScene

/-- A program to be started. -/
structure Launch where
  /-- The path of the program. -/
  program : String
  /-- The size of the image that it is asked for. -/
  size : ImageSize
  /-- What it finds on its standard input. -/
  input : List UInt8
  /-- The time after which it is stopped, in milliseconds. -/
  limit : Nat
deriving DecidableEq, Repr

/-- How a run of a program ended. -/
inductive Ending where
  /-- It could not be started. -/
  | notStarted (failure : IoFailure)
  /-- It was stopped at its time limit. -/
  | overtime
  /-- It ended by itself, with a code unless a signal ended it. -/
  | exited (code : Option Nat) (stdout stderr : List UInt8)
deriving DecidableEq, Repr

/-- What is known of a run after its end. -/
structure ProcessRun where
  /-- How it ended. -/
  ending : Ending
  /-- What its output file holds. -/
  output : Except IoFailure (List UInt8)
  /-- How long it took, in milliseconds. -/
  milliseconds : Nat

/-- The behaviour of programs: the run of a program and the files after it. -/
abbrev Launcher := Launch → FileTree → ProcessRun × FileTree

namespace Rendering

/-- The rendering in an output file. -/
def ofOutput : Except IoFailure (List UInt8) → Rendering
  | .error .notFound => .failed .missingOutput
  | .error failure => .failed (.invalidOutput failure.message)
  | .ok content =>
    match Ppm.decode content with
    | .ok pixels => .image pixels .raytracer
    | .error error => .failed (.invalidOutput error.message)

/-- The rendering by a run with a time limit in milliseconds. The output file counts only when the
program ended by itself and reported success. -/
def ofRun (limit : Nat) (run : ProcessRun) : Rendering :=
  match run.ending with
  | .notStarted failure => .failed (.spawn failure.message)
  | .overtime => .failed (.timeout (limit / 1000))
  | .exited code stdout stderr =>
    if code = some 0 then ofOutput run.output
    else .failed (.exit code (Text.readUtf8Lenient stderr) (Text.readUtf8Lenient stdout))

end Rendering

end ShapeScene
