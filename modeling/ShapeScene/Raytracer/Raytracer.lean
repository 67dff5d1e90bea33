import ShapeScene.Raytracer.Command
import ShapeScene.Raytracer.Process

/-!
# The raytracer

The raytracer is looked for once. Without one, scenes are rendered as a preview of the size asked
for; a size out of bounds is refused before anything is started.
-/

namespace ShapeScene

/-- How the raytracer is found and run. -/
structure RaytracerSettings where
  /-- The path of the program; when there is one, nothing else is looked for. -/
  program : Option String := none
  /-- The paths that are tried in order. -/
  searchPaths : List String :=
    ["../raytracer_c/build/bin/raytracer", "./raytracer_c/build/bin/raytracer"]
  /-- The time limit of a run in milliseconds. -/
  limit : Nat := 30000
  /-- Whether the commands of the scene are given on standard input. -/
  sceneOnInput : Bool := false
  /-- Whether the environment may name the program. -/
  usesEnvironment : Bool := true
deriving DecidableEq, Repr

/-- The name of the variable of the environment that names the program. -/
def RaytracerSettings.variable : String := "TEXTSCENE_RAYTRACER"

/-- A raytracer that was looked for. -/
structure Raytracer where
  /-- The path of the program, if it was found. -/
  program : Option String
  /-- The time limit of a run in milliseconds. -/
  limit : Nat
  /-- Whether the commands of the scene are given on standard input. -/
  sceneOnInput : Bool
deriving DecidableEq, Repr

/-- Whether scenes can be raytraced. -/
structure Availability where
  /-- The path of the program, if it was found. -/
  program : Option String
deriving DecidableEq, Repr

namespace Availability

/-- The availability in words. -/
def message (availability : Availability) : String :=
  if availability.program.isSome then "raytracer ready" else "fallback preview, raytracer not found"

/-- The availability as data. -/
def toDatum (availability : Availability) : Datum :=
  .object [("available", .bool availability.program.isSome),
    ("path", match availability.program with | none => .null | some path => .text path),
    ("message", .text availability.message),
    ("fallback", .bool availability.program.isNone)]

/-- The availability in one line, with the path of the program. -/
def line (availability : Availability) : String :=
  match availability.program with
  | none => availability.message
  | some path => availability.message ++ " (" ++ path ++ ")"

end Availability

namespace Raytracer

/-- The path of the program: the one set, else the one that the environment names, else the first
of the search paths; it must be that of a file. -/
def locate (settings : RaytracerSettings) (environment : Option String) (tree : FileTree) :
    Option String :=
  match settings.program with
  | some path => if tree.isFile path then some path else none
  | none =>
    let named := if settings.usesEnvironment then environment.toList else []
    (named ++ settings.searchPaths).find? tree.isFile

/-- The raytracer that settings describe. -/
def ofSettings (settings : RaytracerSettings) (environment : Option String) (tree : FileTree) :
    Raytracer :=
  ⟨locate settings environment tree, settings.limit, settings.sceneOnInput⟩

/-- Whether the raytracer was found. -/
def availability (raytracer : Raytracer) : Availability := ⟨raytracer.program⟩

/-- The run that is asked of the raytracer for a scene. -/
def launch (raytracer : Raytracer) (program : String) (record : SceneRecord) (size : ImageSize) :
    Launch where
  program := program
  size := size
  input :=
    if raytracer.sceneOnInput then Text.utf8 (commands record size.width size.height) else []
  limit := raytracer.limit

/-- The rendering of a scene with its time in milliseconds, and the files after it. -/
def render (raytracer : Raytracer) (launcher : Launcher) (record : SceneRecord) (size : ImageSize)
    (tree : FileTree) : (Rendering × Nat) × FileTree :=
  if !size.isRenderable then ((.failed (.invalidSize size), 0), tree)
  else
    match raytracer.program with
    | none => ((.image (PixelBuffer.preview size.width size.height) .fallback, 0), tree)
    | some program =>
      let (run, changed) := launcher (raytracer.launch program record size) tree
      ((.ofRun raytracer.limit run, run.milliseconds), changed)

end Raytracer

end ShapeScene
