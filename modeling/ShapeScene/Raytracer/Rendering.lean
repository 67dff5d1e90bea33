import ShapeScene.Image.Ppm
import ShapeScene.Image.Size
import ShapeScene.Scene.Codec

/-!
# Renderings

What comes of rendering a scene: an image, made by the raytracer or standing in for one, or the
reason why there is none.
-/

namespace ShapeScene

/-- Why there is no image. -/
inductive RenderFailure where
  /-- A side of the image is zero or too long. -/
  | invalidSize (size : ImageSize)
  /-- The raytracer could not be started. -/
  | spawn (message : String)
  /-- The raytracer reported a failure. -/
  | exit (code : Option Nat) (stderr stdout : String)
  /-- The raytracer was stopped at its time limit. -/
  | timeout (seconds : Nat)
  /-- The raytracer left no file. -/
  | missingOutput
  /-- The raytracer left a file that is no image. -/
  | invalidOutput (message : String)
deriving DecidableEq, Repr

namespace RenderFailure

/-- What a failed raytracer said, if it said anything. -/
def complaint (stderr : String) : String :=
  let said := Text.trim stderr
  if said.isEmpty then "no error output" else said

/-- The wording of a failure. -/
def message : RenderFailure → String
  | invalidSize size => "invalid image size " ++ size.text
  | spawn message => "could not run raytracer: " ++ message
  | exit _ stderr _ => "raytracer failed: " ++ complaint stderr
  | timeout seconds => "raytracer timeout (" ++ toString seconds ++ " seconds)"
  | missingOutput => "PPM file not generated"
  | invalidOutput message => "invalid raytracer output: " ++ message

/-- A failure as the error that it causes. -/
def toError (failure : RenderFailure) : SceneError := .render failure.message

/-- A failure as data: its kind and its details. -/
def toDatum : RenderFailure → Datum
  | invalidSize size =>
    .object [("kind", .text "invalidSize"), ("width", datumOfUInt32 size.width),
      ("height", datumOfUInt32 size.height)]
  | spawn message => .object [("kind", .text "spawn"), ("message", .text message)]
  | exit code stderr stdout =>
    .object [("kind", .text "exit"),
      ("code", match code with | none => .null | some code => .unsigned code),
      ("stderr", .text stderr), ("stdout", .text stdout)]
  | timeout seconds => .object [("kind", .text "timeout"), ("seconds", .unsigned seconds)]
  | missingOutput => .object [("kind", .text "missingOutput")]
  | invalidOutput message => .object [("kind", .text "invalidOutput"), ("message", .text message)]

end RenderFailure

/-- Who made an image. -/
inductive ImageSource where
  /-- The raytracer. -/
  | raytracer
  /-- The preview that stands in for it. -/
  | fallback
deriving DecidableEq, Repr

/-- The name of a source. -/
def ImageSource.name : ImageSource → String
  | raytracer => "raytracer"
  | fallback => "fallback"

/-- What came of rendering a scene. -/
inductive Rendering where
  /-- An image and who made it. -/
  | image (pixels : PixelBuffer) (source : ImageSource)
  /-- The reason why there is no image. -/
  | failed (failure : RenderFailure)
deriving DecidableEq, Repr

namespace Rendering

/-- Whether there is an image. -/
def isSuccess : Rendering → Bool
  | image _ _ => true
  | failed _ => false

/-- Whether the image is the preview. -/
def isFallback : Rendering → Bool
  | image _ .fallback => true
  | _ => false

/-- The image, if there is one. -/
def image? : Rendering → Option PixelBuffer
  | image pixels _ => some pixels
  | failed _ => none

/-- The failure, if there is no image. -/
def failure? : Rendering → Option RenderFailure
  | image _ _ => none
  | failed failure => some failure

/-- The image, or the error for which there is none. -/
def toExcept : Rendering → Except SceneError PixelBuffer
  | image pixels _ => .ok pixels
  | failed failure => .error failure.toError

/-- The outcome as fields of a report. -/
def fields : Rendering → List (String × Datum)
  | image _ source => [("status", .text "rendered"), ("source", .text source.name)]
  | failed failure => [("status", .text "failed"), ("error", failure.toDatum)]

end Rendering

/-- The report of one rendering. -/
structure RenderReport where
  /-- The description of the scene. -/
  description : String
  /-- The size asked for. -/
  size : ImageSize
  /-- When the rendering ended. -/
  timestamp : String
  /-- How long it took, in milliseconds. -/
  milliseconds : Nat
  /-- What came of it. -/
  rendering : Rendering
deriving DecidableEq, Repr

/-- A report as data. -/
def RenderReport.toDatum (report : RenderReport) : Datum :=
  .object ([("description", .text report.description), ("width", datumOfUInt32 report.size.width),
    ("height", datumOfUInt32 report.size.height), ("timestamp", .text report.timestamp),
    ("renderTimeMs", .unsigned report.milliseconds)] ++ report.rendering.fields)

end ShapeScene
