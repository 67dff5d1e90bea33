import ShapeScene.Page.Html
import ShapeScene.Raytracer.Raytracer

/-!
# Exports

A scene is exported as its record, as a page that shows it, or as a raytraced image. Folders that
are missing on the way to the file are made first.
-/

namespace ShapeScene.Export

/-- The content of the file of an exported scene, and the files after it was made. -/
def content (format : OutputFormat) (record : SceneRecord) (size : ImageSize)
    (raytracer : Raytracer) (launcher : Launcher) (files : FileTree) :
    Except SceneError (List UInt8) × FileTree :=
  match format with
  | .json => (.ok (Text.utf8 record.toJson), files)
  | .html => (.ok (Text.utf8 (Page.html record)), files)
  | .ppm =>
    let ((rendering, _), files) := raytracer.render launcher record size files
    (rendering.toExcept.map Ppm.encode, files)

/-- Make the folder that a file is to be written to. -/
def makeParent (path : String) (files : FileTree) : Except SceneError Unit × FileTree :=
  match Path.parent? path with
  | none => (.ok (), files)
  | some parent =>
    if parent.isEmpty then (.ok (), files)
    else
      match files.makeFolders parent with
      | (.ok (), made) => (.ok (), made)
      | (.error failure, changed) => (.error (.ioAt "export" parent failure.message), changed)

/-- Write a file, with the error that an operation on it causes. -/
def writeFile (operation path : String) (content : List UInt8) (files : FileTree) :
    Except SceneError Unit × FileTree :=
  match files.write path content with
  | .ok written => (.ok (), written)
  | .error failure => (.error (.ioAt operation path failure.message), files)

/-- Write a scene to a file. -/
def toFile (record : SceneRecord) (path : String) (format : OutputFormat) (size : ImageSize)
    (raytracer : Raytracer) (launcher : Launcher) (files : FileTree) :
    Except SceneError Unit × FileTree :=
  match makeParent path files with
  | (.error error, files) => (.error error, files)
  | (.ok (), files) =>
    match content format record size raytracer launcher files with
    | (.error error, files) => (.error error, files)
    | (.ok bytes, files) => writeFile "export" path bytes files

end ShapeScene.Export
