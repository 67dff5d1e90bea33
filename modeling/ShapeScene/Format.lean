import ShapeScene.Error
import ShapeScene.Storage.Path
import ShapeScene.Text.Lowercase

/-!
# Formats of files

The formats in which a scene is exported, and the two in which a store keeps it.
-/

namespace ShapeScene

/-- The formats in which a scene can be exported. -/
inductive OutputFormat where
  /-- The record of the scene. -/
  | json
  /-- A page that shows the scene. -/
  | html
  /-- A raytraced image. -/
  | ppm
deriving DecidableEq, Repr

namespace OutputFormat

/-- The format's name, which is also its file extension. -/
def name : OutputFormat → String
  | json => "json"
  | html => "html"
  | ppm => "ppm"

/-- The format that a text names, in any letter case. -/
def named? (text : String) : Option OutputFormat :=
  let lowered := Text.lowercase text
  if lowered = "json" then some .json
  else if lowered = "html" ∨ lowered = "htm" then some .html
  else if lowered = "ppm" then some .ppm
  else none

/-- The format that a text names, or the error that names the choices. -/
def parse (text : String) : Except SceneError OutputFormat :=
  match named? text with
  | some format => .ok format
  | none =>
    .error (.invalidArgument ("unknown output format " ++ Text.quoted (Text.lowercase text) ++
      " (expected json, html or ppm)"))

/-- The format that the extension of a path names. -/
def ofPath? (path : String) : Option OutputFormat := (Path.extension? path).bind named?

end OutputFormat

/-- The formats in which a store keeps scenes. -/
inductive StoreFormat where
  /-- Text that people can read. -/
  | json
  /-- A compact binary form. -/
  | messagePack
deriving DecidableEq, Repr

namespace StoreFormat

/-- The file extension of the format. -/
def extension : StoreFormat → String
  | json => "json"
  | messagePack => "msgpack"

/-- The formats in which a scene is looked for, the store's own first. -/
def lookupOrder : StoreFormat → List StoreFormat
  | json => [json, messagePack]
  | messagePack => [messagePack, json]

/-- The format with a given file extension. -/
def ofExtension? (extension : String) : Option StoreFormat :=
  if extension = "json" then some .json
  else if extension = "msgpack" then some .messagePack
  else none

/-- The format that a text names in any letter case, or the error that names the choices. -/
def parse (text : String) : Except SceneError StoreFormat :=
  let lowered := Text.lowercase text
  if lowered = "json" then .ok .json
  else if lowered = "msgpack" ∨ lowered = "messagepack" then .ok .messagePack
  else
    .error (.invalidArgument ("unknown store format " ++ Text.quoted lowered ++
      " (expected json or msgpack)"))

end StoreFormat

end ShapeScene
