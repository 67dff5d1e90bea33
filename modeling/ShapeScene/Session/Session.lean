import ShapeScene.Description.Reading
import ShapeScene.Raytracer.Raytracer
import ShapeScene.Scene.Assembly
import ShapeScene.Storage.Store

/-!
# Sessions

A session turns descriptions into scenes. It holds the vocabulary, the source of names, the options
of new scenes, the size of images, the raytracer, perhaps a store, and the last scene. Only making
and loading a scene change the last one, and only making one draws names.
-/

namespace ShapeScene

/-- A scene with the description that it was made from. -/
structure Generated where
  /-- The description, without white space at its ends. -/
  description : String
  /-- The scene. -/
  scene : SceneRecord
deriving DecidableEq, Repr

/-- What a session begins with. -/
structure SessionSettings where
  /-- The words that descriptions may use. -/
  vocabulary : Vocabulary := Vocabulary.standard
  /-- The names that scenes and objects get. -/
  ids : IdSource
  /-- Whether new scenes are animated. -/
  animate : Bool := false
  /-- Whether the pointer turns new scenes. -/
  interactive : Bool := true
  /-- The size of images. -/
  size : ImageSize := ImageSize.standard
  /-- The folder of the store, if there is to be one. -/
  storeRoot : Option String := none
  /-- The format in which the store writes. -/
  storeFormat : StoreFormat := .json
  /-- How the raytracer is found and run. -/
  raytracer : RaytracerSettings := {}

/-- The state of a session. -/
structure Session where
  /-- The words that descriptions may use. -/
  vocabulary : Vocabulary
  /-- The names yet to be drawn. -/
  ids : IdSource
  /-- The options of new scenes. -/
  options : SceneOptions
  /-- The size of images. -/
  size : ImageSize
  /-- The raytracer. -/
  raytracer : Raytracer
  /-- The store, if there is one. -/
  store : Option SceneStore
  /-- The last scene, if there is one. -/
  last : Option Generated

namespace Session

/-- Open the store that settings ask for, if they do. -/
def openStore (settings : SessionSettings) (files : FileTree) :
    Except SceneError (Option SceneStore) × FileTree :=
  match settings.storeRoot with
  | none => (.ok none, files)
  | some root =>
    let (opened, files) := SceneStore.openAt root settings.storeFormat files
    (opened.map some, files)

/-- Begin a session. The environment may name a raytracer. -/
def start (settings : SessionSettings) (environment : Option String) (files : FileTree) :
    Except SceneError Session × FileTree :=
  let (opened, files) := openStore settings files
  (opened.map fun store =>
    { vocabulary := settings.vocabulary
      ids := settings.ids
      options := SceneOptions.of settings.animate settings.interactive
      size := settings.size
      raytracer := Raytracer.ofSettings settings.raytracer environment files
      store := store
      last := none }, files)

/-- The session with another setting of animation. -/
def setAnimate (session : Session) (animate : Bool) : Session :=
  { session with options := SceneOptions.of animate session.options.interactive }

/-- The session with another setting of pointer control. -/
def setInteractive (session : Session) (interactive : Bool) : Session :=
  { session with options := SceneOptions.of session.options.animate interactive }

/-- The session with another size of images. -/
def setSize (session : Session) (size : ImageSize) : Session := { session with size := size }

/-- Make a scene from a description. -/
def generate (session : Session) (description : String) (now : Moment) :
    Except SceneError (Generated × Session) :=
  let description := Text.trim description
  if description.isEmpty then .error (.ofKind .emptyDescription)
  else
    let entities := session.vocabulary.parse description
    if entities.isEmpty then .error (.ofKind (.unparseable description))
    else
      let (scene, ids) := SceneRecord.assemble entities session.options session.ids now
      let generated : Generated := ⟨description, scene⟩
      .ok (generated, { session with ids := ids, last := some generated })

/-- The last scene, or the error that there is none. -/
def requireLast (session : Session) : Except SceneError Generated :=
  match session.last with
  | some generated => .ok generated
  | none => .error (.invalidArgument "no scene generated yet")

/-- The store, or the error that there is none. -/
def requireStore (session : Session) : Except SceneError SceneStore :=
  match session.store with
  | some store => .ok store
  | none => .error (.invalidArgument "no scene store configured (use --store DIR)")

/-- Make a stored scene the last one; its title serves as description. -/
def load (session : Session) (id : String) (files : FileTree) :
    Except SceneError (Generated × Session) := do
  let store ← session.requireStore
  let scene ← store.load id files
  let generated : Generated := ⟨scene.name, scene⟩
  .ok (generated, { session with last := some generated })

/-- Save the last scene; the answer is the path of its file. -/
def save (session : Session) (files : FileTree) : Except SceneError String × FileTree :=
  match session.requireLast with
  | .error error => (.error error, files)
  | .ok last =>
    match session.requireStore with
    | .error error => (.error error, files)
    | .ok store => store.save last.scene files

/-- Delete a stored scene. -/
def delete (session : Session) (id : String) (files : FileTree) :
    Except SceneError Unit × FileTree :=
  match session.requireStore with
  | .error error => (.error error, files)
  | .ok store => store.delete id files

/-- The stored scenes, oldest first. -/
def list (session : Session) (files : FileTree) : Except SceneError (List SceneSummary) := do
  let store ← session.requireStore
  store.list files

/-- Render the last scene. -/
def render (session : Session) (launcher : Launcher) (now : Moment) (files : FileTree) :
    Except SceneError RenderReport × FileTree :=
  match session.requireLast with
  | .error error => (.error error, files)
  | .ok last =>
    let ((rendering, milliseconds), files) :=
      session.raytracer.render launcher last.scene session.size files
    (.ok ⟨last.description, session.size, now.isoText, milliseconds, rendering⟩, files)

end Session

end ShapeScene
