import ShapeScene.Scene.Codec
import ShapeScene.Storage.FileTree

/-!
# Scene stores

A store keeps each scene in a file of its folder. The file is named for the scene and for the
format, so a scene can be there in two formats at once; the store looks for its own format first.
Saving, loading and deleting use the path of one file after the other. What a listing shows is said
of the folder's entries (`summaries`): what an entry that is a link leads to is read by a function
`follow`, which only the file tree knows.
-/

namespace ShapeScene

/-- The scenes saved under a folder. -/
structure SceneStore where
  /-- The path of the folder. -/
  root : String
  /-- The format in which scenes are written. -/
  format : StoreFormat
deriving DecidableEq, Repr

/-- What a listing shows of a stored scene. -/
structure SceneSummary where
  /-- The scene's name. -/
  id : String
  /-- The scene's title. -/
  name : String
  /-- When the scene was made. -/
  timestamp : String
  /-- Number of objects. -/
  objects : Nat
deriving DecidableEq, Repr

/-- The summary of a scene. -/
def SceneRecord.summary (record : SceneRecord) : SceneSummary :=
  ⟨record.id, record.name, record.timestamp, record.objectCount⟩

namespace SceneStore

/-! ## Names -/

/-- The characters of a scene's name: ASCII letters and digits, hyphen and underscore. -/
def isIdChar (char : Char) : Bool :=
  ('a' ≤ char && char ≤ 'z') || ('A' ≤ char && char ≤ 'Z') || ('0' ≤ char && char ≤ '9') ||
    char == '-' || char == '_'

/-- Whether a name can be that of a file directly in the store's folder. -/
def isValidId (id : String) : Bool := !id.isEmpty && id.toList.all isIdChar

/-- The error for a name that cannot be that of a file. -/
def invalidId (id : String) : SceneError :=
  .invalidArgument ("invalid scene id " ++ Text.quoted id)

/-- The name of the file of a scene in a format. -/
def fileName (id : String) (format : StoreFormat) : String := id ++ "." ++ format.extension

/-- The path of the file of a scene in a format. -/
def path (store : SceneStore) (id : String) (format : StoreFormat) : String :=
  Path.join store.root (fileName id format)

/-- The error of an operation on the file of a scene. -/
def fileError (store : SceneStore) (operation id : String) (format : StoreFormat)
    (failure : IoFailure) : SceneError :=
  .ioAt operation (store.path id format) failure.message

/-! ## In the folder -/

/-- The content of an entry of the folder, if it can be read. -/
def contentOf? (follow : String → Except IoFailure (List UInt8)) : Entry → Option (List UInt8)
  | .folder _ | .device _ => none
  | .file content _ => some content
  | .link target => (follow target).toOption

/-- The summary of the scene in an entry of the folder, if it is a readable scene file. -/
def summaryOf? (follow : String → Except IoFailure (List UInt8)) (entry : String × Entry) :
    Option SceneSummary := do
  let content ← contentOf? follow entry.2
  let format ← (Path.nameExtension? entry.1).bind StoreFormat.ofExtension?
  match SceneRecord.ofBytes format content with
  | .ok record => some record.summary
  | .error _ => none

/-- The order of a listing: by time, then by name. -/
def listedBefore (first second : SceneSummary) : Bool :=
  first.timestamp < second.timestamp ||
    (first.timestamp == second.timestamp && !decide (second.id < first.id))

/-- The first of every run of summaries with one name. -/
def firstOfRuns : List SceneSummary → List SceneSummary
  | [] => []
  | summary :: later => summary :: afterName summary.id later
where
  /-- What is kept of a list behind a summary with a given name. -/
  afterName : String → List SceneSummary → List SceneSummary
    | _, [] => []
    | id, summary :: later =>
      if summary.id = id then afterName id later else summary :: afterName summary.id later

/-- The scenes in a folder, oldest first. Neighbours with one name count once. -/
def summaries (follow : String → Except IoFailure (List UInt8)) (folder : Folder) :
    List SceneSummary :=
  firstOfRuns ((folder.filterMap (summaryOf? follow)).mergeSort listedBefore)

/-! ## In the file tree -/

/-- Open a store, making its folder if that is missing. -/
def openAt (root : String) (format : StoreFormat) (tree : FileTree) :
    Except SceneError SceneStore × FileTree :=
  match tree.makeFolders root with
  | (.ok (), made) => (.ok ⟨root, format⟩, made)
  | (.error failure, changed) => (.error (.ioAt "open store" root failure.message), changed)

/-- Save a scene in place of one with the same name and format; the answer is the path of its
file. -/
def save (store : SceneStore) (record : SceneRecord) (tree : FileTree) :
    Except SceneError String × FileTree :=
  if !isValidId record.id then (.error (invalidId record.id), tree)
  else
    let path := store.path record.id store.format
    match tree.write path (record.toBytes store.format) with
    | .ok written => (.ok path, written)
    | .error failure => (.error (store.fileError "save scene" record.id store.format failure), tree)

/-- The scene of a name, in the first of the given formats in which it is there. -/
def readScene (store : SceneStore) (id : String) (tree : FileTree) :
    List StoreFormat → Except SceneError SceneRecord
  | [] => .error (.sceneNotFound id)
  | format :: formats =>
    match tree.read (store.path id format) with
    | .ok content =>
      (SceneRecord.ofBytes format content).mapError fun error =>
        error.withContext ⟨some (store.path id format), ["load scene"]⟩
    | .error .notFound => readScene store id tree formats
    | .error failure => .error (store.fileError "load scene" id format failure)

/-- The scene of a name. -/
def load (store : SceneStore) (id : String) (tree : FileTree) : Except SceneError SceneRecord :=
  if !isValidId id then .error (invalidId id)
  else store.readScene id tree store.format.lookupOrder

/-- Remove the files of a scene in the given formats, in order. `deleted` says whether one was
removed before; what was removed stays so when a later file cannot be. -/
def deleteScene (store : SceneStore) (id : String) :
    (deleted : Bool) → List StoreFormat → FileTree → Except SceneError Unit × FileTree
  | deleted, [], tree => (if deleted then .ok () else .error (.sceneNotFound id), tree)
  | deleted, format :: formats, tree =>
    match tree.remove (store.path id format) with
    | .ok smaller => deleteScene store id true formats smaller
    | .error .notFound => deleteScene store id deleted formats tree
    | .error failure => (.error (store.fileError "delete scene" id format failure), tree)

/-- Delete a scene in both formats. -/
def delete (store : SceneStore) (id : String) (tree : FileTree) :
    Except SceneError Unit × FileTree :=
  if !isValidId id then (.error (invalidId id), tree)
  else store.deleteScene id false store.format.lookupOrder tree

/-- All stored scenes, oldest first. -/
def list (store : SceneStore) (tree : FileTree) : Except SceneError (List SceneSummary) :=
  match tree.folderPlace store.root with
  | .ok place => .ok (summaries (tree.readFrom place) (tree.folderAt place))
  | .error failure => .error (.ioAt "list scenes" store.root failure.message)

end SceneStore

end ShapeScene
