import ShapeScene.Storage.Folder
import ShapeScene.Storage.Path

/-!
# File trees

A file tree is a root folder with a working folder in it, from which paths that do not start at
the root are followed. Every operation takes a path and says why it is refused. A link on the way
of a path is always followed. One at its end is followed where a file or a folder is used, but not
where a name is made or removed.
-/

namespace ShapeScene

/-- All files that a program can reach. -/
structure FileTree where
  /-- The root folder. -/
  root : Folder
  /-- The names that lead from the root to the working folder. -/
  here : List String
deriving Repr, Inhabited

/-- Where a path leads. -/
inductive Destination where
  /-- To the folder at a place, named by dots or as the root. -/
  | folder (place : List String)
  /-- To a name in the folder at a place; `asFolder` says whether only a folder will do. -/
  | name (place : List String) (name : String) (asFolder : Bool)
deriving DecidableEq, Repr

namespace FileTree

/-- The greatest length of a path in bytes. -/
def maxPathBytes : Nat := 4095

/-- The folder at a place. -/
def folderAt (tree : FileTree) (place : List String) : Folder := (tree.root.at? place).getD []

/-- The tree with other entries in the folder at a place. -/
def withFolderAt (tree : FileTree) (place : List String) (folder : Folder) : FileTree :=
  { tree with root := tree.root.replaceAt place folder }

/-- The greatest number of links that are followed one after the other. -/
def maxLinks : Nat := 40

/-- The place from which a path is followed that is met at a place. -/
def startOf (place : List String) (path : String) : List String :=
  if Path.isAbsolute path then [] else place

/-- How far names of folders lead. -/
inductive Walk where
  /-- To a place. -/
  | arrived (place : List String)
  /-- To a link in the folder at a place, with names behind it. -/
  | link (place : List String) (target : String) (behind : List String)
  /-- Nowhere. -/
  | refused (failure : IoFailure)
deriving DecidableEq, Repr

/-- How far names of folders lead from a place. -/
def walk (tree : FileTree) : (place : List String) → List String → Walk
  | place, [] => .arrived place
  | place, part :: parts =>
    if part = ".." then walk tree place.dropLast parts
    else if Folder.isTooLong part then .refused .nameTooLong
    else
      match (tree.folderAt place).find? part with
      | none => .refused .notFound
      | some (.file _ _) | some (.device _) => .refused .notFolder
      | some (.folder _) => walk tree (place ++ [part]) parts
      | some (.link target) => .link place target parts

/-- The place reached from a place by following names of folders and at most `links` links. -/
def followLinks (tree : FileTree) : (links : Nat) → (place : List String) → List String →
    Except IoFailure (List String)
  | links, place, parts =>
    match tree.walk place parts, links with
    | .arrived place, _ => .ok place
    | .refused failure, _ => .error failure
    | .link _ _ _, 0 => .error .tooManyLinks
    | .link place target behind, links + 1 =>
      followLinks tree links (startOf place target) (Path.parts target ++ behind)

/-- The place reached from a place by following names of folders. -/
def follow (tree : FileTree) (place parts : List String) : Except IoFailure (List String) :=
  tree.followLinks maxLinks place parts

/-- Where a path leads that is met at a place, provided that all folders on the way are there. -/
def locateFrom (tree : FileTree) (place : List String) (path : String) :
    Except IoFailure Destination :=
  if path.toList.contains '\x00' then .error .nullInPath
  else if path.isEmpty then .error .notFound
  else if maxPathBytes < path.utf8ByteSize then .error .nameTooLong
  else
    let start := startOf place path
    match (Path.pieces path).getLast? with
    | none => .ok (.folder start)
    | some last =>
      if last = "." ∨ last = ".." then (tree.follow start (Path.parts path)).map .folder
      else
        (tree.follow start (Path.parts path).dropLast).map fun place =>
          .name place last (Path.endsInSlash path)

/-- Where a path leads, provided that all folders on the way are there. -/
def locate (tree : FileTree) (path : String) : Except IoFailure Destination :=
  tree.locateFrom tree.here path

/-- Where a destination leads when at most `links` links in its place are followed. -/
def arrive (tree : FileTree) : (links : Nat) → Destination → Except IoFailure Destination
  | _, .folder place => .ok (.folder place)
  | links, .name place name asFolder =>
    match (tree.folderAt place).find? name, links with
    | some (.link _), 0 => .error .tooManyLinks
    | some (.link target), links + 1 => do
      match ← tree.locateFrom place target with
      | .name place name needsFolder =>
        arrive tree links (.name place name (asFolder || needsFolder))
      | .folder place => .ok (.folder place)
    | _, _ => .ok (.name place name asFolder)

/-- Where a path leads when links at its end are followed, too. -/
def reach (tree : FileTree) (path : String) : Except IoFailure Destination := do
  tree.arrive maxLinks (← tree.locate path)

/-- The entry to which a path leads, if it has a name. -/
def entry? (tree : FileTree) (path : String) : Option Entry :=
  match tree.reach path with
  | .ok (.name place name false) => (tree.folderAt place).find? name
  | _ => none

/-- The path that a link holds. -/
def linkTarget? (tree : FileTree) (path : String) : Option String :=
  match tree.locate path with
  | .ok (.name place name false) =>
    match (tree.folderAt place).find? name with
    | some (.link target) => some target
    | _ => none
  | _ => none

/-- The place of the folder that a path names. -/
def folderPlace (tree : FileTree) (path : String) : Except IoFailure (List String) := do
  match ← tree.reach path with
  | .folder place => .ok place
  | .name place name _ => tree.follow place [name]

/-- Whether a path names a folder. -/
def isFolder (tree : FileTree) (path : String) : Bool := (tree.folderPlace path).isOk

/-- The entries of the folder that a path names. -/
def entries (tree : FileTree) (path : String) : Except IoFailure Folder :=
  (tree.folderPlace path).map tree.folderAt

/-- The file that a path names, with whether it is a program. -/
def file? (tree : FileTree) (path : String) : Option (List UInt8 × Bool) :=
  match tree.entry? path with
  | some (.file content isProgram) => some (content, isProgram)
  | _ => none

/-- Whether a path names a file. -/
def isFile (tree : FileTree) (path : String) : Bool := (tree.file? path).isSome

/-- The content of the file that a path names which is met at a place. -/
def readFrom (tree : FileTree) (place : List String) (path : String) :
    Except IoFailure (List UInt8) := do
  match ← tree.arrive maxLinks (← tree.locateFrom place path) with
  | .folder _ => .error .isFolder
  | .name place name asFolder =>
    let content ← (tree.folderAt place).read name
    if asFolder then .error .notFolder else .ok content

/-- The content of the file that a path names. -/
def read (tree : FileTree) (path : String) : Except IoFailure (List UInt8) :=
  tree.readFrom tree.here path

/-- The tree after a change of the folder at a place, if that is still there. -/
def change (tree : FileTree) (place : List String)
    (changed : Folder → Except IoFailure Folder) : Except IoFailure FileTree :=
  match tree.root.at? place with
  | none => .error .notFound
  | some folder => (changed folder).map (tree.withFolderAt place)

/-- The tree with a file of the given content. -/
def write (tree : FileTree) (path : String) (content : List UInt8) : Except IoFailure FileTree := do
  match ← tree.locate path with
  | .folder _ | .name _ _ true => .error .isFolder
  | destination =>
    match ← tree.arrive maxLinks destination with
    | .folder _ | .name _ _ true => .error .isFolder
    | .name place name false => tree.change place fun folder => folder.write name content

/-- The tree without a file. -/
def remove (tree : FileTree) (path : String) : Except IoFailure FileTree := do
  match ← tree.locate path with
  | .folder _ => .error .isFolder
  | .name place name asFolder =>
    let smaller ← tree.change place fun folder => folder.remove name
    if asFolder then .error .notFolder else .ok smaller

/-- The tree with a new folder. -/
def makeFolder (tree : FileTree) (path : String) : Except IoFailure FileTree := do
  match ← tree.locate path with
  | .folder _ => .error .alreadyExists
  | .name place name _ => tree.change place fun folder => folder.makeFolder name

/-- Remove all that is in the folder at a place, to which a path leads that is no name of it. The
folder itself cannot be removed by that path, which does no harm where the path leads nowhere any
more. -/
def emptyFolder (tree : FileTree) (path : String) (place : List String) (failure : IoFailure) :
    Except IoFailure Unit × FileTree :=
  let emptied := tree.withFolderAt place []
  match emptied.folderPlace path with
  | .error .notFound => (.ok (), emptied)
  | _ => (.error failure, emptied)

/-- Remove a folder and all that is in it. A folder that is named by dots, or by a link with a slash
behind it, loses what is in it, but stays. -/
def removeFolder (tree : FileTree) (path : String) : Except IoFailure Unit × FileTree :=
  match tree.locate path with
  | .error failure => (.error failure, tree)
  | .ok (.folder place) => tree.emptyFolder path place .invalidPath
  | .ok (.name place name asFolder) =>
    match (tree.folderAt place).find? name, asFolder with
    | some (.link _), true =>
      match tree.folderPlace path with
      | .ok target => tree.emptyFolder path target .notFolder
      | .error failure => (.error failure, tree)
    | _, _ =>
      match tree.change place fun folder => folder.removeFolder name with
      | .ok smaller => (.ok (), smaller)
      | .error failure => (.error failure, tree)

/-- The tree in which a file is a program that can be run. -/
def markProgram (tree : FileTree) (path : String) : Except IoFailure FileTree := do
  match ← tree.reach path with
  | .folder _ => .error .isFolder
  | .name place name _ =>
    tree.change place fun folder => do
      let content ← folder.read name
      .ok (folder.put name (.file content true))

/-- Make a folder, or accept the one that is there. -/
def settleFolder (tree : FileTree) (path : String) : Except IoFailure Unit × FileTree :=
  match tree.makeFolder path with
  | .ok made => (.ok (), made)
  | .error failure => (if tree.isFolder path then .ok () else .error failure, tree)

/-- Make the first of a list of folders, where each is in the next one. A folder whose holder is
missing is made after its holder; what was made stays when a later step fails. -/
def makeFolderChain : List String → FileTree → Except IoFailure Unit × FileTree
  | [], tree => (.error .notFound, tree)
  | path :: above, tree =>
    if path.isEmpty then (.ok (), tree)
    else
      match tree.makeFolder path with
      | .error .notFound =>
        match makeFolderChain above tree with
        | (.ok (), changed) => changed.settleFolder path
        | refused => refused
      | _ => tree.settleFolder path

/-- Make a folder and all folders above it that are missing. -/
def makeFolders (tree : FileTree) (path : String) : Except IoFailure Unit × FileTree :=
  makeFolderChain (Path.ancestors path) tree

end FileTree

end ShapeScene
