import ShapeScene.Storage.Folder

/-!
# Differences of folders

The steps that turn one folder into another: what is no longer there is removed, and what is new or
different is made, a folder before what is in it. Links and devices are not made.
-/

namespace ShapeScene

/-- A step of turning one folder into another. The last name of a place is that of the entry. -/
inductive Change where
  /-- Make a folder. -/
  | makeFolder (place : List String)
  /-- Give a file its content. -/
  | writeFile (place : List String) (content : List UInt8)
  /-- Remove a file. -/
  | removeFile (place : List String)
  /-- Remove a folder and all that is in it. -/
  | removeFolder (place : List String)
deriving DecidableEq, Repr

namespace Change

/-- The step that removes an entry. -/
def remove (place : List String) : Entry → Change
  | .file _ _ | .link _ | .device _ => removeFile place
  | .folder _ => removeFolder place

/-- The steps that remove the entries whose names are not in a new folder. -/
def removals (place : List String) (old new : Folder) : List Change :=
  (old.filter fun entry => (new.find? entry.1).isNone).map fun entry =>
    remove (place ++ [entry.1]) entry.2

mutual
/-- The steps that put an entry in the place of what was there. -/
def toEntry (place : List String) : Option Entry → Entry → List Change
  | old, .file content _ =>
    match old with
    | some (.file before _) => if before = content then [] else [writeFile place content]
    | some (.folder _) => [removeFolder place, writeFile place content]
    | some (.link _) | some (.device _) => [removeFile place, writeFile place content]
    | none => [writeFile place content]
  | old, .folder entries =>
    match old with
    | some (.folder before) => removals place before entries ++ toEntries place before entries
    | some (.file _ _) | some (.link _) | some (.device _) =>
      removeFile place :: makeFolder place :: toEntries place [] entries
    | none => makeFolder place :: toEntries place [] entries
  | _, .link _ | _, .device _ => []

/-- The steps that put entries into a folder. -/
def toEntries (place : List String) (old : Folder) : List (String × Entry) → List Change
  | [] => []
  | (name, entry) :: entries =>
    toEntry (place ++ [name]) (old.find? name) entry ++ toEntries place old entries
end

/-- The steps that turn one folder into another. -/
def between (old new : Folder) : List Change := removals [] old new ++ toEntries [] old new

end Change

end ShapeScene
