import ShapeScene.Storage.Failure

/-!
# Folders

A folder lists its entries under their names, in the order in which they were made. The operations
here act on the files directly in a folder; a folder is never replaced by a file, nor a file by a
folder. Where a link leads is not known here.
-/

namespace ShapeScene

/-- A file that keeps nothing of what is written to it. -/
inductive Device where
  /-- It takes everything and holds nothing. -/
  | null
  /-- It takes everything and holds zeros without end. -/
  | zeros
  /-- It has no room for anything and holds zeros without end. -/
  | full
deriving DecidableEq, Repr

/-- What a name in a folder stands for. -/
inductive Entry where
  /-- A file, which may be a program that can be run. -/
  | file (content : List UInt8) (isProgram : Bool)
  /-- A folder. -/
  | folder (entries : List (String × Entry))
  /-- What another path names. -/
  | link (target : String)
  /-- A device. -/
  | device (device : Device)
deriving Repr, Inhabited

/-- The entries of a folder under their names. -/
abbrev Folder := List (String × Entry)

namespace Folder

/-- The entry under a name. -/
def find? : Folder → String → Option Entry
  | [], _ => none
  | (other, entry) :: entries, name => if other = name then some entry else find? entries name

/-- The folder with an entry under a name, in the place of the one that was there. -/
def put : Folder → String → Entry → Folder
  | [], name, entry => [(name, entry)]
  | (other, old) :: entries, name, entry =>
    if other = name then (name, entry) :: entries else (other, old) :: put entries name entry

/-- The folder without a name. -/
def erase (folder : Folder) (name : String) : Folder :=
  folder.filter fun entry => entry.1 != name

/-- A name that was put has its new entry. -/
theorem find?_put_self (folder : Folder) (name : String) (entry : Entry) :
    (folder.put name entry).find? name = some entry := by
  induction folder with
  | nil => simp [put, find?]
  | cons head rest ih =>
    obtain ⟨other, old⟩ := head
    by_cases same : other = name <;> simp [put, find?, same, ih]

/-- Putting an entry leaves every other name alone. -/
theorem find?_put_of_ne {name other : String} (different : other ≠ name) (folder : Folder)
    (entry : Entry) : (folder.put name entry).find? other = folder.find? other := by
  induction folder with
  | nil => simp [put, find?, different.symm]
  | cons head rest ih =>
    obtain ⟨first, old⟩ := head
    by_cases same : first = name
    · subst same
      simp [put, find?, different.symm]
    · by_cases found : first = other
      · subst found
        simp [put, find?, same]
      · simp [put, find?, same, found, ih]

/-- An erased name has no entry. -/
theorem find?_erase_self (folder : Folder) (name : String) :
    (folder.erase name).find? name = none := by
  induction folder with
  | nil => rfl
  | cons head rest ih =>
    obtain ⟨other, old⟩ := head
    by_cases same : other = name
    · simpa [erase, find?, same] using ih
    · simpa [erase, find?, same] using ih

/-- Erasing a name leaves every other name alone. -/
theorem find?_erase_of_ne {name other : String} (different : other ≠ name) (folder : Folder) :
    (folder.erase name).find? other = folder.find? other := by
  induction folder with
  | nil => rfl
  | cons head rest ih =>
    obtain ⟨first, old⟩ := head
    by_cases same : first = name
    · subst same
      simpa [erase, find?, different.symm] using ih
    · by_cases found : first = other
      · simp [erase, find?, found, different]
      · simpa [erase, find?, same, found] using ih

/-! ## Files of a folder -/

/-- The greatest length of a name in bytes. -/
def maxNameBytes : Nat := 255

/-- Whether a name is longer than the file system allows. -/
def isTooLong (name : String) : Bool := maxNameBytes < name.utf8ByteSize

/-- The content of a file where no more links are followed. What has no end is not read. -/
def read (folder : Folder) (name : String) : Except IoFailure (List UInt8) :=
  if isTooLong name then .error .nameTooLong
  else
    match folder.find? name with
    | none => .error .notFound
    | some (.folder _) => .error .isFolder
    | some (.file content _) => .ok content
    | some (.link _) => .error .tooManyLinks
    | some (.device _) => .ok []

/-- The folder with a file of the given content, which takes the place of the old content. -/
def write (folder : Folder) (name : String) (content : List UInt8) : Except IoFailure Folder :=
  if isTooLong name then .error .nameTooLong
  else
    match folder.find? name with
    | none => .ok (folder.put name (.file content false))
    | some (.folder _) => .error .isFolder
    | some (.file _ isProgram) => .ok (folder.put name (.file content isProgram))
    | some (.link _) => .error .tooManyLinks
    | some (.device device) =>
      if device = .full ∧ !content.isEmpty then .error .noSpace else .ok folder

/-- The folder without a file. -/
def remove (folder : Folder) (name : String) : Except IoFailure Folder :=
  if isTooLong name then .error .nameTooLong
  else
    match folder.find? name with
    | none => .error .notFound
    | some (.folder _) => .error .isFolder
    | some (.file _ _) | some (.link _) | some (.device _) => .ok (folder.erase name)

/-- The folder with a new empty folder in it. -/
def makeFolder (folder : Folder) (name : String) : Except IoFailure Folder :=
  if isTooLong name then .error .nameTooLong
  else
    match folder.find? name with
    | none => .ok (folder.put name (.folder []))
    | some _ => .error .alreadyExists

/-- The folder without a folder in it and all that was in that, or without a link. -/
def removeFolder (folder : Folder) (name : String) : Except IoFailure Folder :=
  if isTooLong name then .error .nameTooLong
  else
    match folder.find? name with
    | none => .error .notFound
    | some (.file _ _) | some (.device _) => .error .notFolder
    | some (.folder _) | some (.link _) => .ok (folder.erase name)

/-- The folder with a new link in it. -/
def makeLink (folder : Folder) (name target : String) : Except IoFailure Folder :=
  if isTooLong name then .error .nameTooLong
  else
    match folder.find? name with
    | none => .ok (folder.put name (.link target))
    | some _ => .error .alreadyExists

/-! ## Folders within folders -/

/-- The folder that a list of names leads to. -/
def at? : Folder → List String → Option Folder
  | folder, [] => some folder
  | folder, name :: names =>
    match folder.find? name with
    | some (.folder inner) => at? inner names
    | _ => none

/-- The folder with a change made in the folder that a list of names leads to. -/
def replaceAt (folder : Folder) (names : List String) (changed : Folder) : Folder :=
  match names with
  | [] => changed
  | name :: names =>
    match folder.find? name with
    | some (.folder inner) => folder.put name (.folder (replaceAt inner names changed))
    | _ => folder

end Folder

end ShapeScene
