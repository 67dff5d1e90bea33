/-!
# Refusals of the file system

The reasons for which an operation on files is refused, with the wording of the operating system.
-/

namespace ShapeScene

/-- Why the file system refused an operation. -/
inductive IoFailure where
  /-- Nothing is there. -/
  | notFound
  /-- A stream is not open. -/
  | notOpen
  /-- The file may not be run. -/
  | permissionDenied
  /-- The file is no program. -/
  | notExecutable
  /-- Something is there already. -/
  | alreadyExists
  /-- A part of a path is not a folder. -/
  | notFolder
  /-- A folder is where a file was expected. -/
  | isFolder
  /-- A path of dots names a folder that cannot be treated so. -/
  | invalidPath
  /-- There is no room. -/
  | noSpace
  /-- A name or a path is too long. -/
  | nameTooLong
  /-- A folder is not empty. -/
  | notEmpty
  /-- Links lead to links without end. -/
  | tooManyLinks
  /-- A path has a null character. -/
  | nullInPath
deriving DecidableEq, Repr

namespace IoFailure

/-- The reason in words. -/
def reason : IoFailure → String
  | notFound => "No such file or directory"
  | notOpen => "Bad file descriptor"
  | permissionDenied => "Permission denied"
  | notExecutable => "Exec format error"
  | alreadyExists => "File exists"
  | notFolder => "Not a directory"
  | isFolder => "Is a directory"
  | invalidPath => "Invalid argument"
  | noSpace => "No space left on device"
  | nameTooLong => "File name too long"
  | notEmpty => "Directory not empty"
  | tooManyLinks => "Too many levels of symbolic links"
  | nullInPath => "file name contained an unexpected NUL byte"

/-- The number by which the operating system knows a reason; it never sees a null character. -/
def number? : IoFailure → Option Nat
  | notFound => some 2
  | notExecutable => some 8
  | notOpen => some 9
  | permissionDenied => some 13
  | alreadyExists => some 17
  | notFolder => some 20
  | isFolder => some 21
  | invalidPath => some 22
  | noSpace => some 28
  | nameTooLong => some 36
  | notEmpty => some 39
  | tooManyLinks => some 40
  | nullInPath => none

/-- The wording of a refusal. -/
def message (failure : IoFailure) : String :=
  match failure.number? with
  | some number => failure.reason ++ " (os error " ++ toString number ++ ")"
  | none => failure.reason

end IoFailure

end ShapeScene
