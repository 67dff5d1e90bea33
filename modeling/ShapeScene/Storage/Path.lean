import ShapeScene.Text.Search

/-!
# Paths

A path is text with slashes. Empty pieces and single dots name nothing; two dots name the parent.
-/

namespace ShapeScene.Path

/-- The pieces of a path between its slashes, without the empty ones. -/
def pieces (path : String) : List String :=
  ((Text.splitAt '/' path.toList).filter fun piece => !piece.isEmpty).map String.ofList

/-- The pieces of a path that lead somewhere else. -/
def parts (path : String) : List String := (pieces path).filter fun piece => piece != "."

/-- Whether a path starts at the root of the file system. -/
def isAbsolute (path : String) : Bool := path.toList.head? == some '/'

/-- Whether a path ends in a slash, so that it can only name a folder. -/
def endsInSlash (path : String) : Bool := path.toList.getLast? == some '/'

/-- The last part of a path, unless it names a parent. -/
def fileName? (path : String) : Option String :=
  match (parts path).getLast? with
  | some name => if name = ".." then none else some name
  | none => none

/-- The part of a file name behind its last dot; a dot in front does not count. -/
def nameExtension? (name : String) : Option String :=
  match Text.splitFirst (· = '.') name.toList.reverse with
  | some (behind, before) => if before.isEmpty then none else some (String.ofList behind.reverse)
  | none => none

/-- The extension of the file that a path names. -/
def extension? (path : String) : Option String := (fileName? path).bind nameExtension?

/-- A path with one more part behind it; an absolute part replaces the path. -/
def join (path part : String) : String :=
  if isAbsolute part || path.isEmpty then part
  else if endsInSlash path then path ++ part
  else path ++ "/" ++ part

/-! ## Parents -/

/-- The mark at the front of a path that stands for the root or for the working folder, and what
is behind it. -/
def splitLead : List Char → List Char × List Char
  | '/' :: rest => (['/'], rest)
  | ['.'] => (['.'], [])
  | '.' :: '/' :: rest => (['.'], '/' :: rest)
  | path => ([], path)

/-- A reversed path without slashes and single dots at its end. -/
def dropFiller : List Char → List Char
  | '/' :: rest => dropFiller rest
  | ['.'] => []
  | '.' :: '/' :: rest => dropFiller rest
  | path => path

/-- The text of a path without its last part; a single part has the empty path as parent. -/
def parent? (path : String) : Option String :=
  let (lead, body) := splitLead path.toList
  let kept := dropFiller body.reverse
  if kept.isEmpty then if lead = ['.'] then some "" else none
  else
    let above := dropFiller (kept.dropWhile (· ≠ '/'))
    some (String.ofList (lead ++ above.reverse))

/-- A path, its parent, the parent of that, and so on, at most `limit` of them. -/
def ancestorsUpTo : (limit : Nat) → String → List String
  | 0, _ => []
  | limit + 1, path =>
    path ::
      match parent? path with
      | none => []
      | some above => ancestorsUpTo limit above

/-- A path and everything above it. Every parent is shorter than its child, so their number is at
most that of the characters. -/
def ancestors (path : String) : List String := ancestorsUpTo (path.length + 1) path

end ShapeScene.Path
