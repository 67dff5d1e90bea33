import ShapeScene.Storage.FileTree
import ShapeScene.Text.Raw

/-!
# Programs

A program is a tool that lies in a folder of the system, or a script whose first line names the
program that interprets it. A tool gets words: the name by which it was called, and its arguments.
-/

namespace ShapeScene.Script

/-! ## The system -/

/-- The names of the tools that lie in the folder of the system. -/
def systemNames : List String :=
  ["[", "base64", "basename", "bash", "cat", "chmod", "cmp", "cp", "cut", "dash", "date", "dd",
    "dirname", "echo", "env", "expr", "false", "find", "fold", "grep", "egrep", "fgrep", "head",
    "hostname", "id", "ln", "ls", "mkdir", "mktemp", "mv", "nice", "nl", "nohup", "od", "paste",
    "printenv", "printf", "pwd", "readlink", "realpath", "rev", "rm", "rmdir", "sed", "seq", "sh",
    "sleep", "sort", "stat", "sync", "tac", "tail", "tee", "test", "timeout", "touch", "tr", "true",
    "truncate", "uname", "uniq", "unlink", "wc", "whoami", "xargs", "yes"]

/-- The bytes with which the file of a tool begins. -/
def toolMark : List UInt8 := [0x7F, 0x45, 0x4C, 0x46]

/-- The content of the file of a tool. -/
def toolContent (name : String) : List UInt8 := toolMark ++ Text.utf8 name

/-- The tool of which something is the file. -/
def toolOf? (content : List UInt8) : Option String :=
  if toolMark.isPrefixOf content then some (Text.readUtf8Lenient (content.drop toolMark.length))
  else none

/-- The folders of the system, with the tools and the devices. -/
def systemFolder : Folder :=
  let tools := systemNames.map fun name => (name, Entry.file (toolContent name) true)
  [("bin", .link "usr/bin"), ("usr", .folder [("bin", .folder tools)]), ("tmp", .folder []),
    ("dev", .folder [("null", .device .null), ("zero", .device .zeros), ("full", .device .full)])]

/-! ## Interpreters -/

/-- How many bytes of a script are looked at for its interpreter. -/
def markSize : Nat := 256

/-- Whether a byte divides the words of the first line of a script. -/
def isLineBlank (byte : UInt8) : Bool := byte == 32 || byte == 9

/-- The interpreter that a script names, and the argument that it gives it. -/
def interpreter? (content : List UInt8) : Option (String × Option String) :=
  match content with
  | 0x23 :: 0x21 :: rest =>
    let seen := rest.take (markSize - 2)
    let isCut := !seen.contains 10 && markSize ≤ content.length
    let line := if isCut then seen.dropLast else seen.takeWhile (· ≠ 10)
    let trimmed := ((line.reverse.dropWhile isLineBlank).reverse).dropWhile isLineBlank
    let (name, behind) := trimmed.span fun byte => !isLineBlank byte && byte != 0
    let argument := ((behind.takeWhile (· ≠ 0)).dropWhile isLineBlank)
    if name.isEmpty || (isCut && (line.dropWhile isLineBlank).length == name.length) then none
    else
      some (Text.raw name, if argument.isEmpty then none else some (Text.raw argument))
  | _ => none

/-! ## Starting -/

/-- A tool that is to run. -/
structure Program where
  /-- The tool. -/
  tool : String
  /-- The name by which it was called. -/
  name : String
  /-- Its arguments. -/
  arguments : List String
deriving DecidableEq, Repr

/-- How many interpreters may interpret each other. -/
def maxInterpreters : Nat := 5

/-- The program that a file which can be run is, when it is called by a name. `levels` bounds how
many interpreters follow. -/
def programFrom (files : FileTree) : (levels : Nat) → (path name : String) →
    (arguments : List String) → Except IoFailure Program
  | levels, path, name, arguments => do
    match ← files.reach path with
    | .folder _ => .error .permissionDenied
    | .name place entry asFolder =>
      match (files.folderAt place).find? entry with
      | none => .error .notFound
      | some (.folder _) | some (.device _) | some (.link _) => .error .permissionDenied
      | some (.file content isProgram) =>
        if asFolder then .error .notFolder
        else if !isProgram then .error .permissionDenied
        else
          match toolOf? content, interpreter? content, levels with
          | some tool, _, _ => .ok ⟨tool, name, arguments⟩
          | none, none, _ => .error .notExecutable
          | none, some _, 0 => .error .tooManyLinks
          | none, some (interpreter, argument), levels + 1 =>
            programFrom files levels interpreter interpreter (argument.toList ++ path :: arguments)

/-- The program at a path with arguments. -/
def programAt (files : FileTree) (path : String) (arguments : List String) :
    Except IoFailure Program :=
  programFrom files maxInterpreters path path arguments

/-! ## Searching -/

/-- Where programs are looked for when nothing is known of better places. -/
def usualFolders : String :=
  "/usr/local/sbin:/usr/local/bin:/usr/sbin:/usr/bin:/sbin:/bin"

/-- The texts between colons. -/
def betweenColons (text : String) : List String :=
  (text.toList.splitOn ':').map String.ofList

/-- The paths at which a program may lie. One with a slash lies nowhere else. -/
def pathsOfProgram (folders name : String) : List String :=
  if name.toList.contains '/' then [name]
  else
    (betweenColons folders).map fun folder =>
      if folder.isEmpty then name else Path.join folder name

/-- Whether the file that a path names can be run. -/
def canRun (files : FileTree) (path : String) : Bool :=
  (files.file? path).any (·.2)

/-- The first path at which a program of some name lies. -/
def findProgram? (files : FileTree) (folders name : String) : Option String :=
  if name.isEmpty then none else (pathsOfProgram folders name).find? (canRun files)

end ShapeScene.Script
