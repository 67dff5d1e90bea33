import ShapeScene.Format
import ShapeScene.Image.Size

/-!
# Commands

A line that begins with a colon is a command; every other line is a description.
-/

namespace ShapeScene

/-- What a line asks for. -/
inductive Command where
  /-- Make a scene from a description. -/
  | describe (description : String)
  /-- Show the help text. -/
  | help
  /-- End the session. -/
  | quit
  /-- Print the last scene. -/
  | json
  /-- Show how each phrase is read. -/
  | explain (description : String)
  /-- Print the entities of a description. -/
  | entities (description : String)
  /-- Raytrace the last scene, perhaps into a file. -/
  | render (path : Option String)
  /-- Write the last scene to a file. -/
  | export (path : String) (format : Option OutputFormat)
  /-- Store the last scene. -/
  | save
  /-- List the stored scenes. -/
  | list
  /-- Make a stored scene the last one. -/
  | load (id : String)
  /-- Remove a stored scene. -/
  | delete (id : String)
  /-- Switch animation of new scenes. -/
  | animate (on : Bool)
  /-- Switch orbit controls of new scenes. -/
  | interactive (on : Bool)
  /-- Set the size of raytraced images. -/
  | size (size : ImageSize)
  /-- Show whether a raytracer is available. -/
  | status
deriving DecidableEq, Repr

namespace Command

/-- The long names of all commands, in the order in which help lists them. -/
def names : List String :=
  [":help", ":quit", ":json", ":explain", ":entities", ":render", ":export", ":save", ":list",
    ":load", ":delete", ":animate", ":interactive", ":size", ":status"]

/-- The pieces between white space. -/
def wordsOf (chars : List Char) : List String :=
  go [] chars
where
  /-- The pieces, after the reversed beginning of one. -/
  go : List Char → List Char → List String
    | piece, [] => if piece.isEmpty then [] else [String.ofList piece.reverse]
    | piece, char :: rest =>
      if Text.isBlank char then
        if piece.isEmpty then go [] rest else String.ofList piece.reverse :: go [] rest
      else go (char :: piece) rest

/-- The setting of a switch: on when nothing is said. -/
def readSwitch (word : Option String) : Except SceneError Bool :=
  match word.map Text.lowercase with
  | none => .ok true
  | some lowered =>
    if lowered = "on" ∨ lowered = "true" ∨ lowered = "yes" then .ok true
    else if lowered = "off" ∨ lowered = "false" ∨ lowered = "no" then .ok false
    else .error (.invalidArgument ("expected on or off, got " ++ Text.quoted lowered))

/-- An argument that a command cannot do without. -/
def required (word : Option String) (complaint : String) : Except SceneError String :=
  match word with
  | some word => .ok word
  | none => .error (.invalidArgument complaint)

/-- The command with a name and the text behind it. -/
def ofName (name arguments : String) : Except SceneError Command :=
  let words := wordsOf arguments.toList
  match name with
  | "help" | "h" | "?" => .ok .help
  | "quit" | "q" | "exit" => .ok .quit
  | "json" => .ok .json
  | "explain" =>
    if arguments.isEmpty then .error (.invalidArgument ":explain requires a description")
    else .ok (.explain arguments)
  | "entities" =>
    if arguments.isEmpty then .error (.invalidArgument ":entities requires a description")
    else .ok (.entities arguments)
  | "render" => .ok (.render words.head?)
  | "export" => do
    let path ← required words.head? ":export requires a path"
    match words.tail.head? with
    | none => .ok (.export path none)
    | some written => do
      let format ← OutputFormat.parse written
      .ok (.export path (some format))
  | "save" => .ok .save
  | "list" | "ls" => .ok .list
  | "load" => do .ok (.load (← required words.head? ":load requires a scene id"))
  | "delete" | "rm" => do .ok (.delete (← required words.head? ":delete requires a scene id"))
  | "animate" => do .ok (.animate (← readSwitch words.head?))
  | "interactive" => do .ok (.interactive (← readSwitch words.head?))
  | "size" => do
    let written ← required words.head? ":size requires WIDTHxHEIGHT"
    .ok (.size (← ImageSize.parse written))
  | "status" => .ok .status
  | other => .error (.invalidArgument ("unknown command :" ++ other ++ " (try :help)"))

/-- What a line asks for. -/
def parse (line : String) : Except SceneError Command :=
  match Text.trimChars line.toList with
  | ':' :: command =>
    match Text.splitFirst Text.isBlank command with
    | none => ofName (String.ofList command) ""
    | some (name, arguments) =>
      ofName (String.ofList name) (String.ofList (Text.trimChars arguments))
  | chars => .ok (.describe (String.ofList chars))

end Command

end ShapeScene
