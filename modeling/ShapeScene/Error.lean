import ShapeScene.Text.Quoted
import ShapeScene.Text.Search

/-!
# Errors

Everything that can go wrong has a kind, and optionally a context that says during which operation
and on which file it went wrong. The wording of all kinds is in one place.
-/

namespace ShapeScene

/-- What went wrong. -/
inductive ErrorKind where
  /-- A description holds nothing but white space. -/
  | emptyDescription
  /-- No phrase of a description names a shape. -/
  | unparseable (description : String)
  /-- A command, an option or a name is not acceptable. -/
  | invalidArgument (message : String)
  /-- No scene is stored under a name. -/
  | sceneNotFound (id : String)
  /-- Stored data is not a scene. -/
  | serialization (message : String)
  /-- The file system refused an operation. -/
  | io (message : String)
  /-- An image could not be made. -/
  | render (message : String)
  /-- A defect of the program. -/
  | internal (message : String)
deriving DecidableEq, Repr

/-- Where it went wrong. -/
structure ErrorContext where
  /-- The file or other source at fault. -/
  source : Option String
  /-- The operations under way, outermost first. -/
  stack : List String
deriving DecidableEq, Repr

/-- An error with its context. -/
structure SceneError where
  /-- What went wrong. -/
  kind : ErrorKind
  /-- Where it went wrong, if that is known. -/
  context : Option ErrorContext
deriving DecidableEq, Repr

namespace ErrorKind

/-- The wording of a kind of error. -/
def message : ErrorKind → String
  | emptyDescription => "empty description"
  | unparseable description => "could not parse description: " ++ Text.quoted description
  | invalidArgument text => "invalid argument: " ++ text
  | sceneNotFound id => "scene not found: " ++ id
  | serialization text => "serialization error: " ++ text
  | io text => "I/O error: " ++ text
  | render text => "render error: " ++ text
  | internal text => "internal error: " ++ text

end ErrorKind

namespace ErrorContext

/-- The operations in order, then the source. -/
def message (context : ErrorContext) : String :=
  Text.joinWith " > " context.stack ++
    match context.source with
    | none => ""
    | some source => (if context.stack.isEmpty then "" else " ") ++ "at " ++ source

end ErrorContext

namespace SceneError

/-- An error without context. -/
def ofKind (kind : ErrorKind) : SceneError := ⟨kind, none⟩

/-- The error with a context in place of the one it had. -/
def withContext (error : SceneError) (context : ErrorContext) : SceneError :=
  { error with context := some context }

/-- An unacceptable argument. -/
def invalidArgument (message : String) : SceneError := ofKind (.invalidArgument message)

/-- A scene that is not stored. -/
def sceneNotFound (id : String) : SceneError := ofKind (.sceneNotFound id)

/-- An image that could not be made. -/
def render (message : String) : SceneError := ofKind (.render message)

/-- Data that is not a scene. -/
def serialization (message : String) : SceneError := ofKind (.serialization message)

/-- A failed operation on a file. -/
def ioAt (operation path message : String) : SceneError :=
  ⟨.io message, some ⟨some path, [operation]⟩⟩

/-- The wording of an error, its context in parentheses. -/
def message (error : SceneError) : String :=
  error.kind.message ++
    match error.context with
    | none => ""
    | some context => " (" ++ context.message ++ ")"

end SceneError

end ShapeScene
