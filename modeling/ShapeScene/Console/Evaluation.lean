import ShapeScene.Console.Command
import ShapeScene.Console.Describe
import ShapeScene.Console.Help
import ShapeScene.Description.Codec
import ShapeScene.Session.Export
import ShapeScene.Session.Session

/-!
# Evaluating lines

A line of input is read as a command and carried out. The answer is a text to print, the wish to
leave, or an error. A line that fails changes nothing of the session, though it may have changed
files.
-/

namespace ShapeScene.Console

/-- What a line needs besides the session: the time, and the behaviour of programs. -/
structure Surroundings where
  /-- The time. -/
  now : Moment
  /-- The behaviour of programs. -/
  launcher : Launcher

/-- A session with the files around it. -/
structure Desk where
  /-- The session. -/
  session : Session
  /-- The format of an export that names none. -/
  exportFormat : OutputFormat
  /-- The files. -/
  files : FileTree

/-- The answer to a line. -/
inductive Reply where
  /-- A text to print. -/
  | text (text : String)
  /-- The wish to leave. -/
  | quit
deriving DecidableEq, Repr

/-- The answer to a command, and what it leaves. -/
abbrev Evaluation := Except SceneError Reply × Desk

namespace Desk

/-- A text, with nothing changed. -/
def say (desk : Desk) (text : String) : Evaluation := (.ok (.text text), desk)

/-- A text, with another session. -/
def saySession (desk : Desk) (session : Session) (text : String) : Evaluation :=
  (.ok (.text text), { desk with session := session })

/-- A failure, with nothing changed. -/
def fail (desk : Desk) (error : SceneError) : Evaluation := (.error error, desk)

/-- The answer of an operation that may have changed files. -/
def answerFiles {α : Type} (desk : Desk) (outcome : Except SceneError α × FileTree)
    (text : α → String) : Evaluation :=
  (outcome.1.map fun value => .text (text value), { desk with files := outcome.2 })

/-- The answer of an operation that gives a scene and a session. -/
def answerScene (desk : Desk) (outcome : Except SceneError (Generated × Session)) : Evaluation :=
  match outcome with
  | .error error => desk.fail error
  | .ok (generated, session) => desk.saySession session (describeScene generated.scene)

/-- A line for a stored scene. -/
def summaryLine (summary : SceneSummary) : String :=
  "  " ++ summary.id ++ "  " ++ summary.name ++ "  (" ++ toString summary.objects ++ " object(s))"

/-- The stored scenes, one on a line. -/
def summaryLines (summaries : List SceneSummary) : String :=
  if summaries.isEmpty then "no stored scenes"
  else Text.joinWith "\n" (summaries.map summaryLine)

/-- The line about a rendering that succeeded. -/
def renderedLine (report : RenderReport) : String :=
  "rendered " ++ report.size.text ++ " in " ++ toString report.milliseconds ++ " ms" ++
    (if report.rendering.isFallback then " (" ++ Availability.message ⟨none⟩ ++ ")" else "")

/-- Render the last scene, and write the image to a file if there is a path. -/
def render (desk : Desk) (surroundings : Surroundings) (path : Option String) : Evaluation :=
  let (outcome, files) := desk.session.render surroundings.launcher surroundings.now desk.files
  let rendered := { desk with files := files }
  match outcome with
  | .error error => rendered.fail error
  | .ok report =>
    match report.rendering.toExcept with
    | .error error => rendered.fail error
    | .ok image =>
      match path with
      | none => rendered.say (renderedLine report)
      | some path =>
        rendered.answerFiles (Export.writeFile "render" path (Ppm.encode image) rendered.files)
          fun _ => renderedLine report ++ "\nwrote " ++ path

/-- The format of an export: the one asked for, else the one that the path names, else the usual
one. -/
def formatFor (desk : Desk) (path : String) (format : Option OutputFormat) : OutputFormat :=
  (format <|> OutputFormat.ofPath? path).getD desk.exportFormat

/-- Export the last scene to a file. -/
def exportLast (desk : Desk) (surroundings : Surroundings) (path : String)
    (format : Option OutputFormat) : Evaluation :=
  match desk.session.requireLast with
  | .error error => desk.fail error
  | .ok last =>
    let format := desk.formatFor path format
    desk.answerFiles
      (Export.toFile last.scene path format desk.session.size desk.session.raytracer
        surroundings.launcher desk.files)
      fun _ => "exported " ++ format.name ++ " to " ++ path

/-- A switch in words. -/
def switchText (on : Bool) : String := if on then "on" else "off"

/-- Carry out a command. -/
def obey (desk : Desk) (surroundings : Surroundings) : Command → Evaluation
  | .quit => (.ok .quit, desk)
  | .help => desk.say help
  | .describe description =>
    desk.answerScene (desk.session.generate description surroundings.now)
  | .json =>
    match desk.session.requireLast with
    | .error error => desk.fail error
    | .ok last => desk.say last.scene.toJson
  | .explain description =>
    desk.say (describeOutcomes (desk.session.vocabulary.explain description))
  | .entities description => desk.say (Entity.listJson (desk.session.vocabulary.parse description))
  | .render path => desk.render surroundings path
  | .export path format => desk.exportLast surroundings path format
  | .save => desk.answerFiles (desk.session.save desk.files) fun path => "saved to " ++ path
  | .list =>
    match desk.session.list desk.files with
    | .error error => desk.fail error
    | .ok summaries => desk.say (summaryLines summaries)
  | .load id => desk.answerScene (desk.session.load id desk.files)
  | .delete id => desk.answerFiles (desk.session.delete id desk.files) fun _ => "deleted " ++ id
  | .animate on =>
    desk.saySession (desk.session.setAnimate on) ("animation " ++ switchText on)
  | .interactive on =>
    desk.saySession (desk.session.setInteractive on) ("interactive controls " ++ switchText on)
  | .size size => desk.saySession (desk.session.setSize size) ("image size " ++ size.text)
  | .status => desk.say desk.session.raytracer.availability.line

/-- Evaluate a line. -/
def eval (desk : Desk) (surroundings : Surroundings) (line : String) : Evaluation :=
  match Command.parse line with
  | .error error => desk.fail error
  | .ok command => desk.obey surroundings command

end Desk

end ShapeScene.Console
