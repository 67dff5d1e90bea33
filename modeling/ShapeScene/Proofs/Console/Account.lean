import ShapeScene.Console.Evaluation
import ShapeScene.Proofs.Scene.Drawing

/-!
# What lines do to a session

A line comes to one of four things: it fails and keeps the session, it makes a scene, it loads one,
or it does something else and changes settings at most. Only making a scene draws names.
-/

namespace ShapeScene

/-- A command that neither makes nor loads a scene. -/
def Command.IsOrdinary (command : Command) : Prop :=
  (∀ description, command ≠ .describe description) ∧ ∀ id, command ≠ .load id

/-- A text without phrases has no entities. -/
theorem Vocabulary.parse_empty (vocabulary : Vocabulary) : vocabulary.parse "" = [] := rfl

namespace Session

variable (session : Session)

/-- The scene that a session makes from a description without white space at its ends. -/
def sceneOf (description : String) (now : Moment) : SceneRecord :=
  (SceneRecord.assemble (session.vocabulary.parse description) session.options session.ids now).1

/-- The scene has the name that comes next. -/
theorem sceneOf_id (description : String) (now : Moment) :
    (session.sceneOf description now).id = IdSource.sceneName (session.ids.uuidAhead 0) := by
  rw [sceneOf, SceneRecord.assemble_id]

/-- Its objects have the names behind that. -/
theorem sceneOf_objects (description : String) (now : Moment) :
    (session.sceneOf description now).scene.objects =
      SceneRecord.objectsAhead session.ids 1 (session.vocabulary.parse description) := by
  rw [sceneOf, SceneRecord.assemble_objects]

/-- It has objects exactly when the description has entities. -/
theorem sceneOf_objects_ne_nil_iff (description : String) (now : Moment) :
    (session.sceneOf description now).scene.objects ≠ [] ↔
      session.vocabulary.parse description ≠ [] := by
  rw [sceneOf_objects, ← List.length_pos_iff, SceneRecord.length_objectsAhead, List.length_pos_iff]

/-- It has the options of the session. -/
theorem sceneOf_options (description : String) (now : Moment) :
    (session.sceneOf description now).options = session.options := by
  rw [sceneOf, SceneRecord.assemble_options]

/-- The session behind a scene that it made. -/
def made (description : String) (now : Moment) : Session :=
  { session with
    ids := session.ids.advance (1 + (session.vocabulary.parse description).length)
    last := some ⟨description, session.sceneOf description now⟩ }

/-- Making a scene keeps the vocabulary. -/
@[simp]
theorem made_vocabulary (description : String) (now : Moment) :
    (session.made description now).vocabulary = session.vocabulary := by
  simp only [made]

/-- Making a scene keeps the options of the next one. -/
@[simp]
theorem made_options (description : String) (now : Moment) :
    (session.made description now).options = session.options := by
  simp only [made]

/-- Making a scene keeps the size of images. -/
@[simp]
theorem made_size (description : String) (now : Moment) :
    (session.made description now).size = session.size := by
  simp only [made]

/-- Making a scene draws its name and those of its objects. -/
@[simp]
theorem made_ids (description : String) (now : Moment) :
    (session.made description now).ids =
      session.ids.advance (1 + (session.vocabulary.parse description).length) := by
  simp only [made]

/-- The scene made is the last one. -/
@[simp]
theorem made_last (description : String) (now : Moment) :
    (session.made description now).last =
      some ⟨description, session.sceneOf description now⟩ := by
  simp only [made]

/-- The session with a stored scene as the last one. -/
def showing (scene : SceneRecord) : Session :=
  { session with last := some ⟨scene.name, scene⟩ }

/-- The session with the setting that a command names. -/
def heed : Command → Session
  | .animate on => session.setAnimate on
  | .interactive on => session.setInteractive on
  | .size size => session.setSize size
  | _ => session

/-- A description without a shape is refused. -/
theorem generate_unnamed {description : String} (now : Moment)
    (unnamed : session.vocabulary.parse (Text.trim description) = []) :
    ∃ error, session.generate description now = .error error := by
  unfold generate
  by_cases blank : (Text.trim description).isEmpty
  · exact ⟨_, if_pos blank⟩
  · exact ⟨_, by rw [if_neg blank, unnamed, if_pos List.isEmpty_nil]⟩

/-- A description that names a shape gives a scene, with every name drawn that it needs. -/
theorem generate_named {description : String} (now : Moment)
    (named : session.vocabulary.parse (Text.trim description) ≠ []) :
    session.generate description now =
      .ok (⟨Text.trim description, session.sceneOf (Text.trim description) now⟩,
        session.made (Text.trim description) now) := by
  have written : ¬ (Text.trim description).isEmpty := by
    intro blank
    apply named
    rw [String.isEmpty_iff.mp blank, Vocabulary.parse_empty]
  have read : ¬ (session.vocabulary.parse (Text.trim description)).isEmpty :=
    fun empty => named (List.isEmpty_iff.mp empty)
  have drawn := SceneRecord.assemble_source (session.vocabulary.parse (Text.trim description))
    session.options session.ids now
  simp only [generate, if_neg written, if_neg read, made, sceneOf, drawn]

/-- Loading fails, or shows a scene that the store has. -/
theorem load_cases (id : String) (files : FileTree) :
    (∃ error, session.load id files = .error error) ∨
      ∃ store scene, session.store = some store ∧ store.load id files = .ok scene ∧
        session.load id files = .ok (⟨scene.name, scene⟩, session.showing scene) := by
  unfold load requireStore
  cases stored : session.store with
  | none => exact .inl ⟨_, rfl⟩
  | some store =>
    cases found : store.load id files with
    | error error => exact .inl ⟨error, by simp only [bind, Except.bind, found]⟩
    | ok scene =>
      refine .inr ⟨store, scene, rfl, found, ?_⟩
      simp only [bind, Except.bind, found, showing, stored]

end Session

namespace Console

/-- What a command comes to: its answer and the session behind it. -/
inductive Outcome (desk : Desk) (now : Moment) :
    Command → Except SceneError Reply → Session → Prop where
  /-- A command that fails keeps the session. -/
  | failing (command : Command) (error : SceneError) :
      Outcome desk now command (.error error) desk.session
  /-- A description of some shape makes a scene. -/
  | describing {description : String}
      (named : desk.session.vocabulary.parse (Text.trim description) ≠ []) :
      Outcome desk now (.describe description)
        (.ok (.text (describeScene (desk.session.sceneOf (Text.trim description) now))))
        (desk.session.made (Text.trim description) now)
  /-- A scene that the store has is loaded. -/
  | loading {id : String} {store : SceneStore} {scene : SceneRecord}
      (stored : desk.session.store = some store) (found : store.load id desk.files = .ok scene) :
      Outcome desk now (.load id) (.ok (.text (describeScene scene))) (desk.session.showing scene)
  /-- All other commands change settings at most. -/
  | setting {command : Command} (ordinary : command.IsOrdinary) (reply : Reply)
      (options : SceneOptions) (size : ImageSize) :
      Outcome desk now command (.ok reply) { desk.session with options := options, size := size }

namespace Desk

variable (desk : Desk) (surroundings : Surroundings)

/-- Rendering keeps the session. -/
theorem render_session (path : Option String) :
    (desk.render surroundings path).2.session = desk.session := by
  unfold render
  rcases desk.session.render surroundings.launcher surroundings.now desk.files with
    ⟨error | report, files⟩
  · rfl
  · cases drawn : report.rendering.toExcept with
    | error error => simp only [drawn, fail]
    | ok image => cases path <;> simp only [drawn, say, answerFiles]

/-- Exporting keeps the session. -/
theorem exportLast_session (path : String) (format : Option OutputFormat) :
    (desk.exportLast surroundings path format).2.session = desk.session := by
  unfold exportLast
  cases desk.session.requireLast <;> rfl

/-- An ordinary command changes the setting that it names and nothing else of the session. -/
theorem obey_ordinary {command : Command} (ordinary : command.IsOrdinary) :
    (desk.obey surroundings command).2.session = desk.session.heed command := by
  cases command with
  | describe description => exact absurd rfl (ordinary.1 description)
  | load id => exact absurd rfl (ordinary.2 id)
  | json =>
    simp only [obey]
    cases desk.session.requireLast <;> rfl
  | list =>
    simp only [obey]
    cases desk.session.list desk.files <;> rfl
  | render path => exact desk.render_session surroundings path
  | «export» path format => exact desk.exportLast_session surroundings path format
  | animate | interactive | size | help | quit | explain | entities | save | delete | status => rfl

/-- What an ordinary command comes to that names no setting. -/
theorem outcome_of_kept {command : Command} (ordinary : command.IsOrdinary)
    (kept : desk.session.heed command = desk.session) :
    Outcome desk surroundings.now command (desk.obey surroundings command).1
      (desk.obey surroundings command).2.session := by
  rw [desk.obey_ordinary surroundings ordinary, kept]
  cases (desk.obey surroundings command).1 with
  | error error => exact .failing command error
  | ok reply => exact .setting ordinary reply desk.session.options desk.session.size

/-- What a description comes to. -/
theorem describe_outcome (description : String) :
    Outcome desk surroundings.now (.describe description)
      (desk.obey surroundings (.describe description)).1
      (desk.obey surroundings (.describe description)).2.session := by
  simp only [obey]
  by_cases unnamed : desk.session.vocabulary.parse (Text.trim description) = []
  · obtain ⟨error, refused⟩ := desk.session.generate_unnamed surroundings.now unnamed
    rw [refused]
    exact .failing _ error
  · rw [desk.session.generate_named surroundings.now unnamed]
    simp only [answerScene, saySession]
    exact .describing unnamed

/-- What a command to load comes to. -/
theorem load_outcome (id : String) :
    Outcome desk surroundings.now (.load id) (desk.obey surroundings (.load id)).1
      (desk.obey surroundings (.load id)).2.session := by
  simp only [obey]
  rcases desk.session.load_cases id desk.files with
    ⟨error, refused⟩ | ⟨store, scene, stored, found, shown⟩
  · rw [refused]
    exact .failing _ error
  · rw [shown]
    exact .loading stored found

/-- What any command comes to. -/
theorem obey_outcome (command : Command) :
    Outcome desk surroundings.now command (desk.obey surroundings command).1
      (desk.obey surroundings command).2.session := by
  cases command with
  | describe description => exact desk.describe_outcome surroundings description
  | load id => exact desk.load_outcome surroundings id
  | animate on => exact .setting (by simp [Command.IsOrdinary]) _ _ desk.session.size
  | interactive on => exact .setting (by simp [Command.IsOrdinary]) _ _ desk.session.size
  | size size => exact .setting (by simp [Command.IsOrdinary]) _ desk.session.options size
  | json | list | render | «export» | help | quit | explain | entities | save | delete | status =>
    exact desk.outcome_of_kept surroundings (by simp [Command.IsOrdinary]) rfl

end Desk

/-- A line that is typed. -/
structure Line where
  /-- The line. -/
  text : String
  /-- The time and the programs. -/
  surroundings : Surroundings
  /-- What others do to the files before the line is read. -/
  meanwhile : FileTree → FileTree

namespace Desk

/-- The desk with what others did to its files before a line is read. -/
def onceTyped (desk : Desk) (line : Line) : Desk :=
  { desk with files := line.meanwhile desk.files }

/-- The answer to a line. -/
def answer (desk : Desk) (line : Line) : Except SceneError Reply :=
  ((desk.onceTyped line).eval line.surroundings line.text).1

/-- The desk behind a line. -/
def after (desk : Desk) (line : Line) : Desk :=
  ((desk.onceTyped line).eval line.surroundings line.text).2

/-- The desk behind lines. -/
def afterAll (desk : Desk) (lines : List Line) : Desk := lines.foldl after desk

end Desk

/-- What a line does to the session on a desk. -/
structure KeepsAccount (desk : Desk) (line : Line) : Prop where
  /-- A line that fails keeps the session. -/
  failed : ∀ error, desk.answer line = .error error → (desk.after line).session = desk.session
  /-- A description that succeeds leaves its scene as the last one. The scene and its objects have
  the names that come next, and no other names are drawn. -/
  described : ∀ description reply, Command.parse line.text = .ok (.describe description) →
    desk.answer line = .ok reply → ∃ scene,
      scene = desk.session.sceneOf (Text.trim description) line.surroundings.now ∧
      reply = .text (describeScene scene) ∧
      (desk.after line).session.last = some ⟨Text.trim description, scene⟩ ∧
      scene.id = IdSource.sceneName (desk.session.ids.uuidAhead 0) ∧
      scene.scene.objects = SceneRecord.objectsAhead desk.session.ids 1
        (desk.session.vocabulary.parse (Text.trim description)) ∧
      (desk.after line).session.ids = desk.session.ids.advance (1 + scene.scene.objects.length)
  /-- Loading that succeeds leaves the stored scene as the last one and changes nothing else. -/
  loaded : ∀ id reply, Command.parse line.text = .ok (.load id) → desk.answer line = .ok reply →
    ∃ store scene, desk.session.store = some store ∧
      store.load id (line.meanwhile desk.files) = .ok scene ∧
      reply = .text (describeScene scene) ∧
      (desk.after line).session = desk.session.showing scene
  /-- No other command changes the last scene or draws names. -/
  ordinary : ∀ command, Command.parse line.text = .ok command → command.IsOrdinary →
    (desk.after line).session.last = desk.session.last ∧
      (desk.after line).session.ids = desk.session.ids
  /-- No line changes the vocabulary. -/
  vocabulary : (desk.after line).session.vocabulary = desk.session.vocabulary

namespace Desk

variable (desk : Desk) (line : Line)

/-- A line that is no command fails and keeps the session. -/
theorem answer_of_unreadable {error : SceneError}
    (unreadable : Command.parse line.text = .error error) :
    desk.answer line = .error error ∧ (desk.after line).session = desk.session := by
  simp only [answer, after, eval, unreadable, fail, onceTyped, and_self]

/-- What a line comes to that is a command. -/
theorem line_outcome {command : Command} (read : Command.parse line.text = .ok command) :
    Outcome (desk.onceTyped line) line.surroundings.now command (desk.answer line)
      (desk.after line).session := by
  have outcome := (desk.onceTyped line).obey_outcome line.surroundings command
  simpa only [answer, after, eval, read] using outcome

/-- A line that fails keeps the session. -/
theorem session_of_error {error : SceneError} (failed : desk.answer line = .error error) :
    (desk.after line).session = desk.session := by
  cases read : Command.parse line.text with
  | error unread => exact (desk.answer_of_unreadable line read).2
  | ok command =>
    have outcome := desk.line_outcome line read
    rw [failed] at outcome
    generalize (desk.after line).session = behind at outcome
    cases outcome with
    | failing => rfl

/-- No line changes the vocabulary. -/
theorem vocabulary_after : (desk.after line).session.vocabulary = desk.session.vocabulary := by
  cases read : Command.parse line.text with
  | error unread => rw [(desk.answer_of_unreadable line read).2]
  | ok command =>
    have outcome := desk.line_outcome line read
    generalize desk.answer line = answer, (desk.after line).session = behind at outcome
    cases outcome with
    | failing | loading | setting => rfl
    | describing => exact Session.made_vocabulary ..

/-- What a line leaves that asks for a description and succeeds. -/
theorem described_after {description : String} {reply : Reply}
    (read : Command.parse line.text = .ok (.describe description))
    (succeeded : desk.answer line = .ok reply) :
    reply = .text (describeScene
        (desk.session.sceneOf (Text.trim description) line.surroundings.now)) ∧
      (desk.after line).session =
        desk.session.made (Text.trim description) line.surroundings.now := by
  have outcome := desk.line_outcome line read
  rw [succeeded] at outcome
  generalize (desk.after line).session = behind at outcome
  cases outcome with
  | describing => exact ⟨rfl, rfl⟩
  | setting ordinary => exact absurd rfl (ordinary.1 description)

/-- What a line leaves that asks to load and succeeds. -/
theorem loaded_after {id : String} {reply : Reply}
    (read : Command.parse line.text = .ok (.load id)) (succeeded : desk.answer line = .ok reply) :
    ∃ store scene, desk.session.store = some store ∧
      store.load id (line.meanwhile desk.files) = .ok scene ∧
      reply = .text (describeScene scene) ∧
      (desk.after line).session = desk.session.showing scene := by
  have outcome := desk.line_outcome line read
  rw [succeeded] at outcome
  generalize (desk.after line).session = behind at outcome
  cases outcome with
  | loading stored found => exact ⟨_, _, stored, found, rfl, rfl⟩
  | setting ordinary => exact absurd rfl (ordinary.2 id)

/-- What an ordinary command leaves. -/
theorem ordinary_after {command : Command} (read : Command.parse line.text = .ok command)
    (ordinary : command.IsOrdinary) :
    (desk.after line).session.last = desk.session.last ∧
      (desk.after line).session.ids = desk.session.ids := by
  have outcome := desk.line_outcome line read
  generalize desk.answer line = answer, (desk.after line).session = behind at outcome
  cases outcome with
  | failing | setting => exact ⟨rfl, rfl⟩
  | describing => exact absurd rfl (ordinary.1 _)
  | loading => exact absurd rfl (ordinary.2 _)

/-- Every line keeps account. -/
theorem keepsAccount : KeepsAccount desk line where
  failed _ failed := desk.session_of_error line failed
  described description reply read succeeded := by
    obtain ⟨shown, behind⟩ := desk.described_after line read succeeded
    refine ⟨_, rfl, shown, ?_, Session.sceneOf_id .., Session.sceneOf_objects .., ?_⟩
    · rw [behind, Session.made_last]
    · rw [behind, Session.made_ids, Session.sceneOf_objects, SceneRecord.length_objectsAhead]
  loaded _ _ read succeeded := desk.loaded_after line read succeeded
  ordinary _ read ordinary := desk.ordinary_after line read ordinary
  vocabulary := desk.vocabulary_after line

end Desk

end Console

end ShapeScene
