import ShapeScene.Proofs.Console.Repetition
import ShapeScene.Proofs.Raytracer.Complaints
import ShapeScene.Proofs.Session.Acceptance
import ShapeScene.Proofs.Storage.Paths

/-!
# Settings in force

What is set for new scenes and for images depends on what a session began with and on the commands
typed since; the scenes that were made or loaded have no part in it. Every size that can be typed
can be rendered, so that a session which begins with such a size keeps to such sizes.
-/

namespace ShapeScene

/-- A command with a name sets no size but one that was read. -/
theorem Command.inBounds_of_ofName {name arguments : String} {size : ImageSize}
    (read : ofName name arguments = .ok (.size size)) : size.InBounds := by
  unfold ofName at read
  dsimp only at read
  -- Some commands read their arguments in two ways. Of all of them only one sets a size.
  split at read <;> (try split at read) <;>
    simp only [bind_eq_ok, Except.ok.injEq, reduceCtorEq, and_false, exists_false,
      Command.size.injEq] at read
  obtain ⟨written, -, size, parsed, rfl⟩ := read
  exact ImageSize.inBounds_of_parse parsed

/-- A line sets no size but one that was read. -/
theorem Command.inBounds_of_parse {line : String} {size : ImageSize}
    (read : parse line = .ok (.size size)) : size.InBounds := by
  unfold parse at read
  split at read
  · split at read <;> exact inBounds_of_ofName read
  · cases read

namespace Console

/-- What is set for new scenes and for images. -/
structure Settings where
  /-- Whether new scenes are animated. -/
  animate : Bool
  /-- Whether the pointer turns new scenes. -/
  interactive : Bool
  /-- The size of images. -/
  size : ImageSize
deriving DecidableEq

namespace Settings

/-- The settings behind a command. -/
def heed (settings : Settings) : Command → Settings
  | .animate on => { settings with animate := on }
  | .interactive on => { settings with interactive := on }
  | .size size => { settings with size := size }
  | _ => settings

/-- The settings behind a line; a line that is no command sets nothing. -/
def behind (settings : Settings) (line : Line) : Settings :=
  match Command.parse line.text with
  | .error _ => settings
  | .ok command => settings.heed command

/-- A line sets no size out of bounds. -/
theorem inBounds_behind {settings : Settings} (bounds : settings.size.InBounds) (line : Line) :
    (settings.behind line).size.InBounds := by
  unfold behind
  cases read : Command.parse line.text with
  | error => exact bounds
  | ok command =>
    cases command with
    | size size => exact Command.inBounds_of_parse read
    | _ => exact bounds

/-- Settings are in force in a session. -/
structure InForce (settings : Settings) (session : Session) : Prop where
  /-- New scenes have the options that are set, and turn by themselves when they are animated. -/
  options : session.options = SceneOptions.of settings.animate settings.interactive
  /-- Images have the size that is set. -/
  size : session.size = settings.size

variable {settings : Settings}

/-- The setting that a command names is in force behind it. -/
theorem InForce.heed {session : Session} (inForce : settings.InForce session) (command : Command) :
    (settings.heed command).InForce (session.heed command) := by
  cases command with
  | animate on =>
    refine ⟨?_, inForce.size⟩
    simp only [Session.heed, Session.setAnimate, inForce.options]
    rfl
  | interactive on =>
    refine ⟨?_, inForce.size⟩
    simp only [Session.heed, Session.setInteractive, inForce.options]
    rfl
  | size size => exact ⟨inForce.options, rfl⟩
  | _ => exact inForce

/-- Making and loading scenes sets nothing. -/
theorem heed_of_not_isOrdinary {command : Command} (scene : ¬ command.IsOrdinary) :
    settings.heed command = settings := by
  cases command with
  | describe | load => rfl
  | _ => exact absurd (by simp [Command.IsOrdinary]) scene

/-- Behind a line the settings behind it are in force. -/
theorem InForce.after {desk : Desk} (inForce : settings.InForce desk.session) (line : Line) :
    (settings.behind line).InForce (desk.after line).session := by
  unfold behind
  cases read : Command.parse line.text with
  | error error =>
    rw [(desk.answer_of_unreadable line read).2]
    exact inForce
  | ok command =>
    by_cases ordinary : command.IsOrdinary
    · have done := (desk.onceTyped line).obey_ordinary line.surroundings ordinary
      simp only [Desk.after, Desk.eval, read, done]
      exact inForce.heed command
    · have outcome := desk.line_outcome line read
      generalize desk.answer line = answer, (desk.after line).session = session at outcome
      dsimp only
      rw [heed_of_not_isOrdinary ordinary]
      cases outcome with
      | failing => exact inForce
      | describing =>
        refine ⟨?_, ?_⟩
        · rw [Session.made_options]
          exact inForce.options
        · rw [Session.made_size]
          exact inForce.size
      | loading => exact ⟨inForce.options, inForce.size⟩
      | setting kept => exact absurd kept ordinary

/-- Behind lines the settings behind them are in force. -/
theorem InForce.afterAll {desk : Desk} (inForce : settings.InForce desk.session)
    (lines : List Line) :
    (lines.foldl behind settings).InForce (desk.afterAll lines).session := by
  induction lines generalizing settings desk with
  | nil => exact inForce
  | cons line lines ih => exact ih (inForce.after line)

/-- Lines set no size out of bounds. -/
theorem inBounds_behindAll (bounds : settings.size.InBounds) (lines : List Line) :
    (lines.foldl behind settings).size.InBounds := by
  induction lines generalizing settings with
  | nil => exact bounds
  | cons line lines ih => exact ih (inBounds_behind bounds line)

/-- The settings that a session begins with. -/
def ofSession (settings : SessionSettings) : Settings :=
  ⟨settings.animate, settings.interactive, settings.size⟩

/-- What a session begins with is in force. -/
theorem inForce_start {settings : SessionSettings} {environment : Option String}
    {files behind : FileTree} {session : Session}
    (started : Session.start settings environment files = (.ok session, behind)) :
    (ofSession settings).InForce session := by
  unfold Session.start at started
  cases opened : Session.openStore settings files with
  | mk outcome files =>
    rw [opened] at started
    cases outcome with
    | error error => cases started
    | ok store =>
      cases started
      exact ⟨rfl, rfl⟩

end Settings

namespace Desk

variable (desk : Desk) (line : Line)

/-- An operation on files fails for the reason that is answered. -/
theorem error_of_answerFiles {α : Type} {outcome : Except SceneError α × FileTree}
    {text : α → String} {error : SceneError}
    (failed : (desk.answerFiles outcome text).1 = .error error) : outcome.1 = .error error := by
  unfold answerFiles at failed
  cases answered : outcome.1 with
  | ok value =>
    rw [answered] at failed
    cases failed
  | error complaint =>
    rw [answered] at failed
    cases failed
    rfl

/-- The answer to a command to render has no complaint of a size in bounds. -/
theorem render_acceptsSize (bounds : desk.session.size.InBounds) (surroundings : Surroundings)
    {path : Option String} {error : SceneError}
    (failed : (desk.render surroundings path).1 = .error error) : error.AcceptsSize := by
  obtain ⟨reported, refused⟩ :=
    Session.render_acceptsSize bounds surroundings.launcher surroundings.now desk.files
  unfold render at failed
  rcases outcome : desk.session.render surroundings.launcher surroundings.now desk.files with
    ⟨complaint | report, files⟩ <;> rw [outcome] at failed reported refused
  · cases failed
    exact refused _ rfl
  · have accepts := reported report rfl
    cases drawn : report.rendering.toExcept with
    | error complaint =>
      simp only [drawn, fail] at failed
      cases failed
      exact accepts.error drawn
    | ok image =>
      simp only [drawn] at failed
      cases path with
      | none => cases failed
      | some path => exact Export.acceptsSize_of_writeFile (error_of_answerFiles _ failed)

/-- The answer to a command to export has no complaint of a size in bounds. -/
theorem exportLast_acceptsSize (bounds : desk.session.size.InBounds) (surroundings : Surroundings)
    {path : String} {format : Option OutputFormat} {error : SceneError}
    (failed : (desk.exportLast surroundings path format).1 = .error error) :
    error.AcceptsSize := by
  unfold exportLast at failed
  cases shown : desk.session.requireLast with
  | error complaint =>
    rw [shown] at failed
    cases failed
    exact Session.acceptsSize_of_requireLast shown
  | ok last =>
    rw [shown] at failed
    exact Export.acceptsSize_of_toFile bounds (desk.error_of_answerFiles failed)

/-- What is known of a scene that was made while some options were in force. -/
structure MadeWith (options : SceneOptions) (generated : Generated) : Prop where
  /-- It has an object. -/
  objects : generated.scene.scene.objects ≠ []
  /-- Its description is not blank. -/
  written : Text.isBlankText generated.description = false
  /-- Its description has no white space at its ends. -/
  trimmed : Text.trim generated.description = generated.description
  /-- Its options are those that were in force. -/
  options : generated.scene.options = options

/-- What a session makes of a description that names a shape. -/
theorem madeWith_sceneOf (session : Session) {description : String} (now : Moment)
    (named : session.vocabulary.parse (Text.trim description) ≠ []) :
    MadeWith session.options
      ⟨Text.trim description, session.sceneOf (Text.trim description) now⟩ where
  objects := by
    rw [Session.sceneOf_objects_ne_nil_iff]
    exact named
  written := by
    rw [← Bool.not_eq_true, ← Text.isEmpty_trim, Text.trim_trim, String.isEmpty_iff]
    intro blank
    rw [blank] at named
    exact named session.vocabulary.parse_empty
  trimmed := Text.trim_trim description
  options := session.sceneOf_options (Text.trim description) now

/-- What a line leaves as the last scene that asks for a description and succeeds. -/
theorem madeWith_after {description : String} {reply : Reply}
    (read : Command.parse line.text = .ok (.describe description))
    (succeeded : desk.answer line = .ok reply) :
    ∃ generated, (desk.after line).session.last = some generated ∧
      generated.description = Text.trim description ∧ MadeWith desk.session.options generated := by
  have outcome := desk.line_outcome line read
  rw [succeeded] at outcome
  generalize (desk.after line).session = behind at outcome
  cases outcome with
  | describing named =>
    exact ⟨_, Session.made_last .., rfl,
      madeWith_sceneOf desk.session line.surroundings.now named⟩
  | setting ordinary => exact absurd rfl (ordinary.1 description)

/-- What holds of a desk on which settings are in force. -/
structure InOrder (settings : Settings) (desk : Desk) : Prop where
  /-- The settings are in force. -/
  inForce : settings.InForce desk.session
  /-- New scenes turn by themselves exactly when they are animated. -/
  turning : desk.session.options.autoRotate = desk.session.options.animate
  /-- Both sides of images are in bounds. -/
  bounded : desk.session.size.InBounds
  /-- Rendering any scene at this size has no complaint of the size. -/
  rendering : ∀ launcher record files,
    (desk.session.raytracer.render launcher record desk.session.size files).1.1.AcceptsSize
  /-- Nor has the answer to a line that asks to render. -/
  rendered : ∀ (line : Line) path error, Command.parse line.text = .ok (.render path) →
    desk.answer line = .error error → error.AcceptsSize
  /-- Nor has the answer to a line that asks to export. -/
  exported : ∀ (line : Line) path format error,
    Command.parse line.text = .ok (.export path format) →
    desk.answer line = .error error → error.AcceptsSize
  /-- A description that succeeds leaves a scene of it with the options in force as the last one. -/
  described : ∀ (line : Line) description reply,
    Command.parse line.text = .ok (.describe description) → desk.answer line = .ok reply →
    ∃ generated, (desk.after line).session.last = some generated ∧
      generated.description = Text.trim description ∧ MadeWith desk.session.options generated

variable {desk}

/-- A desk is in order on which settings within bounds are in force. -/
theorem inOrder_of_inForce {settings : Settings} (inForce : settings.InForce desk.session)
    (within : settings.size.InBounds) : InOrder settings desk := by
  have bounded : desk.session.size.InBounds := by
    rw [inForce.size]
    exact within
  refine ⟨inForce, ?_, bounded, ?_, ?_, ?_, ?_⟩
  · rw [inForce.options]
    rfl
  · exact fun launcher record files =>
      (desk.session.raytracer.render_acceptsSize_iff launcher record desk.session.size files).mpr
        bounded
  · intro line path error read failed
    simp only [answer, eval, read, obey] at failed
    exact (desk.onceTyped line).render_acceptsSize bounded line.surroundings failed
  · intro line path format error read failed
    simp only [answer, eval, read, obey] at failed
    exact (desk.onceTyped line).exportLast_acceptsSize bounded line.surroundings failed
  · exact fun line _ _ read succeeded => desk.madeWith_after line read succeeded

/-- A session that begins with a size in bounds stays in order whatever lines are typed: the
settings in force are those that it began with, but for the commands that change one, and every
scene is made with them. -/
theorem inOrder_afterAll {settings : SessionSettings} (bounds : settings.size.InBounds)
    {environment : Option String} {files behind : FileTree} {session : Session}
    (started : Session.start settings environment files = (.ok session, behind))
    (exportFormat : OutputFormat) (lines : List Line) :
    InOrder (lines.foldl Settings.behind (Settings.ofSession settings))
      (afterAll ⟨session, exportFormat, behind⟩ lines) := by
  have inForce : (Settings.ofSession settings).InForce session := Settings.inForce_start started
  have begun : (Settings.ofSession settings).size.InBounds := bounds
  have begins : (Settings.ofSession settings).InForce
    (⟨session, exportFormat, behind⟩ : Desk).session := inForce
  exact inOrder_of_inForce (begins.afterAll lines) (Settings.inBounds_behindAll begun lines)

/-- What a session begins with whose images are as wide as can be. -/
def wide : SessionSettings where
  ids := SeededIds.source 42
  size := ⟨8192, 1⟩

/-- Lines that change each setting, some of them in vain, with scenes in between. -/
def restlessLines : List Line :=
  [.quietly ":size 0x5", .quietly ":animate", .quietly "a cube", .quietly ":size 1x8192",
    .quietly ":size 9000x1", .quietly ":load x", .quietly ":interactive off"]

/-- Of the settings that lines ask for, those stay that can be had. -/
theorem inOrder_wide :
    wide.size.InBounds ∧
    ∃ session, Session.start wide none ⟨[], []⟩ = (.ok session, ⟨[], []⟩) ∧
      InOrder ⟨true, false, ⟨1, 8192⟩⟩ (afterAll ⟨session, .json, ⟨[], []⟩⟩ restlessLines) := by
  have bounds : wide.size.InBounds := ⟨by decide, by decide⟩
  have settled : restlessLines.foldl Settings.behind (Settings.ofSession wide) =
      ⟨true, false, ⟨1, 8192⟩⟩ := by
    decide +kernel
  refine ⟨bounds, _, rfl, ?_⟩
  rw [← settled]
  exact inOrder_afterAll bounds rfl .json restlessLines

end Desk

end Console

end ShapeScene
