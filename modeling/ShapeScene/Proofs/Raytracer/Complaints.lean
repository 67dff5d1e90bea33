import ShapeScene.Session.Export
import ShapeScene.Session.Session

/-!
# Renderings of sizes in bounds

A rendering complains of the size exactly when that is out of bounds; every other failure is worded
differently. Hence neither a rendering nor an export of an image in bounds has this complaint.
-/

namespace ShapeScene

/-- Both sides of an image are at least one and at most 8192 pixels long. -/
structure ImageSize.InBounds (size : ImageSize) : Prop where
  /-- The width is in bounds. -/
  width : 1 ≤ size.width.toNat ∧ size.width.toNat ≤ 8192
  /-- The height is in bounds. -/
  height : 1 ≤ size.height.toNat ∧ size.height.toNat ≤ 8192

/-- A number of pixels is at least one when it is not zero. -/
theorem ImageSize.one_le_toNat_iff {side : UInt32} : 1 ≤ side.toNat ↔ side ≠ 0 := by
  rw [Nat.one_le_iff_ne_zero, Ne, Ne, ← UInt32.toNat_inj, UInt32.toNat_zero]

/-- The sizes in bounds are those that can be rendered. -/
theorem ImageSize.isRenderable_iff {size : ImageSize} :
    size.isRenderable = true ↔ size.InBounds := by
  simp only [isRenderable, Bool.and_eq_true, bne_iff_ne, ← one_le_toNat_iff,
    decide_eq_true_iff]
  constructor
  · rintro ⟨⟨⟨width, height⟩, narrow⟩, low⟩
    exact ⟨⟨width, narrow⟩, ⟨height, low⟩⟩
  · rintro ⟨⟨width, narrow⟩, ⟨height, low⟩⟩
    exact ⟨⟨⟨width, height⟩, narrow⟩, low⟩

/-- A size that was read is in bounds. -/
theorem ImageSize.inBounds_of_parse {written : String} {size : ImageSize}
    (read : parse written = .ok size) : size.InBounds := by
  unfold parse at read
  split at read
  · cases read
  · split at read
    · dsimp only at read
      split at read
      · cases read
      · rename_i nonzero
        split at read
        · cases read
        · rename_i short
          cases read
          rw [not_or] at nonzero
          rw [not_or, Nat.not_lt, Nat.not_lt] at short
          exact ⟨⟨one_le_toNat_iff.mpr nonzero.1, short.1⟩,
            ⟨one_le_toNat_iff.mpr nonzero.2, short.2⟩⟩
    · cases read

/-- The ninth letter of a wording that begins with a fixed text. -/
theorem RenderFailure.ninth_letter (front : String) {letter : Char}
    (fixed : front.toList[8]? = some letter) (behind : String) :
    (front ++ behind).toList[8]? = some letter := by
  obtain ⟨long, -⟩ := List.getElem?_eq_some_iff.mp fixed
  rw [String.toList_append, List.getElem?_append_left long, fixed]

/-- By its ninth letter the complaint about a size is told from those about anything else. -/
theorem RenderFailure.ninth_letter_message (failure : RenderFailure) :
    failure.message.toList[8]? = some 'i' ↔ ∃ size, failure = invalidSize size := by
  constructor
  · intro ninth
    have other : ∀ letter, failure.message.toList[8]? = some letter → letter = 'i' :=
      fun letter here => Option.some.inj (here.symm.trans ninth)
    cases failure with
    | invalidSize size => exact ⟨size, rfl⟩
    | spawn text =>
      exact absurd (other 't' (ninth_letter "could not run raytracer: " rfl _)) (by decide)
    | exit code stderr stdout =>
      exact absurd (other 'r' (ninth_letter "raytracer failed: " rfl _)) (by decide)
    | timeout seconds =>
      refine absurd (other 'r' ?_) (by decide)
      delta message
      dsimp only
      rw [String.append_assoc]
      exact ninth_letter "raytracer timeout (" rfl _
    | missingOutput => exact absurd ninth (by decide)
    | invalidOutput text =>
      exact absurd (other 'r' (ninth_letter "invalid raytracer output: " rfl _)) (by decide)
  · rintro ⟨size, rfl⟩
    exact ninth_letter "invalid image size " rfl _

/-- Only a complaint about a size gives the error of such a complaint. -/
theorem RenderFailure.eq_invalidSize_of_toError {failure : RenderFailure} {size : ImageSize}
    (same : failure.toError = (invalidSize size).toError) :
    ∃ other, failure = invalidSize other := by
  have wording : failure.message = (invalidSize size).message := by
    simpa only [toError, SceneError.render, SceneError.ofKind, SceneError.mk.injEq,
      ErrorKind.render.injEq, and_true] using same
  rw [← ninth_letter_message, wording, ninth_letter_message]
  exact ⟨size, rfl⟩

/-- A rendering does not complain of the size. -/
def Rendering.AcceptsSize (rendering : Rendering) : Prop :=
  ∀ size, rendering ≠ .failed (.invalidSize size)

/-- A run of a program does not complain of the size. -/
theorem Rendering.ofRun_acceptsSize (limit : Nat) (run : ProcessRun) :
    (ofRun limit run).AcceptsSize := by
  intro size
  unfold ofRun
  cases run.ending with
  | notStarted | overtime => exact fun same => nomatch same
  | exited code stdout stderr =>
    by_cases well : code = some 0
    · simp only [well, if_true]
      unfold ofOutput
      split
      · exact fun same => nomatch same
      · exact fun same => nomatch same
      · split <;> exact fun same => nomatch same
    · simp only [well, if_false]
      exact fun same => nomatch same

/-- A rendering complains of the size exactly when that is out of bounds. -/
theorem Raytracer.render_acceptsSize_iff (raytracer : Raytracer) (launcher : Launcher)
    (record : SceneRecord) (size : ImageSize) (files : FileTree) :
    (raytracer.render launcher record size files).1.1.AcceptsSize ↔ size.InBounds := by
  rw [← ImageSize.isRenderable_iff]
  unfold render
  cases size.isRenderable with
  | false => exact iff_of_false (fun accepts => accepts size rfl) Bool.false_ne_true
  | true =>
    refine iff_of_true ?_ rfl
    cases raytracer.program with
    | none => exact fun _ same => nomatch same
    | some program => exact Rendering.ofRun_acceptsSize _ _

/-- An error does not complain of the size of an image. -/
def SceneError.AcceptsSize (error : SceneError) : Prop :=
  ∀ size, error ≠ (RenderFailure.invalidSize size).toError

/-- What a rendering fails with does not complain of the size if the rendering does not. -/
theorem Rendering.AcceptsSize.error {rendering : Rendering} (accepts : rendering.AcceptsSize)
    {error : SceneError} (failed : rendering.toExcept = .error error) : error.AcceptsSize := by
  rintro size rfl
  cases rendering with
  | image => cases failed
  | failed failure =>
    obtain ⟨other, rfl⟩ := RenderFailure.eq_invalidSize_of_toError (Except.error.inj failed)
    exact accepts other rfl

/-- An operation on a file does not complain of the size of an image. -/
theorem SceneError.ioAt_acceptsSize (operation path message : String) :
    (ioAt operation path message).AcceptsSize := fun _ same => nomatch congrArg context same

/-- Writing a file does not complain of the size of an image. -/
theorem Export.acceptsSize_of_writeFile {operation path : String} {bytes : List UInt8}
    {files : FileTree} {error : SceneError}
    (failed : (writeFile operation path bytes files).1 = .error error) : error.AcceptsSize := by
  unfold writeFile at failed
  split at failed
  · cases failed
  · cases failed
    exact SceneError.ioAt_acceptsSize _ _ _

/-- Making a folder does not complain of the size of an image. -/
theorem Export.acceptsSize_of_makeParent {path : String} {files : FileTree} {error : SceneError}
    (failed : (makeParent path files).1 = .error error) : error.AcceptsSize := by
  unfold makeParent at failed
  split at failed
  · cases failed
  · split at failed
    · cases failed
    · split at failed
      · cases failed
      · cases failed
        exact SceneError.ioAt_acceptsSize _ _ _

/-- The content of an export has no complaint of a size in bounds. -/
theorem Export.acceptsSize_of_content {format : OutputFormat} {record : SceneRecord}
    {size : ImageSize} (bounds : size.InBounds) {raytracer : Raytracer} {launcher : Launcher}
    {files : FileTree} {error : SceneError}
    (failed : (content format record size raytracer launcher files).1 = .error error) :
    error.AcceptsSize := by
  cases format with
  | json | html => cases failed
  | ppm =>
    have accepts := (raytracer.render_acceptsSize_iff launcher record size files).mpr bounds
    simp only [content] at failed
    cases drawn : (raytracer.render launcher record size files).1.1.toExcept with
    | ok image =>
      rw [drawn] at failed
      cases failed
    | error complaint =>
      rw [drawn] at failed
      cases failed
      exact accepts.error drawn

/-- An export has no complaint of a size in bounds. -/
theorem Export.acceptsSize_of_toFile {record : SceneRecord} {path : String} {format : OutputFormat}
    {size : ImageSize} (bounds : size.InBounds) {raytracer : Raytracer} {launcher : Launcher}
    {files : FileTree} {error : SceneError}
    (failed : (toFile record path format size raytracer launcher files).1 = .error error) :
    error.AcceptsSize := by
  unfold toFile at failed
  split at failed
  · rename_i refused
    exact acceptsSize_of_makeParent ((congrArg Prod.fst refused).trans failed)
  · split at failed
    · rename_i refused
      cases failed
      exact acceptsSize_of_content bounds (congrArg Prod.fst refused)
    · exact acceptsSize_of_writeFile failed

namespace Session

variable {session : Session}

/-- That there is no scene is no complaint of the size of an image. -/
theorem acceptsSize_of_requireLast {error : SceneError}
    (failed : session.requireLast = .error error) : error.AcceptsSize := by
  unfold requireLast at failed
  cases shown : session.last with
  | some generated =>
    rw [shown] at failed
    cases failed
  | none =>
    rw [shown] at failed
    cases failed
    exact fun _ same => nomatch congrArg SceneError.kind same

/-- Rendering in a session has no complaint of a size in bounds, in a report or in its place. -/
theorem render_acceptsSize (bounds : session.size.InBounds) (launcher : Launcher) (now : Moment)
    (files : FileTree) :
    (∀ report, (session.render launcher now files).1 = .ok report →
        report.rendering.AcceptsSize) ∧
      ∀ error, (session.render launcher now files).1 = .error error → error.AcceptsSize := by
  unfold render
  cases shown : session.requireLast with
  | error error =>
    refine ⟨fun _ rendered => (nomatch rendered), fun other failed => ?_⟩
    cases failed
    exact acceptsSize_of_requireLast shown
  | ok last =>
    refine ⟨fun report rendered => ?_, fun _ failed => nomatch failed⟩
    cases rendered
    exact (session.raytracer.render_acceptsSize_iff launcher last.scene session.size files).mpr
      bounds

end Session

end ShapeScene
