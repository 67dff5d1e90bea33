import ShapeScene.Proofs.Image.Ppm
import ShapeScene.Proofs.Raytracer.Complaints

/-!
# Verdicts on renderings

A rendering asks in a fixed order: is the size in bounds, is there a program, did it start, did it
end in time, did it report success, is there a file, can it be read, is it an image. The first
answer that is no decides, whatever the later ones would be, so what a failed program left in its
file is never taken for an image. Each answer to one of these questions is a case of a relation
between a run and its rendering, which holds of exactly one rendering for every run.
-/

namespace ShapeScene

/-- A program ended by itself with success and left a file. -/
def ProcessRun.Delivers (run : ProcessRun) (content : List UInt8) : Prop :=
  (∃ stdout stderr, run.ending = .exited (some 0) stdout stderr) ∧ run.output = .ok content

namespace Rendering

/-! ## The verdict on a run -/

/-- What a run with a time limit in milliseconds comes to. -/
inductive Verdict (limit : Nat) (run : ProcessRun) : Rendering → Prop where
  /-- The program could not be started. -/
  | spawn {failure : IoFailure} (ending : run.ending = .notStarted failure) :
    Verdict limit run (.failed (.spawn failure.message))
  /-- It was stopped at its limit. -/
  | timeout (ending : run.ending = .overtime) :
    Verdict limit run (.failed (.timeout (limit / 1000)))
  /-- It ended by itself, but without success. -/
  | exit {code : Option Nat} {stdout stderr : List UInt8}
    (ending : run.ending = .exited code stdout stderr) (failed : code ≠ some 0) :
    Verdict limit run
      (.failed (.exit code (Text.readUtf8Lenient stderr) (Text.readUtf8Lenient stdout)))
  /-- It reported success, but left no file. -/
  | missing {stdout stderr : List UInt8} (ending : run.ending = .exited (some 0) stdout stderr)
    (output : run.output = .error .notFound) : Verdict limit run (.failed .missingOutput)
  /-- It left a file that cannot be read. -/
  | unreadable {stdout stderr : List UInt8} (ending : run.ending = .exited (some 0) stdout stderr)
    {failure : IoFailure} (output : run.output = .error failure) (present : failure ≠ .notFound) :
    Verdict limit run (.failed (.invalidOutput failure.message))
  /-- It left a file that is no image. -/
  | malformed {content : List UInt8} (delivered : run.Delivers content) {error : SceneError}
    (decoded : Ppm.decode content = .error error) :
    Verdict limit run (.failed (.invalidOutput error.message))
  /-- It left an image. -/
  | image {content : List UInt8} (delivered : run.Delivers content) {pixels : PixelBuffer}
    (decoded : Ppm.decode content = .ok pixels) : Verdict limit run (.image pixels .raytracer)

/-- Every run has a verdict. -/
theorem verdict_ofRun (limit : Nat) (run : ProcessRun) : Verdict limit run (ofRun limit run) := by
  unfold ofRun
  cases ending : run.ending with
  | notStarted failure => exact .spawn ending
  | overtime => exact .timeout ending
  | exited code stdout stderr =>
    by_cases success : code = some 0
    · subst success
      simp only [if_true]
      cases output : run.output with
      | error failure =>
        cases failure with
        | notFound => exact .missing ending output
        | _ => exact .unreadable ending output (by decide)
      | ok content =>
        have delivered : run.Delivers content := ⟨⟨stdout, stderr, ending⟩, output⟩
        rw [ofOutput]
        cases decoded : Ppm.decode content with
        | ok pixels => exact .image delivered decoded
        | error error => exact .malformed delivered decoded
    · simp only [if_neg success]
      exact .exit ending success

/-- A file that is there, but cannot be read, is invalid. -/
theorem ofOutput_error {failure : IoFailure} (present : failure ≠ .notFound) :
    ofOutput (.error failure) = .failed (.invalidOutput failure.message) := by
  cases failure with
  | notFound => exact absurd rfl present
  | _ => rfl

/-- A verdict is what the run is judged as. -/
theorem Verdict.eq_ofRun {limit : Nat} {run : ProcessRun} {rendering : Rendering}
    (verdict : Verdict limit run rendering) : rendering = ofRun limit run := by
  unfold ofRun
  cases verdict with
  | spawn ending => rw [ending]
  | timeout ending => rw [ending]
  | exit ending failed => simp only [ending, if_neg failed]
  | missing ending output => simp only [ending, if_true, output, ofOutput]
  | unreadable ending output present =>
    simp only [ending, if_true, output, ofOutput_error present]
  | malformed delivered decoded =>
    obtain ⟨⟨stdout, stderr, ending⟩, output⟩ := delivered
    simp only [ending, if_true, output, ofOutput, decoded]
  | image delivered decoded =>
    obtain ⟨⟨stdout, stderr, ending⟩, output⟩ := delivered
    simp only [ending, if_true, output, ofOutput, decoded]

/-- A run has exactly one verdict. -/
theorem verdict_iff {limit : Nat} {run : ProcessRun} {rendering : Rendering} :
    Verdict limit run rendering ↔ rendering = ofRun limit run := by
  constructor
  · exact Verdict.eq_ofRun
  · rintro rfl
    exact verdict_ofRun limit run

/-- The verdict is an image exactly when the program delivered that image. -/
theorem verdict_image_iff {limit : Nat} {run : ProcessRun} {pixels : PixelBuffer}
    {source : ImageSource} :
    Verdict limit run (.image pixels source) ↔
      source = .raytracer ∧ ∃ content, run.Delivers content ∧ Ppm.decode content = .ok pixels := by
  constructor
  · intro verdict
    cases verdict with
    | image delivered decoded => exact ⟨rfl, _, delivered, decoded⟩
  · rintro ⟨rfl, content, delivered, decoded⟩
    exact .image delivered decoded

/-- The verdict on a run has the image that the program delivered. -/
theorem image?_ofRun_iff {limit : Nat} {run : ProcessRun} {pixels : PixelBuffer} :
    (ofRun limit run).image? = some pixels ↔
      ∃ content, run.Delivers content ∧ Ppm.decode content = .ok pixels := by
  constructor
  · intro shown
    cases rendering : ofRun limit run with
    | failed failure =>
      rw [rendering] at shown
      cases shown
    | image other source =>
      rw [rendering] at shown
      cases shown
      exact (verdict_image_iff.mp (verdict_iff.mpr rendering.symm)).2
  · intro delivered
    have verdict : Verdict limit run (.image pixels .raytracer) :=
      verdict_image_iff.mpr ⟨rfl, delivered⟩
    rw [← verdict.eq_ofRun]
    rfl

/-! ## Questions to a rendering -/

/-- Whether all that can be asked of a rendering is answered alike. -/
structure AnswersAlike (rendering : Rendering) : Prop where
  /-- There is an image, or there is a failure. -/
  either : rendering.isSuccess = true ∧ (∃ pixels, rendering.image? = some pixels) ∧
      rendering.failure? = none ∨
    rendering.isSuccess = false ∧ rendering.image? = none ∧
      ∃ failure, rendering.failure? = some failure
  /-- The image is what the rendering is turned into. -/
  image : ∀ pixels, rendering.toExcept = .ok pixels ↔ rendering.image? = some pixels
  /-- The error that it is turned into is that of the failure. -/
  error : ∀ error, rendering.toExcept = .error error ↔
    ∃ failure, rendering.failure? = some failure ∧ error = failure.toError

/-- Every rendering answers alike. -/
theorem answersAlike (rendering : Rendering) : rendering.AnswersAlike := by
  cases rendering with
  | image pixels source =>
    refine ⟨.inl ⟨rfl, ⟨pixels, rfl⟩, rfl⟩, fun other => ?_, fun error => ?_⟩
    · simp [toExcept, image?]
    · simp [toExcept, failure?]
  | failed failure =>
    refine ⟨.inr ⟨rfl, rfl, failure, rfl⟩, fun other => ?_, fun error => ?_⟩
    · simp [toExcept, image?]
    · simp [toExcept, failure?, eq_comm]

end Rendering

namespace Raytracer

variable {raytracer : Raytracer} {record : SceneRecord} {size : ImageSize} {tree : FileTree}

/-! ## All renderings -/

/-- A size out of bounds is refused, whatever the program would do, and no file changes. -/
theorem render_of_not_inBounds (refused : ¬ size.InBounds) (launcher : Launcher) :
    raytracer.render launcher record size tree = ((.failed (.invalidSize size), 0), tree) := by
  have unrenderable : size.isRenderable = false := by
    rwa [← ImageSize.isRenderable_iff, Bool.not_eq_true] at refused
  rw [render, unrenderable]
  rfl

/-- Without a program there is a preview, whatever a program would do, and no file changes. -/
theorem render_of_none (bounds : size.InBounds) (absent : raytracer.program = none)
    (launcher : Launcher) :
    raytracer.render launcher record size tree =
      ((.image (PixelBuffer.preview size.width size.height) .fallback, 0), tree) := by
  rw [render, ImageSize.isRenderable_iff.mpr bounds, absent]
  rfl

/-- A program is run once, and its run is judged. -/
theorem render_of_some (bounds : size.InBounds) {program : String}
    (found : raytracer.program = some program) {launcher : Launcher} {run : ProcessRun}
    {changed : FileTree}
    (ran : launcher (raytracer.launch program record size) tree = (run, changed)) :
    raytracer.render launcher record size tree =
      ((.ofRun raytracer.limit run, run.milliseconds), changed) := by
  rw [render, ImageSize.isRenderable_iff.mpr bounds, found]
  simp only [Bool.not_true, Bool.false_eq_true, if_false, ran]

/-- An image has all its pixels, whoever made it. -/
theorem isWhole_of_render {launcher : Launcher} {pixels : PixelBuffer}
    (shown : (raytracer.render launcher record size tree).1.1.image? = some pixels) :
    pixels.IsWhole := by
  by_cases bounds : size.InBounds
  · cases found : raytracer.program with
    | none =>
      rw [render_of_none bounds found] at shown
      cases shown
      exact PixelBuffer.isWhole_ofRows _ _ _ _
    | some program =>
      rw [render_of_some bounds found rfl] at shown
      obtain ⟨content, -, decoded⟩ := Rendering.image?_ofRun_iff.mp shown
      exact (Ppm.isWhole_of_decode decoded).1
  · rw [render_of_not_inBounds bounds] at shown
    cases shown

end Raytracer

end ShapeScene
