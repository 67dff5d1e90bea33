import ShapeScene.Console.Dialogue
import ShapeScene.Proofs.Console.Account

/-!
# Lines that a dialogue hears

A dialogue goes on over blank lines, interrupts and errors, and is over at the end of the input or
when a line is answered with the wish to leave. Hence it evaluates the lines that are read before
the end, up to the first such answer, and what it leaves is what evaluating these lines leaves.
-/

namespace ShapeScene.Console

/-! ## Lines to be heard -/

/-- A line with what surrounds it, when nobody else changes files before it is read. -/
def Line.heard (surroundings : Surroundings) (text : String) : Line := ⟨text, surroundings, id⟩

/-- The line that an input is, unless it is blank. -/
def Line.ofInput? (input : Surroundings × Input) : Option Line :=
  match input.2 with
  | .line text => if Text.isBlankText text then none else some (.heard input.1 text)
  | .interrupted => none
  | .endOfInput => none

/-- The lines before the end of the input that are not blank. -/
def Line.beforeEnd (inputs : List (Surroundings × Input)) : List Line :=
  (inputs.takeWhile fun input => input.2 != .endOfInput).filterMap Line.ofInput?

/-- Before the end of the input stands its first line, if it is one and not blank, and then those
behind it. -/
theorem Line.beforeEnd_cons {input : Surroundings × Input} (more : input.2 ≠ .endOfInput)
    (inputs : List (Surroundings × Input)) :
    Line.beforeEnd (input :: inputs) =
      (Line.ofInput? input).toList ++ Line.beforeEnd inputs := by
  have goesOn : (input.2 != .endOfInput) = true := bne_iff_ne.mpr more
  rw [beforeEnd, List.takeWhile_cons, if_pos goesOn, List.filterMap_cons]
  cases ofInput? input <;> rfl

/-- Whether an answer is the wish to leave. -/
def isQuit : Except SceneError Reply → Bool
  | .ok .quit => true
  | .ok (.text _) => false
  | .error _ => false

/-- One answer only is the wish to leave. -/
theorem isQuit_iff (answer : Except SceneError Reply) :
    isQuit answer = true ↔ answer = .ok .quit := by
  obtain error | (text | _) := answer <;> simp [isQuit]

namespace Desk

/-- The answers to lines, in order. -/
def answers : Desk → List Line → List (Except SceneError Reply)
  | _, [] => []
  | desk, line :: lines => desk.answer line :: answers (desk.after line) lines

/-- The lines up to and including the first that is answered with the wish to leave. -/
def untilQuit : Desk → List Line → List Line
  | _, [] => []
  | desk, line :: lines =>
    line :: if isQuit (desk.answer line) then [] else untilQuit (desk.after line) lines

/-- Whether lines are those up to and including the first that is answered with the wish to
leave. -/
structure HearsUntilQuit (desk : Desk) (lines heard : List Line) : Prop where
  /-- They are the first of the lines. -/
  first : heard <+: lines
  /-- No line in front of another of them is answered with the wish to leave. -/
  stays : ∀ earlier line next later, heard = earlier ++ line :: next :: later →
    (desk.afterAll earlier).answer line ≠ .ok .quit
  /-- If lines are left out, the last that is not left out is answered with the wish to leave. -/
  leaves : heard ≠ lines → ∃ earlier line, heard = earlier ++ [line] ∧
    (desk.afterAll earlier).answer line = .ok .quit

/-- The lines are cut behind the first answer that is the wish to leave. -/
theorem hearsUntilQuit_untilQuit (desk : Desk) (lines : List Line) :
    HearsUntilQuit desk lines (desk.untilQuit lines) := by
  induction lines generalizing desk with
  | nil =>
    refine ⟨List.prefix_rfl, ?_, fun cut => absurd rfl cut⟩
    intro earlier line next later same
    cases earlier <;> cases same
  | cons line lines ih =>
    rw [untilQuit]
    by_cases quit : desk.answer line = .ok .quit
    · rw [if_pos ((isQuit_iff _).mpr quit)]
      refine ⟨⟨lines, rfl⟩, ?_, fun _ => ⟨[], line, rfl, quit⟩⟩
      intro earlier other next later same
      cases earlier with
      | nil => cases same
      | cons first earlier => cases earlier <;> cases same
    · rw [if_neg (mt (isQuit_iff _).mp quit)]
      obtain ⟨first, stays, leaves⟩ := ih (desk.after line)
      refine ⟨List.cons_prefix_cons.mpr ⟨rfl, first⟩, ?_, ?_⟩
      · intro earlier other next later same
        cases earlier with
        | nil =>
          obtain ⟨rfl, -⟩ := List.cons.inj same
          exact quit
        | cons head earlier =>
          obtain ⟨rfl, rest⟩ := List.cons.inj same
          exact stays earlier other next later rest
      · intro cut
        have cutLater : (desk.after line).untilQuit lines ≠ lines :=
          fun whole => cut (congrArg _ whole)
        obtain ⟨earlier, last, same, quitLast⟩ := leaves cutLater
        exact ⟨line :: earlier, last, by rw [same, List.cons_append], quitLast⟩

end Desk

/-! ## Dialogues step by step -/

/-- What is complained about when a line is answered. -/
def complaint : Except SceneError Reply → String
  | .ok _ => ""
  | .error error => errorLine error.message

namespace Dialogue

variable {dialogue : Dialogue}

/-- An answer takes the dialogue on to the desk behind it. -/
@[simp]
theorem desk_answered (dialogue : Dialogue) (evaluation : Evaluation) :
    (dialogue.answered evaluation).desk = evaluation.2 := by
  obtain ⟨(error | (text | _)), desk⟩ := evaluation
  · rfl
  · simp only [answered]
    split <;> rfl
  · rfl

/-- An answer does not change what was heard. -/
@[simp]
theorem history_answered (dialogue : Dialogue) (evaluation : Evaluation) :
    (dialogue.answered evaluation).history = dialogue.history := by
  obtain ⟨(error | (text | _)), desk⟩ := evaluation
  · rfl
  · simp only [answered]
    split <;> rfl
  · rfl

/-- An answer that is an error is complained about. -/
@[simp]
theorem stderr_answered (dialogue : Dialogue) (evaluation : Evaluation) :
    (dialogue.answered evaluation).stderr = dialogue.stderr ++ complaint evaluation.1 := by
  obtain ⟨(error | (text | _)), desk⟩ := evaluation
  · rfl
  · simp only [answered, complaint, String.append_empty]
    split <;> rfl
  · simp only [answered, complaint, String.append_empty]

/-- An answer ends a dialogue exactly when it is the wish to leave. -/
theorem isOver_answered (goesOn : dialogue.isOver = false) (evaluation : Evaluation) :
    (dialogue.answered evaluation).isOver = true ↔ evaluation.1 = .ok .quit := by
  obtain ⟨(error | (text | _)), desk⟩ := evaluation
  · simp [answered, goesOn]
  · simp only [answered]
    split <;> simp [goesOn]
  · simp [answered]

/-- A dialogue that is over stays as it is. -/
theorem step_of_isOver (finished : dialogue.isOver = true) (surroundings : Surroundings)
    (input : Input) : dialogue.step surroundings input = dialogue := by
  simp only [step, finished, if_true]

/-- A line that is not blank is evaluated. -/
theorem step_line (goesOn : dialogue.isOver = false) (surroundings : Surroundings) {text : String}
    (written : Text.isBlankText text = false) :
    dialogue.step surroundings (.line text) =
      { dialogue with history := dialogue.history ++ [text] }.answered
        (dialogue.desk.eval surroundings text) := by
  simp only [step, goesOn, written, Bool.false_eq_true, if_false]

/-- A blank line changes nothing. -/
theorem step_blank (surroundings : Surroundings) {text : String}
    (blank : Text.isBlankText text = true) :
    dialogue.step surroundings (.line text) = dialogue := by
  simp only [step, blank, if_true, ite_self]

/-- An interrupt changes nothing but what is printed. -/
theorem step_interrupted (goesOn : dialogue.isOver = false) (surroundings : Surroundings) :
    dialogue.step surroundings .interrupted =
      { dialogue with stdout := dialogue.stdout ++ "\n" } := by
  simp only [step, goesOn, Bool.false_eq_true, if_false]

/-- The end of the input ends a dialogue. -/
theorem step_endOfInput (dialogue : Dialogue) (surroundings : Surroundings) :
    dialogue.step surroundings .endOfInput = { dialogue with isOver := true } := by
  obtain ⟨desk, history, stdout, stderr, isOver⟩ := dialogue
  cases isOver <;> rfl

/-- A step takes a dialogue that is not over on to the next input. -/
theorem run_cons (dialogue : Dialogue) (surroundings : Surroundings) (input : Input)
    (inputs : List (Surroundings × Input)) :
    dialogue.run ((surroundings, input) :: inputs) =
      (dialogue.step surroundings input).run inputs := rfl

/-- Nothing is read once a dialogue is over. -/
theorem run_of_isOver (finished : dialogue.isOver = true) (inputs : List (Surroundings × Input)) :
    dialogue.run inputs = dialogue := by
  induction inputs with
  | nil => rfl
  | cons input inputs ih => rw [run_cons, step_of_isOver finished, ih]

/-- A dialogue is over when the input has ended. -/
theorem isOver_run_endOfInput (dialogue : Dialogue) (inputs : List (Surroundings × Input))
    (surroundings : Surroundings) :
    (dialogue.run (inputs ++ [(surroundings, .endOfInput)])).isOver = true := by
  have last : dialogue.run (inputs ++ [(surroundings, .endOfInput)]) =
      (dialogue.run inputs).step surroundings .endOfInput := by
    rw [run, List.foldl_append]
    rfl
  rw [last, step_endOfInput]

/-! ## Dialogues as a whole -/

/-- What a dialogue has done when it has heard some lines. -/
structure HasHeard (before : Dialogue) (lines : List Line) (after : Dialogue) : Prop where
  /-- The lines are those that were evaluated. -/
  history : after.history = before.history ++ lines.map Line.text
  /-- The desk is the one behind these lines. -/
  desk : after.desk = before.desk.afterAll lines
  /-- Every error is complained about once, in order. -/
  stderr : after.stderr =
    before.stderr ++ String.join ((before.desk.answers lines).map complaint)

/-- A dialogue that has heard nothing is as it was, but for what it printed. -/
theorem hasHeard_nil {after : Dialogue} (history : after.history = dialogue.history)
    (desk : after.desk = dialogue.desk) (stderr : after.stderr = dialogue.stderr) :
    HasHeard dialogue [] after := by
  refine ⟨?_, desk, ?_⟩
  · rw [history, List.map_nil, List.append_nil]
  · simp [stderr, Desk.answers]

/-- A dialogue that hears a line and then others has heard all of them. -/
theorem hasHeard_cons {line : Line} {lines : List Line} {next after : Dialogue}
    (first : HasHeard dialogue [line] next) (later : HasHeard next lines after) :
    HasHeard dialogue (line :: lines) after := by
  have nextDesk : next.desk = dialogue.desk.after line := first.desk
  refine ⟨?_, ?_, ?_⟩
  · rw [later.history, first.history, List.append_assoc]
    rfl
  · rw [later.desk, nextDesk]
    rfl
  · rw [later.stderr, first.stderr, nextDesk, String.append_assoc]
    simp [Desk.answers]

/-- A step at a line that is not blank hears this line. -/
theorem hasHeard_step (goesOn : dialogue.isOver = false) (surroundings : Surroundings)
    {text : String} (written : Text.isBlankText text = false) :
    HasHeard dialogue [.heard surroundings text] (dialogue.step surroundings (.line text)) := by
  rw [step_line goesOn surroundings written]
  refine ⟨?_, ?_, ?_⟩
  · rw [history_answered]
    rfl
  · rw [desk_answered]
    rfl
  · rw [stderr_answered]
    simp only [Desk.answers, List.map_cons, List.map_nil, String.join_cons, String.join_nil,
      String.append_empty]
    rfl

/-- A dialogue hears the lines before the end that are not blank, up to the first that is answered
with the wish to leave. -/
theorem hasHeard_run (goesOn : dialogue.isOver = false) (inputs : List (Surroundings × Input)) :
    HasHeard dialogue (dialogue.desk.untilQuit (Line.beforeEnd inputs)) (dialogue.run inputs) := by
  induction inputs generalizing dialogue with
  | nil => exact hasHeard_nil rfl rfl rfl
  | cons input inputs ih =>
    obtain ⟨surroundings, input⟩ := input
    rw [run_cons]
    cases input with
    | endOfInput =>
      rw [step_endOfInput, run_of_isOver rfl]
      exact hasHeard_nil rfl rfl rfl
    | interrupted =>
      have skipped : Line.beforeEnd ((surroundings, .interrupted) :: inputs) =
          Line.beforeEnd inputs := Line.beforeEnd_cons (by simp) inputs
      rw [step_interrupted goesOn, skipped]
      -- What is printed is no part of what was heard.
      have ongoing : ({ dialogue with stdout := dialogue.stdout ++ "\n" } : Dialogue).isOver =
          false := goesOn
      obtain ⟨history, desk, stderr⟩ := ih ongoing
      exact ⟨history, desk, stderr⟩
    | line text =>
      cases written : Text.isBlankText text with
      | true =>
        have skipped : Line.beforeEnd ((surroundings, .line text) :: inputs) =
            Line.beforeEnd inputs := by
          simp [Line.beforeEnd_cons, Line.ofInput?, written]
        rw [step_blank surroundings written, skipped]
        exact ih goesOn
      | false =>
        have read : Line.beforeEnd ((surroundings, .line text) :: inputs) =
            .heard surroundings text :: Line.beforeEnd inputs := by
          simp [Line.beforeEnd_cons, Line.ofInput?, written]
        have first := hasHeard_step goesOn surroundings written
        have ends : (dialogue.step surroundings (.line text)).isOver = true ↔
            dialogue.desk.answer (.heard surroundings text) = .ok .quit := by
          rw [step_line goesOn surroundings written, isOver_answered]
          · rfl
          · exact goesOn
        rw [read, Desk.untilQuit]
        by_cases quit : dialogue.desk.answer (.heard surroundings text) = .ok .quit
        · rw [if_pos ((isQuit_iff _).mpr quit), run_of_isOver (ends.mpr quit)]
          exact first
        · have still : (dialogue.step surroundings (.line text)).isOver = false := by
            rw [← Bool.not_eq_true, ends]
            exact quit
          have behind : (dialogue.step surroundings (.line text)).desk =
              dialogue.desk.after (.heard surroundings text) := first.desk
          have later := ih still
          rw [behind] at later
          rw [if_neg (mt (isQuit_iff _).mp quit)]
          exact hasHeard_cons first later

/-- Whatever is read, up to an end of the input, a dialogue evaluates the lines before the first end
that are not blank, up to and including the first that is answered with the wish to leave. These
lines are what it remembers, errors among their answers do not keep it from going on, and the
session behind it is the one behind these lines. -/
theorem start_run_hears (desk : Desk) (inputs : List (Surroundings × Input))
    (surroundings : Surroundings) :
    ∃ heard, desk.HearsUntilQuit (Line.beforeEnd (inputs ++ [(surroundings, .endOfInput)])) heard ∧
      HasHeard (start desk) heard ((start desk).run (inputs ++ [(surroundings, .endOfInput)])) ∧
      ((start desk).run (inputs ++ [(surroundings, .endOfInput)])).isOver = true :=
  ⟨_, desk.hearsUntilQuit_untilQuit _, hasHeard_run rfl _, isOver_run_endOfInput _ _ _⟩

end Dialogue

end ShapeScene.Console
