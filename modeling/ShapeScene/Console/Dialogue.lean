import ShapeScene.Console.Evaluation

/-!
# Dialogues

A dialogue takes one input after the other: it evaluates lines, prints answers and errors, and is
over at the end of the input or when a line asks to leave. Blank lines and interrupts do nothing,
and an error does not end it.
-/

namespace ShapeScene.Console

/-- What is read at a prompt. -/
inductive Input where
  /-- A line. -/
  | line (text : String)
  /-- The wish to break off the line. -/
  | interrupted
  /-- The end of the input. -/
  | endOfInput
deriving DecidableEq, Repr

/-- The state of a dialogue. -/
structure Dialogue where
  /-- The session with the files around it. -/
  desk : Desk
  /-- The lines that were evaluated, in order. -/
  history : List String := []
  /-- What was printed. -/
  stdout : String := ""
  /-- What was complained about. -/
  stderr : String := ""
  /-- Whether it is over. -/
  isOver : Bool := false

/-- An error as it is shown. -/
def errorLine (message : String) : String := "\x1b[31mError: " ++ message ++ "\x1b[0m\n"

namespace Dialogue

/-- A dialogue that has only greeted. -/
def start (desk : Desk) : Dialogue := { desk := desk, stdout := greeting }

/-- The dialogue after the answer to a line. -/
def answered (dialogue : Dialogue) (evaluation : Evaluation) : Dialogue :=
  let dialogue := { dialogue with desk := evaluation.2 }
  match evaluation.1 with
  | .ok .quit => { dialogue with isOver := true }
  | .ok (.text text) =>
    if text.isEmpty then dialogue else { dialogue with stdout := dialogue.stdout ++ text ++ "\n" }
  | .error error => { dialogue with stderr := dialogue.stderr ++ errorLine error.message }

/-- The dialogue after an input. -/
def step (dialogue : Dialogue) (surroundings : Surroundings) (input : Input) : Dialogue :=
  if dialogue.isOver then dialogue
  else
    match input with
    | .endOfInput => { dialogue with isOver := true }
    | .interrupted => { dialogue with stdout := dialogue.stdout ++ "\n" }
    | .line text =>
      if Text.isBlankText text then dialogue
      else
        { dialogue with history := dialogue.history ++ [text] }.answered
          (dialogue.desk.eval surroundings text)

/-- The dialogue after a list of inputs, each with what surrounds it. -/
def run (dialogue : Dialogue) (inputs : List (Surroundings × Input)) : Dialogue :=
  inputs.foldl (fun dialogue input => dialogue.step input.1 input.2) dialogue

end Dialogue

end ShapeScene.Console
