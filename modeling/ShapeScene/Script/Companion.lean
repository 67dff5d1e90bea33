import ShapeScene.Script.Signal

/-!
# Companions

A command that is not waited for runs in a process of its own, a companion of the one that started
it. It does its tasks one after the other, and a task takes effect when it is over. Of all
companions the one whose task is over first does it first, so that what a process does next finds
all that its companions have done before.
-/

namespace ShapeScene.Script

/-- How many tasks of companions may be over while a process waits. -/
def greatestTurns : Nat := 10000

namespace Shell

/-- A part of a shell when it begins. -/
def part (shell : Shell) : Shell :=
  { shell with isPart := true, actions := shell.keptActions, pending := [], jobs := [] }

/-- Whether words are certain to be a program with its arguments. -/
def startsProgram (shell : Shell) (words : List Word) : Bool :=
  match (words.head?.bind Word.plain?).map String.ofList with
  | some name => !isBuiltin name && !shell.functions.any fun entry => entry.1 == name
  | none => false

/-- The tasks with the first one divided into smaller ones, if it can be. The last program or part
of a process runs in its place, so that the process gives its own streams up for those of the
program. -/
def divided? (shell : Shell) (tasks : List Command) : Option (List Command) :=
  let streams (line : Nat) (redirections : List Redirection) : Command :=
    .simple line [] [[.text "exec".toList false]] redirections
  match tasks with
  | .sequence first .nothing :: later => some (first :: later)
  | .sequence first second :: later => some (first :: second :: later)
  | [.subshell inner] => some [inner]
  | [.redirected line inner redirections] =>
    if shell.switches.contains 'x' then none else some [streams line redirections, inner]
  | [.simple line assignments words (first :: others)] =>
    if shell.startsProgram words && !shell.switches.contains 'x' then
      some [streams line (first :: others), .simple line assignments words []]
    else none
  | _ => none

end Shell

namespace Companion

/-- Whether it has nothing left to do. -/
def hasEnded (companion : Companion) : Bool := companion.tasks.isEmpty

/-- A companion of whose end nothing but the status is told any more. -/
def settled (companion : Companion) : Companion :=
  { companion with
    shell := { companion.shell with status := companion.shell.finalStatus, flow := .ended } }

end Companion

namespace Machine

/-- The machine with a companion as it is now. -/
def withCompanion (machine : Machine) (companion : Companion) : Machine :=
  { machine with
    companions := companion ::
      machine.companions.filter fun other => other.number != companion.number }

/-- Whether a companion can still write into a channel of some kind. -/
def isHeld (isKind : Nat → Bool) (machine : Machine) : Bool :=
  machine.companions.any fun companion =>
    !companion.hasEnded &&
      companion.shell.descriptors.any fun entry => entry.2.writer.any isKind

/-- Whether a companion has ended and nothing is left of it: its parent learns of its end when it
waits for a process. -/
def hasBuried (machine : Machine) (companion : Companion) : Bool :=
  companion.hasEnded && companion.milliseconds < machine.burial

/-- The machine that is about to start another process. -/
def forgetful (machine : Machine) : Machine :=
  { machine with
    jobs := machine.jobs.filter fun number => !machine.awaited.contains number
    awaited := [] }

/-- The machine with one more companion, which is to run a command. It reads nothing. -/
def accompanied (command : Command) (machine : Machine) : Machine :=
  let number := machine.process + 1 + machine.started
  let opened := machine.readFrom 0 (.bytes [])
  let companion : Companion :=
    { number := number
      shell := { opened.part with isTested := false, isCompanion := true }
      place := machine.files.here
      tasks := [command]
      milliseconds := machine.milliseconds }
  { machine.withCompanion companion with
    channels := opened.channels
    started := machine.started + 1
    jobs := number :: machine.forgetful.jobs
    awaited := []
    lastJob := some number
    status := 0 }

/-! ## Tasks -/

/-- The machine in the place of a companion until a time. -/
def inPlaceOf (companion : Companion) (limit : Nat) (machine : Machine) : Machine :=
  { machine with
    toShell := companion.shell
    files := { machine.files with here := companion.place }
    milliseconds := companion.milliseconds
    limit := limit
    companions := machine.companions.filter fun other => other.number != companion.number }

/-- The machine after it ran in the place of a companion, which has tasks left. -/
def behindTask (companion : Companion) (tasks : List Command) (machine ran : Machine) : Machine :=
  let descriptors := if tasks.isEmpty then [] else ran.descriptors
  { machine with
    files := { ran.files with here := machine.files.here }
    channels := ran.channels
    started := ran.started
    pending := (if ran.process = machine.process then ran.pending else []) ++ machine.pending
    companions := ran.companions }.withCompanion
      { companion with
        shell := { ran.toShell with pending := [], descriptors := descriptors }
        place := ran.files.here
        tasks := tasks
        milliseconds := ran.milliseconds
        signals := [] }

/-- The machine after the next task of a companion, which is stopped at a time, and the time at
which the task was over. -/
def pursued (again : Runner) (limit : Nat) (companion : Companion) (machine : Machine) :
    Nat × Machine :=
  match companion.shell.divided? companion.tasks, companion.tasks with
  | some tasks, _ =>
    (companion.milliseconds, machine.withCompanion { companion with tasks := tasks })
  | none, [] => (companion.milliseconds, machine)
  | none, task :: later =>
    let ran := again task (machine.inPlaceOf companion limit)
    let warned := companion.signals.foldr
      (fun signal ran => if ran.isRunning then ran.receive again signal else ran) ran
    if later.isEmpty || warned.flow != .onward then
      let ended := warned.concluded again
      (ended.milliseconds, machine.behindTask companion [] ended)
    else (warned.milliseconds, machine.behindTask companion later warned)

/-- The machine after the task of a companion that is over first, with the time at which it is, if
any task is over before a time. -/
def nextTask? (again : Runner) (limit : Nat) (machine : Machine) : Option (Nat × Machine) :=
  let waiting := machine.companions.filter fun companion =>
    !companion.hasEnded && companion.milliseconds < limit
  let attempts := waiting.map fun companion =>
    (companion.number, machine.pursued again limit companion)
  let isBefore (first second : Nat × Nat × Machine) : Bool :=
    first.2.1 < second.2.1 || first.2.1 == second.2.1 && first.1 < second.1
  let first? := (attempts.filter fun attempt => attempt.2.1 < limit).foldl
    (fun (best : Option (Nat × Nat × Machine)) attempt =>
      match best with
      | some best => some (if isBefore attempt best then attempt else best)
      | none => some attempt)
    none
  first?.map (·.2)

/-- The machine after the tasks of companions that are over before a time, in the order of their
ends and until the machine is as it should be, with the time at which the last one was over. -/
def pursuedAll (again : Runner) (isDone : Machine → Bool) (limit : Nat) :
    (bound : Nat) → (time : Nat) → Machine → Nat × Machine
  | 0, time, machine => (time, machine)
  | bound + 1, time, machine =>
    if isDone machine then (time, machine)
    else
      match machine.nextTask? again limit with
      | some (ended, after) => pursuedAll again isDone limit bound (max time ended) after
      | none => (time, machine)

/-- The machine after all that its companions have done before a time, and after the signals that
it got from them. A companion does not care for others. -/
def caughtUp (again : Runner) (limit : Nat) (machine : Machine) : Machine :=
  if machine.isCompanion || machine.companions.all Companion.hasEnded then machine
  else
    let (_, after) := pursuedAll again (fun _ => false) (min limit machine.limit) greatestTurns
      machine.milliseconds machine
    if after.isPart then after else after.receiveAll again

/-- The machine that has waited until it is as it should be, or else until a time. -/
def waitedFor (again : Runner) (isDone : Machine → Bool) (limit : Nat) (machine : Machine) :
    Machine :=
  let (time, after) :=
    pursuedAll again isDone limit greatestTurns machine.milliseconds machine
  { after with
    milliseconds := max machine.milliseconds (if isDone after then time else limit) }

/-- The machine after all that its companions do before a time, at which nobody looks at them any
more. What is not over then has come as far as it has. -/
def abandoned (again : Runner) (limit : Nat) (machine : Machine) : Machine :=
  let (_, after) :=
    pursuedAll again (fun _ => false) limit greatestTurns machine.milliseconds machine
  after.companions.foldr
    (fun companion machine =>
      if companion.hasEnded || limit ≤ companion.milliseconds then machine
      else (machine.pursued again limit companion).2)
    after

/-- The machine after a companion got a signal. One that has not begun yet does not notice a signal
for which its parent has planned something. -/
def signalCompanion (again : Runner) (number : Nat) (signal : String) (machine : Machine) :
    Machine :=
  match machine.companions.find? fun companion => companion.number == number with
  | none => machine
  | some companion =>
    let action :=
      if fatalSignals.contains signal then none else companion.shell.action? signal
    let isEarly := companion.milliseconds = machine.milliseconds
    if companion.hasEnded || quietSignals.contains signal || stoppingSignals.contains signal then
      machine
    else if isEarly && !fatalSignals.contains signal && (machine.action? signal).isSome then machine
    else if action.isSome then
      machine.withCompanion { companion with signals := signal :: companion.signals }
    else
      let (_, after) := machine.pursued again machine.milliseconds companion
      after.withCompanion
        { companion with
          shell := { companion.shell with
            flow := .killed (numberOfSignal signal)
            descriptors := [] }
          tasks := []
          milliseconds := machine.milliseconds }

end Machine

end ShapeScene.Script
