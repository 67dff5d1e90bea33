import ShapeScene.Script.Grammar
import ShapeScene.Script.Machine

/-!
# Signals

A signal ends the process that gets it unless the process has planned something else for it.
-/

namespace ShapeScene.Script

/-- A signal. -/
structure Signal where
  /-- Its number. -/
  number : Nat
  /-- Its name. -/
  name : String
  /-- What is said of a process that it ended. -/
  account : String
deriving DecidableEq, Repr

/-- The signals by their numbers. The end of a script counts as one. -/
def signals : List Signal :=
  [⟨0, "EXIT", ""⟩, ⟨1, "HUP", "Hangup"⟩, ⟨2, "INT", "Interrupt"⟩, ⟨3, "QUIT", "Quit"⟩,
    ⟨4, "ILL", "Illegal instruction"⟩, ⟨5, "TRAP", "Trace/breakpoint trap"⟩,
    ⟨6, "ABRT", "Aborted"⟩, ⟨7, "BUS", "Bus error"⟩, ⟨8, "FPE", "Floating point exception"⟩,
    ⟨9, "KILL", "Killed"⟩, ⟨10, "USR1", "User defined signal 1"⟩,
    ⟨11, "SEGV", "Segmentation fault"⟩, ⟨12, "USR2", "User defined signal 2"⟩,
    ⟨13, "PIPE", "Broken pipe"⟩, ⟨14, "ALRM", "Alarm clock"⟩, ⟨15, "TERM", "Terminated"⟩,
    ⟨16, "STKFLT", "Stack fault"⟩, ⟨17, "CHLD", "Child exited"⟩, ⟨18, "CONT", "Continued"⟩,
    ⟨19, "STOP", "Stopped (signal)"⟩, ⟨20, "TSTP", "Stopped"⟩, ⟨21, "TTIN", "Stopped (tty input)"⟩,
    ⟨22, "TTOU", "Stopped (tty output)"⟩, ⟨23, "URG", "Urgent I/O condition"⟩,
    ⟨24, "XCPU", "CPU time limit exceeded"⟩, ⟨25, "XFSZ", "File size limit exceeded"⟩,
    ⟨26, "VTALRM", "Virtual timer expired"⟩, ⟨27, "PROF", "Profiling timer expired"⟩,
    ⟨28, "WINCH", "Window changed"⟩, ⟨29, "IO", "I/O possible"⟩, ⟨30, "PWR", "Power failure"⟩,
    ⟨31, "SYS", "Bad system call"⟩]

/-- The signals that do nothing to a process that does not care. -/
def quietSignals : List String := ["EXIT", "CHLD", "CONT", "URG", "WINCH"]

/-- The signals that stop a process until it is told to go on. -/
def stoppingSignals : List String := ["STOP", "TSTP", "TTIN", "TTOU"]

/-- The signals against which nothing can be planned. -/
def fatalSignals : List String := ["KILL", "STOP"]

/-- The signals that end a process without an account of it. -/
def silentSignals : List Nat := [2, 13]

/-- The signal that a word names or numbers. -/
def signal? (word : String) : Option Signal :=
  let number := if word.isEmpty then none else Text.readNatural? 64 word.toList
  signals.find? fun signal => signal.name == word.toUpper || number == some signal.number

/-- The number of the signal of a name. -/
def numberOfSignal (name : String) : Nat := ((signal? name).map Signal.number).getD 15

/-- What is said of a process that a signal ended, if anything is. -/
def accountOf? (number : Nat) : Option String :=
  if silentSignals.contains number then none
  else (signals.find? fun signal => signal.number == number).map Signal.account

/-- What runs a command. -/
abbrev Runner := Command → Machine → Machine

namespace Shell

/-- What is planned for a signal. -/
def action? (shell : Shell) (signal : String) : Option String :=
  (shell.actions.find? fun entry => entry.1 == signal).map (·.2)

/-- The plans that another process keeps: only what is ignored stays so. -/
def keptActions (shell : Shell) : List (String × String) :=
  shell.actions.filter fun entry => entry.2.isEmpty

/-- The status of a process that has ended, as another one sees it. -/
def finalStatus (shell : Shell) : Nat :=
  match shell.flow with
  | .killed signal => 128 + signal
  | _ => shell.status % 256

/-- The signal that ended a process. -/
def finalSignal? (shell : Shell) : Option Nat :=
  match shell.flow with
  | .killed signal => some signal
  | _ => none

end Shell

namespace Machine

/-- The machine with a plan for some signals, or without one. -/
def plan (machine : Machine) (signals : List String) (action : Option String) : Machine :=
  let others := machine.actions.filter fun entry => !signals.contains entry.1
  { machine with
    actions := (action.toList.flatMap fun script => signals.map (·, script)) ++ others }

/-- The machine after a script that was planned. It goes on with the status that it had. -/
def runPlanned (again : Runner) (script : String) (machine : Machine) : Machine :=
  let ran := again (.ofScript 1 script.toList) { machine with speaker := none, isTested := false }
  { ran with
    status := if ran.flow = .onward then machine.status else ran.status
    speaker := machine.speaker
    isTested := machine.isTested
    line := machine.line }

/-- The machine after it got a signal. -/
def receive (again : Runner) (signal : String) (machine : Machine) : Machine :=
  match if fatalSignals.contains signal then none else machine.action? signal with
  | some script => machine.runPlanned again script
  | none =>
    if quietSignals.contains signal then machine
    else if stoppingSignals.contains signal then machine.exhaust
    else { machine with flow := .killed (numberOfSignal signal) }

/-- The machine after all signals that parts of it have sent to it, if it is running. -/
def receiveAll (again : Runner) (machine : Machine) : Machine :=
  if !machine.isRunning then machine
  else
    machine.pending.foldr
      (fun signal machine => if machine.isRunning then machine.receive again signal else machine)
      { machine with pending := [] }

/-- The machine at its end, after what it planned for its end. -/
def concluded (again : Runner) (machine : Machine) : Machine :=
  match machine.finalSignal?, machine.action? "EXIT" with
  | none, some script =>
    if machine.isOver then machine
    else
      let last := again (.ofScript 1 script.toList)
        { machine.plan ["EXIT"] none with flow := .onward, speaker := none, isTested := false }
      match last.flow with
      | .killed _ => last
      | .ended => last
      | _ => (last.answer machine.status).finish
  | _, _ => machine

end Machine

end ShapeScene.Script
