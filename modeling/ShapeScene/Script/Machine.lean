import ShapeScene.Script.Deed
import ShapeScene.Script.Syntax
import ShapeScene.Text.Natural

/-!
# The state of running scripts

A machine has the files, the variables and the streams of a running script, and knows whether the
script goes on. It stops when the script ends itself, when a signal ends it, or when the time that
its tools took reaches a limit. Streams are numbers for descriptors, and a descriptor leads to
channels, which several streams can share. Variables and descriptors belong to one process; the
files, the channels and the time are those of all processes.
-/

namespace ShapeScene.Script

/-- Where bytes come from or go to. -/
inductive Channel where
  /-- What is left to read, of the file in the folder at a place if it is one. -/
  | source (source : Source) (file : Option (List String × String) := none)
  /-- Pieces that were written, each with the time at which it was; the last one first. -/
  | buffer (pieces : List (Nat × List UInt8))
  /-- A file in the folder at a place, at an offset or else always at its end. -/
  | file (place : List String) (name : String) (offset : Option Nat)
  /-- A device. -/
  | device (device : Device)
deriving DecidableEq, Repr

/-- The channels of a stream, by their numbers: one to read from and one to write to. -/
structure Descriptor where
  /-- What is read. -/
  reader : Option Nat := none
  /-- What is written to. -/
  writer : Option Nat := none
deriving DecidableEq, Repr

/-- How a script goes on. -/
inductive Flow where
  /-- With the next command. -/
  | onward
  /-- Behind the end of the last of some loops. -/
  | breaking (loops : Nat)
  /-- With the next round of the last of some loops. -/
  | continuing (loops : Nat)
  /-- Behind the call of a function. -/
  | returning
  /-- Not at all. -/
  | ended
  /-- Not at all, since a signal ended it. -/
  | killed (signal : Nat)
deriving DecidableEq, Repr

/-- What a process of the shell has for itself. -/
structure Shell where
  /-- The path of the script. -/
  name : String
  /-- The arguments of the script or of a function. -/
  arguments : List String
  /-- The number of its process. -/
  process : Nat := 4242
  /-- The descriptors of the streams that are open. -/
  descriptors : List (Nat × Descriptor) := []
  /-- The status of the last command. -/
  status : Nat := 0
  /-- The status of the last script whose output the command took. -/
  captured : Option Nat := none
  /-- The numbers of the companions that it has started, unless it has forgotten them. -/
  jobs : List Nat := []
  /-- The numbers of those for which it has waited. It forgets them when it starts another process.
  -/
  awaited : List Nat := []
  /-- The number of the companion that was started last. -/
  lastJob : Option Nat := none
  /-- The values of the variables. -/
  values : List (String × String) := []
  /-- The variables that tools know. -/
  exported : List String := []
  /-- The variables that keep their values. -/
  constants : List String := []
  /-- The values that variables get back behind the call of a function, if there is one. -/
  shadowed : Option (List (String × Option String)) := none
  /-- The bodies of the functions. -/
  functions : List (String × Command) := []
  /-- The scripts that run at signals. -/
  actions : List (String × String) := []
  /-- The signals that a part of the shell, which runs beside it, has sent to it. -/
  pending : List String := []
  /-- Whether it is such a part. -/
  isPart : Bool := false
  /-- Whether it runs in the place of a companion. -/
  isCompanion : Bool := false
  /-- The number of the argument in which the last option was found, and the number of letters that
  were read in it unless it has no more. -/
  optionSpot : Nat × Option Nat := (1, none)
  /-- The permissions that new files do not get. -/
  mask : Nat := 18
  /-- The number of loops around the command. -/
  loops : Nat := 0
  /-- The letters of the switches that are set. -/
  switches : List Char := []
  /-- Whether the failure of the command is expected. -/
  isTested : Bool := false
  /-- How it goes on. -/
  flow : Flow := .onward
  /-- The line of the command. -/
  line : Nat := 0
  /-- The command of the shell that is at work. -/
  speaker : Option String := none

/-- A process that runs beside the one that started it, which does not wait for it. It has ended
when it has nothing left to do. -/
structure Companion where
  /-- Its number. -/
  number : Nat
  /-- What it has for itself. -/
  shell : Shell
  /-- Its working folder. -/
  place : List String
  /-- The commands that it has still to run. -/
  tasks : List Command
  /-- The time that it has reached. -/
  milliseconds : Nat
  /-- The signals that it got and has planned something for. -/
  signals : List String := []

/-- The state of a running script: what its process has for itself, and what all processes share. -/
structure Machine extends Shell where
  /-- The files. -/
  files : FileTree
  /-- The time after which it is stopped, in milliseconds. -/
  limit : Nat
  /-- The channels by their numbers. -/
  channels : List Channel := []
  /-- The time that its tools took, in milliseconds. -/
  milliseconds : Nat := 0
  /-- The processes that were not waited for. -/
  companions : List Companion := []
  /-- How many of these have been started. -/
  started : Nat := 0
  /-- The number of the process that was launched, if it has ended. -/
  gone : Option Nat := none
  /-- The time before which nothing is left of the companions that ended. -/
  burial : Nat := 0

/-- The switches of the shell by their letters, in the order in which they are listed. -/
def switchNames : List (Char × String) :=
  [('e', "errexit"), ('f', "noglob"), ('I', "ignoreeof"), ('i', "interactive"), ('m', "monitor"),
    ('n', "noexec"), ('s', "stdin"), ('x', "xtrace"), ('v', "verbose"), ('V', "vi"), ('E', "emacs"),
    ('C', "noclobber"), ('a', "allexport"), ('b', "notify"), ('u', "nounset")]

namespace Machine

/-! ## Course -/

/-- Whether the next command is to run. -/
def isRunning (machine : Machine) : Bool :=
  machine.flow == .onward && machine.milliseconds < machine.limit

/-- Whether its time is over. -/
def isOver (machine : Machine) : Bool := machine.limit ≤ machine.milliseconds

/-- The machine that went on until its time was over. -/
def exhaust (machine : Machine) : Machine :=
  { machine with milliseconds := max machine.limit machine.milliseconds, flow := .killed 9 }

/-- The machine with a status. -/
def answer (machine : Machine) (status : Nat) : Machine := { machine with status := status }

/-- The machine at the end of its script. -/
def finish (machine : Machine) : Machine := { machine with flow := .ended }

/-- Whether a switch is set. -/
def has (machine : Machine) (switch : Char) : Bool := machine.switches.contains switch

/-- The machine with a switch set or not. -/
def withSwitch (machine : Machine) (switch : Char) (isSet : Bool) : Machine :=
  let others := machine.switches.filter (· ≠ switch)
  { machine with switches := if isSet then switch :: others else others }

/-! ## Streams -/

/-- The descriptor of a stream that is open. -/
def descriptor? (machine : Machine) (stream : Nat) : Option Descriptor :=
  (machine.descriptors.find? fun entry => entry.1 == stream).map (·.2)

/-- The machine with a descriptor for a stream, or with the stream closed. -/
def setDescriptor (machine : Machine) (stream : Nat) (descriptor : Option Descriptor) : Machine :=
  { machine with
    descriptors := (descriptor.map fun descriptor => (stream, descriptor)).toList ++
      machine.descriptors.filter fun entry => entry.1 != stream }

/-- The machine with one more channel, and its number. -/
def addChannel (machine : Machine) (channel : Channel) : Nat × Machine :=
  (machine.channels.length, { machine with channels := machine.channels ++ [channel] })

/-- The machine with a source for a stream. -/
def readFrom (machine : Machine) (stream : Nat) (source : Source)
    (file : Option (List String × String) := none) : Machine :=
  let (index, machine) := machine.addChannel (.source source file)
  machine.setDescriptor stream (some { reader := some index })

/-- The machine with a channel for what is written to a stream. -/
def writeTo (machine : Machine) (stream : Nat) (channel : Channel) : Machine :=
  let (index, machine) := machine.addChannel channel
  machine.setDescriptor stream (some { writer := some index })

/-- The source of a stream. -/
def sourceOf (machine : Machine) (stream : Nat) : Source :=
  match (machine.descriptor? stream).bind Descriptor.reader with
  | some index =>
    match machine.channels[index]? with
    | some (.source source _) => source
    | _ => .closed
  | none => .closed

/-- The source of standard input. -/
def input (machine : Machine) : Source := machine.sourceOf 0

/-- The machine with what is left of the source of a stream. -/
def leave (machine : Machine) (stream : Nat) (left : Source) : Machine :=
  match (machine.descriptor? stream).bind Descriptor.reader with
  | some index =>
    let drawn (channel : Channel) : Channel :=
      match channel with
      | .source _ file => .source left file
      | channel => channel
    { machine with channels := machine.channels.modify index drawn }
  | none => machine

/-- The machine after a file lost its bytes, so that nothing is left of it to read. -/
def emptied (machine : Machine) (place : List String) (name : String) : Machine :=
  let drained (channel : Channel) : Channel :=
    match channel with
    | .source source file =>
      if file = some (place, name) then .source source.drained file else channel
    | channel => channel
  { machine with channels := machine.channels.map drained }

/-- The content of a file after bytes were written into it. -/
def overwritten (before content : List UInt8) (offset : Nat) : List UInt8 :=
  if offset = before.length then before ++ content
  else
    before.take offset ++ List.replicate (offset - before.length) 0 ++ content ++
      before.drop (offset + content.length)

/-- The machine after bytes were written to a stream, or the reason why they cannot be. -/
def write (machine : Machine) (stream : Nat) (content : List UInt8) : Except IoFailure Machine :=
  if content.isEmpty then .ok machine
  else
    match (machine.descriptor? stream).bind Descriptor.writer with
    | none => .error .notOpen
    | some index =>
      let put (channel : Channel) : Machine :=
        { machine with channels := machine.channels.modify index fun _ => channel }
      match machine.channels[index]? with
      | some (.buffer pieces) => .ok (put (.buffer ((machine.milliseconds, content) :: pieces)))
      | some (.file place name offset) =>
        match (machine.files.folderAt place).find? name with
        | some (.file before _) =>
          let start := offset.getD before.length
          let after := put (.file place name (offset.map fun offset => offset + content.length))
          (machine.files.change place fun folder =>
            folder.write name (overwritten before content start)).map fun files =>
              { after with files := files }
        | _ => .ok machine
      | some (.device .full) => .error .noSpace
      | some (.device _) => .ok machine
      | some (.source _ _) | none => .error .notOpen

/-- The machine after bytes were written to a stream if they can be. -/
def put (machine : Machine) (stream : Nat) (content : List UInt8) : Machine :=
  (machine.write stream content).toOption.getD machine

/-- All bytes of a buffer in the order of their times. -/
def bufferAt (machine : Machine) (index : Nat) : List UInt8 :=
  match machine.channels[index]? with
  | some (.buffer pieces) =>
    (pieces.reverse.mergeSort fun first second => first.1 ≤ second.1).flatMap (·.2)
  | _ => []

/-- The machine without the channels behind the first `count` that no stream needs. -/
def trimmed (machine : Machine) (count : Nat) : Machine :=
  let descriptors := machine.descriptors ++
    machine.companions.flatMap fun companion => companion.shell.descriptors
  let needed := descriptors.foldl
    (fun needed entry =>
      let last (index : Option Nat) : Nat := index.elim 0 (· + 1)
      max needed (max (last entry.2.reader) (last entry.2.writer)))
    count
  { machine with channels := machine.channels.take needed }

/-! ## Messages -/

/-- A complaint about the command at work. -/
def complaint (machine : Machine) (text : String) : String :=
  machine.name ++ ": " ++ toString machine.line ++ ": " ++
    machine.speaker.elim "" (· ++ ": ") ++ text

/-- The machine after a complaint about the command at work. -/
def complain (machine : Machine) (text : String) : Machine :=
  machine.put 2 (Text.rawBytes (machine.complaint text ++ "\n"))

/-- The machine after a complaint that ends the script. -/
def abort (machine : Machine) (text : String) (status : Nat := 2) : Machine :=
  ((machine.complain text).answer status).finish

/-- The machine after a command of the shell wrote on standard output. -/
def say (machine : Machine) (content : List UInt8) (status : Nat := 0) : Machine :=
  match machine.write 1 content with
  | .ok after => after.answer status
  | .error _ => (machine.complain (machine.speaker.getD "" ++ ": I/O error")).answer 1

/-- The machine after a command of the shell wrote a line. -/
def sayLine (machine : Machine) (line : String) : Machine :=
  machine.say (Text.rawBytes (line ++ "\n"))

/-! ## Tools -/

/-- What a tool says when it cannot write, and its status then. -/
def writeComplaint (tool : String) (failure : IoFailure) : String × Nat :=
  let reason := ": " ++ failure.reason
  match tool with
  | "tee" => ("tee: 'standard output'" ++ reason, 1)
  | "wc" => ("wc: write error", 1)
  | "sed" =>
    (if failure = .notOpen then "sed: couldn't close stdout" ++ reason
      else "sed: couldn't flush stdout" ++ reason, 4)
  | "sort" => ("sort: fflush failed: 'standard output'" ++ reason ++ "\nsort: write error", 2)
  | "grep" | "ls" => (tool ++ ": write error" ++ reason, 2)
  | _ => (tool ++ ": write error" ++ reason, 1)

/-- The machine after pieces were written by a tool. Nothing more is written on a stream on which
writing has failed. -/
def putAll (tool name : String) : (hasFailed : Bool) → List (Nat × List UInt8) → Machine → Machine
  | _, [], machine => machine
  | hasFailed, (stream, content) :: pieces, machine =>
    if stream ≠ 1 then putAll tool name hasFailed pieces (machine.put stream content)
    else if hasFailed then putAll tool name true pieces machine
    else
      match machine.write stream content with
      | .ok after => putAll tool name false pieces after
      | .error failure =>
        let (message, status) := writeComplaint tool failure
        putAll tool name true pieces
          ((machine.put 2 (Text.rawBytes (calledBy tool name message ++ "\n"))).answer status)

/-- The machine after a tool did its deed, for which it was called by a name. -/
def after (machine : Machine) (tool name : String) (deed : Deed) : Machine :=
  let deed := deed.calledBy tool name
  let settled :=
    { machine.leave 0 deed.bench.input with
      files := { deed.bench.files with here := machine.files.here }
      status := deed.status
      milliseconds := machine.milliseconds + deed.milliseconds }
  let ran := putAll tool name false deed.written.reverse settled
  if deed.bench.isStuck then ran.exhaust else ran

/-! ## Variables -/

/-- The value of a variable. -/
def valueOf? (machine : Machine) (name : String) : Option String :=
  (machine.values.find? fun entry => entry.1 == name).map (·.2)

/-- The machine without a variable. -/
def forget (machine : Machine) (name : String) : Machine :=
  { machine with values := machine.values.filter fun entry => entry.1 != name }

/-- The machine with a value for a variable, or without it. -/
def restore (machine : Machine) (name : String) : Option String → Machine
  | some value => { machine with values := (name, value) :: (machine.forget name).values }
  | none => machine.forget name

/-- The machine in which tools know a variable. -/
def share (machine : Machine) (name : String) : Machine :=
  if machine.exported.contains name then machine
  else { machine with exported := name :: machine.exported }

/-- The machine with a value for a variable. A script that changes a constant ends. -/
def assign (machine : Machine) (name value : String) : Machine :=
  if machine.constants.contains name then machine.abort (name ++ ": is read only")
  else
    let assigned := machine.restore name (some value)
    if machine.has 'a' then assigned.share name else assigned

/-- The variables that tools know, with their values. -/
def settings (machine : Machine) : List (String × String) :=
  machine.values.filter fun entry => machine.exported.contains entry.1

/-- What a tool finds. -/
def bench (machine : Machine) : Bench :=
  { input := machine.input, files := machine.files, settings := machine.settings }

/-- The value of a parameter, if it has one. -/
def parameter? (machine : Machine) (name : List Char) : Option String :=
  match name with
  | ['0'] => some machine.name
  | ['#'] => some (toString machine.arguments.length)
  | ['?'] => some (toString machine.status)
  | ['$'] => some (toString machine.process)
  | ['!'] => machine.lastJob.map toString
  | ['-'] =>
    some (String.ofList ((switchNames.map (·.1)).filter machine.switches.contains))
  | ['@'] | ['*'] =>
    if machine.arguments.isEmpty then none else some (Text.joinWith " " machine.arguments)
  | chars =>
    if chars.all Text.isDigit then machine.arguments[Text.decimalValue chars - 1]?
    else machine.valueOf? (String.ofList chars)

/-! ## Failures -/

/-- The machine after a command whose failure is expected. -/
def tested (action : Machine → Machine) (machine : Machine) : Machine :=
  { action { machine with isTested := true } with isTested := machine.isTested }

/-- The machine after a command: a failure that is not expected ends a script that is strict. -/
def checked (machine : Machine) : Machine :=
  if machine.has 'e' && !machine.isTested && machine.status != 0 && machine.flow == .onward then
    machine.finish
  else machine

end Machine

end ShapeScene.Script
