import MailMerge.Files.Program
import MailMerge.Script.Command

/-!
# States of scripts

What running scripts see and change. The world is what all processes share: the files, what is
open, the clock and what has been written out. Each process has its own names, arguments, folder
and channels besides.
-/

namespace MailMerge.Script

/-- Why a process goes no further on its way. -/
inductive Stop where
  | exit (status : Nat)
  /-- An error that ends the process, reported already. -/
  | fault (status : Nat)
  /-- Another program took the place of the process, and ended so. -/
  | replaced (status : Nat)
  /-- A signal ended the shell with this number. -/
  | signalled (signal shell : Nat)
  | late
  /-- More commands than any script runs that ends. -/
  | endless
  | leave (levels : Nat)
  | again (levels : Nat)
  | answer (status : Nat)
  deriving DecidableEq, Repr

/-- What something open leads to. -/
inductive Target where
  | stored (place : Location)
  | output
  | errors
  /-- What is written is kept, last first; what is read comes from what is ahead. -/
  | kept (pieces : List Octets)
  | nowhere
  /-- Zeros without an end. -/
  | zeros
  deriving DecidableEq, Repr

/-- Something open, with the place in it that is next, and what was read ahead of it. -/
structure Opened where
  target : Target
  position : Nat
  ahead : Octets
  atEnd : Bool
  reads : Bool
  writes : Bool

/-- A file whose last writes are held aside, last first. -/
structure Growing where
  place : Location
  executable : Bool
  before : Bytes
  pieces : List Octets
  size : Nat

/-- A command that runs beside the script: how and when it ends, or ended. -/
structure Job where
  process : Nat
  status : Nat
  signal : Option Nat
  finish : Nat

structure Variable where
  value : Option Octets
  exported : Bool
  constant : Bool

/-- What a process has for itself. -/
structure Process where
  /-- The number of the shell that the process belongs to. -/
  shell : Nat
  working : Location
  name : Octets
  arguments : List Octets
  bindings : List (Octets × Variable)
  functions : List (Octets × Command)
  aliases : List (Octets × Octets)
  options : List Char
  traps : List (Nat × Octets)
  /-- What the channels lead to, as numbers of what is open. -/
  channels : List (Nat × Nat)
  /-- The texts of redirections, by their numbers. -/
  documents : Array Word
  status : Nat
  line : Nat
  /-- The process is the shell itself, not a copy of it. -/
  isShell : Bool
  /-- The utility that runs, for reports. -/
  utility : Octets
  /-- The number of loops around the command. -/
  loops : Nat
  functionDepth : Nat
  /-- What the names of a function's own are to be outside it. -/
  saved : List (Octets × Option Variable)
  mask : Nat
  background : Option Nat
  /-- How the last command ended whose output stands in a word of the call. -/
  captured : Option Nat
  /-- The argument from which options are read next, and the place in the one before it. -/
  optionIndex : Nat
  optionPlace : Option Nat
  /-- The working folder as scripts see it. -/
  folder : Octets
  /-- How the program was called that runs, if it is no part of the script. -/
  called : Octets
  /-- Something was written where nothing can be written. -/
  lost : Bool
  /-- The signal that ended the last program, if one did. -/
  ending : Option Nat
  /-- The programs that names were found to stand for, the last one first. -/
  hashed : List (Octets × Octets)

/-- A command beside the script that has not been run yet, with the time at which it began. -/
structure Waiting where
  number : Nat
  start : Nat
  process : Process
  body : Command

/-- A shell that runs: what it does on signals, and those that it has not seen yet, the last one
first. -/
structure Shell where
  number : Nat
  traps : List (Nat × Octets)
  pending : List Nat

structure World where
  stored : Files
  growing : Option Growing
  opened : Array Opened
  output : List Octets
  errors : List Octets
  /-- The time that has passed, in thousandths of a second. -/
  clock : Nat
  /-- The time at which whoever waits for the script gives up. -/
  deadline : Option Nat
  /-- The number of commands that may still run before the script counts as endless. -/
  budget : Nat
  /-- The number of the last process. -/
  lastProcess : Nat
  jobs : List Job
  waiting : List Waiting
  /-- The shells that run one another, the innermost one first. -/
  shells : List Shell

structure State extends Process where
  world : World

/-- Files of the system that give zeros, or bytes of which nothing is known, without an end. -/
def endlessFiles : List String :=
  ["/dev/zero", "/dev/urandom", "/dev/random"]

/-- The number of the process that a script runs in. -/
def processNumber : Nat := 4242

abbrev Running := EStateM Stop State

/-! ## Files -/

namespace World

def files (w : World) : Files :=
  match w.growing with
  | some g =>
    w.stored.put g.place
      (.file (g.before ++ toBytes (g.pieces.reverse.flatMap id)) g.executable)
  | none => w.stored

/-- The world with nothing held aside. -/
def settled (w : World) : World :=
  { w with stored := w.files, growing := none }

/-- Writes at a place in a file. -/
def writeAt (w : World) (place : Location) (position : Nat) (cs : Octets) : World :=
  let held := w.growing.filter fun g => g.place = place && g.size = position
  match held with
  | some g =>
    { w with growing := some { g with pieces := cs :: g.pieces, size := g.size + cs.length } }
  | none =>
    let w := w.settled
    match w.stored.node? place with
    | some (.file content executable) =>
      let size := content.length
      if size = position then
        { w with growing := some ⟨place, executable, content, [cs], size + cs.length⟩ }
      else
        let gap := List.replicate (position - size) (0 : UInt8)
        let content :=
          content.take position ++ gap ++ toBytes cs ++ content.drop (position + cs.length)
        { w with stored := w.stored.put place (.file content executable) }
    | _ => w

/-- The length of a file. -/
def sizeAt (w : World) (place : Location) : Nat :=
  match w.growing.filter fun g => g.place = place with
  | some g => g.size
  | none =>
    match w.files.node? place with
    | some (.file content _) => content.length
    | _ => 0

/-- What is open at a place leads to another one from now on, or nowhere. -/
def moved (w : World) (place : Location) (target : Target) : World :=
  { w with
    opened := w.opened.map fun o =>
      if o.target = .stored place then { o with target := target } else o }

end World

namespace State

def files (σ : State) : Files :=
  σ.world.files

def withFiles (σ : State) (files : Files) : State :=
  { σ with world := { σ.world with stored := files, growing := none } }

def hasOption (σ : State) (letter : Char) : Bool :=
  σ.options.contains letter

def binding? (σ : State) (name : Octets) : Option Variable :=
  (σ.bindings.find? fun v => v.1 = name).map Prod.snd

def value? (σ : State) (name : Octets) : Option Octets :=
  (σ.binding? name).bind Variable.value

def setVariable (σ : State) (name : Octets) (v : Variable) : State :=
  { σ with bindings := (name, v) :: σ.bindings.filter fun w => w.1 ≠ name }

def dropVariable (σ : State) (name : Octets) : State :=
  { σ with bindings := σ.bindings.filter fun w => w.1 ≠ name }

/-- The names and values that other programs see. -/
def environment (σ : State) : List (Octets × Octets) :=
  (σ.bindings.filterMap fun (name, v) =>
    if v.exported then v.value.map fun value => (name, value) else none).reverse

def opened? (σ : State) (channel : Nat) : Option (Nat × Opened) :=
  (σ.channels.find? fun c => c.1 = channel).bind fun c =>
    (σ.world.opened[c.2]?).map fun o => (c.2, o)

def setOpened (σ : State) (number : Nat) (o : Opened) : State :=
  { σ with world := { σ.world with opened := σ.world.opened.setIfInBounds number o } }

def setChannel (σ : State) (channel number : Nat) : State :=
  { σ with channels := (channel, number) :: σ.channels.filter fun c => c.1 ≠ channel }

def closeChannel (σ : State) (channel : Nat) : State :=
  { σ with channels := σ.channels.filter fun c => c.1 ≠ channel }

/-- Opens something new. -/
def withOpened (σ : State) (o : Opened) : Nat × State :=
  (σ.world.opened.size, { σ with world := { σ.world with opened := σ.world.opened.push o } })

end State

namespace Running

/-- Writes to what is open under a number. -/
def writeTo (number : Nat) (cs : Octets) : Running Unit :=
  modify fun σ =>
    match σ.world.opened[number]? with
    | none => σ
    | some o =>
      match o.target with
      | .output => { σ with world := { σ.world with output := cs :: σ.world.output } }
      | .errors => { σ with world := { σ.world with errors := cs :: σ.world.errors } }
      | .kept pieces => σ.setOpened number { o with target := .kept (cs :: pieces) }
      | .nowhere | .zeros => σ
      | .stored place =>
        let position := if o.atEnd then σ.world.sizeAt place else o.position
        let σ := { σ with world := σ.world.writeAt place position cs }
        σ.setOpened number { o with position := position + cs.length }

/-- Writes to a channel; the answer tells whether it is open for that. -/
def emitTo (channel : Nat) (cs : Octets) : Running Bool := do
  match (← get).opened? channel with
  | some (number, o) =>
    if o.writes then
      writeTo number cs
      return true
    else
      return false
  | none => return false

def emit (cs : Octets) : Running Unit := do
  if !(← emitTo 1 cs) && cs ≠ [] then modify fun σ => { σ with lost := true }

/-- Writes a line that reports something. -/
def report (line : Octets) : Running Unit := do
  let _ ← emitTo 2 (line ++ ['\n'])

/-- Reports a text under the name and line of the script. -/
def complain (text : Octets) : Running Unit := do
  let σ ← get
  let utility := if σ.utility = [] then [] else σ.utility ++ octets ": "
  report (σ.name ++ octets ": " ++ decimal σ.line ++ octets ": " ++ utility ++ text)

/-- Reports an error that ends the process, unless what runs is guarded against it. -/
def fault {α : Type} (text : Octets) : Running α := do
  complain text
  throw (.fault 2)

/-- So many zeros as anyone reads who stops reading. -/
def manyZeros : Octets :=
  List.replicate 131072 '\x00'

/-- What is open under a number, with all that can be read from it ahead. -/
def filled (number : Nat) : Running Opened := do
  let σ ← get
  match σ.world.opened[number]? with
  | none => return ⟨.nowhere, 0, [], false, true, false⟩
  | some o =>
    if o.ahead ≠ [] then return o
    match o.target with
    | .stored place =>
      match σ.files.node? place with
      | some (.file content _) =>
        let o := { o with ahead := ofBytes (content.drop o.position) }
        set (σ.setOpened number o)
        return o
      | _ => return o
    | .zeros => return { o with ahead := manyZeros }
    | _ => return o

/-- Takes so much from what is ahead. -/
def take (number : Nat) (o : Opened) (count : Nat) : Running Octets := do
  modify fun σ =>
    σ.setOpened number { o with ahead := o.ahead.drop count, position := o.position + count }
  return o.ahead.take count

/-- Reads all that a channel has; none if it is not open for that. -/
def readAll? (channel : Nat) : Running (Option Octets) := do
  match (← get).opened? channel with
  | some (number, o) =>
    if o.reads then
      let o ← filled number
      return some (← take number o o.ahead.length)
    else
      return none
  | none => return none

def input : Running Octets := do
  return (← readAll? 0).getD []

def assign (name value : Octets) : Running Unit := do
  let σ ← get
  let v := (σ.binding? name).getD ⟨none, false, false⟩
  if v.constant then fault (name ++ octets ": is read only")
  else
    let σ := σ.setVariable name
      { v with value := some value, exported := v.exported || σ.hasOption 'a' }
    let σ := if name = octets "PATH" then { σ with hashed := [] } else σ
    if name = octets "OPTIND" then set { σ with optionIndex := indexOf value, optionPlace := none }
    else set σ
where
  indexOf (value : Octets) : Nat :=
    max 1 ((value.takeWhile Char.isDigit).foldl (fun n c => 10 * n + (c.toNat - '0'.toNat)) 0)

/-- Remembers which program a name stands for. -/
def remember (name path : Octets) : Running Unit :=
  modify fun σ =>
    if name.contains '/' || σ.hashed.any (fun h => h.1 = name) then σ
    else { σ with hashed := (name, path) :: σ.hashed }

def setStatus (status : Nat) : Running Unit :=
  modify fun σ => { σ with status := status }

end Running

/-- The wording of a fault in a report. -/
def faultText (fault : FileFault) : Octets :=
  match Text.cutFirst '(' fault.message.toList with
  | some (text, _) => octets (String.ofList (text.reverse.dropWhile (· = ' ')).reverse)
  | none => octets fault.message

end MailMerge.Script
