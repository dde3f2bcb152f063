import MailMerge.Files.Path

/-!
# Command lines

A command line names a command and its options. Options may stand before and behind the command's
name if they belong to all commands; a value stands behind its option, or is attached to it.
-/

namespace MailMerge.CommandLine

/-- What follows an option. -/
inductive Arity where
  /-- Nothing; the option is given once. -/
  | once
  /-- Nothing; the option may be given again. -/
  | counted
  /-- One value; the option is given once. -/
  | text
  /-- One value that is not empty; the option is given once. -/
  | path
  /-- One value; the option may be given again. -/
  | texts
  /-- Nothing; the version is asked for. -/
  | version
  deriving DecidableEq, Repr

structure Switch where
  long : String
  short : Option Char
  arity : Arity
  deriving DecidableEq, Repr

def Arity.takesValue : Arity → Bool
  | .text | .path | .texts => true
  | .once | .counted | .version => false

def Arity.mayRepeat : Arity → Bool
  | .counted | .texts => true
  | .once | .text | .path | .version => false

/-- Why a command line is not carried out. -/
inductive Refusal where
  | usage
  | version
  deriving DecidableEq, Repr

/-- The options with their values, and the other arguments, in order. -/
structure Found where
  options : List (String × String)
  operands : List String
  deriving DecidableEq, Repr

namespace Found

def empty : Found :=
  ⟨[], []⟩

def has (found : Found) (long : String) : Bool :=
  found.options.any fun o => o.1 == long

def values (found : Found) (long : String) : List String :=
  (found.options.filter fun o => o.1 == long).map Prod.snd

def value? (found : Found) (long : String) : Option String :=
  (found.values long).head?

def addOption (found : Found) (s : Switch) (value : String) : Except Refusal Found :=
  if s.arity = .version then .error .version
  else if !s.arity.mayRepeat && found.has s.long then .error .usage
  else if s.arity = .path && value = "" then .error .usage
  else .ok { found with options := found.options ++ [(s.long, value)] }

/-- Adds an operand, of which there may be so many; none is empty. -/
def addOperand (found : Found) (limit : Nat) (operand : String) : Except Refusal Found :=
  if found.operands.length < limit && operand ≠ "" then
    .ok { found with operands := found.operands ++ [operand] }
  else .error .usage

end Found

/-- What may stand in a part of a command line. -/
structure Shape where
  switches : List Switch
  operands : Nat
  commands : List String
  deriving DecidableEq, Repr

namespace Shape

def long? (shape : Shape) (name : List Char) : Option Switch :=
  shape.switches.find? fun s => s.long.toList == name

def short? (shape : Shape) (c : Char) : Option Switch :=
  shape.switches.find? fun s => s.short == some c

/-- Reads a long option; gives the option that waits for its value. -/
def readLong (shape : Shape) (found : Found) (cs : List Char) :
    Except Refusal (Found × Option Switch) :=
  match Text.cutFirst '=' cs with
  | some (name, value) =>
    match shape.long? name with
    | some s =>
      if s.arity.takesValue then do return (← found.addOption s (String.ofList value), none)
      else .error .usage
    | none => .error .usage
  | none =>
    match shape.long? cs with
    | some s =>
      if s.arity.takesValue then .ok (found, some s) else do return (← found.addOption s "", none)
    | none => .error .usage

/-- Reads short options that stand together; the last of them may have its value attached. -/
def readShort (shape : Shape) (found : Found) : List Char → Except Refusal (Found × Option Switch)
  | [] => .ok (found, none)
  | c :: rest =>
    match shape.short? c with
    | none => .error .usage
    | some s =>
      if s.arity.takesValue then
        match rest with
        | [] => .ok (found, some s)
        | '=' :: value => do return (← found.addOption s (String.ofList value), none)
        | value => do return (← found.addOption s (String.ofList value), none)
      else do readShort shape (← found.addOption s "") rest

/-- Reads what can only be operands. -/
def readOperands (shape : Shape) (found : Found) : List String → Except Refusal Found
  | [] => .ok found
  | a :: rest => do readOperands shape (← found.addOperand shape.operands a) rest

def looksLikeOption (a : String) : Bool :=
  a.toList.head? == some '-' && a ≠ "-"

/-- Reads arguments up to the name of a command; gives that with what follows it. -/
def read (shape : Shape) (found : Found) :
    List String → Except Refusal (Found × Option (String × List String))
  | [] => .ok (found, none)
  | a :: rest =>
    if shape.commands.contains a then .ok (found, some (a, rest))
    else if a = "--" then do return (← shape.readOperands found rest, none)
    else
      let option :=
        match a.toList with
        | '-' :: '-' :: cs => some (shape.readLong found cs)
        | '-' :: c :: cs => some (shape.readShort found (c :: cs))
        | _ => none
      match option with
      | none => do read shape (← found.addOperand shape.operands a) rest
      | some (.error refusal) => .error refusal
      | some (.ok (found, none)) => read shape found rest
      | some (.ok (found, some s)) =>
        match rest with
        | [] => .error .usage
        | value :: rest =>
          if looksLikeOption value then .error .usage
          else do read shape (← found.addOption s value) rest

end Shape

end MailMerge.CommandLine
