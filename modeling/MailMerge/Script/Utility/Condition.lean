import MailMerge.Script.Utility.Basic

/-!
# Conditions

Conditions on texts, numbers and files, joined by negation, conjunction, disjunction and brackets.
An argument that could be an operator is one only where it can take what stands beside it.
-/

namespace MailMerge.Script.Utility

namespace Condition

/-- What an argument is in a condition. -/
inductive Role where
  | nothing
  | operand
  | test
  | comparison
  | negation
  | conjunction
  | disjunction
  | opening
  | closing
  deriving DecidableEq, Repr

def tests : List String :=
  ["-r", "-w", "-x", "-e", "-f", "-d", "-c", "-b", "-p", "-u", "-g", "-k", "-s", "-t", "-z", "-n",
    "-h", "-O", "-G", "-L", "-S"]

def comparisons : List String :=
  ["=", "!=", "<", ">", "-eq", "-ne", "-ge", "-gt", "-le", "-lt", "-nt", "-ot", "-ef"]

/-- The role that an argument has by itself. -/
def roleOf (a : Octets) : Role :=
  let s := String.ofList a
  if tests.contains s then .test
  else if comparisons.contains s then .comparison
  else if s = "!" then .negation
  else if s = "-a" then .conjunction
  else if s = "-o" then .disjunction
  else if s = "(" then .opening
  else if s = ")" then .closing
  else .operand

/-- The role of the argument at the front: a test needs something to test, and an opening bracket
something behind it. -/
def role : List Octets → Role
  | [] => .nothing
  | a :: rest =>
    match roleOf a with
    | .test =>
      match rest with
      | [] => .operand
      | [_] => .test
      | b :: _ => if roleOf b = .comparison then .operand else .test
    | .opening => if rest.isEmpty then .operand else .opening
    | r => r

def fault {α : Type} (operator : Octets) (text : String) : Running α :=
  Running.fault (if operator = [] then octets text else operator ++ octets (": " ++ text))

def number (a : Octets) : Running Int := do
  match Formula.number? a with
  | some n => return n
  | none => Running.fault (octets "Illegal number: " ++ a)

def fileTest (operator : Octets) (path : Octets) : Running Bool := do
  let σ ← get
  let kind := if path = octets "/dev/null" then some Kind.program
    else σ.files.kind? σ.working (pathOf path)
  match String.ofList operator with
  | "-e" | "-r" | "-w" | "-O" | "-G" => return kind.isSome
  | "-x" => return kind.any (· ≠ .file) && path ≠ octets "/dev/null"
  | "-f" => return kind.any (· ≠ .folder) && path ≠ octets "/dev/null"
  | "-d" => return kind = some .folder
  | "-c" => return path = octets "/dev/null"
  | "-s" =>
    match σ.files.read σ.working (pathOf path) with
    | .ok content => return content ≠ []
    | .error _ => return kind = some .folder
  | _ => return false

def test (operator value : Octets) : Running Bool := do
  match String.ofList operator with
  | "-z" => return value = []
  | "-n" => return value ≠ []
  | "-t" => do
    let _ ← number value
    return false
  | _ => fileTest operator value

def compare (a operator b : Octets) : Running Bool := do
  match String.ofList operator with
  | "=" => return a = b
  | "!=" => return a ≠ b
  | "<" => return a < b
  | ">" => return b < a
  | "-eq" => return (← number a) = (← number b)
  | "-ne" => return (← number a) ≠ (← number b)
  | "-ge" => return (← number b) ≤ (← number a)
  | "-gt" => return (← number b) < (← number a)
  | "-le" => return (← number a) ≤ (← number b)
  | "-lt" => return (← number a) < (← number b)
  | "-ef" =>
    let σ ← get
    let place (p : Octets) := (σ.files.locate σ.working (pathOf p)).toOption
    return isPresent σ a && place a = place b
  | _ => return false

abbrev Reader := StateT (List Octets) Running

def rest : Reader (List Octets) := get

def advance : Reader Unit :=
  modify List.tail

mutual

/-- A condition and those that are joined to it; afterwards its last argument is at the front. -/
def disjunction (fuel : Nat) : Reader Bool :=
  match fuel with
  | 0 => return false
  | fuel + 1 => do
    let a ← conjunction fuel
    if role (← rest).tail = .disjunction then
      advance
      advance
      let b ← disjunction fuel
      return a || b
    else return a

def conjunction (fuel : Nat) : Reader Bool :=
  match fuel with
  | 0 => return false
  | fuel + 1 => do
    let a ← negation fuel
    if role (← rest).tail = .conjunction then
      advance
      advance
      let b ← conjunction fuel
      return a && b
    else return a

def negation (fuel : Nat) : Reader Bool :=
  match fuel with
  | 0 => return false
  | fuel + 1 => do
    if role (← rest) = .negation then
      if !(← rest).tail.isEmpty then
        advance
        return !(← negation fuel)
      else return true
    else primary fuel

def primary (fuel : Nat) : Reader Bool :=
  match fuel with
  | 0 => return false
  | fuel + 1 => do
    match role (← rest), ← rest with
    | .nothing, _ => return false
    | .opening, _ =>
      advance
      if role (← rest) = .closing then return false
      let b ← disjunction fuel
      advance
      if role (← rest) = .closing then return b
      else fault [] "closing paren expected"
    | .test, operator :: value :: _ =>
      advance
      test operator value
    | _, a :: operator :: more =>
      if role (operator :: more) = .comparison then
        match more with
        | [] => fault operator "argument expected"
        | b :: _ =>
          advance
          advance
          compare a operator b
      else return a ≠ []
    | _, a :: _ => return a ≠ []
    | _, [] => return false

end

def general (arguments : List Octets) : Running Bool := do
  let (b, left) ← (disjunction (4 * arguments.length + 8)).run arguments
  match left with
  | last :: _ :: _ => fault last "unexpected operator"
  | _ => return b

/-- Whether a condition holds. Of few arguments their number decides what they are. -/
def holds : Nat → List Octets → Running Bool
  | 0, _ => return false
  | _, [] => return false
  | fuel + 1, arguments => do
    match arguments with
    | [a, operator, b] =>
      if roleOf operator = .comparison then compare a operator b
      else if a = ['('] && b = [')'] then holds fuel [operator]
      else if a = ['!'] then return !(← holds fuel [operator, b])
      else general arguments
    | [a, b, c, d] =>
      if a = ['('] && d = [')'] then holds fuel [b, c]
      else if a = ['!'] then return !(← holds fuel [b, c, d])
      else general arguments
    | _ => general arguments

end Condition

/-- Gives whether a condition holds; in the form with brackets the last argument closes it. -/
def test (bracket : Bool) : Utility := fun arguments => do
  let arguments ←
    if bracket then
      if arguments.getLast? = some [']'] then pure arguments.dropLast
      else Running.fault (octets "missing ]")
    else pure arguments
  return if ← Condition.holds (arguments.length + 1) arguments then 0 else 1

end MailMerge.Script.Utility
