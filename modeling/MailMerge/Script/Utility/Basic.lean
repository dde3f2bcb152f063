import MailMerge.Script.Expansion

/-!
# Utilities

A utility takes its arguments and gives a status. What most of them share is here: options among
the arguments, and files that are read one after the other.
-/

namespace MailMerge.Script

abbrev Utility := List Octets → Running Nat

namespace Utility

/-- The name under which a utility reports: the one it was called by, where that ends alike. -/
def shownName (name : String) : Running Octets := do
  let called := (← get).called
  let base := ((Text.cutLast '/' called).elim called Prod.snd)
  return if base = octets name then called else octets name

/-- Reports a fault of a utility. -/
def complain (name : String) (text : Octets) : Running Unit := do
  Running.report ((← shownName name) ++ octets ": " ++ text)

/-- Tells where help is to be found. -/
def hint (name : String) : Running Unit := do
  Running.report (octets "Try '" ++ (← shownName name) ++ octets " --help' for more information.")

/-- Reports a fault of a utility and gives its status. -/
def failed (name : String) (status : Nat) (text : Octets) : Running Nat := do
  complain name text
  return status

/-- The options that a utility takes: letters that stand alone, letters that a value follows, and
long names for letters. -/
structure Options where
  flags : String
  valued : String
  long : List (String × Char) := []
  /-- Options stand before all other arguments. -/
  early : Bool := false
  /-- The status where the options are wrong. -/
  status : Nat := 1

/-- An option of a call, with its value. -/
abbrev Given := List (Char × Octets)

def Given.has (given : Given) (letter : Char) : Bool :=
  given.any fun g => g.1 = letter

/-- The value of an option that was given last. -/
def Given.value? (given : Given) (letter : Char) : Option Octets :=
  (given.reverse.find? fun g => g.1 = letter).map Prod.snd

/-- Why arguments cannot be taken. -/
inductive OptionFault where
  | unknown (letter : Char)
  | unknownName (name : Octets)
  | valueMissing (letter : Char)
  deriving DecidableEq, Repr

/-- The options of one argument, behind its hyphen; the last one may ask for the argument that
follows. -/
def letters (o : Options) : Octets → Except OptionFault (Given × Option Char)
  | [] => .ok ([], none)
  | c :: rest =>
    if o.flags.toList.contains c then
      (letters o rest).map fun (given, asked) => ((c, []) :: given, asked)
    else if o.valued.toList.contains c then
      .ok (if rest = [] then ([], some c) else ([(c, rest)], none))
    else .error (.unknown c)

/-- The option of a long name, with the value behind an equals sign. -/
def longOption (o : Options) (cs : Octets) : Except OptionFault (Given × Option Char) :=
  let (name, value) := (Text.cutFirst '=' cs).elim (cs, none) fun (name, v) => (name, some v)
  match o.long.find? fun l => l.1.toList = name with
  | none => .error (.unknownName cs)
  | some (_, letter) =>
    match value with
    | some v => .ok ([(letter, v)], none)
    | none =>
      .ok (if o.valued.toList.contains letter then ([], some letter) else ([(letter, [])], none))

/-- The options and the other arguments of a call. -/
def parse (o : Options) : List Octets → Except OptionFault (Given × List Octets)
  | [] => .ok ([], [])
  | ['-', '-'] :: rest => .ok ([], rest)
  | ('-' :: c :: cs) :: rest => do
    let (given, asked) ← if c = '-' then longOption o cs else letters o (c :: cs)
    match asked, rest with
    | none, rest =>
      let (more, others) ← parse o rest
      return (given ++ more, others)
    | some letter, v :: rest =>
      let (more, others) ← parse o rest
      return (given ++ (letter, v) :: more, others)
    | some letter, [] => .error (.valueMissing letter)
  | a :: rest =>
    if o.early then .ok ([], a :: rest)
    else do
      let (given, others) ← parse o rest
      return (given, a :: others)

/-- Runs a utility with its options, or reports what is wrong with them. -/
def withOptions (name : String) (o : Options) (arguments : List Octets)
    (use : Given → List Octets → Running Nat) : Running Nat := do
  match parse o arguments with
  | .ok (given, others) => use given others
  | .error fault =>
    complain name (match fault with
      | .unknown c => octets "invalid option -- '" ++ [c, '\'']
      | .unknownName cs => octets "unrecognized option '--" ++ cs ++ ['\'']
      | .valueMissing c => octets "option requires an argument -- '" ++ [c, '\''])
    hint name
    return o.status

def quoted (cs : Octets) : Octets :=
  '\'' :: cs ++ ['\'']

/-- The number that decimal digits stand for. -/
def natural? (cs : Octets) : Option Nat :=
  if cs = [] || !cs.all Char.isDigit then none else some (Formula.valueOf 10 cs)

/-- The channel that a path names. -/
def channelOf? (path : Octets) : Option Nat :=
  if path = octets "/dev/stdin" then some 0
  else if path = octets "/dev/stdout" then some 1
  else if path = octets "/dev/stderr" then some 2
  else (Text.after? (octets "/dev/fd/") path).bind natural?

/-- What is in the file of a path. -/
def contentOf (path : Octets) : Running (Except FileFault Octets) := do
  if path = octets "/dev/null" then return .ok []
  if endlessFiles.contains (String.ofList path) then return .ok Running.manyZeros
  match channelOf? path with
  | some channel => return .ok ((← Running.readAll? channel).getD [])
  | none =>
    let σ ← get
    return (σ.files.read σ.working (pathOf path)).map ofBytes

/-- What is in the file of an argument; a hyphen stands for the input. -/
def argumentContent (a : Octets) : Running (Except FileFault Octets) := do
  if a = ['-'] then return .ok (← Running.input) else contentOf a

/-- Uses what is read from every argument in turn, or from the input if there are none. The status
is one if some could not be read. -/
def forInputs (name : String) (arguments : List Octets)
    (use : Octets → Octets → Running Unit) : Running Nat := do
  let mut status := 0
  for a in if arguments.isEmpty then [['-']] else arguments do
    match ← argumentContent a with
    | .ok content => use a content
    | .error fault =>
      complain name (a ++ octets ": " ++ faultText fault)
      status := 1
  return status

/-- All that is read from the arguments together, with the status of reading. -/
def allInput (name : String) (arguments : List Octets) : Running (Octets × Nat) := do
  let mut all := []
  let mut status := 0
  for a in if arguments.isEmpty then [['-']] else arguments do
    match ← argumentContent a with
    | .ok content => all := content :: all
    | .error fault =>
      complain name (a ++ octets ": " ++ faultText fault)
      status := 1
  return (all.reverse.flatMap id, status)

/-- Takes over the files of a change; a fault is reported with a text before it. -/
def change (name : String) (what : Octets) : Except FileFault Files → Running Nat
  | .ok files => do
    modify fun σ => σ.withFiles files
    return 0
  | .error fault => failed name 1 (what ++ octets ": " ++ faultText fault)

/-- Acts on every argument; the status is the greatest of all. -/
def forAll (act : Octets → Running Nat) (arguments : List Octets) : Running Nat := do
  let mut status := 0
  for a in arguments do
    status := max status (← act a)
  return status

def missingOperand (name : String) : Running Nat := do
  complain name (octets "missing operand")
  hint name
  return 1

end Utility

end MailMerge.Script
