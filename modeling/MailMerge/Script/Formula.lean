import MailMerge.Script.Pattern
import MailMerge.Script.State

/-!
# Formulas

Whole numbers of 64 bits that wrap around, with names of variables, the usual operators, choices
and assignments. Only the parts of a formula that its value depends on are evaluated.
-/

namespace MailMerge.Script

inductive Formula where
  | number (n : Int)
  | name (name : Octets)
  | minus (f : Formula)
  | isZero (f : Formula)
  | complement (f : Formula)
  | binary (sign : String) (a b : Formula)
  | both (a b : Formula)
  | either (a b : Formula)
  | choice (condition yes no : Formula)
  /-- With a sign, the old value and the new one are joined first. -/
  | assign (name : Octets) (sign : Option String) (value : Formula)
  deriving Repr

namespace Formula

inductive Fault where
  | noPrimary
  | noEnd
  | noColon
  | noBracket
  | zeroDivision
  deriving DecidableEq, Repr

def Fault.message : Fault → String
  | noPrimary => "expecting primary"
  | noEnd => "expecting EOF"
  | noColon => "expecting ':'"
  | noBracket => "expecting ')'"
  | zeroDivision => "division by zero"

inductive Part where
  | number (n : Int)
  | name (cs : Octets)
  | sign (s : String)
  deriving DecidableEq, Repr

/-- A number of 64 bits. -/
def wrap (n : Int) : Int :=
  Int.bmod n (Nat.pow 2 64)

def greatest : Nat := Nat.pow 2 63 - 1

def digitValue (c : Char) : Nat :=
  if c.isDigit then c.toNat - '0'.toNat
  else if 'a' ≤ c && c ≤ 'z' then c.toNat - 'a'.toNat + 10
  else c.toNat - 'A'.toNat + 10

def isDigitOf (base : Nat) (c : Char) : Bool :=
  c.isAlphanum && digitValue c < base

def valueOf (base : Nat) (cs : Octets) : Nat :=
  cs.foldl (fun n c => base * n + digitValue c) 0

/-- The digits that a text begins with, to a base that they tell, and the text behind. -/
def unsigned? (cs : Octets) : Option (Nat × Octets) :=
  let read (base : Nat) (cs : Octets) :=
    some (valueOf base (cs.takeWhile (isDigitOf base)), cs.dropWhile (isDigitOf base))
  match cs with
  | '0' :: x :: d :: rest =>
    if (x = 'x' || x = 'X') && isDigitOf 16 d then read 16 (d :: rest) else read 8 cs
  | '0' :: _ => read 8 cs
  | d :: _ => if d.isDigit then read 10 cs else none
  | [] => none

/-- A number with a sign and the blanks before it, and the text behind. -/
def integer? (cs : Octets) : Option (Int × Octets) :=
  let cs := cs.dropWhile fun c => Pattern.isOfClass c "space"
  let (negative, cs) := match cs with
    | '-' :: rest => (true, rest)
    | '+' :: rest => (false, rest)
    | _ => (false, cs)
  (unsigned? cs).map fun (n, rest) =>
    (if negative then -(n : Int) else n, rest)

def isBlank (cs : Octets) : Bool :=
  cs.all fun c => Pattern.isOfClass c "space"

/-- The number that a text stands for, blanks around it left out. -/
def number? (cs : Octets) : Option Int :=
  (integer? cs).bind fun (n, rest) =>
    if isBlank rest && -(greatest : Int) - 1 ≤ n && n ≤ greatest then some n else none

/-- The number that a value stands for; a blank one is zero. -/
def valueNumber? (cs : Octets) : Option Int :=
  if isBlank cs then some 0 else number? cs

/-- The signs, longer ones first. -/
def signs : List String :=
  ["<<=", ">>=", "<<", ">>", "<=", ">=", "==", "!=", "&&", "||", "*=", "/=", "%=", "+=", "-=",
    "&=", "^=", "|=", "*", "/", "%", "+", "-", "<", ">", "=", "!", "~", "&", "^", "|", "?", ":",
    "(", ")"]

def sign? (cs : Octets) : Option (String × Octets) :=
  signs.findSome? fun s => (Text.after? s.toList cs).map fun rest => (s, rest)

/-- The parts of a formula; a character that belongs to none is a sign by itself. -/
def parts : Nat → Octets → List Part
  | 0, _ => []
  | _, [] => []
  | fuel + 1, c :: rest =>
    if c = ' ' || c = '\t' || c = '\n' then parts fuel rest
    else if isNameStart c then
      .name ((c :: rest).takeWhile isNamePart) :: parts fuel ((c :: rest).dropWhile isNamePart)
    else
      match unsigned? (c :: rest) with
      | some (n, rest) => .number (min n greatest) :: parts fuel rest
      | none =>
        match sign? (c :: rest) with
        | some (s, rest) => .sign s :: parts fuel rest
        | none => .sign c.toString :: parts fuel rest

abbrev Reader := StateT (List Part) (Except Fault)

def next : Reader (Option Part) :=
  modifyGet fun ps => (ps.head?, ps.tail)

def isNext (s : String) : Reader Bool := do
  return (← get).head? = some (.sign s)

/-- The operators between two values, those that bind tightest first. -/
def levels : List (List String) :=
  [["*", "/", "%"], ["+", "-"], ["<<", ">>"], ["<", "<=", ">", ">="], ["==", "!="], ["&"], ["^"],
    ["|"]]

def assigners : List String :=
  ["*=", "/=", "%=", "+=", "-=", "<<=", ">>=", "&=", "^=", "|="]

mutual

def assignment (fuel : Nat) : Reader Formula :=
  match fuel with
  | 0 => throw .noPrimary
  | fuel + 1 => do
    match ← get with
    | .name cs :: .sign "=" :: rest =>
      set rest
      return .assign cs none (← assignment fuel)
    | .name cs :: .sign s :: rest =>
      if assigners.contains s then
        set rest
        return .assign cs (some (s.dropEnd 1).toString) (← assignment fuel)
      else conditional fuel
    | _ => conditional fuel

def conditional (fuel : Nat) : Reader Formula :=
  match fuel with
  | 0 => throw .noPrimary
  | fuel + 1 => do
    let condition ← disjunction fuel
    if ← isNext "?" then
      let _ ← next
      let yes ← assignment fuel
      if !(← isNext ":") then throw .noColon
      let _ ← next
      return .choice condition yes (← conditional fuel)
    else return condition

def disjunction (fuel : Nat) : Reader Formula :=
  match fuel with
  | 0 => throw .noPrimary
  | fuel + 1 => do
    let a ← conjunction fuel
    if ← isNext "||" then
      let _ ← next
      return .either a (← disjunction fuel)
    else return a

def conjunction (fuel : Nat) : Reader Formula :=
  match fuel with
  | 0 => throw .noPrimary
  | fuel + 1 => do
    let a ← operation fuel levels.reverse
    if ← isNext "&&" then
      let _ ← next
      return .both a (← conjunction fuel)
    else return a

/-- Values joined by operators of these levels, those that bind loosest first. -/
def operation (fuel : Nat) (levels : List (List String)) : Reader Formula :=
  match fuel with
  | 0 => throw .noPrimary
  | fuel + 1 => do
    match levels with
    | [] => primary fuel
    | level :: tighter => operations fuel level tighter (← operation fuel tighter)

def operations (fuel : Nat) (level : List String) (tighter : List (List String)) (a : Formula) :
    Reader Formula :=
  match fuel with
  | 0 => throw .noPrimary
  | fuel + 1 => do
    match (← get).head? with
    | some (.sign s) =>
      if level.contains s then
        let _ ← next
        operations fuel level tighter (.binary s a (← operation fuel tighter))
      else return a
    | _ => return a

def primary (fuel : Nat) : Reader Formula :=
  match fuel with
  | 0 => throw .noPrimary
  | fuel + 1 => do
    match ← next with
    | some (.number n) => return .number n
    | some (.name cs) => return .name cs
    | some (.sign "(") =>
      let f ← assignment fuel
      if !(← isNext ")") then throw .noBracket
      let _ ← next
      return f
    | some (.sign "+") => primary fuel
    | some (.sign "-") => return .minus (← primary fuel)
    | some (.sign "!") => return .isZero (← primary fuel)
    | some (.sign "~") => return .complement (← primary fuel)
    | _ => throw .noPrimary

end

def ofText (cs : Octets) : Except Fault Formula :=
  let ps := parts (cs.length + 1) cs
  match (assignment (16 * (ps.length + 2))).run ps with
  | .ok (f, []) => .ok f
  | .ok _ => .error .noEnd
  | .error fault => .error fault

def truth (b : Bool) : Int :=
  if b then 1 else 0

/-- Acts on the bits of two numbers. -/
def onBits (act : Nat → Nat → Nat) (a b : Int) : Int :=
  let bits (n : Int) := (n % (Nat.pow 2 64 : Int)).toNat
  wrap (act (bits a) (bits b))

/-- What an operator makes of two values; none is a division by zero. -/
def join? (sign : String) (a b : Int) : Option Int :=
  let places := (b % 64).toNat
  match sign with
  | "*" => some (wrap (a * b))
  | "/" => if b = 0 then none else some (wrap (Int.tdiv a b))
  | "%" => if b = 0 then none else some (Int.tmod a b)
  | "+" => some (wrap (a + b))
  | "-" => some (wrap (a - b))
  | "<<" => some (wrap (a * (Nat.pow 2 places : Int)))
  | ">>" => some (Int.fdiv a (Nat.pow 2 places))
  | "<" => some (truth (a < b))
  | "<=" => some (truth (a ≤ b))
  | ">" => some (truth (b < a))
  | ">=" => some (truth (b ≤ a))
  | "==" => some (truth (a = b))
  | "!=" => some (truth (a ≠ b))
  | "&" => some (onBits Nat.land a b)
  | "^" => some (onBits Nat.xor a b)
  | _ => some (onBits Nat.lor a b)

def illegalNumber {α : Type} (cs : Octets) : Running α :=
  Running.fault (octets "Illegal number: " ++ cs)

/-- The number that a variable holds. -/
def look (name : Octets) : Running Int := do
  let σ ← get
  match σ.value? name with
  | some cs =>
    match valueNumber? cs with
    | some n => return n
    | none => illegalNumber cs
  | none => return 0

def report {α : Type} (text : Octets) (fault : Fault) : Running α :=
  Running.fault (octets s!"arithmetic expression: {fault.message}: \"" ++ text ++ ['"'])

/-- The value of a formula; `text` is how it is written, for reports. -/
def eval (text : Octets) : Formula → Running Int
  | number n => return n
  | name cs => look cs
  | minus f => return wrap (-(← eval text f))
  | isZero f => return truth ((← eval text f) = 0)
  | complement f => return -(← eval text f) - 1
  | binary sign a b => do
    let a ← eval text a
    let b ← eval text b
    match join? sign a b with
    | some n => return n
    | none => report text .zeroDivision
  | both a b => do
    if (← eval text a) = 0 then return 0
    return truth ((← eval text b) ≠ 0)
  | either a b => do
    if (← eval text a) ≠ 0 then return 1
    return truth ((← eval text b) ≠ 0)
  | choice condition yes no => do
    if (← eval text condition) ≠ 0 then eval text yes else eval text no
  | assign cs sign value => do
    let b ← eval text value
    let n ← match sign with
      | none => pure b
      | some sign =>
        match join? sign (← look cs) b with
        | some n => pure n
        | none => report text .zeroDivision
    Running.assign cs (decimalInt n)
    return n

/-- Reads a formula and evaluates it. -/
def value (cs : Octets) : Running Int := do
  match ofText cs with
  | .ok f => eval cs f
  | .error fault => report cs fault

end Formula

end MailMerge.Script
