import MailMerge.Script.Octets

/-!
# Patterns

A star stands for any text, a question mark for any character, and brackets for one character of
a set. A character that is not active stands for itself.
-/

namespace MailMerge.Script

/-- A character of a pattern, with whether it is active. -/
abbrev Marked := List (Char × Bool)

namespace Pattern

inductive Member where
  | one (c : Char)
  | span (first last : Char)
  | named (name : String)
  deriving DecidableEq, Repr

inductive Part where
  | one (c : Char)
  | any
  | many
  | set (negated : Bool) (members : List Member)
  deriving DecidableEq, Repr

/-- The named classes of characters. -/
def isOfClass (c : Char) : String → Bool
  | "alpha" => c.isAlpha
  | "digit" => c.isDigit
  | "alnum" => c.isAlphanum
  | "upper" => c.isUpper
  | "lower" => c.isLower
  | "space" => c = ' ' || ('\t' ≤ c && c ≤ '\r')
  | "blank" => c = ' ' || c = '\t'
  | "punct" => '!' ≤ c && c ≤ '~' && !c.isAlphanum
  | "print" => ' ' ≤ c && c ≤ '~'
  | "graph" => '!' ≤ c && c ≤ '~'
  | "cntrl" => c < ' ' || c = '\x7f'
  | "xdigit" => c.isDigit || ('a' ≤ c && c ≤ 'f') || ('A' ≤ c && c ≤ 'F')
  | _ => false

def Member.accepts (c : Char) : Member → Bool
  | one d => c = d
  | span first last => first ≤ c && c ≤ last
  | named name => isOfClass c name

/-- A class such as `[:alpha:]`, behind its opening bracket. -/
def className? (cs : Marked) : Option (String × Marked) :=
  match cs with
  | (':', _) :: rest =>
    let name := rest.takeWhile fun c => c.1.isAlpha
    match rest.drop name.length with
    | (':', _) :: (']', _) :: rest => some (String.ofList (name.map Prod.fst), rest)
    | _ => none
  | _ => none

/-- The members of a set up to its closing bracket; a bracket in the first place is a member. -/
def members? : Nat → Bool → Marked → Option (List Member × Marked)
  | 0, _, _ => none
  | _, _, [] => none
  | fuel + 1, first, (c, active) :: rest =>
    if c = ']' && active && !first then some ([], rest)
    else
      match if c = '[' then className? rest else none with
      | some (name, rest) =>
        (members? fuel false rest).map fun (ms, rest) => (.named name :: ms, rest)
      | none =>
        match rest with
        | ('-', true) :: (d, dActive) :: rest' =>
          if d = ']' && dActive then
            (members? fuel false rest).map fun (ms, rest) => (.one c :: ms, rest)
          else (members? fuel false rest').map fun (ms, rest) => (.span c d :: ms, rest)
        | _ => (members? fuel false rest).map fun (ms, rest) => (.one c :: ms, rest)

/-- A set behind its opening bracket. -/
def set? (cs : Marked) : Option (Part × Marked) :=
  let (negated, cs) := match cs with
    | ('!', true) :: rest | ('^', true) :: rest => (true, rest)
    | _ => (false, cs)
  (members? (cs.length + 1) true cs).map fun (ms, rest) => (.set negated ms, rest)

/-- The parts of a pattern. An active backslash makes the character behind it stand for itself. -/
def parts : Nat → Marked → List Part
  | 0, _ => []
  | _, [] => []
  | fuel + 1, (c, active) :: rest =>
    if !active then .one c :: parts fuel rest
    else if c = '*' then .many :: parts fuel rest
    else if c = '?' then .any :: parts fuel rest
    else if c = '[' then
      match set? rest with
      | some (part, rest) => part :: parts fuel rest
      | none => .one c :: parts fuel rest
    else if c = '\\' then
      match rest with
      | (d, _) :: rest => .one d :: parts fuel rest
      | [] => [.one c]
    else .one c :: parts fuel rest

def ofMarked (cs : Marked) : List Part :=
  parts (cs.length + 1) cs

/-- A pattern all of whose characters are active. -/
def ofText (cs : Octets) : List Part :=
  ofMarked (cs.map fun c => (c, true))

def Part.accepts (c : Char) : Part → Bool
  | one d => c = d
  | any => true
  | many => false
  | set negated ms => ms.any (Member.accepts c) != negated

/-- The parts that can be next, for a star may stand for nothing. -/
def reachable : List Part → List (List Part)
  | .many :: rest => (.many :: rest) :: reachable rest
  | parts => [parts]

/-- Leaves out rests of one pattern that are there already; they are told apart by length. -/
def distinct (rests : List (List Part)) : List (List Part) :=
  (rests.foldl (fun kept r =>
    if kept.any fun k => k.length = r.length then kept else r :: kept) []).reverse

/-- What can be next behind a character, given what could be next before it. -/
def step (c : Char) (rests : List (List Part)) : List (List Part) :=
  distinct (rests.flatMap fun
    | [] => []
    | .many :: rest => reachable (.many :: rest)
    | part :: rest => if part.accepts c then reachable rest else [])

/-- The parts stand for this text as a whole. -/
def accepts (parts : List Part) (cs : Octets) : Bool :=
  (cs.foldl (fun rests c => step c rests) (reachable parts)).any List.isEmpty

/-- The lengths of the fronts of a text that a pattern stands for, in ascending order; `seen` is
the length of what was passed already. -/
def fronts (seen : Nat) (rests : List (List Part)) : Octets → List Nat
  | [] => if rests.any List.isEmpty then [seen] else []
  | c :: cs =>
    let later := if rests.isEmpty then [] else fronts (seen + 1) (step c rests) cs
    if rests.any List.isEmpty then seen :: later else later

/-- A text without the shortest or longest front that a pattern stands for. -/
def cutFront (longest : Bool) (parts : List Part) (cs : Octets) : Octets :=
  let lengths := fronts 0 (reachable parts) cs
  match if longest then lengths.getLast? else lengths.head? with
  | some n => cs.drop n
  | none => cs

/-- A text without what a pattern stands for at its front or back. -/
def cut (front longest : Bool) (parts : List Part) (cs : Octets) : Octets :=
  if front then cutFront longest parts cs
  else (cutFront longest parts.reverse cs.reverse).reverse

/-- The text has a character that makes it a pattern. -/
def isPattern (cs : Marked) : Bool :=
  cs.any fun (c, active) => active && (c = '*' || c = '?' || c = '[')

end Pattern

end MailMerge.Script
