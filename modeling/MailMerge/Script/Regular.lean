import MailMerge.Script.Pattern

/-!
# Regular expressions

Basic and extended regular expressions with groups and references back to them. Of all matches
that begin at the first place where there is one, the longest is taken; parts that stand further
left are as long as they can be.
-/

namespace MailMerge.Script

inductive Regular where
  | empty
  | one (c : Char)
  | any
  | set (negated : Bool) (members : List Pattern.Member)
  | lineStart
  | lineEnd
  | wordStart
  | wordEnd
  | wordEdge (isOne : Bool)
  | group (number : Nat) (r : Regular)
  | back (number : Nat)
  | sequence (a b : Regular)
  | choice (a b : Regular)
  | many (least : Nat) (most : Option Nat) (r : Regular)
  deriving Repr

namespace Regular

/-! ## Reading -/

inductive Fault where
  | openGroup
  | closedGroup
  | openSet
  | openRepeat
  | badRepeat
  | noRepeated
  | badReference
  | trailingBackslash
  | badClass
  | badRange
  | tooBig
  deriving DecidableEq, Repr

def Fault.message : Fault → String
  | openGroup => "Unmatched ( or \\("
  | closedGroup => "Unmatched ) or \\)"
  | openSet => "Unmatched [, [^, [:, [., or [="
  | openRepeat => "Unmatched \\\x7b"
  | badRepeat => "Invalid content of \\\x7b\\\x7d"
  | noRepeated => "Invalid preceding regular expression"
  | badReference => "Invalid back reference"
  | trailingBackslash => "Trailing backslash"
  | badClass => "Invalid character class name"
  | badRange => "Invalid range end"
  | tooBig => "Regular expression too big"

/-- The text that is left, and the number of groups that have begun. -/
structure Source where
  rest : Octets
  groups : Nat

abbrev Reader := StateT Source (Except Fault)

def isWord (c : Char) : Bool :=
  c.isAlphanum || c = '_'

def wordMembers : List Pattern.Member :=
  [.named "alnum", .one '_']

/-- A sign that stands for itself or, behind a backslash, for what it means; extended expressions
have it the other way round. -/
def isSign (extended : Bool) (cs : Octets) (c : Char) : Bool :=
  if extended then cs.head? = some c else cs.take 2 = ['\\', c]

def skip (count : Nat) : Reader Unit :=
  modify fun s => { s with rest := s.rest.drop count }

def signSize (extended : Bool) : Nat :=
  if extended then 1 else 2

/-- The alternative, the group or the text ends here. -/
def atEnd (extended : Bool) (depth : Nat) (cs : Octets) : Bool :=
  cs = [] || isSign extended cs '|' || (isSign extended cs ')' && (depth > 0 || !extended))

/-- A number up to a comma or a closing brace, with what follows; it may be missing. -/
def bound (extended : Bool) : Octets → Except Fault (Option Nat × Octets) := fun cs =>
  let rec front : Octets → Octets
    | [] => []
    | c :: rest => if c = ',' || isSign extended (c :: rest) '\x7d' then [] else c :: front rest
  let taken := front cs
  let behind := cs.drop taken.length
  if behind = [] then .error .openRepeat
  else if !taken.all Char.isDigit then .error .badRepeat
  else if taken = [] then .ok (none, behind)
  else .ok (some (taken.foldl (fun n c => 10 * n + (c.toNat - '0'.toNat)) 0), behind)

/-- The bounds of a repetition, behind its opening brace. -/
def bounds (extended : Bool) : Reader (Nat × Option Nat) := do
  let (least, behind) ← bound extended (← get).rest
  let (low, high, rest) : Nat × Option Nat × Octets ←
    match behind with
    | ',' :: more => do
      let (most, rest) ← bound extended more
      if rest.head? = some ',' then throw .badRepeat
      pure (least.getD 0, most, rest)
    | rest =>
      match least with
      | some n => pure (n, some n, rest)
      | none => throw .badRepeat
  if high.any (· < low) then throw .badRepeat
  if 32767 < low || high.any (32767 < ·) then throw .tooBig
  modify fun s => { s with rest := rest.drop (signSize extended) }
  return (low, high)

/-- The repetitions behind a part. -/
def repeated (extended : Bool) : Nat → Regular → Reader Regular
  | 0, r => return r
  | fuel + 1, r => do
    let cs := (← get).rest
    if cs.head? = some '*' then
      skip 1
      repeated extended fuel (.many 0 none r)
    else if isSign extended cs '+' then
      skip (signSize extended)
      repeated extended fuel (.many 1 none r)
    else if isSign extended cs '?' then
      skip (signSize extended)
      repeated extended fuel (.many 0 (some 1) r)
    else if isSign extended cs '\x7b' then
      skip (signSize extended)
      let (least, most) ← bounds extended
      repeated extended fuel (.many least most r)
    else return r

/-- What a letter behind a backslash means. -/
def escaped (groups : Nat) (c : Char) : Except Fault Regular :=
  match c with
  | 'w' => .ok (.set false wordMembers)
  | 'W' => .ok (.set true wordMembers)
  | 's' => .ok (.set false [.named "space"])
  | 'S' => .ok (.set true [.named "space"])
  | 'b' => .ok (.wordEdge true)
  | 'B' => .ok (.wordEdge false)
  | '<' => .ok .wordStart
  | '>' => .ok .wordEnd
  | '\x60' => .ok .lineStart
  | '\'' => .ok .lineEnd
  | 'n' => .ok (.one '\n')
  | 't' => .ok (.one '\t')
  | c =>
    if '1' ≤ c && c ≤ '9' then
      let n := c.toNat - '0'.toNat
      if n ≤ groups then .ok (.back n) else .error .badReference
    else .ok (.one c)

/-- The names of classes of characters. -/
def classNames : List String :=
  ["alpha", "digit", "alnum", "upper", "lower", "space", "blank", "punct", "print", "graph",
    "cntrl", "xdigit"]

/-- The set behind an opening bracket. -/
def readSet : Reader Regular := do
  let cs := (← get).rest
  let (negated, cs) := match cs with
    | '^' :: rest => (true, rest)
    | _ => (false, cs)
  let marked := cs.map fun c => (c, true)
  match Pattern.members? (cs.length + 1) true marked with
  | some (members, rest) =>
    modify fun s => { s with rest := rest.map Prod.fst }
    let isBadClass : Pattern.Member → Bool
      | .named name => !classNames.contains name
      | _ => false
    let isBadRange : Pattern.Member → Bool
      | .span first last => last < first
      | _ => false
    if members.any isBadClass then throw .badClass
    if members.any isBadRange then throw .badRange
    return .set negated members
  | none => throw .openSet

mutual

def readChoice (extended : Bool) (fuel depth : Nat) : Reader Regular :=
  match fuel with
  | 0 => throw .openGroup
  | fuel + 1 => do
    let a ← readSequence extended fuel depth true .empty
    if isSign extended (← get).rest '|' then
      skip (signSize extended)
      return .choice a (← readChoice extended fuel depth)
    else return a

/-- Parts in a row; `first` tells whether the next part is the first of its alternative. -/
def readSequence (extended : Bool) (fuel depth : Nat) (first : Bool) (before : Regular) :
    Reader Regular :=
  match fuel with
  | 0 => return before
  | fuel + 1 => do
    if atEnd extended depth (← get).rest then return before
    let part ← readPart extended fuel depth first
    let stays := match part with
      | .lineStart => !extended
      | _ => false
    readSequence extended fuel depth stays (.sequence before part)

def readPart (extended : Bool) (fuel depth : Nat) (first : Bool) : Reader Regular :=
  match fuel with
  | 0 => throw .openGroup
  | fuel + 1 => do
    let cs := (← get).rest
    let more := repeated extended (cs.length + 1)
    if isSign extended cs '(' then
      skip (signSize extended)
      let number := (← get).groups + 1
      modify fun s => { s with groups := number }
      let r ← readChoice extended fuel (depth + 1)
      if isSign extended (← get).rest ')' then
        skip (signSize extended)
        more (.group number r)
      else throw .openGroup
    else
      match cs with
      | [] => return .empty
      | '\\' :: [] => throw .trailingBackslash
      | '\\' :: c :: _ =>
        if c = ')' && !extended then throw .closedGroup
        skip 2
        match escaped (← get).groups c with
        | .ok r => more r
        | .error fault => throw fault
      | '[' :: _ =>
        skip 1
        more (← readSet)
      | '.' :: _ =>
        skip 1
        more .any
      | '^' :: _ =>
        skip 1
        if extended || first then
          if extended then more .lineStart else return .lineStart
        else more (.one '^')
      | '$' :: rest =>
        skip 1
        let isLast := rest = [] || isSign extended rest '|' || isSign extended rest ')'
        if extended || isLast then return .lineEnd else more (.one '$')
      | '*' :: _ =>
        skip 1
        if extended && first then more .empty
        else more (.one '*')
      | c :: _ =>
        skip 1
        if extended && first && (c = '+' || c = '?') then more .empty else more (.one c)

end

/-- The expression that a text stands for, with the number of its groups. -/
def ofText (extended : Bool) (cs : Octets) : Except Fault (Regular × Nat) :=
  match (readChoice extended (4 * cs.length + 8) 0).run ⟨cs, 0⟩ with
  | .ok (r, ⟨[], groups⟩) => .ok (r, groups)
  | .ok _ => .error .closedGroup
  | .error fault => .error fault

/-! ## Matching -/

/-- A text, and how it is looked at. -/
structure Subject where
  text : Array Char
  ignoreCase : Bool
  /-- The text begins a line. -/
  isStart : Bool := true

/-- A place that a match has come to, with the places of the groups so far. -/
structure Spot where
  place : Nat
  groups : List (Nat × Nat × Nat)
  deriving DecidableEq

namespace Subject

def at? (t : Subject) (place : Nat) : Option Char :=
  t.text[place]?

def same (t : Subject) (a b : Char) : Bool :=
  a = b || (t.ignoreCase && a.toLower = b.toLower)

def isWordAt (t : Subject) (place : Nat) : Bool :=
  (t.at? place).any isWord

def isWordBefore (t : Subject) (place : Nat) : Bool :=
  match place with
  | 0 => false
  | n + 1 => t.isWordAt n

end Subject

/-- Keeps one spot for each place, the first one, those further on first. -/
def ordered (spots : List Spot) : List Spot :=
  let kept := spots.foldl (fun (kept : List Spot) s =>
    if kept.any fun k => k.place = s.place then kept else s :: kept) []
  kept.reverse.mergeSort fun a b => decide (b.place ≤ a.place)

/-- Takes one character if it passes a test. -/
def oneIf (t : Subject) (test : Char → Bool) (s : Spot) : List Spot :=
  if (t.at? s.place).any test then [{ s with place := s.place + 1 }] else []

def accepts (t : Subject) (negated : Bool) (members : List Pattern.Member) (c : Char) : Bool :=
  let among (c : Char) := members.any (Pattern.Member.accepts c)
  (among c || (t.ignoreCase && (among c.toLower || among c.toUpper))) != negated

/-- Repeats a step as long as it comes to new places. -/
def spread (step : List Spot → List Spot) : Nat → List Spot → List Spot → List Spot
  | 0, _, found => found
  | fuel + 1, front, found =>
    let next := (step front).filter fun s => !found.any fun f => f.place = s.place
    if next.isEmpty then found else spread step fuel next (found ++ next)

/-- The spots that a match can come to from a spot. -/
def ends (t : Subject) : Regular → Spot → List Spot
  | empty, s => [s]
  | one c, s => oneIf t (t.same c) s
  | any, s => oneIf t (fun _ => true) s
  | set negated members, s => oneIf t (accepts t negated members) s
  | lineStart, s => if s.place = 0 && t.isStart then [s] else []
  | lineEnd, s => if s.place = t.text.size then [s] else []
  | wordStart, s => if !t.isWordBefore s.place && t.isWordAt s.place then [s] else []
  | wordEnd, s => if t.isWordBefore s.place && !t.isWordAt s.place then [s] else []
  | wordEdge isOne, s => if (t.isWordBefore s.place != t.isWordAt s.place) == isOne then [s] else []
  | group number r, s =>
    (ends t r s).map fun e =>
      { e with groups := (number, s.place, e.place) :: e.groups.filter fun g => g.1 ≠ number }
  | back number, s =>
    match s.groups.find? fun g => g.1 = number with
    | some (_, first, last) =>
      let size := last - first
      let isSame := (List.range size).all fun i =>
        match t.at? (first + i), t.at? (s.place + i) with
        | some a, some b => t.same a b
        | _, _ => false
      if isSame then [{ s with place := s.place + size }] else []
    | none => []
  | sequence a b, s => ordered ((ends t a s).flatMap (ends t b))
  | choice a b, s => ordered (ends t a s ++ ends t b s)
  | many least most r, s =>
    let step (spots : List Spot) := ordered (spots.flatMap (ends t r))
    let front := least.repeat step [s]
    let further := match most with
      | some n => n - least
      | none => t.text.size + 1
    ordered (spread step further front front)

/-- The longest match at a place. -/
def matchAt? (t : Subject) (r : Regular) (place : Nat) : Option Spot :=
  (ends t r ⟨place, []⟩).head?

/-- The first match from a place on: where it begins and what it comes to. -/
def search? (t : Subject) (r : Regular) : Nat → Nat → Option (Nat × Spot)
  | 0, _ => none
  | fuel + 1, place =>
    match matchAt? t r place with
    | some s => some (place, s)
    | none => search? t r fuel (place + 1)

def firstFrom? (t : Subject) (r : Regular) (place : Nat) : Option (Nat × Spot) :=
  search? t r (t.text.size + 1 - place) place

/-- The characters between two places. -/
def Subject.slice (t : Subject) (first last : Nat) : Octets :=
  (t.text.extract first last).toList

/-- The text of a group; the whole match is group zero. -/
def groupText (t : Subject) (first : Nat) (s : Spot) (number : Nat) : Octets :=
  if number = 0 then t.slice first s.place
  else
    match s.groups.find? fun g => g.1 = number with
    | some (_, a, b) => t.slice a b
    | none => []

end Regular

end MailMerge.Script
