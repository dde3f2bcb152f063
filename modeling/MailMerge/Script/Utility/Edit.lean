import MailMerge.Script.Regular
import MailMerge.Script.Utility.Lines

/-!
# Editing lines

A list of editing commands is applied to every line of the input. Each command may be bound to
lines: by number, by what they match, or from one such line to another.
-/

namespace MailMerge.Script.Utility

namespace Edit

inductive Address where
  | line (n : Nat)
  | last
  /-- The expression; none stands for the one that was used last. -/
  | found (r : Option Regular) (ignoreCase : Bool)
  /-- Every so many lines from a first one on. -/
  | every (first step : Nat)

/-- Where a range of lines ends. -/
inductive Goal where
  | address (a : Address)
  | further (count : Nat)
  | multiple (n : Nat)

inductive Range where
  | all
  | one (a : Address)
  | between (first : Address) (last : Goal)

/-- How letters are written in what replaces a match. -/
inductive Casing where
  | same
  | upper
  | lower
  deriving DecidableEq

inductive ReplacePart where
  | text (cs : Octets)
  | group (n : Nat)
  | casing (c : Casing)
  | nextCasing (c : Casing)

structure Substitution where
  pattern : Option Regular
  ignoreCase : Bool
  parts : List ReplacePart
  all : Bool
  number : Nat
  prints : Bool
  file : Option Octets

inductive Action where
  | substitute (s : Substitution)
  | transliterate (pairs : List (Char × Char))
  | print
  | printFirst
  | delete
  | deleteFirst
  | next
  | nextToo
  | hold
  | holdToo
  | get
  | getToo
  | exchange
  | append (text : Octets)
  | insert (text : Octets)
  | replace (text : Octets)
  | branch (label : Octets)
  | branchIf (done : Bool) (label : Octets)
  | quit (prints : Bool) (status : Nat)
  | number
  | list
  | read (path : Octets)
  | write (path : Octets)
  | label (name : Octets)
  | opening
  | closing
  | clear

structure Instruction where
  range : Range
  negated : Bool
  action : Action

/-! ## Reading -/

structure Source where
  rest : Octets
  size : Nat
  extended : Bool

abbrev Reader := StateT Source (Except Octets)

def fail {α : Type} (text : String) : Reader α := do
  let s ← get
  throw (octets s!"-e expression #1, char {s.size - s.rest.length}: " ++ octets text)

def peek : Reader (Option Char) := do
  return (← get).rest.head?

def advance : Reader Unit :=
  modify fun s => { s with rest := s.rest.drop 1 }

def takeWhile (test : Char → Bool) : Reader Octets :=
  modifyGet fun s => (s.rest.takeWhile test, { s with rest := s.rest.dropWhile test })

def skipBlanks : Reader Unit := do
  let _ ← takeWhile fun c => c = ' ' || c = '\t'

def number : Reader Nat := do
  return Formula.valueOf 10 (← takeWhile Char.isDigit)

/-- The text up to a delimiter; behind a backslash the delimiter stands for itself. In sets of
characters it does so anyway. -/
def upTo (delimiter : Char) (regular : Bool) (what : String) : Nat → Bool → Octets → Reader Octets
  | 0, _, _ => fail what
  | fuel + 1, inSet, taken => do
    match (← get).rest with
    | [] => fail what
    | '\\' :: c :: _ =>
      advance
      advance
      if inSet then upTo delimiter regular what fuel inSet (c :: '\\' :: taken)
      else if c = delimiter then
        let kept := if regular && "^$.*[]+?()\x7b\x7d|".toList.contains c then [c, '\\'] else [c]
        upTo delimiter regular what fuel inSet (kept ++ taken)
      else if c = 'n' && regular then upTo delimiter regular what fuel inSet ('\n' :: taken)
      else upTo delimiter regular what fuel inSet (c :: '\\' :: taken)
    | c :: rest =>
      if c = delimiter && !inSet then
        advance
        return taken.reverse
      else if c = '\n' && regular then fail what
      else
        advance
        if !regular then upTo delimiter regular what fuel false (c :: taken)
        else if inSet then
          upTo delimiter regular what fuel (c ≠ ']') (c :: taken)
        else if c = '[' then
          /- A bracket right behind the opening one, or behind its caret, belongs to the set. -/
          let front := match rest with
            | '^' :: ']' :: _ => 2
            | ']' :: _ => 1
            | '^' :: _ => 1
            | _ => 0
          modify fun s => { s with rest := s.rest.drop front }
          upTo delimiter regular what fuel true ((c :: rest.take front).reverse ++ taken)
        else upTo delimiter regular what fuel false (c :: taken)

def readUpTo (delimiter : Char) (regular : Bool) (what : String) : Reader Octets := do
  upTo delimiter regular what ((← get).rest.length + 1) false []

/-- The expression of a text with the number of its groups; an empty one stands for the one that
was used last. -/
def regularOf (cs : Octets) : Reader (Option (Regular × Nat)) := do
  if cs = [] then return none
  match Regular.ofText (← get).extended cs with
  | .ok r => return some r
  | .error fault => fail fault.message

def address? : Reader (Option Address) := do
  match ← peek with
  | some '$' =>
    advance
    return some .last
  | some '/' =>
    advance
    let cs ← readUpTo '/' true "unterminated address regex"
    let r ← regularOf cs
    let ignore ← flag
    return some (.found (r.map Prod.fst) ignore)
  | some '\\' =>
    advance
    match ← peek with
    | some delimiter =>
      advance
      let cs ← readUpTo delimiter true "unterminated address regex"
      let r ← regularOf cs
      let ignore ← flag
      return some (.found (r.map Prod.fst) ignore)
    | none => fail "unterminated address regex"
  | some c =>
    if c.isDigit then
      let n ← number
      if (← peek) = some '~' then
        advance
        return some (.every n (← number))
      return some (.line n)
    return none
  | none => return none
where
  flag : Reader Bool := do
    if (← peek) = some 'I' then
      advance
      return true
    return false

def goal : Reader Goal := do
  match ← peek with
  | some '+' =>
    advance
    return .further (← number)
  | some '~' =>
    advance
    return .multiple (← number)
  | _ =>
    match ← address? with
    | some a => return .address a
    | none =>
      if (← peek).isSome then advance
      fail "unexpected `,'"

def range : Reader Range := do
  match ← address? with
  | none => return .all
  | some a =>
    skipBlanks
    if (← peek) = some ',' then
      advance
      skipBlanks
      return .between a (← goal)
    else return .one a

/-- The parts of what replaces a match. -/
def replaceParts : Nat → Octets → List ReplacePart
  | 0, _ => []
  | _, [] => []
  | fuel + 1, '&' :: rest => .group 0 :: replaceParts fuel rest
  | fuel + 1, '\\' :: c :: rest =>
    let part : ReplacePart :=
      match c with
      | 'n' => .text ['\n']
      | 't' => .text ['\t']
      | 'r' => .text ['\r']
      | 'f' => .text ['\x0c']
      | 'a' => .text ['\x07']
      | 'v' => .text ['\x0b']
      | 'U' => .casing .upper
      | 'L' => .casing .lower
      | 'E' => .casing .same
      | 'u' => .nextCasing .upper
      | 'l' => .nextCasing .lower
      | c => if c.isDigit then .group (c.toNat - '0'.toNat) else .text [c]
    part :: replaceParts fuel rest
  | fuel + 1, c :: rest => .text [c] :: replaceParts fuel rest

def flags (s : Substitution) : Nat → Reader Substitution
  | 0 => return s
  | fuel + 1 => do
    match ← peek with
    | some 'g' =>
      advance
      if s.all then fail "multiple `g' options to `s' command"
      flags { s with all := true } fuel
    | some 'p' =>
      advance
      if s.prints then fail "multiple `p' options to `s' command"
      flags { s with prints := true } fuel
    | some 'i' | some 'I' =>
      advance
      flags { s with ignoreCase := true } fuel
    | some 'm' | some 'M' =>
      advance
      flags s fuel
    | some 'w' =>
      advance
      skipBlanks
      return { s with file := some (← takeWhile (· ≠ '\n')) }
    | some c =>
      if c.isDigit then
        let n ← number
        if n = 0 then fail "number option to `s' command may not be zero"
        flags { s with number := n } fuel
      else return s
    | none => return s

/-- A text behind a command: on the same line or, behind a backslash, on the lines that follow. -/
def textArgument : Reader Octets := do
  skipBlanks
  match (← get).rest with
  | '\\' :: rest =>
    let blanks := rest.takeWhile fun c => c = ' ' || c = '\t'
    match rest.drop blanks.length with
    | '\n' :: more => modify fun s => { s with rest := more }
    | _ => modify fun s => { s with rest := rest }
  | _ => pure ()
  let cs := (← get).rest
  if cs = [] then fail "expected \\ after `a', `c' or `i'"
  let (text, rest) := lines (cs.length + 1) cs
  modify fun s => { s with rest := rest }
  return text ++ ['\n']
where
  lines : Nat → Octets → Octets × Octets
    | 0, cs => ([], cs)
    | _, [] => ([], [])
    | _, '\n' :: rest => ([], rest)
    | fuel + 1, '\\' :: c :: rest =>
      let (text, rest) := lines fuel rest
      (c :: text, rest)
    | fuel + 1, c :: rest =>
      let (text, rest) := lines fuel rest
      (c :: text, rest)

def labelName : Reader Octets := do
  skipBlanks
  let cs ← takeWhile fun c => c ≠ '\n' && c ≠ ';' && c ≠ '\x7d'
  return (cs.reverse.dropWhile (· = ' ')).reverse

def fileName : Reader Octets := do
  skipBlanks
  let cs ← takeWhile (· ≠ '\n')
  if cs = [] then fail "missing filename in r/R/w/W commands"
  return cs

def unescapedChars (cs : Octets) : Octets :=
  match cs with
  | '\\' :: 'n' :: rest => '\n' :: unescapedChars rest
  | '\\' :: 't' :: rest => '\t' :: unescapedChars rest
  | '\\' :: c :: rest => c :: unescapedChars rest
  | c :: rest => c :: unescapedChars rest
  | [] => []

def action : Reader Action := do
  match ← peek with
  | none => fail "missing command"
  | some c =>
    advance
    match c with
    | 's' =>
      match ← peek with
      | none | some '\n' | some '\\' => fail "unterminated `s' command"
      | some delimiter =>
        advance
        let cs ← readUpTo delimiter true "unterminated `s' command"
        let text ← readUpTo delimiter false "unterminated `s' command"
        let start : Substitution :=
          ⟨none, false, replaceParts (text.length + 1) text, false, 1, false, none⟩
        let s ← flags start ((← get).rest.length + 1)
        let r ← regularOf cs
        let isBad (n : Nat) : Bool := r.any fun (_, groups) => groups < n
        let bad := s.parts.filterMap fun
          | .group n => if isBad n then some n else none
          | _ => none
        if let some n := bad.head? then fail s!"invalid reference \\{n} on `s' command's RHS"
        return .substitute { s with pattern := r.map Prod.fst }
    | 'y' =>
      match ← peek with
      | none => fail "unterminated `y' command"
      | some delimiter =>
        advance
        let a := unescapedChars (← readUpTo delimiter false "unterminated `y' command")
        let b := unescapedChars (← readUpTo delimiter false "unterminated `y' command")
        if a.length ≠ b.length then fail "strings for `y' command are different lengths"
        return .transliterate (a.zip b)
    | 'p' => return .print
    | 'P' => return .printFirst
    | 'd' => return .delete
    | 'D' => return .deleteFirst
    | 'n' => return .next
    | 'N' => return .nextToo
    | 'h' => return .hold
    | 'H' => return .holdToo
    | 'g' => return .get
    | 'G' => return .getToo
    | 'x' => return .exchange
    | 'z' => return .clear
    | '=' => return .number
    | 'l' => return .list
    | 'a' => return .append (← textArgument)
    | 'i' => return .insert (← textArgument)
    | 'c' => return .replace (← textArgument)
    | 'b' => return .branch (← labelName)
    | 't' => return .branchIf true (← labelName)
    | 'T' => return .branchIf false (← labelName)
    | ':' =>
      let name ← labelName
      if name = [] then fail "\":\" lacks a label"
      return .label name
    | 'q' | 'Q' =>
      skipBlanks
      return .quit (c = 'q') (← number)
    | 'r' => return .read (← fileName)
    | 'w' => return .write (← fileName)
    | '\x7b' => return .opening
    | '\x7d' => return .closing
    | _ => fail s!"unknown command: `{c}'"

def endsItself : Action → Bool
  | .append _ | .insert _ | .replace _ | .opening | .read _ | .write _ => true
  | _ => false

def instructions : Nat → Nat → List Instruction → Reader (List Instruction)
  | 0, _, done => return done.reverse
  | fuel + 1, depth, done => do
    let _ ← takeWhile fun c => c = ' ' || c = '\t' || c = '\n' || c = ';'
    match ← peek with
    | none =>
      if depth ≠ 0 then throw (octets "-e expression #1, char 0: unmatched `\x7b'")
      return done.reverse
    | some '#' =>
      let _ ← takeWhile (· ≠ '\n')
      instructions fuel depth done
    | some _ =>
      let r ← range
      skipBlanks
      let isZero := match r with
        | .one (.line 0) | .between (.line 0) (.further _) | .between (.line 0) (.multiple _)
        | .between (.line 0) (.address (.line _)) | .between (.line 0) (.address .last) => true
        | _ => false
      if isZero then
        advance
        fail "invalid usage of line address 0"
      let negated := (← peek) = some '!'
      if negated then
        advance
        skipBlanks
        if (← peek) = some '!' then
          advance
          fail "multiple `!'s"
      let a ← action
      let depth ← match a with
        | .opening => pure (depth + 1)
        | .closing => if depth = 0 then fail "unexpected `\x7d'" else pure (depth - 1)
        | _ => pure depth
      if !endsItself a then
        skipBlanks
        match ← peek with
        | none | some '\n' | some ';' | some '\x7d' | some '#' => pure ()
        | some _ =>
          advance
          match a with
          | .substitute _ => fail "unknown option to `s'"
          | _ => fail "extra characters after command"
      instructions fuel depth (⟨r, negated, a⟩ :: done)

/-- A label that a branch goes to and that is nowhere. -/
def lostLabel? (program : List Instruction) : Option Octets :=
  let labels := program.filterMap fun i =>
    match i.action with
    | .label name => some name
    | _ => none
  program.findSome? fun i =>
    match i.action with
    | .branch name | .branchIf _ name =>
      if name = [] || labels.contains name then none else some name
    | _ => none

def ofText (extended : Bool) (cs : Octets) : Except Octets (List Instruction) := do
  let (program, _) ← (instructions (cs.length + 2) 0 []).run ⟨cs, cs.length, extended⟩
  match lostLabel? program with
  | some name => .error (octets "can't find label for jump to `" ++ name ++ ['\''])
  | none => return program

/-! ## Running -/

structure State where
  space : Octets
  held : Octets
  line : Nat
  left : List Octets
  /-- The last line of the input has an end. -/
  ended : Bool
  out : List Octets
  appended : List Octets
  substituted : Bool
  lastUsed : Option Regular
  /-- Instructions whose ranges are entered, with the line where each one ends if that is known. -/
  entered : List (Nat × Option Nat)
  written : List (Octets × List Octets)
  quit : Option Nat

/-- How the cycle of a line goes on. -/
inductive Turn where
  | goOn
  /-- The cycle ends; the line is printed or not. -/
  | finish (prints : Bool)
  /-- The cycle begins again with what is left in the space. -/
  | restart

abbrev Editor := StateT State Running

def isLast (s : State) : Bool :=
  s.left.isEmpty

/-- Puts a line out; the very last one of an input without an end has none either. -/
def say (cs : Octets) (whole : Bool) : Editor Unit :=
  modify fun s =>
    { s with out := (if whole || !isLast s || s.ended then cs ++ ['\n'] else cs) :: s.out }

/-- Puts out what was appended to the line. -/
def flush : Editor Unit :=
  modify fun s => { s with out := s.appended ++ s.out, appended := [] }

def matchesHere (r : Option Regular) (ignoreCase : Bool) : Editor Bool := do
  let s ← get
  match r.or s.lastUsed with
  | none => return false
  | some r =>
    set { s with lastUsed := some r }
    return (Regular.firstFrom? { text := s.space.toArray, ignoreCase := ignoreCase } r 0).isSome

def holds : Address → Editor Bool
  | .line n => return (← get).line = n
  | .last => return isLast (← get)
  | .found r ignoreCase => matchesHere r ignoreCase
  | .every first step => do
    let n := (← get).line
    return if step = 0 then n = first else first ≤ n && (n - first) % step = 0

/-- The line at which a range that has just begun ends, if it is known. -/
def endOf (line : Nat) : Goal → Option Nat
  | .further count => some (line + count)
  | .multiple n => some (if n = 0 then line else (line + n - 1) / n * n)
  | .address (.line n) => some n
  | .address _ => none

def selects (index : Nat) : Range → Editor Bool
  | .all => return true
  | .one a => holds a
  | .between first last => do
    let s ← get
    let leave : Editor Unit :=
      modify fun s => { s with entered := s.entered.filter fun e => e.1 ≠ index }
    let isZero := match first with
      | .line 0 => true
      | _ => false
    let entered := (s.entered.find? fun e => e.1 = index).or
      (if isZero && s.line = 1 then some (index, none) else none)
    match entered with
    | some (_, some n) =>
      if n ≤ s.line then leave
      return s.line ≤ n || (n < s.line && (← holds first))
    | some (_, none) =>
      if isZero && s.line = 1 then
        modify fun s => { s with entered := (index, none) :: s.entered }
      let ends ← match last with
        | .address a => holds a
        | _ => pure true
      if ends then leave
      return true
    | none =>
      if isZero then return false
      if !(← holds first) then return false
      let goal := endOf s.line last
      match goal with
      | some n =>
        if s.line < n then modify fun s => { s with entered := (index, goal) :: s.entered }
      | none => modify fun s => { s with entered := (index, none) :: s.entered }
      return true

def cased (c : Casing) (cs : Octets) : Octets :=
  match c with
  | .same => cs
  | .upper => cs.map Char.toUpper
  | .lower => cs.map Char.toLower

/-- What replaces a match. -/
def replacement (t : Regular.Subject) (first : Nat) (spot : Regular.Spot)
    (parts : List ReplacePart) : Octets :=
  (parts.foldl (fun ((all, once, out) : Casing × Casing × List Octets) p =>
    let add (cs : Octets) :=
      match cased all cs with
      | [] => (all, once, out)
      | c :: rest => (all, .same, (cased once [c] ++ rest) :: out)
    match p with
    | .text cs => add cs
    | .group n => add (Regular.groupText t first spot n)
    | .casing c => (c, .same, out)
    | .nextCasing c => (all, c, out)) (.same, .same, [])).2.2.reverse.flatMap id

/-- The text with matches replaced from a place on; `count` matches were found before. -/
def replaced (t : Regular.Subject) (r : Regular) (s : Substitution) :
    Nat → Nat → Nat → Option Nat → Octets × Bool
  | 0, place, _, _ => (t.slice place t.text.size, false)
  | fuel + 1, place, count, behind =>
    match Regular.firstFrom? t r place with
    | none => (t.slice place t.text.size, false)
    | some (i, spot) =>
      let j := spot.place
      if i = j && behind = some i then
        /- An empty match right behind another match does not count. -/
        match t.at? i with
        | none => ([], false)
        | some c =>
          let (rest, done) := replaced t r s fuel (i + 1) count none
          (t.slice place i ++ c :: rest, done)
      else
        let count := count + 1
        let before := t.slice place i
        let isChosen := if s.all then s.number ≤ count else s.number = count
        let here := if isChosen then replacement t i spot s.parts else t.slice i j
        if isChosen && !s.all then (before ++ here ++ t.slice j t.text.size, true)
        else if i = j then
          match t.at? i with
          | none => (before ++ here, isChosen)
          | some c =>
            let (rest, done) := replaced t r s fuel (i + 1) count none
            (before ++ here ++ c :: rest, done || isChosen)
        else
          let (rest, done) := replaced t r s fuel j count (some j)
          (before ++ here ++ rest, done || isChosen)

/-- Writes a line to a file that the commands name. -/
def writeLine (path cs : Octets) : Editor Unit := do
  if path = octets "/dev/stdout" then say cs true
  else if path = octets "/dev/stderr" then
    let _ ← (Running.emitTo 2 (cs ++ ['\n']) : Running Bool)
  else
    modify fun s =>
      let before := ((s.written.find? fun w => w.1 = path).map Prod.snd).getD []
      { s with
        written := (path, (cs ++ ['\n']) :: before) :: s.written.filter fun w => w.1 ≠ path }

def substitute (s : Substitution) : Editor Unit := do
  let σ ← get
  match s.pattern.or σ.lastUsed with
  | none => return ()
  | some r =>
    let t : Regular.Subject := { text := σ.space.toArray, ignoreCase := s.ignoreCase }
    let (space, done) := replaced t r s (t.text.size + 2) 0 0 none
    set { σ with lastUsed := some r, space := space, substituted := σ.substituted || done }
    if done then
      if s.prints then say space true
      if let some path := s.file then writeLine path space

/-- Takes the next line of the input into the space. -/
def takeLine (join : Bool) : Editor Bool := do
  let s ← get
  match s.left with
  | [] => return false
  | l :: rest =>
    set { s with
      space := if join then s.space ++ '\n' :: l else l
      left := rest, line := s.line + 1 }
    return true

/-- A line in which every character can be seen. -/
def listed (cs : Octets) : Octets :=
  let shown := cs.map fun c =>
    match c with
    | '\\' => octets "\\\\"
    | '\x07' => octets "\\a"
    | '\x08' => octets "\\b"
    | '\x0c' => octets "\\f"
    | '\n' => octets "\\n"
    | '\r' => octets "\\r"
    | '\t' => octets "\\t"
    | '\x0b' => octets "\\v"
    | c => if ' ' ≤ c && c ≤ '~' then [c] else '\\' :: Lines.based 8 3 '0' c.toNat
  let (_, out) := shown.foldl (fun ((width, out) : Nat × Octets) s =>
    if 69 < width + s.length then (s.length, s.reverse ++ '\n' :: '\\' :: out)
    else (width + s.length, s.reverse ++ out)) (0, [])
  out.reverse ++ ['$']

/-- The place behind the end of a block. -/
def blockEnd (program : Array Instruction) : Nat → Nat → Nat → Nat
  | 0, index, _ => index
  | fuel + 1, index, depth =>
    match program[index]? with
    | none => index
    | some i =>
      match i.action with
      | .opening => blockEnd program fuel (index + 1) (depth + 1)
      | .closing => if depth = 0 then index + 1 else blockEnd program fuel (index + 1) (depth - 1)
      | _ => blockEnd program fuel (index + 1) depth

def placeOf (program : Array Instruction) (name : Octets) : Nat :=
  if name = [] then program.size
  else
    (program.findIdx? fun i =>
      match i.action with
      | .label n => n = name
      | _ => false).getD program.size

/-- The end of a range is on this line. -/
def endsRange (index : Nat) (r : Range) : Editor Bool := do
  match r with
  | .between .. => return !(← get).entered.any fun e => e.1 = index
  | _ => return true

/-- Runs the instructions from a place on. -/
def runFrom (program : Array Instruction) (quiet : Bool) : Nat → Nat → Editor Turn
  | 0, _ => return .finish true
  | fuel + 1, index => do
    match program[index]? with
    | none => return .finish true
    | some i =>
      let isChosen := (← selects index i.range) != i.negated
      let goOn := runFrom program quiet fuel (index + 1)
      if !isChosen then
        match i.action with
        | .opening =>
          runFrom program quiet fuel (blockEnd program (program.size + 1) (index + 1) 0)
        | _ => goOn
      else
        match i.action with
        | .opening | .closing | .label _ => goOn
        | .substitute s => do
          substitute s
          goOn
        | .transliterate pairs => do
          modify fun s =>
            { s with space := s.space.map fun c => (pairs.find? fun p => p.1 = c).elim c Prod.snd }
          goOn
        | .print => do
          say (← get).space true
          goOn
        | .printFirst => do
          say ((← get).space.takeWhile (· ≠ '\n')) true
          goOn
        | .delete => return .finish false
        | .deleteFirst => do
          let s ← get
          if s.space.contains '\n' then
            set { s with space := (s.space.dropWhile (· ≠ '\n')).drop 1 }
            return .restart
          else return .finish false
        | .next => do
          if isLast (← get) then
            modify fun s => { s with quit := some 0 }
            return .finish true
          if !quiet then say (← get).space false
          flush
          let _ ← takeLine false
          goOn
        | .nextToo => do
          if isLast (← get) then
            modify fun s => { s with quit := some 0 }
            return .finish true
          flush
          let _ ← takeLine true
          goOn
        | .hold => do
          modify fun s => { s with held := s.space }
          goOn
        | .holdToo => do
          modify fun s => { s with held := s.held ++ '\n' :: s.space }
          goOn
        | .get => do
          modify fun s => { s with space := s.held }
          goOn
        | .getToo => do
          modify fun s => { s with space := s.space ++ '\n' :: s.held }
          goOn
        | .exchange => do
          modify fun s => { s with space := s.held, held := s.space }
          goOn
        | .clear => do
          modify fun s => { s with space := [] }
          goOn
        | .append text => do
          modify fun s => { s with appended := text :: s.appended }
          goOn
        | .insert text => do
          modify fun s => { s with out := text :: s.out }
          goOn
        | .replace text => do
          if i.negated || (← endsRange index i.range) then
            modify fun s => { s with out := text :: s.out }
          return .finish false
        | .branch name => runFrom program quiet fuel (placeOf program name)
        | .branchIf done name => do
          let s ← get
          set { s with substituted := false }
          if s.substituted = done then runFrom program quiet fuel (placeOf program name) else goOn
        | .quit prints status => do
          modify fun s => { s with quit := some status }
          return .finish prints
        | .number => do
          modify fun s => { s with out := (decimal s.line ++ ['\n']) :: s.out }
          goOn
        | .list => do
          say (listed (← get).space) true
          goOn
        | .read path => do
          match ← (contentOf path : Running (Except FileFault Octets)) with
          | .ok content => modify fun s => { s with appended := content :: s.appended }
          | .error _ => pure ()
          goOn
        | .write path => do
          writeLine path (← get).space
          goOn

/-- Runs a cycle for every line that is left. -/
def cycles (program : Array Instruction) (quiet : Bool) : Nat → Bool → Editor Unit
  | 0, _ => return ()
  | fuel + 1, fresh => do
    let isThere ← if fresh then takeLine false else pure true
    if isThere then
      modify fun s => { s with substituted := false }
      let turn ← runFrom program quiet 100000 0
      match turn with
      | .restart => do
        flush
        cycles program quiet fuel false
      | .finish prints => do
        if prints && !quiet then say (← get).space false
        flush
        if (← get).quit.isNone then cycles program quiet fuel true
      | .goOn => return ()

end Edit

open Edit

/-- Edits the lines of texts. -/
def sed : Utility := fun arguments =>
  withOptions "sed"
    { flags := "nErsuz", valued := "efI"
      long := [("quiet", 'n'), ("silent", 'n'), ("expression", 'e'), ("file", 'f'),
        ("regexp-extended", 'E'), ("in-place", 'I'), ("separate", 's')] }
    (arguments.map fun a =>
      match a with
      | '-' :: 'i' :: rest => octets "-I." ++ rest
      | a => a) fun o operands => do
      let mut pieces := []
      for (letter, value) in o do
        if letter = 'e' then pieces := value :: pieces
        if letter = 'f' then
          match ← argumentContent value with
          | .ok content => pieces := content :: pieces
          | .error fault =>
            return ← failed "sed" 1 (octets "couldn't open file " ++ value ++ octets ": " ++
              faultText fault)
      let isGiven := !pieces.isEmpty
      if !isGiven && operands.isEmpty then
        Running.report (octets ("Usage: sed [OPTION]... " ++
          "\x7bscript-only-if-no-other-script\x7d [input-file]..."))
        return 1
      let text := if isGiven then Text.join ['\n'] pieces.reverse else operands.headD []
      let files := if isGiven then operands else operands.drop 1
      match Edit.ofText (o.has 'E' || o.has 'r') text with
      | .error fault => failed "sed" 1 fault
      | .ok program =>
        let quiet := o.has 'n' || text.take 3 = ['#', 'n', '\n']
        let inPlace := o.has 'I'
        let mut status := 0
        let mut inputs : List (Octets × Octets) := []
        for a in if files.isEmpty then [['-']] else files do
          match ← argumentContent a with
          | .ok content => inputs := (a, content) :: inputs
          | .error .isFolder =>
            complain "sed" (octets (if inPlace then "couldn't edit " else "couldn't read ") ++ a ++
              octets (if inPlace then ": not a regular file" else ": Is a directory"))
            status := if inPlace then 4 else 2
          | .error fault =>
            complain "sed" (octets "can't read " ++ a ++ octets ": " ++ faultText fault)
            status := 2
        let groups :=
          if inPlace || o.has 's' then inputs.reverse.map fun i => (i.1, i.2)
          else [([], joined (inputs.reverse.map Prod.snd))]
        let mut written := writes program
        for (a, content) in groups do
          let lines := linesOf content
          let start : Edit.State :=
            ⟨[], [], 0, lines, content.getLast? = some '\n' || content = [], [], [], false, none,
              [], written, none⟩
          let (_, s) ← (cycles program.toArray quiet (2 * content.length + 2) true).run start
          written := s.written
          let rest := if inPlace then unfinished s else []
          let out := s.out.reverse.flatMap id ++ rest
          if inPlace then
            let σ ← get
            let suffix := ((o.value? 'I').getD []).drop 1
            if suffix ≠ [] then
              let _ ← change "sed" a
                (σ.files.write σ.working (pathOf (a ++ suffix)) (toBytes content))
            let σ ← get
            let _ ← change "sed" a (σ.files.write σ.working (pathOf a) (toBytes out))
          else Running.emit out
          if let some n := s.quit then
            if n ≠ 0 then status := n
        for (path, chunks) in written do
          let σ ← get
          let _ ← change "sed" path
            (σ.files.write σ.working (pathOf path) (toBytes (chunks.reverse.flatMap id)))
        return status
where
  /-- The texts one after the other; one without an end gets one before the next. -/
  joined : List Octets → Octets
    | [] => []
    | [t] => t
    | t :: rest => (if t = [] || t.getLast? = some '\n' then t else t ++ ['\n']) ++ joined rest
  /-- The lines that were not read before the commands came to an end. -/
  unfinished (s : Edit.State) : Octets :=
    let lines := unlines s.left
    if s.ended then lines else lines.dropLast
  /-- The files that the commands write to. -/
  writes (program : List Instruction) : List (Octets × List Octets) :=
    (program.filterMap fun i =>
      match i.action with
      | .write path => some path
      | .substitute s => s.file
      | _ => none).foldl (fun found path =>
        if path = octets "/dev/stdout" || path = octets "/dev/stderr" ||
          found.any (fun (w : Octets × List Octets) => w.1 = path) then found
        else (path, []) :: found) []

end MailMerge.Script.Utility
