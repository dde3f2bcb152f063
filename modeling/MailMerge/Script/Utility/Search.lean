import MailMerge.Script.Regular
import MailMerge.Script.Utility.Lines

/-!
# Searching

Lines that match an expression, and the value of an expression on texts and numbers.
-/

namespace MailMerge.Script.Utility

namespace Search

/-- What is searched for: an expression, or a text that stands for itself. -/
inductive Goal where
  | regular (r : Regular)
  | text (cs : Octets)

structure Manner where
  goals : List Goal
  ignoreCase : Bool
  wholeWord : Bool
  wholeLine : Bool

/-- The first place from `place` on where a text occurs. -/
def textFrom? (t : Regular.Subject) (cs : Array Char) : Nat → Nat → Option (Nat × Nat)
  | 0, _ => none
  | fuel + 1, place =>
    if t.text.size < place + cs.size then none
    else if (List.range cs.size).all fun i =>
        match cs[i]?, t.at? (place + i) with
        | some a, some b => t.same a b
        | _, _ => false then some (place, place + cs.size)
    else textFrom? t cs fuel (place + 1)

/-- A match stands between characters that belong to no word. -/
def isWordMatch (t : Regular.Subject) (m : Nat × Nat) : Bool :=
  !t.isWordBefore m.1 && !t.isWordAt m.2

/-- The first match of a goal from a place on. -/
def goalFrom? (m : Manner) (t : Regular.Subject) (g : Goal) : Nat → Nat → Option (Nat × Nat)
  | 0, _ => none
  | fuel + 1, place =>
    let found : Option (Nat × Nat) := match g with
      | .regular r => (Regular.firstFrom? t r place).map fun m => (m.1, m.2.place)
      | .text cs => textFrom? t cs.toArray (t.text.size + 1) place
    match found with
    | none => none
    | some (i, j) =>
      if m.wholeWord && !isWordMatch t (i, j) then
        /- A shorter match at the same place may stand alone. -/
        let shorter : Option (Nat × Nat) := match g with
          | .regular r =>
            ((Regular.ends t r ⟨i, []⟩).map fun (s : Regular.Spot) => (i, s.place)).find?
              (isWordMatch t)
          | .text _ => none
        match shorter with
        | some m => some m
        | none => if t.text.size < i + 1 then none else goalFrom? m t g fuel (i + 1)
      else some (i, j)

/-- The first match of any goal, the longest of those that begin together. -/
def firstFrom? (m : Manner) (t : Regular.Subject) (place : Nat) : Option (Nat × Nat) :=
  let found := m.goals.filterMap fun g => goalFrom? m t g (t.text.size + 2) place
  found.foldl (fun best f =>
    match best with
    | none => some f
    | some b => if f.1 < b.1 || (f.1 = b.1 && b.2 < f.2) then some f else some b) none

def matchesWhole (t : Regular.Subject) : Goal → Bool
  | .regular r => (Regular.ends t r ⟨0, []⟩).any fun s => s.place = t.text.size
  | .text cs => cs.length = t.text.size && (textFrom? t cs.toArray 1 0).isSome

def matchesLine (m : Manner) (l : Octets) : Bool :=
  let t : Regular.Subject := { text := l.toArray, ignoreCase := m.ignoreCase }
  if m.wholeLine then m.goals.any (matchesWhole t) else (firstFrom? m t 0).isSome

/-- The matches of a line that are not empty. -/
def matchesIn (m : Manner) (t : Regular.Subject) : Nat → Nat → List Octets
  | 0, _ => []
  | fuel + 1, place =>
    match firstFrom? m t place with
    | none => []
    | some (i, j) =>
      if i = j then if t.text.size ≤ i then [] else matchesIn m t fuel (i + 1)
      else t.slice i j :: matchesIn m t fuel j

/-- What is shown of the lines of one text. -/
structure Shown where
  names : Bool
  numbers : Bool
  onlyMatches : Bool
  inverted : Bool
  limit : Option Nat
  before : Nat
  behind : Nat

/-- Lines with their numbers and whether they were found, cut off behind the last one allowed. -/
def found (m : Manner) (s : Shown) (lines : List Octets) : List (Nat × Octets × Bool) :=
  let marked := (lines.zipIdx 1).map fun (l, n) => (n, l, matchesLine m l != s.inverted)
  match s.limit with
  | none => marked
  | some limit =>
    (marked.foldl (fun ((count, done) : Nat × List (Nat × Octets × Bool)) (n, l, isFound) =>
      if count ≥ limit then (count, (n, l, false) :: done)
      else (if isFound then count + 1 else count, (n, l, isFound) :: done)) (0, [])).2.reverse

/-- The lines to show, with those around them. -/
def withContext (s : Shown) (marked : List (Nat × Octets × Bool)) : List (Nat × Octets × Bool) :=
  let hits := (marked.filter fun (_, _, isFound) => isFound).map Prod.fst
  marked.filter fun (n, _, isFound) =>
    isFound || hits.any fun h => (n < h && h ≤ n + s.before) || (h < n && n ≤ h + s.behind)

/-- The text behind an opening brace gives bounds of a repetition. -/
def isBounds (cs : Octets) : Bool :=
  let least := cs.takeWhile Char.isDigit
  let ends (cs : Octets) : Bool := cs.head? = some '\x7d'
  match cs.drop least.length with
  | ',' :: rest => ends (rest.dropWhile Char.isDigit)
  | rest => least ≠ [] && ends rest

/-- An extended expression in which braces stand for themselves unless they give bounds, without
repetitions of nothing; those are answered besides. -/
def settled (fuel : Nat) (before : Option Char) (cs : Octets) : Octets × Octets :=
  match fuel, cs with
  | 0, cs => (cs, [])
  | _, [] => ([], [])
  | _, ['\\'] => (['\\'], [])
  | fuel + 1, c :: rest =>
    let first := before = none || before = some '^'
    let after (isFirst : Bool) (kept : Octets) (rest : Octets) : Octets × Octets :=
      let (more, signs) :=
        settled fuel (if isFirst then if c = '^' then some c else none else some ' ') rest
      (kept ++ more, signs)
    match c with
    | '\\' => after false (c :: rest.take 1) (rest.drop 1)
    | '[' =>
      let marked := (rest.dropWhile (· = '^')).map fun d => (d, true)
      match Pattern.members? (marked.length + 1) true marked with
      | some (_, behind) =>
        after false (c :: rest.take (rest.length - behind.length)) (behind.map Prod.fst)
      | none => (c :: rest, [])
    | '\x7b' => after false (if isBounds rest then [c] else ['\\', c]) rest
    | _ =>
      if first && (c = '*' || c = '+' || c = '?') then
        let (more, signs) := settled fuel before rest
        (if before = some '^' then c :: more else more, c :: signs)
      else after (c = '(' || c = '|' || c = '^') [c] rest

/-- The wording of a fault of an expression that lines are searched for. -/
def faultMessage : Regular.Fault → String
  | .openSet => "Invalid regular expression"
  | fault => fault.message

end Search

open Search

/-- The lines of texts that match. -/
def grep (kind : String) : Utility := fun arguments =>
  withOptions kind
    { flags := "acEFGhHilLnoPqrRsUvwxyz", valued := "eABCfm", status := 2
      long := [("count", 'c'), ("ignore-case", 'i'), ("invert-match", 'v'), ("line-number", 'n'),
        ("quiet", 'q'), ("silent", 'q'), ("extended-regexp", 'E'), ("fixed-strings", 'F'),
        ("only-matching", 'o'), ("word-regexp", 'w'), ("line-regexp", 'x'), ("recursive", 'r'),
        ("files-with-matches", 'l'), ("regexp", 'e'), ("max-count", 'm'), ("no-filename", 'h'),
        ("with-filename", 'H'), ("no-messages", 's'), ("text", 'a')] }
    (arguments.map fun a =>
      match a with
      | '-' :: d :: cs => if d.isDigit then '-' :: 'C' :: d :: cs else a
      | a => a) fun o operands => do
      let given := (o.filter fun g => g.1 = 'e').map Prod.snd
      let mut written := given
      for path in (o.filter fun g => g.1 = 'f').map Prod.snd do
        match ← argumentContent path with
        | .ok content => written := written ++ linesOf content
        | .error fault => return ← failed "grep" 2 (path ++ octets ": " ++ faultText fault)
      let isGiven := !given.isEmpty || o.has 'f'
      let (texts, files) := if isGiven then (written, operands)
        else (operands.take 1, operands.drop 1)
      if !isGiven && operands.isEmpty then
        Running.report (octets "Usage: grep [OPTION]... PATTERNS [FILE]...")
        hint "grep"
        return 2
      let texts := texts.flatMap (Text.pieces '\n')
      let plain := o.has 'F' || kind = "fgrep"
      let extended := o.has 'E' || o.has 'P' || kind = "egrep"
      let mut reversed := []
      for cs in texts do
        if plain then reversed := Except.ok (Goal.text cs) :: reversed
        else
          let (cs, signs) := if extended then settled (cs.length + 1) none cs else (cs, [])
          for c in signs do
            complain "grep" (octets "warning: " ++ c :: octets " at start of expression")
          reversed := (Regular.ofText extended cs).map (fun r => Goal.regular r.1) :: reversed
      match reversed.reverse.mapM id with
      | .error fault => failed "grep" 2 (octets (faultMessage fault))
      | .ok goals =>
        let m : Manner := ⟨goals, o.has 'i' || o.has 'y', o.has 'w', o.has 'x'⟩
        let number (letter : Char) := (o.value? letter).bind natural?
        let around := (number 'C').getD 0
        let deep := o.has 'r' || o.has 'R'
        let s : Shown :=
          { names := o.has 'H' || (!o.has 'h' && (files.length > 1 || deep))
            numbers := o.has 'n', onlyMatches := o.has 'o', inverted := o.has 'v'
            limit := number 'm', before := (number 'B').getD around
            behind := (number 'A').getD around }
        let σ ← get
        let files := if files.isEmpty then if deep then [['.']] else [['-']] else files
        let files := if deep then files.flatMap (below σ 50) else files
        let mut any := false
        let mut status := 1
        let mut blocks := false
        for a in files do
          match ← argumentContent a with
          | .error fault =>
            if !o.has 's' then complain "grep" (a ++ octets ": " ++ faultText fault)
            status := 2
          | .ok content =>
            let name := if a = ['-'] then octets "(standard input)" else a
            let start := if s.names then name else []
            let marked := found m s (linesOf content)
            let hits := marked.filter fun (_, _, isFound) => isFound
            if !hits.isEmpty then any := true
            if o.has 'q' then
              if any then return 0
            else if o.has 'l' then
              if !hits.isEmpty then Running.emit (name ++ ['\n'])
            else if o.has 'L' then
              if hits.isEmpty then Running.emit (name ++ ['\n'])
            else if o.has 'c' then
              let front := if s.names then start ++ [':'] else []
              Running.emit (front ++ decimal hits.length ++ ['\n'])
            else if content.contains '\x00' && !o.has 'a' then
              if !hits.isEmpty then
                Running.emit (octets "grep: " ++ name ++ octets ": binary file matches\n")
            else
              let line (n : Nat) (sign : Char) (l : Octets) : Octets :=
                (if s.names then start ++ [sign] else []) ++
                  (if s.numbers then decimal n ++ [sign] else []) ++ l ++ ['\n']
              if s.onlyMatches then
                if !s.inverted then
                  Running.emit (hits.flatMap fun (n, l, _) =>
                    let t : Regular.Subject := { text := l.toArray, ignoreCase := m.ignoreCase }
                    (matchesIn m t (l.length + 2) 0).flatMap (line n ':'))
              else
                let shown := withContext s marked
                let separated := s.before + s.behind > 0
                let (_, out) := shown.foldl
                  (fun ((last, out) : Option Nat × List Octets) (n, l, isFound) =>
                    let apart := separated && match last with
                      | some k => k + 1 < n
                      | none => blocks
                    (some n, line n (if isFound then ':' else '-') l ::
                      (if apart then octets "--\n" :: out else out))) (none, [])
                if !shown.isEmpty then blocks := true
                Running.emit (out.reverse.flatMap id)
        return if status = 2 then 2 else if any then 0 else 1
where
  /-- The files at a path and below it. -/
  below (σ : State) : Nat → Octets → List Octets
    | 0, path => [path]
    | fuel + 1, path =>
      if isFolder σ path then
        (sorted (namesIn σ path)).flatMap fun n => below σ fuel
          (if path.getLast? = some '/' then path ++ n else path ++ '/' :: n)
      else [path]

/-! ## Values of expressions -/

namespace Expression

/-- Operators that join two values, those that bind loosest first. -/
def levels : List (List String) :=
  [["|"], ["&"], ["<", "<=", "=", "==", "!=", ">=", ">"], ["+", "-"], ["*", "/", "%"], [":"]]

abbrev Reader := StateT (List Octets) Running

def fail {α : Type} (text : Octets) : Reader α := do
  complain "expr" text
  throw (.fault 2)

def truth (b : Bool) : Octets :=
  if b then ['1'] else ['0']

def isNothing (a : Octets) : Bool :=
  a = [] || Formula.number? a = some 0

/-- What an expression finds at the front of a text: its first group, or how many characters. -/
def matched (a pattern : Octets) : Reader Octets := do
  match Regular.ofText false pattern with
  | .error fault => fail (octets fault.message)
  | .ok (r, groups) =>
    let t : Regular.Subject := { text := a.toArray, ignoreCase := false }
    match Regular.matchAt? t r 0 with
    | some s => return if 0 < groups then Regular.groupText t 0 s 1 else decimal s.place
    | none => return if 0 < groups then [] else ['0']

def number (a : Octets) : Reader Int := do
  match if a.head?.any (fun c => c = ' ' || c = '+') then none else Formula.number? a with
  | some _ =>
    let (negative, ds) := match a with
      | '-' :: ds => (true, ds)
      | ds => (false, ds)
    if ds = [] || !ds.all Char.isDigit then fail (octets "non-integer argument")
    let n : Int := Formula.valueOf 10 ds
    return if negative then -n else n
  | none => fail (octets "non-integer argument")

def isNumber (a : Octets) : Bool :=
  let ds := if a.head? = some '-' then a.drop 1 else a
  ds ≠ [] && ds.all Char.isDigit

def value (a : Octets) : Int :=
  match a with
  | '-' :: ds => -(Formula.valueOf 10 ds : Int)
  | ds => Formula.valueOf 10 ds

def join (operator : String) (a b : Octets) : Reader Octets := do
  match operator with
  | "|" => return if !isNothing a then a else if !isNothing b then b else ['0']
  | "&" => return if isNothing a || isNothing b then ['0'] else a
  | ":" => matched a b
  | "+" => return decimalInt ((← number a) + (← number b))
  | "-" => return decimalInt ((← number a) - (← number b))
  | "*" => return decimalInt ((← number a) * (← number b))
  | "/" | "%" =>
    let x ← number a
    let y ← number b
    if y = 0 then fail (octets "division by zero")
    return decimalInt (if operator = "/" then Int.tdiv x y else Int.tmod x y)
  | _ =>
    let o : Ordering :=
      if isNumber a && isNumber b then compare (value a) (value b)
      else if a < b then .lt else if b < a then .gt else .eq
    return truth (match operator with
      | "<" => o == .lt
      | "<=" => o != .gt
      | "=" | "==" => o == .eq
      | "!=" => o != .eq
      | ">=" => o != .lt
      | _ => o == .gt)

def next : Reader Octets := do
  match ← get with
  | a :: rest => do
    set rest
    return a
  | [] => fail (octets "syntax error: missing argument after ''")

mutual

def operation (fuel : Nat) (levels : List (List String)) : Reader Octets :=
  match fuel with
  | 0 => fail (octets "syntax error")
  | fuel + 1 => do
    match levels with
    | [] => primary fuel
    | level :: tighter => operations fuel level tighter (← operation fuel tighter)

def operations (fuel : Nat) (level : List String) (tighter : List (List String)) (a : Octets) :
    Reader Octets :=
  match fuel with
  | 0 => return a
  | fuel + 1 => do
    match ← get with
    | sign :: rest =>
      let s := String.ofList sign
      if level.contains s then
        if rest.isEmpty then fail (octets "syntax error: missing argument after " ++ quoted sign)
        set rest
        operations fuel level tighter (← join s a (← operation fuel tighter))
      else return a
    | [] => return a

def primary (fuel : Nat) : Reader Octets :=
  match fuel with
  | 0 => fail (octets "syntax error")
  | fuel + 1 => do
    let a ← next
    match String.ofList a with
    | "(" =>
      let v ← operation fuel levels
      match ← get with
      | [')'] :: rest => do
        set rest
        return v
      | found :: _ => fail (octets "syntax error: expecting ')' instead of " ++ quoted found)
      | [] => fail (octets "syntax error: expecting ')' after " ++ quoted v)
    | ")" => fail (octets "syntax error: unexpected ')'")
    | "length" => return decimal (← primary fuel).length
    | "match" =>
      let text ← primary fuel
      matched text (← primary fuel)
    | "index" =>
      let text ← primary fuel
      let chars ← primary fuel
      return decimal ((text.findIdx? fun c => chars.contains c).elim 0 (· + 1))
    | "substr" =>
      let text ← primary fuel
      let first ← primary fuel
      let size ← primary fuel
      match natural? first, natural? size with
      | some (n + 1), some k => return (text.drop n).take k
      | _, _ => return []
    | "+" => next
    | _ => return a

end

end Expression

def expr : Utility := fun arguments => do
  let arguments := match arguments with
    | ['-', '-'] :: rest => rest
    | more => more
  if arguments.isEmpty then noOperand else
    try
      let (v, left) ← (Expression.operation (16 * arguments.length + 32) Expression.levels).run
        arguments
      match left with
      | [] => do
        Running.emit (v ++ ['\n'])
        return if Expression.isNothing v then 1 else 0
      | a :: _ => failed "expr" 2 (octets "syntax error: unexpected argument " ++ quoted a)
    catch
      | .fault n => return n
      | stop => throw stop
where
  noOperand : Running Nat := do
    let _ ← missingOperand "expr"
    return 2

end MailMerge.Script.Utility
