import MailMerge.Script.Utility.Lines

/-!
# Characters

Utilities that replace characters, leave them out or break lines at them.
-/

namespace MailMerge.Script.Utility

open Lines

/-- A character of a set that is written out, where backslashes escape. -/
def setChar : Octets → Option (Char × Octets)
  | [] => none
  | '\\' :: c :: rest =>
    let digits := ((c :: rest).take 3).takeWhile fun d => '0' ≤ d && d ≤ '7'
    if digits ≠ [] then
      some (Char.ofNat (Formula.valueOf 8 digits % 256), (c :: rest).drop digits.length)
    else
      let e := match c with
        | 'n' => '\n'
        | 't' => '\t'
        | 'r' => '\r'
        | 'a' => '\x07'
        | 'b' => '\x08'
        | 'f' => '\x0c'
        | 'v' => '\x0b'
        | c => c
      some (e, rest)
  | c :: rest => some (c, rest)

def allChars : Octets :=
  (List.range 256).map Char.ofNat

/-- What a set is written from: characters, ranges, classes and repetitions. -/
inductive SetPart where
  | chars (cs : Octets)
  | named (name : String)
  /-- A character so many times; as often as it takes if there is no number. -/
  | filled (c : Char) (count : Nat)

def setParts : Nat → Octets → List SetPart
  | 0, _ => []
  | fuel + 1, cs =>
    match cs with
    | [] => []
    | '[' :: ':' :: rest =>
      let name := rest.takeWhile Char.isAlpha
      match rest.drop name.length with
      | ':' :: ']' :: rest => .named (String.ofList name) :: setParts fuel rest
      | _ => .chars ['['] :: setParts fuel (':' :: rest)
    | _ =>
      match setChar (if cs.head? = some '[' then cs.drop 1 else []) with
      | some (c, '*' :: rest) =>
        let digits := rest.takeWhile Char.isDigit
        match rest.drop digits.length with
        | ']' :: rest =>
          let base := if digits.head? = some '0' then 8 else 10
          .filled c (Formula.valueOf base digits) :: setParts fuel rest
        | _ => plain fuel cs
      | _ => plain fuel cs
where
  plain (fuel : Nat) (cs : Octets) : List SetPart :=
    match setChar cs with
    | none => []
    | some (c, '-' :: rest) =>
      match setChar rest with
      | some (d, behind) =>
        .chars ((List.range (d.toNat + 1 - c.toNat)).map fun i => Char.ofNat (c.toNat + i)) ::
          setParts fuel behind
      | none => .chars [c, '-'] :: setParts fuel rest
    | some (c, rest) => .chars [c] :: setParts fuel rest

/-- The characters of a set; repetitions without a number make it as long as asked. -/
def setOf (length : Nat) (cs : Octets) : Octets :=
  let parts := setParts (2 * cs.length + 2) cs
  let fixed := parts.foldl (fun n p =>
    match p with
    | .chars cs => n + cs.length
    | .named name => n + (allChars.filter fun c => Pattern.isOfClass c name).length
    | .filled _ count => n + count) 0
  parts.flatMap fun
    | .chars cs => cs
    | .named name => allChars.filter fun c => Pattern.isOfClass c name
    | .filled c 0 => List.replicate (length - fixed) c
    | .filled c count => List.replicate count c

/-- Leaves out characters of a set behind the same character. -/
def squeeze (set : Octets) : Option Char → Octets → Octets
  | _, [] => []
  | before, c :: rest =>
    if before = some c && set.contains c then squeeze set before rest
    else c :: squeeze set (some c) rest

def tr : Utility := fun arguments =>
  withOptions "tr"
    { flags := "cCdst", valued := "", early := true
      long := [("delete", 'd'), ("squeeze-repeats", 's'), ("complement", 'c'),
        ("truncate-set1", 't')] } arguments fun o sets => do
      let help : Running Nat := do
        hint "tr"
        return 1
      match sets with
      | [] => do
        complain "tr" (octets "missing operand")
        help
      | first :: rest =>
        let inverted := o.has 'c' || o.has 'C'
        let written := setOf 0 first
        let set1 := if inverted then allChars.filter fun c => !written.contains c else written
        let content ← Running.input
        match rest with
        | [] =>
          if o.has 'd' then
            Running.emit (content.filter fun c => !set1.contains c)
            return 0
          else if o.has 's' then
            Running.emit (squeeze set1 none content)
            return 0
          else do
            complain "tr" (octets "missing operand after " ++ quoted first)
            Running.report (octets "Two strings must be given when translating.")
            help
        | second :: _ =>
          let set2 := setOf set1.length second
          if o.has 'd' then
            let kept := content.filter fun c => !set1.contains c
            Running.emit (if o.has 's' then squeeze set2 none kept else kept)
            return 0
          else if set2 = [] then
            failed "tr" 1 (octets "when not truncating set1, string2 must be non-empty")
          else
            let last := set2.getLast?.getD ' '
            let size := if o.has 't' then min set1.length set2.length else set1.length
            let pairs := ((set1.zipIdx).take size).map fun (c, i) => (c, (set2[i]?).getD last)
            let table := allChars.map fun c =>
              ((pairs.reverse.find? fun p => p.1 = c).elim c Prod.snd)
            let array := table.toArray
            let changed := content.map fun c => (array[c.toNat]?).getD c
            Running.emit (if o.has 's' then squeeze set2 none changed else changed)
            return 0

/-- Breaks lines at a width. -/
def fold : Utility := fun arguments =>
  withOptions "fold"
    { flags := "sb", valued := "w", long := [("width", 'w'), ("spaces", 's')] }
    (arguments.map fun a =>
      match a with
      | '-' :: d :: cs => if d.isDigit then '-' :: 'w' :: d :: cs else a
      | a => a) fun o files => do
      let width := ((o.value? 'w').bind natural?).getD 80
      forInputs "fold" files fun _ content =>
        Running.emit ((whole content).flatMap fun l => broken (o.has 's') width (l.length + 1) l)
where
  broken (atBlanks : Bool) (width : Nat) : Nat → Octets → Octets
    | 0, cs => cs
    | fuel + 1, cs =>
      let line := cs.takeWhile (· ≠ '\n')
      if line.length ≤ width || width = 0 then cs
      else
        let front := line.take width
        let cut := match Text.cutLast ' ' front with
          | some (before, _) => if atBlanks then before.length + 1 else width
          | none => width
        cs.take cut ++ '\n' :: broken atBlanks width fuel (cs.drop cut)

/-- Puts blanks in place of tabs. -/
def expand : Utility := fun arguments =>
  withOptions "expand" { flags := "i", valued := "t", long := [("tabs", 't')] } arguments
    fun o files => do
      let size := ((o.value? 't').bind natural?).getD 8
      forInputs "expand" files fun _ content =>
        Running.emit ((content.foldl (fun ((column, out) : Nat × Octets) c =>
          if c = '\n' then (0, c :: out)
          else if c = '\t' then
            let n := size - column % size
            (column + n, List.replicate n ' ' ++ out)
          else (column + 1, c :: out)) (0, [])).2.reverse)

end MailMerge.Script.Utility
