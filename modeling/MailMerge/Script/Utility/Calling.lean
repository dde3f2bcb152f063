import MailMerge.Script.Utility.Folders
import MailMerge.Script.Utility.Surroundings

/-!
# Utilities that call other programs

A call comes with other variables, another input or less time, or there is one for each of many
arguments or files. What calls a program is given.
-/

namespace MailMerge.Script.Utility

/-- What calls programs: `obstacle?` tells why a name cannot be called, with the status for
that. -/
structure Caller where
  obstacle? : Octets → Running (Option (Nat × String))
  call : List Octets → Running Nat

namespace Caller

/-- Calls a program under the name of a utility; `before` stands between the two in a report. -/
def callFor (c : Caller) (utility : String) (before : Octets → Octets) (arguments : List Octets) :
    Running Nat := do
  match arguments with
  | [] => return 0
  | program :: _ =>
    match ← c.obstacle? program with
    | some (status, text) => failed utility status (before program ++ octets (": " ++ text))
    | none => c.call arguments

/-- Acts with an input that has nothing in it. -/
def withoutInput (act : Running Nat) : Running Nat := do
  let before := (← get).channels
  modify fun σ =>
    let (number, σ) := σ.withOpened ⟨.nowhere, 0, [], false, true, false⟩
    σ.setChannel 0 number
  let status ← act
  modify fun σ => { σ with channels := before }
  return status

end Caller

/-! ## Calls in other surroundings -/

/-- What precedes a call by `env`. -/
structure Surroundings where
  changes : List (Octets × Option Octets)
  isEmpty : Bool
  arguments : List Octets

def surroundings (s : Surroundings) : List Octets → Except OptionFault Surroundings
  | ['-', '-'] :: rest => .ok (assignments s rest)
  | ['-'] :: rest | ['-', 'i'] :: rest => surroundings { s with isEmpty := true } rest
  | ['-', 'u'] :: name :: rest =>
    surroundings { s with changes := s.changes ++ [(name, none)] } rest
  | ['-', 'u'] :: [] => .error (.valueMissing 'u')
  | ('-' :: 'u' :: name) :: rest =>
    surroundings { s with changes := s.changes ++ [(name, none)] } rest
  | ('-' :: '-' :: cs) :: rest =>
    if cs = octets "ignore-environment" then surroundings { s with isEmpty := true } rest
    else
      match Text.after? (octets "unset=") cs with
      | some name => surroundings { s with changes := s.changes ++ [(name, none)] } rest
      | none => .error (.unknownName cs)
  | ('-' :: c :: _) :: _ => .error (.unknown c)
  | rest => .ok (assignments s rest)
where
  assignments (s : Surroundings) : List Octets → Surroundings
    | a :: rest =>
      match Text.cutFirst '=' a with
      | some (name, value) =>
        assignments { s with changes := s.changes ++ [(name, some value)] } rest
      | none => { s with arguments := a :: rest }
    | [] => s

def env (c : Caller) : Utility := fun arguments => do
  match surroundings ⟨[], false, []⟩ arguments with
  | .error fault =>
    complain "env" (match fault with
      | .unknown l => octets "invalid option -- '" ++ [l, '\'']
      | .unknownName cs => octets "unrecognized option '--" ++ cs ++ ['\'']
      | .valueMissing l => octets "option requires an argument -- '" ++ [l, '\''])
    hint "env"
    return 125
  | .ok s =>
    let before := (← get).bindings
    modify fun σ =>
      let kept := if s.isEmpty then [] else σ.bindings.filter fun v => v.2.exported
      s.changes.foldl (fun σ (name, value) =>
        match value with
        | some value => σ.setVariable name ⟨some value, true, false⟩
        | none => σ.dropVariable name) { σ with bindings := kept }
    let status ← if s.arguments.isEmpty then printenv [] else c.callFor "env" quoted s.arguments
    modify fun σ => { σ with bindings := before }
    return status

/-- Calls a program as it is, behind options that make no difference here. -/
def calledAs (utility : String) (o : Options) (before : Octets → Octets)
    (none : Running Nat) (c : Caller) : Utility := fun arguments =>
  withOptions utility { o with early := true } arguments fun _ rest =>
    if rest.isEmpty then none else c.callFor utility before rest

def nice (c : Caller) : Utility :=
  calledAs "nice" { flags := "", valued := "n", status := 125, long := [("adjustment", 'n')] }
    quoted (line "0" []) c

def nohup (c : Caller) : Utility :=
  calledAs "nohup" { flags := "", valued := "", status := 125 }
    (fun p => octets "failed to run command " ++ quoted p)
    (do let _ ← missingOperand "nohup"; return 125) c

def setsid (c : Caller) : Utility :=
  calledAs "setsid" { flags := "cfw", valued := "" } (fun p => octets "failed to execute " ++ p)
    (do
      complain "setsid" (octets "no command specified")
      hint "setsid"
      return 1) c

/-- Acts with an end set to its time; the answer is none if it has not come to an end by then. -/
def endedBy (time : Nat) (act : Running Nat) : Running (Option Nat) := do
  let σ ← get
  let outer := σ.world.deadline
  let limit := σ.world.clock + time
  if time = 0 || outer.any (· ≤ limit) then return some (← act)
  set { σ with world := { σ.world with deadline := some limit } }
  let restore (clock : Option Nat) : Running Unit :=
    modify fun σ =>
      { σ with world := { σ.world with
        deadline := outer, clock := clock.getD σ.world.clock, budget := max σ.world.budget 1000 } }
  try
    let status ← act
    restore .none
    return some status
  catch
    | .late | .endless => do
      modify fun later => { later with channels := σ.channels, bindings := σ.bindings }
      restore (some limit)
      return .none
    | stop => throw stop

def timeout (c : Caller) : Utility := fun arguments =>
  withOptions "timeout"
    { flags := "fv", valued := "ks", status := 125, early := true
      long := [("signal", 's'), ("kill-after", 'k'), ("preserve-status", 'p')] } arguments
    fun o rest => do
      match rest with
      | time :: program :: more =>
        match interval? time with
        | some thousandths =>
          let act := c.callFor "timeout" (fun p => octets "failed to run command " ++ quoted p)
            (program :: more)
          match ← endedBy thousandths act with
          | some status => return status
          | none =>
            let isKill := (o.value? 's').any fun s =>
              s = octets "KILL" || s = octets "9" || s = octets "SIGKILL"
            return if isKill then 137 else if o.has 'p' then 143 else 124
        | none =>
          complain "timeout" (octets "invalid time interval " ++ quoted time)
          hint "timeout"
          return 125
      | _ =>
        hint "timeout"
        return 125

/-! ## One call for many arguments -/

/-- How arguments are read. -/
inductive Splitting where
  /-- Blanks separate, quotation marks and backslashes keep together. -/
  | words
  /-- Each line is one argument. -/
  | lines
  | delimited (c : Char)
  deriving DecidableEq, Repr

/-- What has been read of the arguments: those of the line, the one that has begun, and what
stands before them, last first. -/
structure Gathering where
  lines : List (List Octets)
  line : List Octets
  current : Option Octets

def Gathering.closeWord (g : Gathering) : Gathering :=
  match g.current with
  | some w => { g with line := w.reverse :: g.line, current := none }
  | none => g

def Gathering.closeLine (g : Gathering) : Gathering :=
  let g := g.closeWord
  if g.line.isEmpty then g else { g with lines := g.line.reverse :: g.lines, line := [] }

def Gathering.add (g : Gathering) (cs : Octets) : Gathering :=
  { g with current := some (cs.reverse ++ g.current.getD []) }

/-- Reads arguments with quotation marks; the fault is a mark that is not closed. -/
def gather (whole : Bool) : Nat → Octets → Gathering → Except Char Gathering
  | 0, _, g => .ok g.closeLine
  | _, [], g => .ok g.closeLine
  | fuel + 1, c :: rest, g =>
    if c = '\n' then gather whole fuel rest g.closeLine
    else if c = ' ' || c = '\t' then
      if whole && g.current.isSome then gather whole fuel rest (g.add [c])
      else gather whole fuel rest g.closeWord
    else if c = '\'' || c = '"' then
      let inner := rest.takeWhile fun d => d ≠ c && d ≠ '\n'
      match rest.drop inner.length with
      | d :: behind => if d = c then gather whole fuel behind (g.add inner) else .error c
      | [] => .error c
    else if c = '\\' then
      match rest with
      | d :: rest => gather whole fuel rest (g.add [d])
      | [] => .ok (g.add ['\\']).closeLine
    else gather whole fuel rest (g.add [c])

/-- The arguments of each line of a text. -/
def gathered (s : Splitting) (cs : Octets) : Except Char (List (List Octets)) :=
  match s with
  | .delimited c =>
    let pieces := Text.pieces c cs
    .ok ((if pieces.getLast? = some [] then pieces.dropLast else pieces).map fun p => [p])
  | s => (gather (s = .lines) (cs.length + 1) cs ⟨[], [], none⟩).map fun g => g.lines.reverse

/-- A text with another one in all places of a mark. -/
def withReplaced (mark text : Octets) : Nat → Octets → Octets
  | 0, cs => cs
  | _, [] => []
  | fuel + 1, c :: rest =>
    match if mark = [] then none else Text.after? mark (c :: rest) with
    | some behind => text ++ withReplaced mark text fuel behind
    | none => c :: withReplaced mark text fuel rest

/-- Items in groups of so many. -/
def grouped {α : Type} (count : Nat) : Nat → List α → List (List α)
  | 0, _ => []
  | fuel + 1, items =>
    if items.isEmpty then [] else items.take count :: grouped count fuel (items.drop count)

def xargs (c : Caller) : Utility := fun arguments =>
  withOptions "xargs"
    { flags := "0rtpxo", valued := "adEInLPs", early := true
      long := [("null", '0'), ("no-run-if-empty", 'r'), ("max-args", 'n'), ("max-lines", 'L'),
        ("replace", 'I'), ("delimiter", 'd'), ("verbose", 't'), ("arg-file", 'a'),
        ("max-procs", 'P')] } arguments fun o rest => do
      let content ←
        match o.value? 'a' with
        | some path =>
          match ← contentOf path with
          | .ok content => pure (Except.ok content)
          | .error fault => pure (.error (octets "Cannot open input file " ++ quoted path ++
              octets ": " ++ faultText fault))
        | none => do pure (.ok (← Running.input))
      let splitting : Splitting :=
        if o.has '0' then .delimited '\x00'
        else match o.value? 'd' with
          | some cs => .delimited ((Printing.unescaped cs).1.headD '\x00')
          | none => if o.has 'I' then .lines else .words
      let command := if rest.isEmpty then [octets "echo"] else rest
      match content.map (gathered splitting) with
      | .error text => failed "xargs" 1 text
      | .ok (.error c) =>
        let kind := if c = '\'' then "single" else "double"
        failed "xargs" 1 (octets (s!"unmatched {kind} quote; by default quotes are special to " ++
          "xargs unless you use the -0 option"))
      | .ok (.ok lines) =>
        let natural (letter : Char) := (o.value? letter).bind natural?
        let items := lines.flatMap id
        let calls : List (List Octets) :=
          match o.value? 'I', natural 'L', natural 'n' with
          | some mark, _, _ =>
            items.map fun item => command.map fun a => withReplaced mark item (a.length + 1) a
          | none, some n, _ =>
            (grouped (max n 1) (lines.length + 1) lines).map fun g => command ++ g.flatMap id
          | none, none, some n =>
            (grouped (max n 1) (items.length + 1) items).map (command ++ ·)
          | none, none, none => if items.isEmpty then [] else [command ++ items]
        let calls := if calls.isEmpty && !o.has 'I' && !o.has 'r' then [command] else calls
        runAll o calls 0
where
  runAll (o : Given) : List (List Octets) → Nat → Running Nat
    | [], status => return status
    | call :: rest, status => do
      if o.has 't' then Running.report (Text.join [' '] call)
      let found ← Caller.withoutInput (c.callFor "xargs" id call)
      if found = 126 || found = 127 then return found
      else if found = 255 then
        failed "xargs" 124 (call.headD [] ++ octets ": exited with status 255; aborting")
      else runAll o rest (if found = 0 then status else 123)

/-! ## Finding files -/

/-- What is asked of a file, and what is done with it. -/
inductive Query where
  | always (value : Bool)
  | name (ignoreCase : Bool) (parts : List Pattern.Part)
  | path (ignoreCase : Bool) (parts : List Pattern.Part)
  | kind (letters : List Octets)
  | isEmpty
  | isProgram
  /-- The size in units, compared with a number. -/
  | size (unit : Nat) (order : Ordering) (count : Nat)
  | print (ending : Octets)
  | layout (format : Octets)
  | delete
  | call (words : List Octets)
  /-- The files are collected under this number, for one call. -/
  | collect (words : List Octets) (number : Nat)
  | prune
  | quit
  | not (q : Query)
  | and (p q : Query)
  | or (p q : Query)

/-- How files are found: between which depths, and whether a folder comes behind what is in it. -/
structure Finding where
  least : Nat := 0
  most : Nat := 1000
  deepFirst : Bool := false
  /-- Something is done with the files besides asking. -/
  acts : Bool := false
  collections : Nat := 0

/-- Reading a query takes arguments from the front. -/
abbrev QueryReader := StateT (List Octets × Finding) (Except Octets)

namespace QueryReader

def front : QueryReader (Option Octets) := do
  return (← get).1.head?

def skip : QueryReader Unit :=
  modify fun (rest, f) => (rest.tail, f)

def setting (act : Finding → Finding) : QueryReader Unit :=
  modify fun (rest, f) => (rest, act f)

def fail {α : Type} (text : Octets) : QueryReader α :=
  throw text

/-- The argument that a question takes. -/
def value (question : Octets) : QueryReader Octets := do
  match ← front with
  | some v =>
    skip
    return v
  | none => fail (octets "missing argument to \x60" ++ question ++ ['\''])

def depthValue (question : Octets) : QueryReader Nat := do
  let v ← value question
  match natural? v with
  | some n => return n
  | none =>
    fail (octets "Expected a positive decimal integer argument to " ++ question ++
      octets ", but got " ++ quoted v)

/-- The words of a call, up to a semicolon or a plus sign behind the mark for files; the answer
tells whether there is one call for many files. -/
def words (question : Octets) : Nat → List Octets → QueryReader (List Octets × Bool)
  | 0, _ => fail []
  | fuel + 1, reversed => do
    match ← front with
    | none => fail (octets "missing argument to \x60" ++ question ++ ['\''])
    | some w =>
      skip
      if w = [';'] then return (reversed.reverse, false)
      else if w = ['+'] && reversed.head? = some (octets "\x7b\x7d") then
        return (reversed.tail.reverse, true)
      else words question fuel (w :: reversed)

def sizeQuery (v : Octets) : QueryReader Query := do
  let (order, digits) := match v with
    | '+' :: rest => (Ordering.gt, rest)
    | '-' :: rest => (Ordering.lt, rest)
    | rest => (Ordering.eq, rest)
  let count := digits.takeWhile Char.isDigit
  let unit := match digits.drop count.length with
    | ['c'] => some 1
    | ['w'] => some 2
    | ['k'] => some 1024
    | ['M'] => some 1048576
    | ['G'] => some 1073741824
    | [] | ['b'] => some 512
    | _ => none
  match natural? count, unit with
  | some n, some unit => return .size unit order n
  | _, _ => fail (octets "invalid argument \x60" ++ v ++ octets "' to \x60-size'")

/-- Marks that something is done with files. -/
def acting (q : Query) : QueryReader Query := do
  setting fun f => { f with acts := true }
  return q

def collecting (ws : List Octets) : QueryReader Query := do
  let (_, f) ← get
  setting fun f => { f with acts := true, collections := f.collections + 1 }
  return .collect ws f.collections

def kinds (v : Octets) : QueryReader Query := do
  let letters := Text.pieces ',' v
  match letters.find? fun l => !(["f", "d", "l", "p", "s", "b", "c"].any fun k => octets k = l) with
  | some l => fail (octets "Unknown argument to -type: " ++ l)
  | none => return .kind letters

/-- One question or act, whose word has been taken. -/
def single (question : Octets) (fuel : Nat) : QueryReader Query := do
  match String.ofList question with
  | "-true" => return .always true
  | "-false" => return .always false
  | "-name" => return .name false (Pattern.ofText (← value question))
  | "-iname" => return .name true (Pattern.ofText ((← value question).map Char.toLower))
  | "-path" | "-wholename" => return .path false (Pattern.ofText (← value question))
  | "-ipath" | "-iwholename" =>
    return .path true (Pattern.ofText ((← value question).map Char.toLower))
  | "-type" | "-xtype" => kinds (← value question)
  | "-empty" => return .isEmpty
  | "-executable" => return .isProgram
  | "-readable" | "-writable" => return .always true
  | "-size" => sizeQuery (← value question)
  | "-print" => acting (.print ['\n'])
  | "-print0" => acting (.print ['\x00'])
  | "-printf" => acting (.layout (← value question))
  | "-delete" => do
    setting fun f => { f with deepFirst := true }
    acting .delete
  | "-exec" | "-execdir" => do
    let (ws, together) ← words question fuel []
    if together then collecting ws else acting (.call ws)
  | "-prune" => return .prune
  | "-quit" => return .quit
  | "-depth" | "-d" => do
    setting fun f => { f with deepFirst := true }
    return .always true
  | "-maxdepth" => do
    let n ← depthValue question
    setting fun f => { f with most := n }
    return .always true
  | "-mindepth" => do
    let n ← depthValue question
    setting fun f => { f with least := n }
    return .always true
  | "-mount" | "-xdev" | "-noleaf" | "-nowarn" | "-warn" | "-follow" => return .always true
  | _ =>
    if question.head? = some '-' then
      fail (octets "unknown predicate \x60" ++ question ++ ['\''])
    else fail (octets "paths must precede expression: \x60" ++ question ++ ['\''])

mutual

def disjunction (fuel : Nat) : QueryReader Query :=
  match fuel with
  | 0 => fail []
  | fuel + 1 => do
    let p ← conjunction fuel
    match (← front).map String.ofList with
    | some "-o" | some "-or" =>
      skip
      return .or p (← disjunction fuel)
    | _ => return p

def conjunction (fuel : Nat) : QueryReader Query :=
  match fuel with
  | 0 => fail []
  | fuel + 1 => do
    let p ← primary fuel
    match (← front).map String.ofList with
    | some "-a" | some "-and" =>
      skip
      return .and p (← conjunction fuel)
    | none | some "-o" | some "-or" | some ")" => return p
    | some _ => return .and p (← conjunction fuel)

def primary (fuel : Nat) : QueryReader Query :=
  match fuel with
  | 0 => fail []
  | fuel + 1 => do
    match ← front with
    | none => fail (octets "invalid expression")
    | some w =>
      skip
      if w = ['!'] || w = octets "-not" then return .not (← primary fuel)
      else if w = ['('] then
        if (← front).isNone then
          fail (octets ("invalid expression; expected to find a ')' but didn't see one. " ++
            "Perhaps you need an extra predicate after '('"))
        let q ← disjunction fuel
        if (← front) = some [')'] then
          skip
          return q
        else
          fail (octets ("invalid expression; I was expecting to find a ')' somewhere " ++
            "but did not see one."))
      else single w (fuel + 1)

end

end QueryReader

/-- A file that was found: its path, the start it was found from, and how deep below it. -/
structure Visited where
  path : Octets
  depth : Nat
  kind : Kind

/-- What has been collected for calls, whether the folder is to be left out, whether all is at an
end, and the status. -/
structure Search where
  collected : List (Nat × Octets)
  pruned : Bool
  ended : Bool
  status : Nat

abbrev Searcher := StateT Search Running

/-- A text with the letters behind percent signs replaced by what is known of a file. -/
def laidOut (v : Visited) (size : Nat) : Octets → Octets
  | '%' :: c :: rest =>
    (match c with
    | 'p' => v.path
    | 'f' => Folders.baseOf v.path
    | 'h' => Folders.folderOf v.path
    | 's' => decimal size
    | 'd' => decimal v.depth
    | 'y' => if v.kind = .folder then ['d'] else ['f']
    | '%' => ['%']
    | c => ['%', c]) ++ laidOut v size rest
  | c :: rest => c :: laidOut v size rest
  | [] => []

def sizeAt (path : Octets) : Running Nat := do
  let σ ← get
  return ((σ.files.read σ.working (pathOf path)).toOption.map List.length).getD 4096

/-- Answers a query for a file, and does with the file what it asks. -/
def Query.ask (c : Caller) (v : Visited) : Query → Searcher Bool
  | .always value => return value
  | .name ignoreCase parts =>
    let name := Folders.baseOf v.path
    return Pattern.accepts parts (if ignoreCase then name.map Char.toLower else name)
  | .path ignoreCase parts =>
    return Pattern.accepts parts (if ignoreCase then v.path.map Char.toLower else v.path)
  | .kind letters => return letters.contains (if v.kind = .folder then ['d'] else ['f'])
  | .isEmpty => do
    if v.kind = .folder then return (namesIn (← getThe State) v.path).isEmpty
    else return (← sizeAt v.path) = 0
  | .isProgram => return v.kind ≠ .file
  | .size unit order count => do
    let units := ((← sizeAt v.path) + unit - 1) / unit
    return compare units count = order
  | .print ending => do
    Running.emit (v.path ++ ending)
    return true
  | .layout format => do
    Running.emit (laidOut v (← sizeAt v.path) (Printing.unescaped format).1)
    return true
  | .delete => do
    if v.path = ['.'] then return true
    let o : Given := [('f', []), ('d', [])]
    return (← Folders.removeAt o v.path) = 0
  | .call words => do
    let call := words.map fun w => withReplaced (octets "\x7b\x7d") v.path (w.length + 1) w
    return (← c.callFor "find" quoted call) = 0
  | .collect _ number => do
    modify fun s => { s with collected := (number, v.path) :: s.collected }
    return true
  | .prune => do
    modify fun s => { s with pruned := true }
    return true
  | .quit => do
    modify fun s => { s with ended := true }
    return true
  | .not q => return !(← q.ask c v)
  | .and p q => do
    if ← p.ask c v then q.ask c v else return false
  | .or p q => do
    if ← p.ask c v then return true else q.ask c v

/-- Visits what is at a path and below it. -/
def visit (c : Caller) (f : Finding) (q : Query) : Nat → Nat → Octets → Searcher Unit
  | 0, _, _ => return ()
  | fuel + 1, depth, path => do
    if (← get).ended then return ()
    match ← Folders.kindOf path with
    | none => return ()
    | some kind =>
      modify fun s => { s with pruned := false }
      let act : Searcher Unit := do
        if f.least ≤ depth && !(← get).ended then
          let _ ← q.ask c ⟨path, depth, kind⟩
      if !f.deepFirst then act
      let pruned := (← get).pruned && !f.deepFirst
      if kind = .folder && !pruned && depth < f.most then
        for name in namesIn (← getThe State) path do
          visit c f q fuel (depth + 1) (Folders.below path name)
      if f.deepFirst then act

/-- The calls for files that were collected. -/
def Query.collections : Query → List (Nat × List Octets)
  | .collect words number => [(number, words)]
  | .not q => q.collections
  | .and p q | .or p q => p.collections ++ q.collections
  | _ => []

def find (c : Caller) : Utility := fun arguments => do
  let arguments := arguments.dropWhile fun a => ["-H", "-L", "-P"].any fun o => octets o = a
  let isStart (a : Octets) := a.head? ≠ some '-' && a ≠ ['!'] && a ≠ ['('] && a ≠ [')']
  let starts := arguments.takeWhile isStart
  let rest := arguments.drop starts.length
  let starts := if starts.isEmpty then [['.']] else starts
  let reading : QueryReader Query := do
    if rest.isEmpty then return .always true
    let q ← QueryReader.disjunction (4 * rest.length + 8)
    if (← QueryReader.front) = some [')'] then
      QueryReader.fail (octets "invalid expression; you have too many ')'")
    return q
  match reading.run (rest, {}) with
  | .error text => failed "find" 1 text
  | .ok (q, _, f) =>
    let q := if f.acts then q else .and q (.print ['\n'])
    let search : Searcher Unit := do
      for start in starts do
        if (← Folders.kindOf start).isNone then
          complain "find" (quoted start ++ octets ": " ++ faultText (← Folders.faultAt start))
          modify fun s => { s with status := 1 }
        else visit c f q 60 0 start
      for (number, words) in q.collections do
        let files := ((← get).collected.filter fun e => e.1 = number).reverse.map Prod.snd
        if !files.isEmpty then
          if (← c.callFor "find" quoted (words ++ files)) ≠ 0 then
            modify fun s => { s with status := 1 }
    let ((), s) ← search.run ⟨[], false, false, 0⟩
    return s.status

/-- The programs that names stand for. -/
def which (pathOf : Octets → Running (Option Octets)) : Utility := fun names => do
  let mut status := if names.isEmpty then 1 else 0
  for name in names do
    match ← pathOf name with
    | some path => Running.emit (path ++ ['\n'])
    | none => status := 1
  return status

end MailMerge.Script.Utility
