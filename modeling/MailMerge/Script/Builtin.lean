import MailMerge.Script.Reading
import MailMerge.Script.Utility.Condition
import MailMerge.Script.Utility.Printing

/-!
# Commands that change the script itself

These commands act on the process that calls them: its variables, arguments, options, folder,
aliases and traps. None of them runs other commands.
-/

namespace MailMerge.Script.Builtin

open Running (fault)

/-- A text between quotation marks, such that it reads as itself. -/
def quotedText (cs : Octets) : Octets :=
  '\'' :: cs.flatMap (fun c => if c = '\'' then octets "'\"'\"'" else [c]) ++ ['\'']

/-- The options at the front of the arguments, letters behind hyphens; a letter that is not allowed
is an error. -/
def letters (allowed : String) : List Octets → Running (List Char × List Octets)
  | ['-', '-'] :: rest => return ([], rest)
  | ('-' :: c :: cs) :: rest => do
    match (c :: cs).find? fun c => !allowed.toList.contains c with
    | some c => fault (octets "Illegal option -" ++ [c])
    | none => do
      let (more, others) ← letters allowed rest
      return (c :: cs ++ more, others)
  | arguments => return ([], arguments)

def checkName (name : Octets) : Running Unit := do
  if !isName name then fault (name ++ octets ": bad variable name")

/-- A whole number that is not negative. -/
def number (a : Octets) : Running Nat := do
  match Utility.natural? a with
  | some n => return n
  | none => fault (octets "Illegal number: " ++ a)

/-! ## Variables -/

def showVariables (start : String) (test : Variable → Bool) : Running Nat := do
  let σ ← get
  let shown := σ.bindings.filter fun v => test v.2
  let lines := (shown.mergeSort fun a b => atMost a.1 b.1).map fun (name, v) =>
    octets start ++ name ++
      match v.value with
      | some value => '=' :: quotedText value
      | none => []
  Running.emit (unlines lines)
  return 0

/-- Marks variables, with the values that stand behind their names. -/
def mark (start : String) (test : Variable → Bool) (act : Variable → Variable)
    (arguments : List Octets) : Running Nat := do
  let (options, names) ← letters "p" arguments
  if names.isEmpty || options.contains 'p' then showVariables start test
  else
    for a in names do
      let (name, value) := (Text.cutFirst '=' a).elim (a, none) fun (name, v) => (name, some v)
      checkName name
      if let some value := value then Running.assign name value
      modify fun σ => σ.setVariable name (act ((σ.binding? name).getD ⟨none, false, false⟩))
    return 0

def exportAll : Utility :=
  mark "export " Variable.exported fun v => { v with exported := true }

def readonly : Utility :=
  mark "readonly " Variable.constant fun v => { v with constant := true }

def unset : Utility := fun arguments => do
  let (options, names) ← letters "vf" arguments
  for name in names do
    if options.contains 'f' then
      modify fun σ => { σ with functions := σ.functions.filter fun f => f.1 ≠ name }
    else
      checkName name
      if ((← get).binding? name).any Variable.constant then fault (name ++ octets ": is read only")
      modify fun σ => σ.dropVariable name
  return 0

/-- Gives a function variables of its own. -/
def localVariables : Utility := fun arguments => do
  if (← get).functionDepth = 0 then fault (octets "not in a function")
  for a in arguments do
    let (name, value) := (Text.cutFirst '=' a).elim (a, none) fun (name, v) => (name, some v)
    modify fun σ =>
      if σ.saved.any fun s => s.1 = name then σ
      else { σ with saved := (name, σ.binding? name) :: σ.saved }
    if let some value := value then Running.assign name value
  return 0

/-! ## Options and arguments -/

def optionNames : List (String × Char) :=
  [("errexit", 'e'), ("noglob", 'f'), ("ignoreeof", 'I'), ("interactive", 'i'), ("monitor", 'm'),
    ("noexec", 'n'), ("stdin", 's'), ("xtrace", 'x'), ("verbose", 'v'), ("vi", 'V'),
    ("emacs", 'E'), ("noclobber", 'C'), ("allexport", 'a'), ("notify", 'b'), ("nounset", 'u'),
    ("nolog", ' '), ("debug", '\x00')]

def setOption (letter : Char) (on : Bool) : Running Unit :=
  modify fun σ =>
    let others := σ.options.filter (· ≠ letter)
    { σ with options := if on then letter :: others else others }

def showOptions (asCommands : Bool) : Running Unit := do
  let σ ← get
  if asCommands then
    Running.emit (unlines (optionNames.map fun (name, letter) =>
      octets (if σ.hasOption letter then "set -o " else "set +o ") ++ octets name))
  else
    let lines := optionNames.map fun (name, letter) =>
      octets name ++ List.replicate (16 - name.length) ' ' ++
        octets (if σ.hasOption letter then "on" else "off")
    Running.emit (unlines (octets "Current option settings" :: lines))

def setLetters (on : Bool) : Octets → Running Unit
  | [] => return ()
  | c :: rest => do
    if optionNames.any fun o => o.2 = c && o.1 ≠ "nolog" && o.1 ≠ "debug" then setOption c on
    else fault (octets "Illegal option -" ++ [c])
    setLetters on rest

/-- Sets options; the answer is what is left of the arguments, if the arguments are to be set. -/
def setOptions : List Octets → Running (Option (List Octets))
  | [] => return none
  | ['-'] :: rest => do
    setOption 'x' false
    setOption 'v' false
    return if rest.isEmpty then none else some rest
  | ['-', '-'] :: rest => return some rest
  | [sign, 'o'] :: name :: rest => do
    if sign = '-' || sign = '+' then
      match optionNames.find? fun o => octets o.1 = name with
      | some o => setOption o.2 (sign = '-')
      | none => fault (octets "Illegal option -o " ++ name)
      setOptions rest
    else return some ([sign, 'o'] :: name :: rest)
  | (sign :: cs) :: rest => do
    if sign = '-' || sign = '+' then
      if cs = ['o'] then showOptions (sign = '+')
      else setLetters (sign = '-') cs
      setOptions rest
    else return some ((sign :: cs) :: rest)
  | [] :: rest => return some ([] :: rest)

def setArguments (arguments : List Octets) : Running Unit :=
  modify fun σ => { σ with arguments := arguments, optionIndex := 1, optionPlace := none }

def setAll : Utility := fun arguments => do
  if arguments.isEmpty then showVariables "" fun v => v.value.isSome
  else
    if let some rest ← setOptions arguments then setArguments rest
    return 0

def shift : Utility := fun arguments => do
  let n ← match arguments with
    | a :: _ => number a
    | [] => pure 1
  let σ ← get
  if σ.arguments.length < n then fault (octets "can't shift that many")
  setArguments (σ.arguments.drop n)
  return 0

/-- Where reading options stands: the argument that is next, and what is left of the one before
it. -/
structure OptionReading where
  index : Nat
  letters : Octets

/-- What reading one option finds: a letter for the variable and a value. -/
structure OptionFound where
  letter : Char
  value : Option Octets
  report : Option Octets

/-- The next option letter; none at the end of the options. -/
def nextLetter (arguments : List Octets) (r : OptionReading) :
    Option (Char × OptionReading) × Nat :=
  match r.letters with
  | c :: rest => (some (c, ⟨r.index, rest⟩), r.index)
  | [] =>
    match arguments[r.index - 1]? with
    | some ['-', '-'] => (none, r.index + 1)
    | some ('-' :: c :: rest) => (some (c, ⟨r.index + 1, rest⟩), r.index + 1)
    | _ => (none, r.index)

/-- How an option is declared: not at all, alone, or with a value. -/
def declared (c : Char) : Octets → Option Bool
  | [] => none
  | d :: rest => if d = c && c ≠ ':' then some (rest.head? = some ':') else declared c rest

def findOption (declaration : Octets) (arguments : List Octets) (c : Char) (r : OptionReading) :
    OptionFound × OptionReading :=
  let quiet := declaration.head? = some ':'
  match declared c declaration with
  | none =>
    if quiet then (⟨'?', some [c], none⟩, r)
    else (⟨'?', none, some (octets "Illegal option -" ++ [c])⟩, r)
  | some false => (⟨c, some [], none⟩, r)
  | some true =>
    if r.letters ≠ [] then (⟨c, some r.letters, none⟩, ⟨r.index, []⟩)
    else
      match arguments[r.index - 1]? with
      | some value => (⟨c, some value, none⟩, ⟨r.index + 1, []⟩)
      | none =>
        if quiet then (⟨':', some [c], none⟩, r)
        else (⟨'?', none, some (octets "No arg for -" ++ c :: octets " option")⟩, r)

def getopts : Utility := fun arguments => do
  match arguments with
  | declaration :: name :: given => do
    let σ ← get
    let arguments := if given.isEmpty then σ.arguments else given
    let left := match σ.optionPlace with
      | some place => ((arguments[σ.optionIndex - 2]?).getD []).drop place
      | none => []
    let (found, index) := nextLetter arguments ⟨σ.optionIndex, left⟩
    let (option, r, ended) := match found with
      | some (c, r) =>
        let (option, r) := findOption declaration arguments c r
        (option, r, 0)
      | none => (⟨'?', none, none⟩, ⟨index, []⟩, 1)
    if let some line := option.report then Running.report line
    if ended = 0 then
      match option.value with
      | some value => Running.assign (octets "OPTARG") value
      | none => modify fun σ => σ.dropVariable (octets "OPTARG")
    Running.assign (octets "OPTIND") (decimal r.index)
    checkName name
    Running.assign name [option.letter]
    let size := ((arguments[r.index - 2]?).getD []).length
    modify fun σ =>
      { σ with
        optionIndex := r.index
        optionPlace := if r.letters = [] then none else some (size - r.letters.length) }
    return ended
  | _ => fault (octets "Usage: getopts optstring var [arg...]")

/-! ## Reading lines -/

/-- Characters of a line that was read; those behind a backslash do not separate. -/
abbrev Line := List (Char × Bool)

/-- The line that the input begins with, the number of characters it takes, and whether it has an
end. -/
def nextLine (raw : Bool) : Octets → Line × Nat × Bool
  | [] => ([], 0, false)
  | '\n' :: _ => ([], 1, true)
  | '\\' :: c :: rest =>
    if raw then
      let (line, n, ended) := nextLine raw (c :: rest)
      (('\\', true) :: line, n + 1, ended)
    else
      let (line, n, ended) := nextLine raw rest
      (if c = '\n' then line else (c, false) :: line, n + 2, ended)
  | c :: rest =>
    let (line, n, ended) := nextLine raw rest
    (if c = '\x00' || (c = '\\' && !raw) then line else (c, true) :: line, n + 1, ended)

/-- Takes away blanks that separate, and at most one other separator among them if nothing else
follows. -/
def trimmedRest (separates blank : Char × Bool → Bool) (line : Line) : Line :=
  let plain := (line.reverse.dropWhile blank).reverse
  match plain.reverse with
  | last :: before =>
    let rest := (before.dropWhile blank).reverse
    if separates last && !blank last && !rest.any separates then rest else plain
  | [] => []

/-- The values of so many names: the last one takes all that is left. -/
def split (separates blank : Char × Bool → Bool) : Nat → Line → List Octets
  | 0, _ => []
  | 1, line => [(trimmedRest separates blank line).map Prod.fst]
  | n + 2, line =>
    let field := line.takeWhile fun c => !separates c
    let behind := (line.drop field.length).dropWhile blank
    let behind :=
      match line.drop field.length with
      | c :: _ =>
        if blank c then
          match behind with
          | d :: rest => if separates d then rest.dropWhile blank else behind
          | [] => []
        else (line.drop (field.length + 1)).dropWhile blank
      | [] => []
    field.map Prod.fst :: split separates blank (n + 1) behind

def read : Utility := fun arguments => do
  let (raw, names) ← options false arguments
  if names.isEmpty then fault (octets "arg count")
  let σ ← get
  match σ.opened? 0 with
  | none => return 1
  | some (number, _) => do
    let o ← Running.filled number
    let (line, size, ended) := nextLine raw o.ahead
    let _ ← Running.take number o size
    let separators := σ.separators
    let separates (c : Char × Bool) := c.2 && separators.contains c.1
    let blank (c : Char × Bool) := separates c && defaultSeparators.contains c.1
    let values := split separates blank names.length (line.dropWhile blank)
    for (name, value) in names.zip values do
      checkName name
      Running.assign name value
    return if ended then 0 else 1
where
  options (raw : Bool) : List Octets → Running (Bool × List Octets)
    | ['-', 'r'] :: rest => options true rest
    | ['-', 'p'] :: prompt :: rest => do
      let _ ← Running.emitTo 2 prompt
      options raw rest
    | ['-', '-'] :: rest => return (raw, rest)
    | ('-' :: c :: _) :: _ => fault (octets "Illegal option -" ++ [c])
    | names => return (raw, names)

/-! ## Folders -/

/-- A path as it is seen from a folder, with steps upwards taken back. -/
def seenFrom (folder path : Octets) : Octets :=
  let whole := if path.head? = some '/' then path else folder ++ '/' :: path
  let start := match whole with
    | '/' :: '/' :: c :: _ => if c = '/' then ['/'] else ['/', '/']
    | ['/', '/'] => ['/', '/']
    | _ => ['/']
  let steps := (Text.pieces '/' whole).filter fun s => s ≠ [] && s ≠ ['.']
  let kept := steps.foldl (fun kept s => if s = ['.', '.'] then kept.drop 1 else s :: kept) []
  start ++ Text.join ['/'] kept.reverse

/-- Goes to a folder, if it is one. -/
def goTo (path : Octets) : Running Bool := do
  let σ ← get
  let seen := seenFrom σ.folder path
  match σ.files.locate [] (pathOf seen) with
  | .ok place =>
    if σ.files.node? place = some .folder && (path = [] || isFolder σ path) then
      let σ := { σ with working := place, folder := seen }
      set σ
      Running.assign (octets "OLDPWD") ((σ.value? (octets "PWD")).getD [])
      Running.assign (octets "PWD") seen
      modify fun σ => ["OLDPWD", "PWD"].foldl (fun σ name =>
        match σ.binding? (octets name) with
        | some v => σ.setVariable (octets name) { v with exported := true }
        | none => σ) σ
      return true
    else return false
  | .error _ => return false

/-- The paths that a folder may have: below the folders of a search path unless it says itself
where it is. -/
def candidates (searchPath path : Octets) : List Octets :=
  let first := path.takeWhile (· ≠ '/')
  if path.head? = some '/' || first = ['.'] || first = ['.', '.'] || searchPath = [] then [path]
  else
    (Text.pieces ':' searchPath).map fun p =>
      if p = [] then path else if p.getLast? = some '/' then p ++ path else p ++ '/' :: path

def cd : Utility := fun arguments => do
  let arguments := arguments.dropWhile fun a => a = octets "-L" || a = octets "-P"
  let σ ← get
  let (path, shown) := match arguments with
    | ['-'] :: _ => ((σ.value? (octets "OLDPWD")).getD [], true)
    | ['-', '-'] :: path :: _ => (path, false)
    | path :: _ => (path, false)
    | [] => ((σ.value? (octets "HOME")).getD [], false)
  let searchPath := if shown then [] else (σ.value? (octets "CDPATH")).getD []
  for candidate in candidates searchPath path do
    if ← goTo candidate then
      if shown || candidate ≠ path then Running.emit ((← get).folder ++ ['\n'])
      return 0
  fault (octets "can't cd to " ++ path)

def pwd : Utility := fun _ => do
  Running.emit ((← get).folder ++ ['\n'])
  return 0

/-- Permissions changed by signs with letters behind them, for those whom `who` covers. -/
def withPermissions (who : Nat) : Nat → Nat → Octets → Option Nat
  | 0, _, _ => none
  | _, mode, [] => some mode
  | fuel + 1, mode, sign :: rest =>
    if !"+-=".toList.contains sign then none
    else
      let letters := rest.takeWhile fun c => !"+-=".toList.contains c
      let triple (c : Char) : Option Nat :=
        match c with
        | 'r' => some 4
        | 'w' => some 2
        | 'x' | 'X' => some 1
        | 's' | 't' => some 0
        | 'u' => some (mode / 64 % 8)
        | 'g' => some (mode / 8 % 8)
        | 'o' => some (mode % 8)
        | _ => none
      match letters.mapM triple with
      | none => none
      | some triples =>
        let bits := (73 * triples.foldl Nat.lor 0).land who
        let kept (n : Nat) := mode.land (511 - n)
        let mode :=
          if sign = '+' then mode.lor bits
          else if sign = '-' then kept bits
          else (kept who).lor bits
        withPermissions who fuel mode (rest.drop letters.length)

/-- Permissions changed by clauses of letters. -/
def permissions? (mode : Nat) (cs : Octets) : Option Nat :=
  (Text.pieces ',' cs).foldl (fun mode clause =>
    mode.bind fun mode =>
      let whom := clause.takeWhile fun c => "ugoa".toList.contains c
      let mask (c : Char) : Nat :=
        match c with
        | 'u' => 448
        | 'g' => 56
        | 'o' => 7
        | _ => 511
      let who := if whom = [] then 511 else (whom.map mask).foldl Nat.lor 0
      withPermissions who (clause.length + 1) mode (clause.drop whom.length)) (some mode)

/-- The mask of permissions, in octal digits or in letters. -/
def umask : Utility := fun arguments => do
  let (options, rest) ← letters "S" arguments
  let mask := (← get).mask
  match rest with
  | a :: _ =>
    if a.all Utility.Printing.isOctal then
      modify fun σ => { σ with mask := Formula.valueOf 8 a % 512 }
      return 0
    else if a.head?.any Char.isDigit then fault (octets "Illegal number: " ++ a)
    else
      match permissions? (511 - mask) a with
      | some mode =>
        modify fun σ => { σ with mask := 511 - mode }
        return 0
      | none => fault (octets "Illegal mode: " ++ a)
  | [] =>
    if options.contains 'S' then
      let allowed (shift : Nat) : Octets :=
        let bits := 7 - mask / Nat.pow 8 shift % 8
        (if bits / 4 = 1 then ['r'] else []) ++ (if bits / 2 % 2 = 1 then ['w'] else []) ++
          (if bits % 2 = 1 then ['x'] else [])
      Running.emit (octets "u=" ++ allowed 2 ++ octets ",g=" ++ allowed 1 ++ octets ",o=" ++
        allowed 0 ++ ['\n'])
    else
      let digits := Nat.toDigits 8 mask
      Running.emit (List.replicate (4 - digits.length) '0' ++ digits ++ ['\n'])
    return 0

/-! ## Aliases -/

def aliasLine (a : Octets × Octets) : Octets :=
  a.1 ++ '=' :: quotedText a.2

def aliases : Utility := fun arguments => do
  if arguments.isEmpty then
    Running.emit (unlines (((← get).aliases.map aliasLine).reverse))
    return 0
  else
    Utility.forAll (fun a => do
      match Text.cutFirst '=' a with
      | some (name, value) =>
        modify fun σ =>
          { σ with aliases := (name, value) :: σ.aliases.filter fun b => b.1 ≠ name }
        return 0
      | none =>
        match (← get).aliases.find? fun b => b.1 = a with
        | some b =>
          Running.emit (aliasLine b ++ ['\n'])
          return 0
        | none => Utility.failed "alias" 1 (a ++ octets " not found")) arguments

def unalias : Utility := fun arguments => do
  let (options, names) ← letters "a" arguments
  if options.contains 'a' then modify fun σ => { σ with aliases := [] }
  Utility.forAll (fun a => do
    if (← get).aliases.any fun b => b.1 = a then
      modify fun σ => { σ with aliases := σ.aliases.filter fun b => b.1 ≠ a }
      return 0
    else Utility.failed "unalias" 1 (a ++ octets " not found")) names

/-! ## Signals -/

def signalNames : List String :=
  ["EXIT", "HUP", "INT", "QUIT", "ILL", "TRAP", "ABRT", "BUS", "FPE", "KILL", "USR1", "SEGV",
    "USR2", "PIPE", "ALRM", "TERM", "STKFLT", "CHLD", "CONT", "STOP", "TSTP", "TTIN", "TTOU",
    "URG", "XCPU", "XFSZ", "VTALRM", "PROF", "WINCH", "IO", "PWR", "SYS"]

def signalName (n : Nat) : Octets :=
  match signalNames[n]? with
  | some name => octets name
  | none =>
    if n = 34 then octets "RTMIN"
    else if 34 < n && n < 50 then octets "RTMIN+" ++ decimal (n - 34)
    else if 50 ≤ n && n < 64 then octets "RTMAX-" ++ decimal (64 - n)
    else if n = 64 then octets "RTMAX"
    else decimal n

/-- What is told of a program that a signal ended. -/
def signalText (n : Nat) : Octets :=
  let texts := ["", "Hangup", "Interrupt", "Quit", "Illegal instruction", "Trace/breakpoint trap",
    "Aborted", "Bus error", "Floating point exception", "Killed", "User defined signal 1",
    "Segmentation fault", "User defined signal 2", "Broken pipe", "Alarm clock", "Terminated"]
  octets (texts[n]?.getD "")

/-- Tells which signal ended a program, unless it is one that ends programs quietly. -/
def reportSignal (n : Nat) : Running Unit := do
  if n ≠ 2 && n ≠ 13 && signalText n ≠ [] then Running.report (signalText n)

/-- The number of a signal, given by number or name. -/
def signal? (cs : Octets) : Option Nat :=
  match Utility.natural? cs with
  | some n => if n < 65 then some n else none
  | none => signalNames.idxOf? (String.ofList (cs.map Char.toUpper))

def setTrap (signal : Nat) (action : Option Octets) : Running Unit :=
  modify fun σ =>
    let others := σ.traps.filter fun t => t.1 ≠ signal
    let traps := match action with
      | some a => (signal, a) :: others
      | none => others
    let shells := σ.world.shells.map fun s =>
      if σ.isShell && s.number = σ.shell then { s with traps := traps } else s
    { σ with traps := traps, world := { σ.world with shells := shells } }

def trap : Utility := fun arguments => do
  let (_, arguments) ← letters "" arguments
  match arguments with
  | [] => do
    let traps := (← get).traps.mergeSort fun a b => decide (a.1 ≤ b.1)
    Running.emit (unlines (traps.map fun (signal, action) =>
      octets "trap -- " ++ quotedText action ++ ' ' :: signalName signal))
    return 0
  | first :: rest =>
    let (action, signals) :=
      if rest.isEmpty then (none, [first])
      else if first = ['-'] then (none, rest)
      else if (Utility.natural? first).isSome then (none, first :: rest)
      else (some first, rest)
    Utility.forAll (fun a => do
      match signal? a with
      | some n =>
        setTrap n action
        return 0
      | none => Utility.failed "trap" 1 (a ++ octets ": bad trap")) signals

/-- Signals that processes ignore by themselves. -/
def ignoredSignals : List Nat :=
  [0, 17, 18, 23, 28]

/-- Sends a signal to a shell. -/
def sendToShell (signal : Nat) (shell : Shell) : Running Nat := do
  match shell.traps.find? fun t => t.1 = signal && signal ≠ 9 && signal ≠ 19 with
  | some (_, []) => return 0
  | some _ =>
    modify fun σ =>
      let shells := σ.world.shells.map fun s =>
        if s.number = shell.number then { s with pending := signal :: s.pending } else s
      { σ with world := { σ.world with shells := shells } }
    return 0
  | none =>
    if ignoredSignals.contains signal then return 0
    else if 19 ≤ signal && signal ≤ 22 then throw .endless
    else throw (.signalled signal shell.number)

/-- Sends a signal to a command beside the script, which ends it unless it has ended already. -/
def sendToJob (signal : Nat) (job : Job) : Running Nat := do
  let σ ← get
  let waits := σ.world.waiting.any fun w => w.number = job.process
  if (waits || σ.world.clock < job.finish) && !ignoredSignals.contains signal then
    let ended : Job := ⟨job.process, 128 + signal, some signal, σ.world.clock⟩
    modify fun σ =>
      let jobs := σ.world.jobs.map fun j => if j.process = job.process then ended else j
      let waiting := σ.world.waiting.filter fun w => w.number ≠ job.process
      { σ with world := { σ.world with jobs := jobs, waiting := waiting } }
  return 0

/-- Sends a signal to a process. -/
def send (signal : Nat) (target : Octets) : Running Nat := do
  let σ ← get
  let named (n : Nat) : Bool := target = decimal n || target = '-' :: decimal n
  let isOwn (s : Shell) : Bool := named s.number || (target = ['0'] && s.number = σ.shell)
  match σ.world.shells.find? isOwn, σ.world.jobs.find? fun j => named j.process with
  | some shell, _ => sendToShell signal shell
  | none, some job => sendToJob signal job
  | none, none => do
    if target.all fun c => c.isDigit || c = '-' then
      Running.complain (octets "No such process\n")
      return 1
    else fault (octets "Illegal number: " ++ target)

def kill : Utility := fun arguments => do
  let usage := octets "Usage: kill [-s sigspec | -signum | -sigspec] [pid | job]... or\n" ++
    octets "kill -l [exitstatus]"
  match arguments with
  | ['-', 'l'] :: [] => do
    Running.emit (unlines (['0'] :: (List.range 64).map fun n => signalName (n + 1)))
    return 0
  | ['-', 'l'] :: a :: _ => do
    let n ← number a
    let signal := if 128 < n then n - 128 else n
    if signal = 0 || 64 < signal then
      fault (octets "invalid signal number or exit status: " ++ a)
    Running.emit (signalName signal ++ ['\n'])
    return 0
  | ['-', 's'] :: name :: targets => act name targets
  | ['-', '-'] :: targets => act (octets "TERM") targets
  | ('-' :: c :: cs) :: targets =>
    if targets.isEmpty then fault usage else act (c :: cs) targets
  | [] => fault usage
  | targets => act (octets "TERM") targets
where
  act (name : Octets) (targets : List Octets) : Running Nat := do
    match signal? name with
    | some signal => Utility.forAll (send signal) targets
    | none => fault (octets "Illegal option -" ++ name.take 1)

/-! ## The table -/

/-- How a command ends the loops around it. -/
def leave (again : Bool) : Utility := fun arguments => do
  let n ← match arguments with
    | a :: _ => number a
    | [] => pure 1
  if n = 0 then fault (octets "Illegal number: 0")
  let loops := (← get).loops
  if loops = 0 then return 0
  throw (if again then .again (min n loops) else .leave (min n loops))

/-- The status that an argument gives, or that of the last command. -/
def statusOf (arguments : List Octets) : Running Nat := do
  match arguments with
  | a :: _ => number a
  | [] => return (← get).status

def giveBack : Utility := fun arguments => do
  throw (.answer (← statusOf arguments))

def exit : Utility := fun arguments => do
  throw (.exit ((← statusOf arguments) % 256))

def succeed : Utility := fun _ => return 0

/-- Commands whose errors end the script, and whose assignments stay. -/
def special? : String → Option Utility
  | ":" => some succeed
  | "break" => some (leave false)
  | "continue" => some (leave true)
  | "exit" => some exit
  | "export" => some exportAll
  | "readonly" => some readonly
  | "return" => some giveBack
  | "set" => some setAll
  | "shift" => some shift
  | "times" => some fun _ => do
    Running.emit (octets "0m0.000000s 0m0.000000s\n0m0.000000s 0m0.000000s\n")
    return 0
  | "trap" => some trap
  | "unset" => some unset
  | _ => none

def usual? : String → Option Utility
  | "[" => some (Utility.test true)
  | "test" => some (Utility.test false)
  | "alias" => some aliases
  | "unalias" => some unalias
  | "cd" | "chdir" => some cd
  | "pwd" => some pwd
  | "echo" => some Utility.echo
  | "printf" => some Utility.printf
  | "true" => some succeed
  | "false" => some fun _ => return 1
  | "getopts" => some getopts
  | "jobs" | "bg" | "fg" => some succeed
  | "kill" => some kill
  | "local" => some localVariables
  | "read" => some read
  | "umask" => some umask
  | "ulimit" => some fun _ => do
    Running.emit (octets "unlimited\n")
    return 0
  | _ => none

/-- Commands of the script that run others. -/
def running : List String :=
  [".", "command", "eval", "exec", "hash", "type", "wait"]

/-- The arguments of these commands are assignments where they look like it. -/
def takesAssignments (name : Octets) : Bool :=
  ["alias", "export", "local", "readonly"].contains (String.ofList name)

def isSpecial (name : Octets) : Bool :=
  Reader.specialNames.contains (String.ofList name)

def isBuiltin (name : Octets) : Bool :=
  let s := String.ofList name
  running.contains s || (special? s).isSome || (usual? s).isSome

end MailMerge.Script.Builtin
