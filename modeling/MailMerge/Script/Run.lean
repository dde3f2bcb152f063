import MailMerge.Script.Builtin
import MailMerge.Script.Catalogue

/-!
# Running scripts

What commands do to a state. Commands that run other commands are given what runs those, so each
kind of command is defined by itself; the depth to which commands are nested bounds it all.
-/

namespace MailMerge.Script

open Running

/-- What runs a command, and how: without ending the script where its status is tested. -/
structure Machine where
  run : Bool → Command → Running Nat

namespace Machine

/-- Runs commands in their order; the last one gives the status. -/
def runAll (m : Machine) (tested : Bool) : List Command → Running Nat
  | [] => return 0
  | [c] => m.run tested c
  | c :: rest => do
    let _ ← m.run tested c
    runAll m tested rest

/-- Runs the lines of a text one after the other. -/
def runLines (m : Machine) (tested : Bool) : Nat → Source → Nat → Running Nat
  | 0, _, status => return status
  | fuel + 1, source, status => do
    let σ ← get
    match Reader.nextLine.run { source with documents := σ.documents, aliases := σ.aliases } with
    | .error fault source => do
      modify fun σ => { σ with line := source.line }
      Running.fault (octets ("Syntax error: " ++ fault.message))
    | .ok line after => do
      if σ.hasOption 'v' then
        let _ ← emitTo 2 (source.rest.take (source.rest.length - after.rest.length))
      modify fun σ => { σ with documents := after.documents }
      match line with
      | none => return status
      | some cs => do
        let status ←
          if cs.isEmpty then pure status
          else if σ.hasOption 'n' then pure status
          else runAll m tested cs
        runLines m tested fuel after status

def runText (m : Machine) (tested : Bool) (text : Octets) : Running Nat :=
  runLines m tested (text.length + 1) ⟨1, text, none, #[], [], [], []⟩ 0

/-- Runs what a trap asks for. The status of the script stays as it was. -/
def runTrap (m : Machine) (action : Octets) : Running Unit := do
  let status := (← get).status
  let _ ← runText m false action
  setStatus status

/-- Runs the traps of signals that have arrived. -/
def runPending (m : Machine) : Running Unit := do
  let σ ← get
  if σ.isShell then
    match σ.world.shells.find? fun s => s.number = σ.shell with
    | none | some ⟨_, _, []⟩ => return ()
    | some shell =>
      let shells := σ.world.shells.map fun s =>
        if s.number = σ.shell then { s with pending := [] } else s
      set { σ with world := { σ.world with shells := shells } }
      for signal in shell.pending.reverse do
        match σ.traps.find? fun t => t.1 = signal with
        | some (_, action) => runTrap m action
        | none => pure ()

/-- The status with which a stop ends a process, and whether its last trap still runs. -/
def endOf? : Stop → Option (Nat × Bool)
  | .exit n | .fault n | .answer n => some (n, true)
  | .replaced n => some (n, false)
  | .leave _ | .again _ => some (0, true)
  | .signalled .. | .late | .endless => none

/-- Runs the trap at the end of a process, which may end it with another status. -/
def leaveProcess (m : Machine) (status : Nat) : Running Nat := do
  let σ ← get
  match σ.traps.find? fun t => t.1 = 0 with
  | none => return status
  | some (_, action) => do
    set { σ with traps := σ.traps.filter (fun t => t.1 ≠ 0), status := status, utility := [] }
    try
      runTrap m action
      return status
    catch stop =>
      match endOf? stop with
      | some (n, _) => return n
      | none => throw stop

/-- Runs a process to its end. -/
def runProcess (m : Machine) (act : Running Nat) : Running Nat := do
  let (status, traps) ←
    try
      pure (← act, true)
    catch stop =>
      match endOf? stop with
      | some ending => pure ending
      | none => throw stop
  if traps then leaveProcess m status else return status

/-- Runs a process that starts from a changed copy of the state; only the world keeps what it
does. -/
def apart (m : Machine) (start : State → State) (act : Running Nat) : Running Nat := fun before =>
  match (runProcess m act).run (start before) with
  | .ok status after => .ok status { before with world := after.world }
  | .error stop after => .error stop { before with world := after.world }

/-- The state of a copy of the process. -/
def copied (σ : State) : State :=
  { σ with traps := σ.traps.filter (fun t => t.2 = []), loops := 0, isShell := false }

/-- Something open that keeps what is written to it. -/
def keeper : Opened :=
  ⟨.kept [], 0, [], false, false, true⟩

/-- What was written to something open that keeps it. -/
def takeKept (number : Nat) : Running Octets :=
  modifyGet fun σ =>
    match σ.world.opened[number]? with
    | some o =>
      match o.target with
      | .kept pieces =>
        (pieces.reverse.flatMap id, σ.setOpened number { o with target := .nowhere })
      | _ => ([], σ)
    | none => ([], σ)

/-- Runs the commands beside the script that have not been run yet; no time passes for whoever
starts them. -/
def runWaiting (m : Machine) : Nat → Running Unit
  | 0 => return ()
  | fuel + 1 => do
    let σ ← get
    match σ.world.waiting with
    | [] => return ()
    | w :: rest => do
      set { σ with world := { σ.world with waiting := rest, clock := w.start } }
      let status ←
        try
          apart m (fun σ => { toProcess := w.process, world := σ.world }) (m.run false w.body)
        catch
          | .late => pure 143
          | stop => throw stop
      modify fun after =>
        let jobs := after.world.jobs.map fun j =>
          if j.process = w.number then
            { j with status := status, finish := after.world.clock }
          else j
        { after with world := { after.world with jobs := jobs, clock := σ.world.clock } }
      runWaiting m fuel

/-- The number of commands that run beside a script. -/
def jobLimit : Nat := 1000

/-- The output of commands, without the line ends at its end. -/
def capture (m : Machine) : Capture := fun body => do
  let number ← modifyGet fun σ => σ.withOpened keeper
  let status ← apart m (fun σ => (copied σ).setChannel 1 number) (runAll m false body)
  runWaiting m jobLimit
  modify fun σ => { σ with captured := some status, status := status }
  let text ← takeKept number
  return (text.reverse.dropWhile (· = '\n')).reverse.filter (· ≠ '\x00')

/-! ## Redirections -/

/-- Why a file is not opened, in a report. -/
def openFault (creates : Bool) : FileFault → Octets
  | .missing => octets (if creates then "Directory nonexistent" else "No such file")
  | .notFolder => octets (if creates then "Directory nonexistent" else "No such file")
  | fault => faultText fault

def refuse {α : Type} (creates : Bool) (path : Octets) (fault : FileFault) : Running α :=
  Running.fault (octets (if creates then "cannot create " else "cannot open ") ++ path ++
    octets ": " ++ openFault creates fault)

/-- Opens a file of the tree. -/
def openStored (leading : Leading) (path : Octets) : Running Opened := do
  let σ ← get
  let p := pathOf path
  if leading = .fromFile then
    match σ.files.locate σ.working p with
    | .error fault => refuse false path fault
    | .ok place =>
      match σ.files.node? place with
      | some _ => return ⟨.stored place, 0, [], false, true, false⟩
      | none => refuse false path .missing
  else
    let isThere := σ.files.kind? σ.working p
    if leading = .toFile && σ.hasOption 'C' && isThere.any (· ≠ .folder) then
      refuse true path .alreadyExists
    else
      let kept :=
        if leading = .toEnd || leading = .both then
          (σ.files.read σ.working p).toOption.getD []
        else []
      match σ.files.write σ.working p kept with
      | .error fault => refuse true path fault
      | .ok files => do
        set (σ.withFiles files)
        match files.locate σ.working p with
        | .error fault => refuse true path fault
        | .ok place => return ⟨.stored place, 0, [], leading = .toEnd, leading = .both, true⟩

/-- Opens what a path names, for a channel. -/
def openPath (channel : Nat) (leading : Leading) (path : Octets) : Running Unit := do
  let special? : Option Opened :=
    if path = octets "/dev/null" then some ⟨.nowhere, 0, [], false, true, true⟩
    else if endlessFiles.contains (String.ofList path) then
      some ⟨.zeros, 0, [], false, true, true⟩
    else if path = octets "/dev/full" then some ⟨.zeros, 0, [], false, true, false⟩
    else none
  match special?, Utility.channelOf? path with
  | some o, _ => modify fun σ => let (number, σ) := σ.withOpened o; σ.setChannel channel number
  | none, some other =>
    match (← get).opened? other with
    | some (number, _) => modify fun σ => σ.setChannel channel number
    | none => refuse (leading ≠ .fromFile) path .missing
  | none, none => do
    let o ← openStored leading path
    modify fun σ => let (number, σ) := σ.withOpened o; σ.setChannel channel number

/-- What should name a channel does not; that ends the script. -/
def badChannel {α : Type} : Running α := do
  complain (octets "Syntax error: Bad fd number")
  throw (.exit 2)

/-- Leads a channel to where another one leads, or closes it. -/
def joinChannel (channel : Nat) (target : Octets) : Running Unit := do
  match target with
  | ['-'] => modify fun σ => σ.closeChannel channel
  | [d] =>
    if d.isDigit then
      let other := d.toNat - '0'.toNat
      match (← get).opened? other with
      | some (number, _) => modify fun σ => σ.setChannel channel number
      | none => Running.fault (d :: octets ": Bad file descriptor")
    else badChannel
  | _ => badChannel

def lead (m : Machine) : Redirect → Running Unit
  | .mk channel leading target => do
    match leading with
    | .fromScript n => do
      let σ ← get
      let text := Item.text (← Word.items (capture m) false false ((σ.documents[n]?).getD []))
      let o : Opened := ⟨.nowhere, 0, text, false, true, false⟩
      modify fun σ => let (number, σ) := σ.withOpened o; σ.setChannel channel number
    | .toChannel => joinChannel channel (← Word.value (capture m) target)
    | leading => openPath channel leading (← Word.value (capture m) target)

def channelOf : Redirect → Nat
  | .mk channel .. => channel

/-- The channels as they were before redirections. -/
def withoutRedirects (redirects : List Redirect) (before σ : State) : State :=
  redirects.foldl (fun σ r =>
    match before.channels.find? fun c => c.1 = channelOf r with
    | some (channel, number) => σ.setChannel channel number
    | none => σ.closeChannel (channelOf r)) σ

/-- Leads channels as redirections ask; the answer tells whether that was possible. -/
def leadAll (m : Machine) (redirects : List Redirect) : Running Bool := do
  let before ← get
  try
    for r in redirects do
      lead m r
    return true
  catch
    | .fault n => do
      modify (withoutRedirects redirects before)
      if n = 2 then return false else throw (.fault n)
    | stop => throw stop

/-- Acts with redirected channels; the status is two if they cannot be redirected. -/
def withRedirects (m : Machine) (redirects : List Redirect) (act : Running Nat) : Running Nat := do
  let before ← get
  if redirects.isEmpty then act
  else if ← leadAll m redirects then
    try
      let status ← act
      modify (withoutRedirects redirects before)
      return status
    catch stop =>
      modify (withoutRedirects redirects before)
      throw stop
  else return 2

/-! ## Calls -/

/-- Gives variables their values one after the other, for good or for one call. What is for a call
is seen by other programs. -/
def assignAll (m : Machine) (isLasting : Bool) :
    List (Octets × Word) → Running (List (Octets × Octets))
  | [] => return []
  | (name, w) :: rest => do
    let value ← Word.value (capture m) w
    Running.assign name value
    if !isLasting then
      modify fun σ =>
        match σ.binding? name with
        | some v => σ.setVariable name { v with exported := true }
        | none => σ
    return (name, value) :: (← assignAll m isLasting rest)

/-- The variables of these names as they were before. -/
def withoutAssigned (names : List Octets) (before σ : State) : State :=
  names.foldl (fun σ name =>
    match before.binding? name with
    | some v => σ.setVariable name v
    | none => σ.dropVariable name) σ

/-- Calls a function: it has arguments of its own, and may have variables of its own. -/
def callFunction (m : Machine) (tested : Bool) (body : Command) (arguments : List Octets) :
    Running Nat := do
  let before ← get
  set { before with
    arguments := arguments, saved := [], functionDepth := before.functionDepth + 1, loops := 0
    optionIndex := 1, optionPlace := none }
  let restore : Running Unit :=
    modify fun σ =>
      let σ := σ.saved.foldl (fun σ (name, v) =>
        match v with
        | some v => σ.setVariable name v
        | none => σ.dropVariable name) σ
      { σ with
        arguments := before.arguments, saved := before.saved
        functionDepth := before.functionDepth, loops := before.loops
        optionIndex := before.optionIndex, optionPlace := before.optionPlace }
  try
    let status ← m.run tested body
    restore
    return status
  catch
    | .answer n => do
      restore
      return n
    | stop => do
      restore
      throw stop

/-- A program that a name stands for. -/
inductive Found where
  | utility (path : Octets) (name : String)
  | stored (path : Octets) (content : Octets)
  | denied
  | missing

/-- The folders in which the utilities are. -/
def utilityFolders : List String :=
  ["/usr/bin", "/bin"]

/-- What is at a path, as a program. -/
def programAt (σ : State) (path : Octets) : Found :=
  let (folder, name) := (Text.cutLast '/' path).getD ([], path)
  let name := String.ofList name
  if utilityFolders.contains (String.ofList folder) && Catalogue.isUtility name then
    .utility path name
  else
    match σ.files.locate σ.working (pathOf path) with
    | .error _ => .missing
    | .ok place =>
      match σ.files.node? place with
      | some (.file content true) => .stored path (ofBytes content)
      | some _ => .denied
      | none => .missing

/-- The program of a name: the first one in the folders of a search path. -/
def programIn (σ : State) (searchPath name : Octets) : Found :=
  if name.contains '/' then programAt σ name
  else if name = [] then .missing
  else
    let folders := Text.pieces ':' searchPath
    let found := folders.map fun folder =>
      programAt σ (if folder = [] then name else folder ++ '/' :: name)
    let isProgram : Found → Bool
      | .utility .. | .stored .. => true
      | _ => false
    match found.find? isProgram with
    | some f => f
    | none =>
      let isDenied : Found → Bool
        | .denied => folders.any fun folder => !isFolder σ (folder ++ '/' :: name)
        | _ => false
      if found.any isDenied then .denied else .missing

/-- The program of a name in a script. -/
def programOf (σ : State) (name : Octets) : Found :=
  programIn σ ((σ.value? (octets "PATH")).getD []) name

/-- The program of a name that another program calls, which knows where to look if nobody says. -/
def programFor (σ : State) (name : Octets) : Found :=
  programIn σ ((σ.value? (octets "PATH")).getD (octets "/bin:/usr/bin")) name

/-- The folders in which a shell looks for programs if nobody says where. -/
def shellPath : String :=
  "/usr/local/sbin:/usr/local/bin:/usr/sbin:/usr/bin:/sbin:/bin"

/-- The variables of a shell that starts with what other programs see. -/
def startVariables (environment : List (Octets × Octets)) (folder : Octets) :
    List (Octets × Variable) :=
  let own (name value : String) : Octets × Variable :=
    (octets name, ⟨some (octets value), false, false⟩)
  let given := environment.map fun (name, value) => (name, (⟨some value, true, false⟩ : Variable))
  let usual := [own "IFS" " \t\n", own "OPTIND" "1", own "PS1" "# ", own "PS2" "> ", own "PS4" "+ ",
    own "PPID" "4200", own "PATH" shellPath,
    (octets "PWD", ⟨some folder, true, false⟩)]
  (given.filter fun v => v.1 ≠ octets "IFS").reverse ++
    usual.filter fun u => !given.any fun v => v.1 = u.1 && v.1 ≠ octets "IFS"

/-- The state of a shell that a process starts. -/
def fresh (name : Octets) (arguments : List Octets) (options : List Char) (σ : State) : State :=
  let number := σ.world.lastProcess + 1
  let traps := σ.traps.filter fun t => t.2 = []
  { σ with
    shell := number, name := name, arguments := arguments, options := options
    bindings := startVariables σ.environment σ.folder
    functions := [], aliases := [], traps := traps, status := 0
    line := 0, isShell := true, utility := [], loops := 0, functionDepth := 0, saved := []
    background := none, captured := none, optionIndex := 1, optionPlace := none, called := []
    lost := false, ending := none, hashed := []
    world := { σ.world with
      lastProcess := number, shells := ⟨number, traps, []⟩ :: σ.world.shells } }

/-- Runs a text as a shell of its own; a signal that ends it ends nothing else. -/
def runShell (m : Machine) (name : Octets) (arguments : List Octets) (options : List Char)
    (text : Octets) : Running Nat := do
  let before ← get
  let number := before.world.lastProcess + 1
  let leave : Running Unit :=
    modify fun σ =>
      let shells := σ.world.shells.filter fun s => s.number ≠ number
      { σ with world := { σ.world with shells := shells } }
  try
    let status ← apart m (fresh name arguments options) (runText m false text)
    leave
    return status
  catch
    | .signalled signal shell => do
      leave
      if shell = number then
        modify fun σ => { σ with ending := some signal }
        return 128 + signal
      throw (.signalled signal shell)
    | stop => throw stop

/-- Options of a call of the shell: those that are set, and whether the text or the input is the
script. -/
structure ShellOptions where
  letters : List Char
  isText : Bool
  isInput : Bool
  others : List Octets

def shellOptions (o : ShellOptions) : List Octets → Except Char ShellOptions
  | ['-', 'o'] :: name :: rest =>
    let letters := (Builtin.optionNames.filter fun n => octets n.1 = name).map Prod.snd
    shellOptions { o with letters := letters ++ o.letters } rest
  | ['-'] :: rest | ['-', '-'] :: rest => .ok { o with others := rest }
  | ('-' :: cs) :: rest =>
    match cs.find? fun c => !"cs".toList.contains c && !Builtin.optionNames.any (·.2 = c) with
    | some c => .error c
    | none =>
      shellOptions
        { o with
          letters := cs.filter (fun c => c ≠ 'c' && c ≠ 's') ++ o.letters
          isText := o.isText || cs.contains 'c', isInput := o.isInput || cs.contains 's' } rest
  | rest => .ok { o with others := rest }

/-- Calls the shell by its name. -/
def callShell (m : Machine) (name : Octets) (arguments : List Octets) : Running Nat := do
  match shellOptions ⟨[], false, false, []⟩ arguments with
  | .error c => do
    report (name ++ octets ": 0: Illegal option -" ++ [c])
    return 2
  | .ok o =>
    match o.isText, o.others with
    | true, [] => do
      report (name ++ octets ": 0: -c requires an argument")
      return 2
    | true, text :: rest => runShell m (rest.head?.getD name) (rest.drop 1) o.letters text
    | false, [] => runShell m name [] o.letters (← input)
    | false, path :: rest =>
      if o.isInput then runShell m name (path :: rest) o.letters (← input)
      else
        match ← Utility.contentOf path with
        | .ok text => runShell m path rest o.letters text
        | .error fault => do
          report (name ++ octets ": 0: cannot open " ++ path ++ octets ": " ++
            openFault false fault)
          return 2

/-- The interpreter of a script with its argument, if the first line names one. -/
def interpreter? (content : Octets) : Option (Octets × List Octets) :=
  match content with
  | '#' :: '!' :: rest =>
    let isBlank (c : Char) := c = ' ' || c = '\t'
    let line := (rest.takeWhile (· ≠ '\n')).dropWhile isBlank
    let name := line.takeWhile fun c => !isBlank c
    let behind := (line.drop name.length).dropWhile isBlank
    let argument := (behind.reverse.dropWhile isBlank).reverse
    some (name, if argument = [] then [] else [argument])
  | _ => none

/-- Calls a program; the ways are named by which programs that run others call them. -/
def callProgram (m : Machine) : Nat → Octets → Found → List Octets → Running Nat
  | 0, name, _, _ => do
    complain (name ++ octets ": not found")
    return 127
  | fuel + 1, name, found, arguments => do
    let call (arguments : List Octets) : Running Nat := do
      match arguments with
      | [] => return 0
      | name :: rest => callProgram m fuel name (programFor (← get) name) rest
    let obstacle? (name : Octets) : Running (Option (Nat × String)) := do
      match programFor (← get) name with
      | .missing => return some (127, "No such file or directory")
      | .denied => return some (126, "Permission denied")
      | _ => return none
    let pathOf (name : Octets) : Running (Option Octets) := do
      match programFor (← get) name with
      | .utility path _ | .stored path _ => return some path
      | _ => return none
    match found with
    | .utility _ utility =>
      if Catalogue.shells.contains utility then callShell m name arguments
      else
        if utility = "sleep" then runWaiting m jobLimit
        let before := (← get).called
        modify fun σ => { σ with called := name, lost := false }
        let status ←
          try Catalogue.call utility ⟨obstacle?, call⟩ pathOf arguments
          catch
            | .fault n => pure n
            | stop => throw stop
        let lost := (← get).lost
        if lost then Utility.complain utility (octets "write error: Bad file descriptor")
        modify fun σ => { σ with called := before, lost := false }
        return if lost then 1 else status
    | .stored path content =>
      match interpreter? content with
      | none => runShell m path arguments [] content
      | some (program, first) =>
        let σ ← get
        match programAt σ program with
        | .missing | .denied => do
          complain (name ++ octets ": not found")
          return 127
        | found => callProgram m fuel program found (first ++ path :: arguments)
    | .denied => do
      complain (name ++ octets ": Permission denied")
      return 126
    | .missing => do
      complain (name ++ octets (if name = [] then ": Permission denied" else ": not found"))
      return 127

/-- The number of programs that may run one another. -/
def programDepth : Nat := 50

def callExternal (m : Machine) (name : Octets) (arguments : List Octets) : Running Nat := do
  let utility := (← get).utility
  let found := programOf (← get) name
  match found with
  | .utility path _ | .stored path _ => remember name path
  | _ => pure ()
  modify fun σ => { σ with ending := none }
  let status ← callProgram m programDepth name found arguments
  modify fun σ => { σ with utility := utility }
  match (← get).ending with
  | some signal => Builtin.reportSignal signal
  | none => pure ()
  return status

/-- Acts under the name of a utility, which stands in reports. -/
def named (utility : Octets) (act : Running Nat) : Running Nat := do
  let before := (← get).utility
  modify fun σ => { σ with utility := utility }
  try
    let status ← act
    modify fun σ => { σ with utility := before }
    return status
  catch stop =>
    modify fun σ => { σ with utility := before }
    throw stop

/-- Acts such that output that goes nowhere is an error. -/
def written (name : Octets) (act : Running Nat) : Running Nat := do
  modify fun σ => { σ with lost := false }
  let status ← act
  if (← get).lost then
    modify fun σ => { σ with lost := false }
    complain (name ++ octets ": I/O error")
    return Nat.lor status 1
  return status

/-- Acts such that an error ends the act and not the process. -/
def guarded (act : Running Nat) : Running Nat := do
  try act
  catch
    | .fault n => return n
    | stop => throw stop

/-- What a name stands for, told in a sentence; nothing if it stands for nothing. -/
def description? (σ : State) (name : Octets) : Option (Octets × Octets) :=
  let is (cs : Octets) := name ++ octets " is " ++ cs
  if keywords.contains (String.ofList name) then some (is (octets "a shell keyword"), name)
  else
    match σ.aliases.find? fun a => a.1 = name with
    | some a => some (is (octets "an alias for " ++ a.2), octets "alias " ++ Builtin.aliasLine a)
    | none =>
      if Builtin.isSpecial name then some (is (octets "a special shell builtin"), name)
      else if σ.functions.any fun f => f.1 = name then some (is (octets "a shell function"), name)
      else if Builtin.isBuiltin name then some (is (octets "a shell builtin"), name)
      else
        match programOf σ name with
        | .utility path _ | .stored path _ =>
          let isHashed := σ.hashed.any fun h => h.1 = name
          some (is (if isHashed then octets "a tracked alias for " ++ path else path), path)
        | _ => none

/-- Remembers the program of a name, if it stands for one. -/
def rememberProgram (name : Octets) : Running Unit := do
  let σ ← get
  let isOther := Builtin.isBuiltin name || σ.functions.any (fun f => f.1 = name)
  match programOf σ name with
  | .utility path _ | .stored path _ => if !isOther then remember name path
  | _ => pure ()

def describe (name : Octets) : Running Nat := do
  match description? (← get) name with
  | some (sentence, _) => do
    rememberProgram name
    emit (sentence ++ ['\n'])
    return 0
  | none => do
    emit (name ++ octets ": not found\n")
    return 127

/-- The row of the table in which a remembered name stands. -/
def rowOf (name : Octets) : Nat :=
  let sum := name.foldl (fun n c => n + c.toNat) (16 * (name.headD '\x00').toNat)
  sum % 32768 % 31

/-- Shows the programs that are remembered, forgets them, or looks for some to remember. -/
def hash (arguments : List Octets) : Running Nat := do
  match arguments with
  | [] => do
    let found := (← get).hashed.reverse.mergeSort fun a b => decide (rowOf a.1 ≤ rowOf b.1)
    emit (unlines (found.map Prod.snd))
    return 0
  | ['-', 'r'] :: _ => do
    modify fun σ => { σ with hashed := [] }
    return 0
  | names =>
    Utility.forAll (fun name => do
      match description? (← get) name with
      | some _ => do
        rememberProgram name
        return 0
      | none => do
        complain (name ++ octets ": not found")
        return 1) names

/-- The file of a script that is to be run in place. -/
def sourceOf (path : Octets) : Running Octets := do
  let σ ← get
  let candidates :=
    if path.contains '/' then [path]
    else (Text.pieces ':' ((σ.value? (octets "PATH")).getD [])).map fun folder =>
      if folder = [] then path else folder ++ '/' :: path
  let found := candidates.findSome? fun p =>
    match σ.files.read σ.working (pathOf p) with
    | .ok content => some (ofBytes content)
    | .error _ => none
  match found with
  | some text => return text
  | none =>
    if path.contains '/' then
      match ← Utility.contentOf path with
      | .ok text => return text
      | .error fault =>
        Running.fault (octets "cannot open " ++ path ++ octets ": " ++ openFault false fault)
    else Running.fault (path ++ octets ": not found")

/-- Runs a text in place; what it gives back is its status. -/
def runInPlace (m : Machine) (tested : Bool) (text : Octets) : Running Nat := do
  try runText m tested text
  catch
    | .answer n => return n
    | stop => throw stop

/-- Waits for one command that runs beside the script, or for all. -/
def wait (m : Machine) (arguments : List Octets) : Running Nat := do
  runWaiting m jobLimit
  let σ ← get
  let pass (jobs : List Job) : Running Unit := do
    let clock := jobs.foldl (fun n j => max n j.finish) σ.world.clock
    modify fun σ => { σ with world := { σ.world with clock := clock } }
    if σ.world.deadline.any fun limit => limit ≤ clock then throw .late
  match arguments with
  | [] => do
    pass σ.world.jobs
    return 0
  | _ =>
    arguments.foldlM (fun _ a => do
      match σ.world.jobs.find? fun j => decimal j.process = a with
      | some job => do
        pass [job]
        match job.signal with
        | some signal => Builtin.reportSignal signal
        | none => pure ()
        return job.status
      | none => return 127) 0

/-- Calls a command of the script that is not a function. -/
def callPlain (m : Machine) (tested : Bool) (fuel : Nat) (name : Octets)
    (arguments : List Octets) : Running Nat := do
  match fuel with
  | 0 => return 0
  | fuel + 1 =>
    let s := String.ofList name
    match Builtin.special? s, Builtin.usual? s with
    | some utility, _ => named name (written name (utility arguments))
    | none, some utility => named name (guarded (written name (utility arguments)))
    | none, none =>
      match s with
      | "eval" => named name (runText m tested (Text.join [' '] arguments))
      | "." =>
        match arguments with
        | path :: _ => do
          let before := (← get).utility
          modify fun σ => { σ with utility := name }
          let text ← sourceOf path
          modify fun σ => { σ with utility := before }
          named path (runInPlace m tested text)
        | [] => return 0
      | "type" => Utility.forAll describe arguments
      | "hash" => named name (guarded (hash arguments))
      | "wait" => named name (guarded (wait m arguments))
      | "exec" =>
        match arguments with
        | [] => return 0
        | program :: rest =>
          match programOf (← get) program with
          | .denied => do
            let _ ← named name (do complain (program ++ octets ": Permission denied"); return 0)
            throw (.exit 126)
          | .missing => do
            let _ ← named name (do complain (program ++ octets ": not found"); return 0)
            throw (.exit 127)
          | _ => throw (.replaced (← callExternal m program rest))
      | "command" =>
        match arguments with
        | ['-', 'v'] :: names =>
          Utility.forAll (fun n => do
            match description? (← get) n with
            | some (_, short) => do
              rememberProgram n
              emit (short ++ ['\n'])
              return 0
            | none => return 127) (names.take 1)
        | ['-', 'V'] :: names => Utility.forAll describe (names.take 1)
        | ['-', 'p'] :: name :: rest | ['-', '-'] :: name :: rest | name :: rest =>
          guarded (callPlain m tested fuel name rest)
        | [] => return 0
      | _ => callExternal m name arguments

/-- Calls a command by name; the commands that are special come before functions. -/
def callNamed (m : Machine) (tested : Bool) (name : Octets) (arguments : List Octets) :
    Running Nat := do
  let σ ← get
  let plain := callPlain m tested (arguments.length + 2) name arguments
  if Builtin.isSpecial name then plain
  else
    match σ.functions.find? fun f => f.1 = name with
    | some (_, body) => callFunction m tested body arguments
    | none => plain

/-- The values of the words of a call. -/
def argumentsOf (m : Machine) : Bool → List Word → Running (List Octets)
  | _, [] => return []
  | assigning, w :: rest => do
    let values ←
      match if assigning then w.assignment? else none with
      | some (name, value) => do
        pure [name ++ '=' :: (← Word.value (capture m) value.withHomes)]
      | none => Word.values (capture m) w
    return values ++ (← argumentsOf m assigning rest)

/-- The line that traces a call. -/
def traceLine (σ : State) (assigned : List (Octets × Octets)) (arguments : List Octets) : Octets :=
  let parts := assigned.map (fun (name, value) => name ++ '=' :: value) ++ arguments
  (σ.value? (octets "PS4")).getD [] ++ Text.join [' '] parts ++ ['\n']

def call (m : Machine) (tested : Bool) (line : Nat) (assigned : List (Octets × Word))
    (words : List Word) (redirects : List Redirect) : Running Nat := do
  modify fun σ => { σ with line := line, captured := none }
  let first ← argumentsOf m false (words.take 1)
  let assigning := first.head?.any Builtin.takesAssignments
  let arguments := first ++ (← argumentsOf m assigning (words.drop 1))
  let before ← get
  let special := arguments.head?.any Builtin.isSpecial
  if !(← leadAll m redirects) then
    if special then throw (.fault 2) else return 2
  let unassigned ← get
  let isLasting := arguments.isEmpty || special
  let names := if isLasting then [] else assigned.map Prod.fst
  let unassign : Running Unit := modify (withoutAssigned names unassigned)
  let restore : Running Unit := modify (withoutRedirects redirects before)
  try
    let pairs ← assignAll m isLasting assigned
    if (← get).hasOption 'x' then
      match before.opened? 2 with
      | some (number, _) => writeTo number (traceLine (← get) pairs arguments)
      | none => pure ()
    match arguments with
    | [] => do
      restore
      return (← get).captured.getD 0
    | name :: rest => do
      let status ← callNamed m tested name rest
      unassign
      if !(name = octets "exec" && rest.isEmpty) then restore
      return status
  catch stop =>
    unassign
    restore
    throw stop

/-! ## Other commands -/

/-- Runs the parts of a pipe, each with the output of the one before. Whoever writes more than
any part would read is taken to be cut off. -/
def runParts (m : Machine) : Option Nat → List Command → Running Nat
  | _, [] => return 0
  | input, [c] => part input none c
  | input, c :: rest => do
    let number ← modifyGet fun σ => σ.withOpened keeper
    let before ← get
    let _ ←
      try part input (some number) c
      catch
        | .endless => do
          modify fun σ =>
            { before with world := { σ.world with budget := before.world.budget / 2 } }
          pure 141
        | stop => throw stop
    runWaiting m jobLimit
    let text ← takeKept number
    let source ← modifyGet fun σ => σ.withOpened ⟨.nowhere, 0, text, false, true, false⟩
    runParts m (some source) rest
where
  part (input output : Option Nat) (c : Command) : Running Nat :=
    apart m (fun σ =>
      let σ := copied σ
      let σ := match input with
        | some number => σ.setChannel 0 number
        | none => σ
      match output with
      | some number => σ.setChannel 1 number
      | none => σ) (m.run false c)

/-- Starts a command beside the script. It is run when the script next waits or ends. -/
def runBehind (c : Command) : Running Nat := do
  modify fun σ =>
    let process := σ.world.lastProcess + 1
    let (number, own) := (copied σ).withOpened ⟨.nowhere, 0, [], false, true, false⟩
    let own := own.setChannel 0 number
    let w := own.world
    { σ with
      background := some process
      world := { w with
        lastProcess := process, jobs := ⟨process, 0, none, w.clock⟩ :: w.jobs
        waiting := w.waiting ++ [⟨process, w.clock, own.toProcess, c⟩] } }
  return 0

/-- Goes on with a loop behind its body, unless a stop leaves the loop. -/
inductive Turn where
  | next (status : Nat)
  | done (status : Nat)

/-- Runs the body of a loop once. -/
def turn (m : Machine) (tested : Bool) (body : List Command) : Running Turn := do
  try
    return .next (← runAll m tested body)
  catch
    | .leave 1 => return .done 0
    | .leave (n + 1) => throw (.leave n)
    | .again 1 => return .next 0
    | .again (n + 1) => throw (.again n)
    | stop => throw stop

/-- Acts inside a loop. -/
def inLoop (act : Running Nat) : Running Nat := do
  let loops := (← get).loops
  modify fun σ => { σ with loops := loops + 1 }
  try
    let status ← act
    modify fun σ => { σ with loops := loops }
    return status
  catch stop =>
    modify fun σ => { σ with loops := loops }
    throw stop

def runEach (m : Machine) (tested : Bool) (name : Octets) (body : List Command) :
    Nat → List Octets → Running Nat
  | status, [] => return status
  | _, value :: rest => do
    Running.assign name value
    match ← turn m tested body with
    | .done status => return status
    | .next status => runEach m tested name body status rest

/-- The number of turns after which a loop counts as endless. -/
def turns : Nat := 10000000

def runWhile (m : Machine) (tested whileOk : Bool) (condition body : List Command) :
    Nat → Nat → Running Nat
  | 0, _ => throw .endless
  | fuel + 1, status => do
    match ← turn m true condition with
    | .done status => return status
    | .next found =>
      if (found = 0) = whileOk then
        match ← turn m tested body with
        | .done status => return status
        | .next status => runWhile m tested whileOk condition body fuel status
      else return status

def anyAccepts (m : Machine) (value : Octets) : List Word → Running Bool
  | [] => return false
  | w :: rest => do
    if Pattern.accepts (← Word.pattern (capture m) w) value then return true
    anyAccepts m value rest

/-- Runs the commands of the first case one of whose patterns stands for the value. -/
def runCases (m : Machine) (tested : Bool) (value : Octets) :
    List (List Word × List Command) → Running Nat
  | [] => return 0
  | (patterns, body) :: rest => do
    if ← anyAccepts m value patterns then runAll m tested body
    else runCases m tested value rest

/-- A failing command of this kind ends the script where errors do. -/
def endsScript : Command → Bool
  | .call .. | .pipe .. | .inside .. | .redirected .. => true
  | _ => false

/-- Runs one command. -/
def runOne (m : Machine) (tested : Bool) (c : Command) : Running Nat := do
  match c with
  | .call line assigned words redirects => call m tested line assigned words redirects
  | .pipe parts => runParts m none parts
  | .negated c => return if (← m.run true c) = 0 then 1 else 0
  | .whenOk first second => do
    let status ← m.run true first
    if status = 0 then m.run tested second else return status
  | .whenFailed first second => do
    let status ← m.run true first
    if status = 0 then return 0 else m.run tested second
  | .behind line c => do
    modify fun σ => { σ with line := line }
    runBehind c
  | .group body => runAll m tested body
  | .inside line body => do
    modify fun σ => { σ with line := line }
    apart m copied (runAll m tested body)
  | .choice condition yes no => do
    if (← runAll m true condition) = 0 then runAll m tested yes else runAll m tested no
  | .loop whileOk condition body => inLoop (runWhile m tested whileOk condition body turns 0)
  | .each line name words body => do
    modify fun σ => { σ with line := line }
    let values ← argumentsOf m false words
    inLoop (runEach m tested name body 0 values)
  | .select line w cases => do
    modify fun σ => { σ with line := line }
    let value ← Word.value (capture m) w
    runCases m tested value cases
  | .define _ name body => do
    modify fun σ =>
      { σ with functions := (name, body) :: σ.functions.filter fun f => f.1 ≠ name }
    return 0
  | .redirected line c redirects => do
    modify fun σ => { σ with line := line }
    withRedirects m redirects (m.run tested c)

/-- Runs one command with all that follows from its status. -/
def step (m : Machine) (tested : Bool) (c : Command) : Running Nat := do
  let σ ← get
  if σ.world.budget = 0 then throw .endless
  set { σ with world := { σ.world with budget := σ.world.budget - 1 } }
  let status ← runOne m tested c
  setStatus status
  runPending m
  if endsScript c && !tested && status ≠ 0 && (← get).hasOption 'e' then throw (.exit status)
  return status

end Machine

/-- Runs a command; one that is nested too deep kills the process. -/
def run : Nat → Bool → Command → Running Nat
  | 0, _, _ => throw (.signalled 11 0)
  | fuel + 1, tested, c => Machine.step ⟨run fuel⟩ tested c

end MailMerge.Script
