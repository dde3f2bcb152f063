import MailMerge.Script.Run

/-!
# Hosts whose programs are scripts

A host for file trees: calling a program runs the script of its file on the tree.
-/

namespace MailMerge.Script

/-- The depth to which commands may be nested. -/
def depth : Nat := 1500

/-- The number of commands that a script may run before it counts as endless. -/
def budget : Nat := 600000

def machine : Machine :=
  ⟨run depth⟩

/-- The folders in which scripts look for programs. -/
def searchPath : String :=
  "/usr/local/sbin:/usr/local/bin:/usr/sbin:/usr/bin:/sbin:/bin"

/-- The state in which a script starts. -/
def State.start (working : Location) (name : Octets) (arguments : List Octets)
    (options : List Char) (limit : Option Nat) (files : Files) : State :=
  let folder := octets ("/" ++ Text.joinTexts "/" working)
  { world :=
      { stored := files, growing := none
        opened := #[⟨.nowhere, 0, [], false, true, false⟩, ⟨.output, 0, [], true, false, true⟩,
          ⟨.errors, 0, [], true, false, true⟩]
        output := [], errors := [], clock := 0, deadline := limit.map (1000 * ·)
        budget := budget, lastProcess := processNumber, jobs := [], waiting := []
        shells := [⟨processNumber, [], []⟩] }
    shell := processNumber, working := working, folder := folder, name := name
    arguments := arguments
    bindings := Machine.startVariables
      [(octets "PATH", octets searchPath), (octets "HOME", octets "/root")] folder
    functions := [], aliases := [], options := options, traps := [], status := 0, line := 0
    channels := [(0, 0), (1, 1), (2, 2)], documents := #[], isShell := true, utility := []
    loops := 0, functionDepth := 0, saved := [], mask := 18, background := none
    captured := none, optionIndex := 1, optionPlace := none, called := [], lost := false
    ending := none, hashed := [] }

/-- How a script has ended; none if whoever called it has given up waiting by then. -/
def endingOf (status : Option Nat) (w : World) : Option Ending :=
  let finish := w.jobs.foldl (fun n j => max n j.finish) w.clock
  if w.deadline.any fun limit => limit ≤ finish then none
  else
    let text (pieces : List Octets) := toBytes (pieces.reverse.flatMap id)
    some ⟨status, text w.output, text w.errors⟩

/-- Runs an act as the first process of a state, and what it has started beside itself. -/
def endState (act : Running Nat) (σ : State) : Option Ending × Files :=
  let rest (status : Option Nat) (σ : State) : Option Ending × Files :=
    match (Machine.runWaiting machine Machine.jobLimit).run σ with
    | .ok () σ => (endingOf status σ.world, σ.files)
    | .error _ σ => (none, σ.files)
  match (Machine.runProcess machine act).run σ with
  | .ok status σ => rest (some (status % 256)) σ
  | .error (.signalled ..) σ => rest none σ
  | .error _ σ => (none, σ.files)

/-- The longest first line of a script, in bytes. -/
def firstLineLimit : Nat := 255

/-- The utilities as files at their places, and the folders that scripts expect. -/
def systemFiles : List (Location × Node) :=
  let folders : List Location := [["usr", "bin"], ["bin"]]
  let programs := folders.flatMap fun folder =>
    (folder, Node.folder) :: Catalogue.names.map fun name => (folder ++ [name], .file [] true)
  [(["tmp"], .folder), (["usr"], .folder)] ++ programs

/-- Calls a program of a file tree. -/
def launch (working : Location) (call : Call) (limit : Option Nat) (files : Files) :
    Except FileFault (Option Ending) × Files :=
  let name := octets call.binary.text
  let arguments := call.arguments.map octets
  let start (options : List Char) := State.start working name arguments options limit files
  let ended (act : Running Nat) (options : List Char) : Except FileFault (Option Ending) × Files :=
    let (ending, files) := endState act (start options)
    (.ok ending, files)
  match Machine.programAt (start []) name, files.locate working call.binary with
  | .utility .., _ => ended (Machine.callExternal machine name arguments) []
  | _, .error fault => (.error fault, files)
  | _, .ok place =>
    match files.node? place with
    | some (.file content true) =>
      let text := ofBytes content
      match Machine.interpreter? text with
      | none | some ([], _) => (.error .notExecutable, files)
      | some (program, first) =>
        let given := first ++ name :: arguments
        match Machine.programAt (start []) program with
        | .missing => (.error .missing, files)
        | .denied => (.error .accessDenied, files)
        | .stored path _ => ended (Machine.callExternal machine path given) []
        | .utility _ utility =>
          if Catalogue.shells.contains utility then
            match Machine.shellOptions ⟨[], false, false, []⟩ first with
            | .ok o =>
              if o.isText then (.ok none, files)
              else ended (Machine.runText machine false text) o.letters
            | .error c =>
              let refused : Running Nat := do
                Running.report (program ++ octets ": 0: Illegal option -" ++ [c])
                return 2
              ended refused []
          else ended (Machine.callExternal machine program given) []
    | some _ => (.error .accessDenied, files)
    | none => (.error .missing, files)

end MailMerge.Script

namespace MailMerge

/-- The host of a file tree whose programs are scripts. -/
def Host.scripted (working : Location) : Host :=
  ⟨working, Script.launch working⟩

end MailMerge
