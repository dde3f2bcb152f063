import MailMerge.Script.Utility.Basic

/-!
# Files and folders

Utilities that make, copy, move, remove and list files, and that take paths apart.
-/

namespace MailMerge.Script.Utility

namespace Folders

def kindOf (path : Octets) : Running (Option Kind) := do
  let σ ← get
  return σ.files.kind? σ.working (pathOf path)

/-- The last step of a path, without slashes behind it. -/
def baseOf (path : Octets) : Octets :=
  match (path.reverse.dropWhile (· = '/')).reverse with
  | [] => if path = [] then [] else ['/']
  | cs =>
    match Text.cutLast '/' cs with
    | some (_, name) => name
    | none => cs

/-- A path without its last step. -/
def folderOf (path : Octets) : Octets :=
  let cs := (path.reverse.dropWhile (· = '/')).reverse
  match Text.cutLast '/' cs with
  | none => if cs = [] && path ≠ [] then ['/'] else ['.']
  | some (before, _) =>
    match (before.reverse.dropWhile (· = '/')).reverse with
    | [] => ['/']
    | before => before

def below (folder name : Octets) : Octets :=
  if folder.getLast? = some '/' then folder ++ name else folder ++ '/' :: name

/-- The fault of a path at which nothing can be used. -/
def faultAt (path : Octets) : Running FileFault := do
  let σ ← get
  match σ.files.locate σ.working (pathOf path) with
  | .error fault => return fault
  | .ok _ => return .missing

/-- All entries at a place and below it, with their places seen from it. -/
def treeAt (files : Files) (place : Location) : List (Location × Node) :=
  files.entries.filterMap fun (l, n) => (Text.after? place l).map fun rest => (rest, n)

def putTree (files : Files) (place : Location) (tree : List (Location × Node)) : Files :=
  tree.foldl (fun fs (rest, n) => fs.put (place ++ rest) n) files

def missingTarget (name : String) (operands : List Octets) : Running Nat := do
  match operands with
  | [] => complain name (octets "missing file operand")
  | a :: _ => complain name (octets "missing destination file operand after " ++ quoted a)
  hint name
  return 1

/-- The sources and the target of a call, and whether the target is a folder to put them into. -/
def sourcesAndTarget (name : String) (o : Given) (operands : List Octets)
    (act : List Octets → Octets → Bool → Running Nat) : Running Nat := do
  match o.value? 't', operands.reverse with
  | some folder, _ :: _ => act operands folder true
  | some _, [] => missingTarget name operands
  | none, target :: source :: more => do
    let isFolder := (← kindOf target) = some .folder && !o.has 'T'
    if !isFolder && !more.isEmpty then
      let isThere := (← kindOf target).isSome
      let reason := if isThere then "Not a directory" else "No such file or directory"
      failed name 1 (octets "target " ++ quoted target ++ octets (": " ++ reason))
    else act (source :: more).reverse target isFolder
  | none, _ => missingTarget name operands

/-- Copies one file or tree to a path. -/
def copyTo (recursive forced : Bool) (source target : Octets) : Running Nat := do
  let σ ← get
  let copyFile (content : Bytes) (executable : Bool) : Running Nat := do
    match σ.files.write σ.working (pathOf target) content with
    | .error .isFolder =>
      if target.getLast? = some '/' then
        return ← failed "cp" 1 (octets "cannot create regular file " ++ quoted target ++
          octets ": Not a directory")
      failed "cp" 1 (octets "cannot overwrite directory " ++ quoted target ++
        octets " with non-directory")
    | .error fault =>
      failed "cp" 1 (octets "cannot create regular file " ++ quoted target ++ octets ": " ++
        faultText fault)
    | .ok files =>
      let isNew := (σ.files.kind? σ.working (pathOf target)).isNone
      match files.locate σ.working (pathOf target) with
      | .ok place =>
        set (σ.withFiles (if isNew then files.put place (.file content executable) else files))
        return 0
      | .error _ => return 1
  match ← contentOf source, σ.files.locate σ.working (pathOf source) with
  | .ok content, .ok place =>
    if (σ.files.locate σ.working (pathOf target)).toOption = some place then
      failed "cp" 1 (quoted source ++ octets " and " ++ quoted target ++
        octets " are the same file")
    else
      let executable := match σ.files.node? place with
        | some (.file _ executable) => executable
        | _ => false
      copyFile (toBytes content) executable
  | .error .isFolder, .ok place =>
    if !recursive then
      failed "cp" 1 (octets "-r not specified; omitting directory " ++ quoted source)
    else
      match σ.files.locate σ.working (pathOf target) with
      | .error fault =>
        failed "cp" 1 (octets "cannot create directory " ++ quoted target ++ octets ": " ++
          faultText fault)
      | .ok there =>
        match σ.files.node? there with
        | some (.file ..) =>
          failed "cp" 1 (octets "cannot overwrite non-directory " ++ quoted target ++
            octets " with directory " ++ quoted source)
        | _ =>
          set (σ.withFiles
            (putTree (σ.files.put there .folder) there (treeAt σ.files place)))
          return 0
  | .ok content, .error _ => copyFile (toBytes content) false
  | .error fault, _ =>
    let _ := forced
    failed "cp" 1 (octets "cannot stat " ++ quoted source ++ octets ": " ++ faultText fault)

/-- Moves one file or tree to a path. -/
def moveTo (source target : Octets) : Running Nat := do
  let σ ← get
  let cannot (fault : FileFault) : Running Nat :=
    failed "mv" 1 (octets "cannot move " ++ quoted source ++ octets " to " ++ quoted target ++
      octets ": " ++ faultText fault)
  match σ.files.locate σ.working (pathOf source) with
  | .error fault =>
    failed "mv" 1 (octets "cannot stat " ++ quoted source ++ octets ": " ++ faultText fault)
  | .ok origin =>
    match σ.files.node? origin with
    | none =>
      failed "mv" 1 (octets "cannot stat " ++ quoted source ++
        octets ": No such file or directory")
    | some (.file ..) =>
      match σ.files.locate σ.working (pathOf target) with
      | .error fault => cannot fault
      | .ok place =>
        if place = origin then
          failed "mv" 1 (quoted source ++ octets " and " ++ quoted target ++
            octets " are the same file")
        else
          match σ.files.rename σ.working (pathOf source) (pathOf target) with
          | .error .isFolder =>
            failed "mv" 1 (octets "cannot overwrite directory " ++ quoted target ++
              octets " with non-directory " ++ quoted source)
          | .error fault => cannot fault
          | .ok files =>
            let σ := σ.withFiles files
            set { σ with world := (σ.world.moved place .nowhere).moved origin (.stored place) }
            return 0
    | some .folder =>
      match σ.files.locate σ.working (pathOf target) with
      | .error fault => cannot fault
      | .ok place =>
        if origin.isPrefixOf place then
          failed "mv" 1 (octets "cannot move " ++ quoted source ++
            octets " to a subdirectory of itself, " ++ quoted target)
        else
          match σ.files.node? place with
          | some (.file ..) =>
            failed "mv" 1 (octets "cannot overwrite non-directory " ++ quoted target ++
              octets " with directory " ++ quoted source)
          | _ =>
            let tree := treeAt σ.files origin
            set (σ.withFiles (putTree (σ.files.eraseBelow origin) place tree))
            return 0

/-- Removes what is at a path. -/
def removeAt (o : Given) (path : Octets) : Running Nat := do
  let σ ← get
  let forced := o.has 'f'
  let recursive := o.has 'r' || o.has 'R'
  let cannot (fault : FileFault) : Running Nat :=
    failed "rm" 1 (octets "cannot remove " ++ quoted path ++ octets ": " ++ faultText fault)
  let base := baseOf path
  if recursive && (base = ['.'] || base = ['.', '.']) then
    failed "rm" 1 (octets "refusing to remove '.' or '..' directory: skipping " ++ quoted path)
  else
    match ← kindOf path with
    | none =>
      let fault ← faultAt path
      if forced && (fault = .missing || fault = .notFolder) then return 0 else cannot fault
    | some .folder =>
      let isEmpty := (σ.files.list σ.working (pathOf path)).toOption = some []
      if recursive || (o.has 'd' && isEmpty) then
        if o.has 'v' then
          match σ.files.locate σ.working (pathOf path) with
          | .ok place =>
            for (rest, node) in (treeAt σ.files place).reverse do
              if rest ≠ [] then
                let kind := if node = .folder then "removed directory " else "removed "
                let name := below path (Text.join ['/'] (rest.map octets))
                Running.emit (octets kind ++ quoted name ++ ['\n'])
          | .error _ => pure ()
          Running.emit (octets "removed directory " ++ quoted path ++ ['\n'])
        change "rm" (octets "cannot remove " ++ quoted path)
          (σ.files.removeFolder σ.working (pathOf path))
      else if o.has 'd' then
        failed "rm" 1 (octets "cannot remove " ++ quoted path ++ octets ": Directory not empty")
      else cannot .isFolder
    | some _ =>
      match σ.files.locate σ.working (pathOf path) with
      | .error fault => cannot fault
      | .ok place =>
        let σ := σ.withFiles (σ.files.erase place)
        if o.has 'v' then Running.emit (octets "removed " ++ quoted path ++ ['\n'])
        let σ := { σ with world := { (← get).world with
          stored := σ.world.stored, growing := σ.world.growing } }
        set { σ with world := σ.world.moved place .nowhere }
        return 0

/-- A path and all that it leads through, in their order. -/
def fronts (path : Octets) : List Octets :=
  (List.range path.length).filterMap fun n =>
    if n + 1 = path.length || path[n + 1]? = some '/' then some (path.take (n + 1)) else none

/-- Makes a folder in a folder that is there. -/
def makeAt (path : Octets) : Running Nat := do
  let σ ← get
  let cannot (fault : FileFault) : Running Nat :=
    failed "mkdir" 1 (octets "cannot create directory " ++ quoted path ++ octets ": " ++
      faultText fault)
  let trimmed := (path.reverse.dropWhile (· = '/')).reverse
  match σ.files.locate σ.working (pathOf (if trimmed = [] then path else trimmed)) with
  | .error fault => cannot fault
  | .ok place =>
    match σ.files.node? place with
    | some _ => cannot .alreadyExists
    | none =>
      set (σ.withFiles (σ.files.put place .folder))
      return 0

end Folders

open Folders

def cp : Utility := fun arguments =>
  withOptions "cp"
    { flags := "abdfiHlLnPprRsTuvx", valued := "St"
      long := [("recursive", 'r'), ("force", 'f'), ("archive", 'a'), ("target-directory", 't'),
        ("no-target-directory", 'T'), ("no-clobber", 'n'), ("verbose", 'v')] } arguments
    fun o operands =>
      sourcesAndTarget "cp" o operands fun sources target into =>
        forAll (fun source => do
          let goal := if into then below target (baseOf source) else target
          if o.has 'n' && (← kindOf goal).isSome then return 0
          let status ← copyTo (o.has 'r' || o.has 'R' || o.has 'a') (o.has 'f') source goal
          if o.has 'v' && status = 0 then
            Running.emit (quoted source ++ octets " -> " ++ quoted goal ++ ['\n'])
          return status) sources

def mv : Utility := fun arguments =>
  withOptions "mv"
    { flags := "bfinTuv", valued := "St"
      long := [("force", 'f'), ("target-directory", 't'), ("no-target-directory", 'T'),
        ("no-clobber", 'n'), ("verbose", 'v')] } arguments
    fun o operands =>
      sourcesAndTarget "mv" o operands fun sources target into =>
        forAll (fun source => do
          let goal := if into then below target (baseOf source) else target
          if o.has 'n' && (← kindOf goal).isSome then return 0
          let status ← moveTo source goal
          if o.has 'v' && status = 0 then
            Running.emit (octets "renamed " ++ quoted source ++ octets " -> " ++ quoted goal ++
              ['\n'])
          return status) sources

def rm : Utility := fun arguments =>
  withOptions "rm"
    { flags := "dfiIrRv", valued := ""
      long := [("recursive", 'r'), ("force", 'f'), ("dir", 'd'), ("verbose", 'v')] } arguments
    fun o paths =>
      if paths.isEmpty && !o.has 'f' then missingOperand "rm" else forAll (removeAt o) paths

def rmdir : Utility := fun arguments =>
  withOptions "rmdir" { flags := "pv", valued := "", long := [("parents", 'p')] } arguments
    fun o paths =>
      if paths.isEmpty then missingOperand "rmdir"
      else
        forAll (fun path => do
          let chain := if o.has 'p' then parents (path.length + 1) path else [path]
          forAll remove chain) paths
where
  parents : Nat → Octets → List Octets
    | 0, path => [path]
    | fuel + 1, path =>
      let folder := folderOf path
      if folder = ['.'] || folder = ['/'] then [path] else path :: parents fuel folder
  remove (path : Octets) : Running Nat := do
    let σ ← get
    let cannot (text : Octets) : Running Nat :=
      failed "rmdir" 1 (octets "failed to remove " ++ quoted path ++ octets ": " ++ text)
    match ← kindOf path with
    | some .folder =>
      if (σ.files.list σ.working (pathOf path)).toOption = some [] then
        change "rmdir" path (σ.files.removeFolder σ.working (pathOf path))
      else cannot (octets "Directory not empty")
    | some _ => cannot (octets "Not a directory")
    | none => cannot (faultText (← faultAt path))

def mkdir : Utility := fun arguments =>
  withOptions "mkdir"
    { flags := "pvZ", valued := "m", long := [("parents", 'p'), ("mode", 'm'), ("verbose", 'v')] }
    arguments fun o paths =>
      if paths.isEmpty then missingOperand "mkdir"
      else
        forAll (fun path => do
          if o.has 'p' then
            let σ ← get
            match σ.files.createFolders σ.working (pathOf path) with
            | (.ok (), files) =>
              set (σ.withFiles files)
              return 0
            | (.error fault, files) =>
              set (σ.withFiles files)
              let file := (fronts path).find? fun p =>
                (files.kind? σ.working (pathOf p)).any (· ≠ .folder)
              match file with
              | some p =>
                let reason := if p.length = path.length then "File exists" else "Not a directory"
                failed "mkdir" 1 (octets "cannot create directory " ++ quoted p ++
                  octets (": " ++ reason))
              | none =>
                failed "mkdir" 1 (octets "cannot create directory " ++ quoted path ++
                  octets ": " ++ faultText fault)
          else
            let status ← makeAt path
            if o.has 'v' && status = 0 then
              Running.emit (octets "mkdir: created directory " ++ quoted path ++ ['\n'])
            return status) paths

def touch : Utility := fun arguments =>
  withOptions "touch"
    { flags := "acfhm", valued := "drt", long := [("no-create", 'c'), ("date", 'd')] } arguments
    fun o paths =>
      if paths.isEmpty then do
        complain "touch" (octets "missing file operand")
        hint "touch"
        return 1
      else
        forAll (fun path => do
          let σ ← get
          if (← kindOf path).isSome || o.has 'c' then return 0
          change "touch" (octets "cannot touch " ++ quoted path)
            (σ.files.write σ.working (pathOf path) [])) paths

/-- Gives a file a second name; it is a copy from then on. -/
def ln : Utility := fun arguments =>
  withOptions "ln"
    { flags := "fnsTrv", valued := "t", long := [("symbolic", 's'), ("force", 'f')] } arguments
    fun o operands =>
      let operands := match operands with
        | [source] => [source, ['.']]
        | more => more
      sourcesAndTarget "ln" o operands fun sources target into =>
        forAll (fun source => do
          let goal := if into then below target (baseOf source) else target
          let σ ← get
          let seen := if o.has 's' && source.head? ≠ some '/' then below (folderOf goal) source
            else source
          let kind := if o.has 's' then "symbolic" else "hard"
          if (← kindOf goal).isSome && !o.has 'f' then
            failed "ln" 1 (octets s!"failed to create {kind} link " ++ quoted goal ++
              octets ": File exists")
          else
            let placeOf (path : Octets) := σ.files.locate σ.working (pathOf path)
            match placeOf seen, placeOf goal with
            | .ok place, .ok there =>
              match σ.files.node? place with
              | some node =>
                set (σ.withFiles (σ.files.put there node))
                return 0
              | none =>
                if o.has 's' then return 0
                failed "ln" 1 (octets "failed to access " ++ quoted source ++
                  octets ": No such file or directory")
            | _, .error fault =>
              failed "ln" 1 (octets s!"failed to create {kind} link " ++ quoted goal ++
                octets ": " ++ faultText fault)
            | .error fault, _ =>
              failed "ln" 1 (octets "failed to access " ++ quoted source ++ octets ": " ++
                faultText fault)) sources

/-- Whether a mode lets files be executed; none if the mode says nothing about that. -/
def executableBy (mode : Octets) : Option Bool :=
  if mode ≠ [] && mode.all Char.isDigit then
    some (mode.any fun c => (c.toNat - '0'.toNat) % 2 = 1)
  else
    (Text.pieces ',' mode).foldl (fun found clause =>
      let signs := clause.dropWhile fun c => "ugoa".toList.contains c
      match signs with
      | '+' :: letters => if letters.contains 'x' then some true else found
      | '-' :: letters => if letters.contains 'x' then some false else found
      | '=' :: letters => some (letters.contains 'x')
      | _ => found) none

/-- The text is a mode: octal digits, or clauses of letters with signs between them. -/
def isMode (mode : Octets) : Bool :=
  if mode.all Char.isDigit then mode ≠ [] && mode.all (· < '8')
  else
    (Text.pieces ',' mode).all fun clause =>
      let signs := clause.dropWhile fun c => "ugoa".toList.contains c
      signs.head?.any ("+-=".toList.contains ·) && signs.all ("+-=rwxXstugo".toList.contains ·)

def chmod : Utility := fun arguments => do
  let given := arguments.filter fun a =>
    !(["-R", "-v", "-f", "-c", "--recursive"].map octets).contains a
  match given with
  | mode :: paths =>
    if paths.isEmpty then
      complain "chmod" (octets "missing operand after " ++ quoted mode)
      hint "chmod"
      return 1
    if !isMode mode then
      complain "chmod" (octets "invalid mode: " ++ quoted mode)
      hint "chmod"
      return 1
    forAll (fun path => do
      let σ ← get
      match σ.files.locate σ.working (pathOf path) with
      | .error fault =>
        failed "chmod" 1 (octets "cannot access " ++ quoted path ++ octets ": " ++ faultText fault)
      | .ok place =>
        match σ.files.node? place with
        | some (.file content executable) =>
          let node := Node.file content ((executableBy mode).getD executable)
          set (σ.withFiles (σ.files.put place node))
          return 0
        | some .folder => return 0
        | none =>
          failed "chmod" 1 (octets "cannot access " ++ quoted path ++
            octets ": No such file or directory")) paths
  | [] => missingOperand "chmod"

/-! ## Listing -/

/-- Names in columns of one, as they are listed where nobody looks. -/
def ls : Utility := fun arguments =>
  withOptions "ls"
    { flags := "1aAbBcCdfFgGhHiklLmnNopqQrRsStuUvxXZ", valued := "ITw", status := 2
      long := [("all", 'a'), ("almost-all", 'A'), ("directory", 'd'), ("reverse", 'r'),
        ("classify", 'F'), ("recursive", 'R')] } arguments fun o paths => do
      let paths := if paths.isEmpty then [['.']] else sorted paths
      let order (names : List Octets) : List Octets :=
        let names := if o.has 'U' || o.has 'f' then names else sorted names
        if o.has 'r' then names.reverse else names
      let sizeOf (σ : State) (path : Octets) : Nat :=
        ((σ.files.read σ.working (pathOf path)).toOption.map List.length).getD 4096
      let mark (σ : State) (path : Octets) : Octets :=
        match σ.files.kind? σ.working (pathOf path) with
        | some .folder => if o.has 'F' || o.has 'p' then ['/'] else []
        | some .program => if o.has 'F' then ['*'] else []
        | _ => []
      let joined (shown : List Octets) : Octets :=
        if o.has 'm' then
          if shown.isEmpty then [] else Text.join [',', ' '] shown ++ ['\n']
        else unlines shown
      let namesOf (σ : State) (path : Octets) : List Octets :=
        let names := namesIn σ path
        let names := if o.has 'a' || o.has 'A' || o.has 'f' then names
          else names.filter fun n => n.head? ≠ some '.'
        let names := order names
        let names := if o.has 'S' then
            names.mergeSort fun a b => decide (sizeOf σ (below path b) ≤ sizeOf σ (below path a))
          else names
        if o.has 'a' || o.has 'f' then
          if o.has 'r' then names ++ [['.', '.'], ['.']] else ['.'] :: ['.', '.'] :: names
        else names
      let mut status := 0
      let mut files := []
      let mut folders := []
      for path in paths do
        match ← kindOf path with
        | none =>
          complain "ls" (octets "cannot access " ++ quoted path ++ octets ": " ++
            faultText (← faultAt path))
          status := 2
        | some .folder => if o.has 'd' then files := path :: files else folders := path :: folders
        | some _ => files := path :: files
      let σ ← get
      let shown := files.reverse.map fun f => f ++ mark σ f
      Running.emit (joined (if o.has 'r' then shown.reverse else shown))
      let listed := if o.has 'r' then folders else folders.reverse
      let listed := if o.has 'R' then listed.flatMap (deep namesOf σ 50) else listed
      let mut first := files.isEmpty
      for folder in listed do
        if listed.length + files.length > 1 || o.has 'R' || paths.length > 1 then
          Running.emit ((if first then [] else ['\n']) ++ folder ++ [':', '\n'])
        first := false
        Running.emit (joined ((namesOf σ folder).map fun n => n ++ mark σ (below folder n)))
      return status
where
  /-- A folder and all folders below it. -/
  deep (namesOf : State → Octets → List Octets) (σ : State) : Nat → Octets → List Octets
    | 0, path => [path]
    | fuel + 1, path =>
      let inner := ((namesOf σ path).filter fun n => n ≠ ['.'] && n ≠ ['.', '.']).map (below path)
      path :: (inner.filter (isFolder σ)).flatMap (deep namesOf σ fuel)

/-! ## Paths -/

/-- A name without an ending, unless nothing else is left of it. -/
def withoutEnding (name ending : Octets) : Octets :=
  match Text.after? ending.reverse name.reverse with
  | some (c :: rest) => (c :: rest).reverse
  | _ => name

def basename : Utility := fun arguments =>
  withOptions "basename"
    { flags := "az", valued := "s", long := [("multiple", 'a'), ("suffix", 's')], early := true }
    arguments fun o operands =>
      let printed (ending path : Octets) : Running Unit :=
        Running.emit (withoutEnding (baseOf path) ending ++ ['\n'])
      if o.has 'a' || o.has 's' then do
        for path in operands do
          printed ((o.value? 's').getD []) path
        return 0
      else
        match operands with
        | [] => missingOperand "basename"
        | [path] => do
          printed [] path
          return 0
        | [path, ending] => do
          printed ending path
          return 0
        | _ :: _ :: extra :: _ => do
          complain "basename" (octets "extra operand " ++ quoted extra)
          hint "basename"
          return 1

def dirname : Utility := fun arguments =>
  withOptions "dirname" { flags := "z", valued := "", early := true } arguments fun _ paths =>
    if paths.isEmpty then missingOperand "dirname"
    else do
      for path in paths do
        Running.emit (folderOf path ++ ['\n'])
      return 0

/-- The path from the root of what is at a path. -/
def realpath (name : String) : Utility := fun arguments =>
  withOptions name
    { flags := "eflmnqsvzLP", valued := "", long := [("canonicalize", 'f')] } arguments
    fun o paths =>
      if paths.isEmpty then missingOperand name
      else if name = "readlink" && !(o.has 'f' || o.has 'e' || o.has 'm') then return 1
      else
        forAll (fun path => do
          let σ ← get
          match σ.files.locate σ.working (pathOf path) with
          | .ok place =>
            if o.has 'e' && (σ.files.node? place).isNone then
              failed name 1 (path ++ octets ": No such file or directory")
            else
              let text := '/' :: Text.join ['/'] (place.map octets)
              Running.emit (if o.has 'n' then text else text ++ ['\n'])
              return 0
          | .error fault =>
            if name = "readlink" then return 1
            failed name 1 (path ++ octets ": " ++ faultText fault)) paths

/-- A file or folder with a new name. -/
def mktemp : Utility := fun arguments =>
  withOptions "mktemp"
    { flags := "dqtu", valued := "p", long := [("directory", 'd'), ("tmpdir", 'p')] } arguments
    fun o operands => do
      let σ ← get
      let template := operands.headD (octets "tmp.XXXXXXXXXX")
      let folder :=
        match o.value? 'p' with
        | some folder => folder
        | none =>
          if operands.isEmpty || o.has 't' then
            (σ.value? (octets "TMPDIR")).getD (octets "/tmp")
          else []
      let xs := (template.reverse.takeWhile (· = 'X')).length
      if xs < 3 then
        failed "mktemp" 1 (octets "too few X's in template " ++ quoted template)
      else
        let start := template.take (template.length - xs)
        let number := σ.files.entries.length
        let digits := decimal number
        let name := start ++ List.replicate (xs - digits.length) '0' ++ digits
        let path := if folder = [] then name else below folder name
        if o.has 'u' then
          Running.emit (path ++ ['\n'])
          return 0
        else if o.has 'd' then
          let status ← makeAt path
          if status = 0 then Running.emit (path ++ ['\n'])
          return status
        else
          let status ← change "mktemp"
            (octets "failed to create file via template " ++ quoted template)
            (σ.files.write σ.working (pathOf path) [])
          if status = 0 then Running.emit (path ++ ['\n'])
          return status

/-- Compares two files byte by byte. -/
def cmp : Utility := fun arguments =>
  withOptions "cmp"
    { flags := "bls", valued := "in", status := 2, long := [("quiet", 's'), ("silent", 's')] }
    arguments fun o files => do
      match files with
      | a :: rest =>
        let b := rest.headD ['-']
        match ← argumentContent a, ← argumentContent b with
        | .error fault, _ =>
          if o.has 's' then return 2
          failed "cmp" 2 (a ++ octets ": " ++ faultText fault)
        | _, .error fault =>
          if o.has 's' then return 2
          failed "cmp" 2 (b ++ octets ": " ++ faultText fault)
        | .ok x, .ok y =>
          if x = y then return 0
          if o.has 's' then return 1
          match (x.zip y).findIdx? fun (c, d) => c ≠ d with
          | some i =>
            let line := (x.take i).count '\n' + 1
            Running.emit (a ++ ' ' :: b ++ octets s!" differ: char {i + 1}, line {line}\n")
            return 1
          | none =>
            let (short, size) := if x.length < y.length then (a, x) else (b, y)
            let isEmpty := size.length = 0
            let behind := if isEmpty then octets " which is empty"
              else octets s!" after byte {size.length}, " ++
                (if size.getLast? = some '\n' then octets "line " else octets "in line ") ++
                decimal (size.count '\n' + if size.getLast? = some '\n' then 0 else 1)
            failed "cmp" 1 (octets "EOF on " ++ short ++ behind)
      | [] => missingOperand "cmp"

end MailMerge.Script.Utility
