import MailMerge.Script.Utility.Folders
import MailMerge.Script.Utility.Lines

/-!
# Sizes and blocks of files

Utilities that copy parts of files, cut files to a size, tell what is known of them, and give them
other names.
-/

namespace MailMerge.Script.Utility

open Folders

/-! ## Copying blocks -/

/-- A number of bytes: factors with an `x` between them, each with a letter for its unit. -/
def blockSize? (cs : Octets) : Option Nat :=
  ((Text.pieces 'x' cs).map fun part =>
    match part.reverse with
    | 'c' :: digits => natural? digits.reverse
    | 'w' :: digits => (natural? digits.reverse).map (2 * ·)
    | _ => Lines.sized? part).foldl (fun product n =>
      product.bind fun p => n.map (p * ·)) (some 1)

/-- The operands of copying blocks, each a name with a value. -/
abbrev Operands := List (String × Octets)

def Operands.value? (o : Operands) (name : String) : Option Octets :=
  (o.reverse.find? fun e => e.1 = name).map Prod.snd

def Operands.has (o : Operands) (name word : String) : Bool :=
  ((o.value? name).getD [] |> Text.pieces ',').contains (octets word)

def blockNames : List String :=
  ["if", "of", "bs", "ibs", "obs", "cbs", "count", "skip", "seek", "iseek", "oseek", "conv",
    "status", "iflag", "oflag"]

def dd : Utility := fun arguments => do
  let mut o : Operands := []
  for a in arguments do
    let named := (Text.cutFirst '=' a).filter fun (name, _) =>
      blockNames.contains (String.ofList name)
    match named with
    | some (name, value) => o := o ++ [(String.ofList name, value)]
    | none =>
      complain "dd" (octets "unrecognized operand " ++ quoted a)
      hint "dd"
      return 1
  let numbers := o.filter fun e => ["bs", "ibs", "obs", "count", "skip", "seek"].contains e.1
  match numbers.find? fun e => (blockSize? e.2).isNone with
  | some (_, value) => failed "dd" 1 (octets "invalid number: " ++ quoted value)
  | none =>
    let number (name : String) (usual : Nat) := ((o.value? name).bind blockSize?).getD usual
    let size := number "bs" (number "ibs" 512)
    let content ←
      match o.value? "if" with
      | some path => contentOf path
      | none => do pure (Except.ok (← Running.input))
    match content with
    | .error fault =>
      let path := (o.value? "if").getD []
      failed "dd" 1 (octets "failed to open " ++ quoted path ++ octets ": " ++ faultText fault)
    | .ok content =>
      let content := content.drop (size * number "skip" 0)
      let content := match o.value? "count" with
        | some _ => content.take (size * number "count" 0)
        | none => content
      let changed :=
        if o.has "conv" "ucase" then content.map Char.toUpper
        else if o.has "conv" "lcase" then content.map Char.toLower
        else content
      let status ←
        match o.value? "of" with
        | none => do
          Running.emit changed
          pure 0
        | some path =>
          if path = octets "/dev/null" then pure 0
          else
            let σ ← get
            let before := (σ.files.read σ.working (pathOf path)).toOption.getD []
            let place := number "bs" (number "obs" 512) * number "seek" 0
            let front := before.take place
            let gap := List.replicate (place - front.length) (0 : UInt8)
            let behind :=
              if o.has "conv" "notrunc" then before.drop (place + changed.length) else []
            change "dd" (octets "failed to open " ++ quoted path)
              (σ.files.write σ.working (pathOf path) (front ++ gap ++ toBytes changed ++ behind))
      if !o.has "status" "none" then
        let full := content.length / max size 1
        let part := if content.length % max size 1 = 0 then 0 else 1
        let records := decimal full ++ '+' :: decimal part ++ octets " records "
        Running.report (records ++ octets "in")
        Running.report (records ++ octets "out")
        if !o.has "status" "noxfer" then
          Running.report (decimal content.length ++ octets " bytes copied, 0 s, 0 B/s")
      return status

/-! ## Sizes -/

def truncate : Utility := fun arguments =>
  withOptions "truncate"
    { flags := "co", valued := "rs", long := [("size", 's'), ("no-create", 'c')] } arguments
    fun o paths => do
      match o.value? 's' with
      | none =>
        complain "truncate" (octets "you must specify either '--size' or '--reference'")
        hint "truncate"
        return 1
      | some asked =>
        let (sign, digits) := match asked with
          | '+' :: rest => ('+', rest)
          | '-' :: rest => ('-', rest)
          | rest => ('=', rest)
        match Lines.sized? digits with
        | none => failed "truncate" 1 (octets "Invalid number: " ++ quoted asked)
        | some n =>
          if paths.isEmpty then
            complain "truncate" (octets "missing file operand")
            hint "truncate"
            return 1
          forAll (fun path => do
            let σ ← get
            match σ.files.read σ.working (pathOf path) with
            | .error .isFolder =>
              failed "truncate" 1 (octets "cannot open " ++ quoted path ++
                octets " for writing: Is a directory")
            | found =>
              let content := found.toOption.getD []
              if o.has 'c' && found.toOption.isNone then return 0
              let size :=
                if sign = '+' then content.length + n
                else if sign = '-' then content.length - n
                else n
              let kept := content.take size
              let filled := kept ++ List.replicate (size - kept.length) (0 : UInt8)
              change "truncate" (octets "cannot open " ++ quoted path ++ octets " for writing")
                (σ.files.write σ.working (pathOf path) filled)) paths

/-- What is known of a file, by the letter that asks for it. -/
def known (path : Octets) (kind : Kind) (size : Nat) : Char → Octets
  | 'n' => path
  | 'N' => quoted path
  | 's' => decimal size
  | 'F' =>
    octets (if kind = .folder then "directory"
      else if size = 0 then "regular empty file" else "regular file")
  | 'a' => octets (if kind = .file then "644" else "755")
  | 'A' =>
    octets (match kind with
      | .folder => "drwxr-xr-x"
      | .program => "-rwxr-xr-x"
      | .file => "-rw-r--r--")
  | 'U' | 'G' => octets "root"
  | 'u' | 'g' => ['0']
  | 'h' => ['1']
  | '%' => ['%']
  | c => ['?', c].drop (if c = '?' then 1 else 0)

def stat : Utility := fun arguments =>
  withOptions "stat"
    { flags := "Lft", valued := "cp"
      long := [("format", 'c'), ("printf", 'p'), ("dereference", 'L')] } arguments fun o paths => do
      if paths.isEmpty then missingOperand "stat"
      else
        forAll (fun path => do
          match ← kindOf path with
          | none =>
            failed "stat" 1 (octets "cannot statx " ++ quoted path ++ octets ": " ++
              faultText (← faultAt path))
          | some kind =>
            let σ ← get
            let size := ((σ.files.read σ.working (pathOf path)).toOption.map List.length).getD 4096
            let line (format : Octets) := laid path kind size format
            match o.value? 'c', o.value? 'p' with
            | some format, _ => Running.emit (line format ++ ['\n'])
            | none, some format => Running.emit (line format)
            | none, none =>
              Running.emit (line (octets "  File: %n\n  Size: %s\n"))
            return 0) paths
where
  laid (path : Octets) (kind : Kind) (size : Nat) : Octets → Octets
    | '%' :: c :: rest => known path kind size c ++ laid path kind size rest
    | '\\' :: 'n' :: rest => '\n' :: laid path kind size rest
    | '\\' :: 't' :: rest => '\t' :: laid path kind size rest
    | c :: rest => c :: laid path kind size rest
    | [] => []

/-! ## Names -/

def link : Utility := fun arguments => do
  match arguments with
  | [source, target] =>
    let σ ← get
    let cannot (text : Octets) : Running Nat :=
      failed "link" 1 (octets "cannot create link " ++ quoted target ++ octets " to " ++
        quoted source ++ octets ": " ++ text)
    match σ.files.locate σ.working (pathOf source), σ.files.locate σ.working (pathOf target) with
    | .ok place, .ok there =>
      match σ.files.node? place, σ.files.node? there with
      | none, _ => cannot (octets "No such file or directory")
      | some .folder, _ => cannot (octets "Operation not permitted")
      | some _, some _ => cannot (octets "File exists")
      | some node, none =>
        set (σ.withFiles (σ.files.put there node))
        return 0
    | .error fault, _ | _, .error fault => cannot (faultText fault)
  | [] => missingOperand "link"
  | [a] =>
    complain "link" (octets "missing operand after " ++ quoted a)
    hint "link"
    return 1
  | _ :: _ :: c :: _ =>
    complain "link" (octets "extra operand " ++ quoted c)
    hint "link"
    return 1

def unlink : Utility := fun arguments => do
  match arguments with
  | [path] =>
    let σ ← get
    match ← kindOf path with
    | none =>
      failed "unlink" 1 (octets "cannot unlink " ++ quoted path ++ octets ": " ++
        faultText (← faultAt path))
    | some .folder =>
      failed "unlink" 1 (octets "cannot unlink " ++ quoted path ++ octets ": Is a directory")
    | some _ =>
      change "unlink" (octets "cannot unlink " ++ quoted path)
        (σ.files.removeFile σ.working (pathOf path))
  | [] => missingOperand "unlink"
  | _ :: b :: _ =>
    complain "unlink" (octets "extra operand " ++ quoted b)
    hint "unlink"
    return 1

/-- Copies files as programs, or makes folders. -/
def install : Utility := fun arguments =>
  withOptions "install"
    { flags := "bcCdDpsTv", valued := "gmot"
      long := [("mode", 'm'), ("directory", 'd'), ("target-directory", 't')] } arguments
    fun o operands => do
      if o.has 'd' then mkdir (octets "-p" :: operands)
      else
        let isProgram := match (o.value? 'm').map String.ofList with
          | some mode => mode.toList.any fun c => c = '7' || c = '5' || c = '1' || c = 'x'
          | none => true
        sourcesAndTarget "install" o operands fun sources target into =>
          forAll (fun source => do
            if o.has 'D' then
              let _ ← mkdir [octets "-p", if into then target else folderOf target]
            let goal := if into then below target (baseOf source) else target
            let status ← copyTo false true source goal
            if status ≠ 0 then return status
            chmod [octets (if isProgram then "755" else "644"), goal]) sources

end MailMerge.Script.Utility
