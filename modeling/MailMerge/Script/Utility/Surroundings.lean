import MailMerge.Digest
import MailMerge.Script.Utility.Printing

/-!
# Time, surroundings and codes

Utilities that wait, that tell about the system they run on, and that write bytes in other ways.
-/

namespace MailMerge.Script.Utility

/-- The time after which nobody waits for a script any more, in thousandths of a second. -/
def patience : Nat := 10000000

/-- Lets time pass; whoever waits for the script may give up meanwhile. -/
def waitFor (thousandths : Nat) : Running Unit := do
  let σ ← get
  let clock := σ.world.clock + thousandths
  set { σ with world := { σ.world with clock := clock } }
  match σ.world.deadline with
  | some limit => if limit ≤ clock then throw .late
  | none => if patience ≤ clock then throw .endless

/-- The seconds in a unit of time. -/
def secondsOf? : Octets → Option Nat
  | [] | ['s'] => some 1
  | ['m'] => some 60
  | ['h'] => some 3600
  | ['d'] => some 86400
  | _ => none

/-- The longest time that is told apart from longer ones, in thousandths of a second. -/
def longestTime : Nat := 1000000000000

/-- A length of time in thousandths of a second: a number with a letter for its unit. -/
def interval? (cs : Octets) : Option Nat :=
  match Printing.float? cs with
  | some (.finite negative m e, rest) =>
    if negative && m ≠ 0 then none
    else
      (secondsOf? rest).map fun seconds =>
        if 64 < e then longestTime
        else
          let (num, den) := Binary64.quotient m e
          min longestTime (num * seconds * 1000 / den)
  | some (.infinite false, rest) => (secondsOf? rest).map fun _ => longestTime
  | _ => none

def sleep : Utility := fun arguments => do
  let given := if arguments.head? = some ['-', '-'] then arguments.drop 1 else arguments
  match given.find? fun a => a.head? = some '-' && a.length ≠ 1, given with
  | some ('-' :: c :: _), _ =>
    complain "sleep" (octets "invalid option -- '" ++ [c, '\''])
    hint "sleep"
    return 1
  | _, [] => missingOperand "sleep"
  | _, given =>
    let bad := given.filter fun a => (interval? a).isNone
    for a in bad do
      complain "sleep" (octets "invalid time interval " ++ quoted a)
    if bad.isEmpty then
      waitFor ((given.filterMap interval?).foldl (· + ·) 0)
      return 0
    else
      hint "sleep"
      return 1

/-- The folder in which a utility runs. -/
def workingFolder : Utility := fun _ => do
  Running.emit ((← get).folder ++ ['\n'])
  return 0

/-- The values of variables that other programs see. -/
def printenv : Utility := fun arguments => do
  let environment := (← get).environment
  if arguments.isEmpty then
    Running.emit (unlines (environment.map fun (name, value) => name ++ '=' :: value))
    return 0
  else
    let values := arguments.map fun a => (environment.find? fun v => v.1 = a).map Prod.snd
    Running.emit (unlines (values.filterMap id))
    return if values.all Option.isSome then 0 else 1

/-- A line that does not depend on the arguments. -/
def line (text : String) : Utility := fun _ => do
  Running.emit (octets (text ++ "\n"))
  return 0

/-- Who runs scripts: the user with the number zero. -/
def user : Utility := fun arguments =>
  withOptions "id" { flags := "aGgnruz", valued := "" } arguments fun o _ => do
    let one := o.has 'u' || o.has 'g' || o.has 'G'
    line (if !one then "uid=0(root) gid=0(root) groups=0(root)"
      else if o.has 'n' then "root" else "0") []

def uname : Utility := fun arguments =>
  withOptions "uname" { flags := "amnoprsv", valued := "" } arguments fun o _ =>
    line (if o.has 'm' && !o.has 's' then "x86_64"
      else if o.has 'o' then "GNU/Linux" else "Linux") []

/-- Tells the terminal of the input, of which there is none. -/
def tty : Utility := fun arguments => do
  if !arguments.contains ['-', 's'] then Running.emit (octets "not a tty\n")
  return 1

/-- The digest of each input, in a line with its name. -/
def sha256sum : Utility := fun arguments =>
  withOptions "sha256sum" { flags := "bctwz", valued := "" } arguments fun o files =>
    forInputs "sha256sum" files fun name content =>
      let digest := octets (Digest.hex (Digest.sha256 (toBytes content)))
      Running.emit (digest ++ (if o.has 'b' then octets " *" else octets "  ") ++ name ++ ['\n'])

/-! ## Base 64 -/

def base64Digits : List Char :=
  "ABCDEFGHIJKLMNOPQRSTUVWXYZabcdefghijklmnopqrstuvwxyz0123456789+/".toList

def base64Digit (n : Nat) : Char :=
  base64Digits.getD (n % 64) '='

/-- Three bytes in four digits each, with a mark for each byte that is missing at the end. -/
def encode64 : List Nat → Octets
  | a :: b :: c :: rest =>
    let n := 65536 * a + 256 * b + c
    base64Digit (n / 262144) :: base64Digit (n / 4096) :: base64Digit (n / 64) ::
      base64Digit n :: encode64 rest
  | [a, b] =>
    let n := 65536 * a + 256 * b
    [base64Digit (n / 262144), base64Digit (n / 4096), base64Digit (n / 64), '=']
  | [a] =>
    let n := 65536 * a
    [base64Digit (n / 262144), base64Digit (n / 4096), '=', '=']
  | [] => []

/-- The bytes of groups of four digits, and whether nothing else was among them. -/
def decode64 : List Char → Octets × Bool
  | [] => ([], true)
  | [a, b, '=', '='] =>
    match base64Digits.idxOf? a, base64Digits.idxOf? b with
    | some m, some n => ([Char.ofNat (4 * m + n / 16)], true)
    | _, _ => ([], false)
  | [a, b, c, '='] =>
    match base64Digits.idxOf? a, base64Digits.idxOf? b, base64Digits.idxOf? c with
    | some m, some n, some k =>
      ([Char.ofNat (4 * m + n / 16), Char.ofNat (n % 16 * 16 + k / 4)], true)
    | _, _, _ => ([], false)
  | a :: b :: c :: d :: rest =>
    match base64Digits.idxOf? a, base64Digits.idxOf? b, base64Digits.idxOf? c,
      base64Digits.idxOf? d with
    | some m, some n, some k, some l =>
      let (more, whole) := decode64 rest
      (Char.ofNat (4 * m + n / 16) :: Char.ofNat (n % 16 * 16 + k / 4) ::
        Char.ofNat (k % 4 * 64 + l) :: more, whole)
    | _, _, _, _ => ([], false)
  | _ => ([], false)

/-- Lines of so many characters. -/
def wrapped (width : Nat) : Nat → Octets → List Octets
  | 0, _ => []
  | fuel + 1, cs =>
    if cs = [] then []
    else if width = 0 then [cs]
    else cs.take width :: wrapped width fuel (cs.drop width)

def base64 : Utility := fun arguments =>
  withOptions "base64"
    { flags := "di", valued := "w", long := [("decode", 'd'), ("wrap", 'w')] } arguments
    fun o files => do
      let (content, status) ← allInput "base64" files
      if status ≠ 0 then return status
      if o.has 'd' then
        let (text, whole) := decode64 (content.filter fun c =>
          c ≠ '\n' && (!o.has 'i' || base64Digits.contains c || c = '='))
        Running.emit text
        if whole then return 0 else failed "base64" 1 (octets "invalid input")
      else
        let code := encode64 (content.map Char.toNat)
        let width := ((o.value? 'w').bind natural?).getD 76
        let lines := wrapped width (code.length + 1) code
        Running.emit (if width = 0 then code else unlines lines)
        return 0

end MailMerge.Script.Utility
