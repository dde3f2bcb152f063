import MailMerge.Script.Utility.Lines

/-!
# Dumps

How bytes are shown as numbers or characters, each group of them in a column.
-/

namespace MailMerge.Script.Utility

open Lines

/-- How a dump shows groups of bytes: their size, the width of a group, and its text. -/
structure DumpType where
  size : Nat
  width : Nat
  text : List Nat → Octets

/-- The number that bytes are, the last one first. -/
def littleEndian (bytes : List Nat) : Nat :=
  bytes.foldr (fun b n => b + 256 * n) 0

def charName (b : Nat) : Octets :=
  match b with
  | 0 => octets "\\0"
  | 7 => octets "\\a"
  | 8 => octets "\\b"
  | 9 => octets "\\t"
  | 10 => octets "\\n"
  | 11 => octets "\\v"
  | 12 => octets "\\f"
  | 13 => octets "\\r"
  | _ => if 32 ≤ b && b < 127 then [Char.ofNat b] else based 8 3 '0' b

def namedChars : List String :=
  ["nul", "soh", "stx", "etx", "eot", "enq", "ack", "bel", "bs", "ht", "nl", "vt", "ff", "cr",
    "so", "si", "dle", "dc1", "dc2", "dc3", "dc4", "nak", "syn", "etb", "can", "em", "sub", "esc",
    "fs", "gs", "rs", "us", "sp"]

def dumpType? (cs : Octets) : Option DumpType :=
  let sizeOf (cs : Octets) (usual : Nat) : Nat :=
    match cs with
    | 'C' :: _ => 1
    | 'S' :: _ => 2
    | 'I' :: _ => 4
    | 'L' :: _ => 8
    | cs => (natural? cs).getD usual
  let digits (base bits : Nat) : Nat :=
    (Nat.toDigits base (Nat.pow 2 bits - 1)).length
  match cs with
  | 'c' :: _ => some ⟨1, 3, fun bs => charName (bs.headD 0)⟩
  | 'a' :: _ => some ⟨1, 3, fun bs =>
      let b := bs.headD 0 % 128
      if b = 127 then octets "del" else ((namedChars[b]?).map octets).getD [Char.ofNat b]⟩
  | letter :: rest =>
    let size := sizeOf rest 4
    let bits := 8 * size
    match letter with
    | 'o' => some ⟨size, digits 8 bits, fun bs => based 8 (digits 8 bits) '0' (littleEndian bs)⟩
    | 'x' => some ⟨size, 2 * size, fun bs => based 16 (2 * size) '0' (littleEndian bs)⟩
    | 'u' => some ⟨size, digits 10 bits, fun bs => decimal (littleEndian bs)⟩
    | 'd' => some ⟨size, digits 10 (bits - 1) + 1, fun bs =>
        let n := littleEndian bs
        decimalInt (if n < Nat.pow 2 (bits - 1) then n else (n : Int) - Nat.pow 2 bits)⟩
    | _ => none
  | [] => none

/-- Groups of bytes of a size; the last group is filled up with zeros. -/
def groupsOf (size : Nat) : Nat → List Nat → List (List Nat)
  | 0, _ => []
  | _, [] => []
  | fuel + 1, bs =>
    let group := bs.take size
    (group ++ List.replicate (size - group.length) 0) :: groupsOf size fuel (bs.drop size)

def od : Utility := fun arguments =>
  withOptions "od" { flags := "abcdDeFfhHiIlLoOsSvxX", valued := "AjNtw" } arguments
    fun o files => do
      let (content, status) ← allInput "od" files
      let skip := ((o.value? 'j').bind Lines.sized?).getD 0
      let content := content.drop skip
      let content := match (o.value? 'N').bind Lines.sized? with
        | some n => content.take n
        | none => content
      let bytes := content.map Char.toNat
      let types := o.flatMap fun (letter, value) =>
        match letter with
        | 't' => (pieces value).map dumpType?
        | 'c' => [dumpType? ['c']]
        | 'a' => [dumpType? ['a']]
        | 'b' => [dumpType? (octets "o1")]
        | 'd' => [dumpType? (octets "u2")]
        | 'o' => [dumpType? (octets "o2")]
        | 'x' => [dumpType? (octets "x2")]
        | 's' => [dumpType? (octets "d2")]
        | 'i' => [dumpType? (octets "d4")]
        | _ => []
      let types := (types.filterMap id)
      let types := if types.isEmpty then [dumpType? (octets "o2")].filterMap id else types
      let base := (o.value? 'A').getD ['o']
      let perLine := ((o.value? 'w').bind natural?).getD 16
      let address (n : Nat) : Octets :=
        match base with
        | ['n'] => []
        | ['d'] => based 10 7 '0' n
        | ['x'] => based 16 6 '0' n
        | _ => based 8 7 '0' n
      let fieldsOf (t : DumpType) : Nat := max 1 (perLine / t.size)
      let room := types.foldl (fun n t => max n ((t.width + 1) * fieldsOf t)) 0
      let line (bs : List Nat) (n : Nat) : Octets :=
        (types.zipIdx).flatMap fun (t, i) =>
          let fields := fieldsOf t
          let spare := room - t.width * fields
          let groups := groupsOf t.size (bs.length + 1) bs
          let text := groups.zipIdx.flatMap fun (g, k) =>
            let s := t.text g
            let width := spare * (fields - k) / fields - spare * (fields - k - 1) / fields + t.width
            List.replicate (width - s.length) ' ' ++ s
          let start := address n
          (if i = 0 then start else List.replicate start.length ' ') ++ text ++ ['\n']
      let rows := rowsOf perLine (bytes.length + 1) bytes
      let shown := (rows.zipIdx).foldl
        (fun ((before, starred, out) : Option (List Nat) × Bool × List Octets) (row, i) =>
          if before = some row && row.length = perLine && !o.has 'v' then
            (before, true, if starred then out else ['*', '\n'] :: out)
          else (some row, false, line row (skip + i * perLine) :: out)) (none, false, [])
      Running.emit (shown.2.2.reverse.flatMap id)
      if base ≠ ['n'] then Running.emit (address (skip + bytes.length) ++ ['\n'])
      return status
where
  /-- The types of an option, each a letter with a size. -/
  pieces (cs : Octets) : List Octets :=
    cs.foldr (fun c done =>
      if c.isAlpha && c.isLower then
        match done with
        | d :: rest => if d.head?.any fun x => x.isDigit || x.isUpper then (c :: d) :: rest
          else [c] :: done
        | [] => [[c]]
      else
        match done with
        | d :: rest => if d.head?.any Char.isDigit && c.isDigit then (c :: d) :: rest
          else [c] :: done
        | [] => [[c]]) []
  rowsOf (size : Nat) : Nat → List Nat → List (List Nat)
    | 0, _ => []
    | _, [] => []
    | fuel + 1, bs => bs.take size :: rowsOf size fuel (bs.drop size)

end MailMerge.Script.Utility
