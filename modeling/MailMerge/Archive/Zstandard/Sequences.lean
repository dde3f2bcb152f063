import MailMerge.Archive.Deflate
import MailMerge.Archive.Zstandard.Literals

/-!
# Sequences

Behind its literals a block has a row of sequences: so many literals, then a copy. Their three
numbers are state-coded, each by a table of its own, and a copy's distance may be one of the three
used last.
-/

namespace MailMerge.Archive.Zstandard

/-- What a symbol stands for: a least number and how many bits are added to it. -/
abbrev Codes := List (Nat × Nat)

def literalCodes : Codes :=
  (List.range 16).map (·, 0) ++
    [(16, 1), (18, 1), (20, 1), (22, 1), (24, 2), (28, 2), (32, 3), (40, 3), (48, 4), (64, 6),
      (128, 7), (256, 8), (512, 9), (1024, 10), (2048, 11), (4096, 12), (8192, 13), (16384, 14),
      (32768, 15), (65536, 16)]

def copyCodes : Codes :=
  (List.range 32).map (fun n => (n + 3, 0)) ++
    [(35, 1), (37, 1), (39, 1), (41, 1), (43, 2), (47, 2), (51, 3), (59, 3), (67, 4), (83, 4),
      (99, 5), (131, 7), (259, 8), (515, 9), (1027, 10), (2051, 11), (4099, 12), (8195, 13),
      (16387, 14), (32771, 15), (65539, 16)]

def distanceCodes : Codes :=
  (List.range 32).map fun n => (Nat.pow 2 n, n)

/-- One of the three numbers of a sequence: its symbols, the finest accuracy of a table, and the
distribution that every decoder knows. -/
structure Part where
  codes : Codes
  finest : Nat
  known : Distribution

namespace Part

/-- A distribution from shares, of which the last ones are less than one part. -/
def distribution (accuracy : Nat) (shares : List Nat) (rare : Nat) : Distribution :=
  ⟨accuracy, shares.map some ++ List.replicate rare none⟩

def literals : Part :=
  ⟨literalCodes, 9, distribution 6
    [4, 3, 2, 2, 2, 2, 2, 2, 2, 2, 2, 2, 2, 1, 1, 1, 2, 2, 2, 2, 2, 2, 2, 2, 2, 3, 2, 1, 1, 1, 1,
      1] 4⟩

def distances : Part :=
  ⟨distanceCodes, 8, distribution 5
    [1, 1, 1, 1, 1, 1, 2, 2, 2, 1, 1, 1, 1, 1, 1, 1, 1, 1, 1, 1, 1, 1, 1, 1] 5⟩

def copies : Part :=
  ⟨copyCodes, 9, distribution 6
    ([1, 4, 3, 2, 2, 2, 2, 2, 2] ++ List.replicate 37 1) 7⟩

/-- The table of a part and the bytes after it: the known one, that of one symbol, a new one, or the
one used last. -/
def table? (p : Part) (mode : Nat) (last : Option StateTable) (bytes : Bytes) :
    Option (StateTable × Bytes) :=
  match mode with
  | 0 => some (p.known.table, bytes)
  | 1 =>
    match bytes with
    | b :: rest => if b.toNat < p.codes.length then some (.only b.toNat, rest) else none
    | [] => none
  | 2 => (Distribution.read? p.codes.length p.finest bytes).map fun (d, rest) => (d.table, rest)
  | _ => last.map fun t => (t, bytes)

end Part

/-- The tables of the three parts. -/
structure Tables where
  literals : StateTable
  distances : StateTable
  copies : StateTable

/-- What blocks leave for the ones after them. -/
structure Memory where
  code : Option WordTable
  tables : Option Tables
  recent : Nat × Nat × Nat

def Memory.start : Memory :=
  ⟨none, none, (1, 4, 8)⟩

/-- So many literals, and then a copy of some length. The distance is a number whose first three
values stand for distances that were used. -/
structure Sequence where
  literals : Nat
  distance : Nat
  copy : Nat
  deriving DecidableEq, Repr

/-- The states of the three tables. -/
structure States where
  literals : StateCell
  distances : StateCell
  copies : StateCell

namespace Sequence

/-- The number that a state's symbol and some more bits stand for. -/
def number? (codes : Codes) (c : StateCell) (s : BitStream) : Option (Nat × BitStream) := do
  let (least, bits) ← codes[c.symbol]?
  let (n, s) ← s.highBits? bits
  return (least + n, s)

/-- Reads sequences up to the end of the stream. -/
def readFrom? (t : Tables) : Nat → States → BitStream → Option (List Sequence)
  | 0, _, s => if s.size = 0 then some [] else none
  | n + 1, c, s => do
    let (distance, s) ← number? distanceCodes c.distances s
    let (copy, s) ← number? copyCodes c.copies s
    let (literals, s) ← number? literalCodes c.literals s
    if n = 0 then return ⟨literals, distance, copy⟩ :: (← readFrom? t n c s)
    else
      let (nextLiterals, s) ← t.literals.next? c.literals s
      let (nextCopies, s) ← t.copies.next? c.copies s
      let (nextDistances, s) ← t.distances.next? c.distances s
      let rest ← readFrom? t n ⟨nextLiterals, nextDistances, nextCopies⟩ s
      return ⟨literals, distance, copy⟩ :: rest

/-- The number of sequences, and the bytes after it. -/
def count? : Bytes → Option (Nat × Bytes)
  | [] => none
  | a :: rest =>
    if a < 128 then some (a.toNat, rest)
    else if a < 255 then
      match rest with
      | b :: rest => some (256 * (a.toNat - 128) + b.toNat, rest)
      | [] => none
    else (LittleEndian.read? 2 rest).map fun (n, rest) => (n + 0x7F00, rest)

/-- The tables that a byte says how to find, and the bytes after them. -/
def tables? (last : Option Tables) : Bytes → Option (Tables × Bytes)
  | [] => none
  | modes :: rest => do
    let n := modes.toNat
    let (literals, rest) ← Part.literals.table? (n / 64) (last.map Tables.literals) rest
    let (distances, rest) ← Part.distances.table? (n / 16 % 4) (last.map Tables.distances) rest
    let (copies, rest) ← Part.copies.table? (n / 4 % 4) (last.map Tables.copies) rest
    if n % 4 = 0 then return (⟨literals, distances, copies⟩, rest) else none

/-- The sequences of a block, with the tables that are used last. -/
def read? (last : Option Tables) (bytes : Bytes) : Option (List Sequence × Option Tables) := do
  let (count, rest) ← count? bytes
  if count = 0 then if rest.isEmpty then return ([], last) else none
  else
    let (t, rest) ← tables? last rest
    let s ← BitStream.ofEnd? rest
    let (literals, s) ← t.literals.start? s
    let (distances, s) ← t.distances.start? s
    let (copies, s) ← t.copies.start? s
    return (← readFrom? t count ⟨literals, distances, copies⟩ s, some t)

/-- The distance that a sequence's number stands for, and the three distances used last. Without
literals before the copy the number is one of those behind. -/
def distance? (q : Sequence) (recent : Nat × Nat × Nat) : Option (Nat × Nat × Nat) :=
  let (first, second, third) := recent
  if 3 < q.distance then some (q.distance - 3, first, second)
  else
    match q.distance - 1 + if q.literals = 0 then 1 else 0 with
    | 0 => some (first, second, third)
    | 1 => some (second, first, third)
    | 2 => some (third, first, second)
    | _ => if first = 1 then none else some (first - 1, first, second)

/-- Follows sequences: takes literals and makes copies. -/
def follow? (recent : Nat × Nat × Nat) (literals : Bytes) (output : Array UInt8) :
    List Sequence → Option (Array UInt8 × (Nat × Nat × Nat))
  | [] => some (output ++ literals, recent)
  | q :: qs => do
    let taken := literals.take q.literals
    let recent ← q.distance? recent
    if taken.length < q.literals then none
    else
      let output ← copyBack recent.1 q.copy (output ++ taken)
      follow? recent (literals.drop q.literals) output qs

end Sequence

/-- A coded block behind the output so far: the output with it, and what it leaves for later
blocks. -/
def readBlock? (m : Memory) (output : Array UInt8) (bytes : Bytes) :
    Option (Array UInt8 × Memory) := do
  let literals ← Literals.read? m.code bytes
  let (sequences, tables) ← Sequence.read? m.tables literals.rest
  let (output, recent) ← Sequence.follow? m.recent literals.content output sequences
  return (output, ⟨literals.code, tables, recent⟩)

end MailMerge.Archive.Zstandard
