import MailMerge.Archive.LittleEndian
import MailMerge.Archive.Zstandard.StateTable

/-!
# Literals

The literals of a block stand in front of it: as they are, as one byte many times, or in a prefix
code, which is given by the weights of its words, or is the one used last.
-/

namespace MailMerge.Archive.Zstandard

/-- A prefix code as the symbol, and the length of its word, for all that `longest` bits can be. -/
structure WordTable where
  longest : Nat
  words : Array (UInt8 × Nat)
  deriving Repr

namespace WordTable

/-- The symbols of a stream with two states that take turns, up to where the bits for the next
state run out. -/
def takeTurns (t : StateTable) (fuel : Nat) (current other : StateCell) (s : BitStream) :
    Option (List Nat) :=
  match fuel with
  | 0 => none
  | fuel + 1 =>
    match t.next? current s with
    | none => some [current.symbol, other.symbol]
    | some (next, s) => (takeTurns t fuel other next s).map (current.symbol :: ·)

/-- The greatest weight, and the greatest number of weights that are given. -/
def greatest : Nat := 12

def mostWeights : Nat := 255

/-- Weights in state-coded form. -/
def codedWeights? (bytes : Bytes) : Option (List Nat) := do
  let (d, rest) ← Distribution.read? 256 6 bytes
  let t := d.table
  let s ← BitStream.ofEnd? rest
  let (first, s) ← t.start? s
  let (second, s) ← t.start? s
  takeTurns t (mostWeights - 1) first second s

/-- The weights of the words, given in coded form or as half a byte each, and the bytes after
them. -/
def weights? : Bytes → Option (List Nat × Bytes)
  | [] => none
  | b :: rest =>
    let n := b.toNat
    if n < 128 then
      if rest.length < n then none
      else (codedWeights? (rest.take n)).map fun ws => (ws, rest.drop n)
    else
      let size := (n - 126) / 2
      if rest.length < size then none
      else
        let halves := (rest.take size).flatMap fun b => [b.toNat / 16, b.toNat % 16]
        some (halves.take (n - 127), rest.drop size)

/-- The parts that a weight stands for. -/
def parts (weight : Nat) : Nat :=
  Nat.pow 2 weight / 2

/-- The code with these weights and the one that is left out, which fills up a power of two. The
lightest words must be an even number, and some. -/
def ofWeights? (weights : List Nat) : Option WordTable :=
  let total := (weights.map parts).foldl (· + ·) 0
  let longest := Nat.log2 total + 1
  let left := Nat.pow 2 longest - total
  let last := Nat.log2 left + 1
  let all := weights ++ [last]
  if weights.any (greatest < ·) || total = 0 || greatest < longest || parts last ≠ left ||
      all.count 1 < 2 || all.count 1 % 2 = 1 then none
  else
    let words := (List.range longest).flatMap fun i =>
      (all.zipIdx.filter fun p => p.1 = i + 1).flatMap fun p =>
        List.replicate (parts (i + 1)) (UInt8.ofNat p.2, longest - i)
    some ⟨longest, words.toArray⟩

def read? (bytes : Bytes) : Option (WordTable × Bytes) := do
  let (weights, rest) ← weights? bytes
  return (← ofWeights? weights, rest)

/-- The number that the next `n` bits are, where missing bits are zeros. -/
def peek : Nat → List Bool → Nat
  | 0, _ => 0
  | _, [] => 0
  | n + 1, b :: bits => b.toNat * Nat.pow 2 n + peek n bits

/-- Exactly `n` literals from the bits of a stream. -/
def decode? (t : WordTable) : Nat → List Bool → Option Bytes
  | 0, bits => if bits.isEmpty then some [] else none
  | n + 1, bits =>
    match t.words[peek t.longest bits]? with
    | none => none
    | some (b, length) =>
      if (bits.take length).length < length then none
      else (decode? t n (bits.drop length)).map (b :: ·)

/-- Exactly `n` literals from a stream that is read from its end. -/
def stream? (t : WordTable) (n : Nat) (bytes : Bytes) : Option Bytes :=
  (BitStream.ofEnd? bytes).bind fun s => decode? t n s.pending

/-- Exactly `n` literals from four streams, of which the first three have their sizes in front. -/
def streams? (t : WordTable) (n : Nat) (bytes : Bytes) : Option Bytes := do
  let (first, bytes) ← LittleEndian.read? 2 bytes
  let (second, bytes) ← LittleEndian.read? 2 bytes
  let (third, bytes) ← LittleEndian.read? 2 bytes
  let each := (n + 3) / 4
  if n < 6 || bytes.length < first + second + third + 1 then none
  else
    let a ← t.stream? each (bytes.take first)
    let b ← t.stream? each ((bytes.drop first).take second)
    let c ← t.stream? each ((bytes.drop (first + second)).take third)
    let d ← t.stream? (n - 3 * each) (bytes.drop (first + second + third))
    return a ++ b ++ c ++ d

end WordTable

/-- The literals of a block, the code that is used last, and the bytes after them. -/
structure Literals where
  content : Bytes
  code : Option WordTable
  rest : Bytes

namespace Literals

/-- The greatest size of what a block holds. -/
def blockLimit : Nat := 131072

/-- Literals that are not coded: as they are, or one byte many times. -/
def plain? (code : Option WordTable) (once : Bool) (bytes : Bytes) : Option Literals := do
  let form := (bytes.head?.getD 0).toNat / 4 % 4
  let width := if form % 2 = 0 then 1 else if form = 1 then 2 else 3
  let (header, rest) ← LittleEndian.read? width bytes
  let size := if width = 1 then header / 8 else header / 16
  if blockLimit < size then none
  else if once then
    match rest with
    | b :: rest => return ⟨List.replicate size b, code, rest⟩
    | [] => none
  else if rest.length < size then none
  else return ⟨rest.take size, code, rest.drop size⟩

/-- Literals in a code of their own, or in the one used last. -/
def coded? (code : Option WordTable) (again : Bool) (bytes : Bytes) : Option Literals := do
  let form := (bytes.head?.getD 0).toNat / 4 % 4
  let width := if form < 2 then 3 else form + 2
  let bits := 4 * width - 2
  let (header, rest) ← LittleEndian.read? width bytes
  let size := header / 16 % Nat.pow 2 bits
  let packed := header / 16 / Nat.pow 2 bits
  if size = 0 || blockLimit < size || rest.length < packed then none
  else
    let (t, data) ←
      if again then code.map fun t => (t, rest.take packed) else WordTable.read? (rest.take packed)
    let content ← if form = 0 then t.stream? size data else t.streams? size data
    return ⟨content, some t, rest.drop packed⟩

/-- The literals in front of a block. -/
def read? (code : Option WordTable) : Bytes → Option Literals
  | [] => none
  | b :: rest =>
    match b.toNat % 4 with
    | 0 => plain? code false (b :: rest)
    | 1 => plain? code true (b :: rest)
    | 2 => coded? code false (b :: rest)
    | _ => coded? code true (b :: rest)

end Literals

end MailMerge.Archive.Zstandard
