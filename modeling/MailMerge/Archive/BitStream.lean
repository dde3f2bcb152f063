import MailMerge.Text.Utf8

/-!
# Bit streams

Bytes read bit by bit: the lowest bit of a byte first, the highest one first, or all of them from
the last byte back to the first.
-/

namespace MailMerge.Archive

/-- The bits of a byte, the lowest one first. -/
def byteBits (b : UInt8) : List Bool :=
  (List.range 8).map fun i => b.toNat.testBit i

/-- The bits left of a byte that is partly read, and the bytes after it. -/
structure BitStream where
  pending : List Bool
  rest : Bytes
  deriving DecidableEq, Repr

namespace BitStream

def ofBytes (bytes : Bytes) : BitStream :=
  ⟨[], bytes⟩

/-- The bits of bytes, the highest one of each byte first. -/
def ofHighBits (bytes : Bytes) : BitStream :=
  ⟨bytes.flatMap fun b => (byteBits b).reverse, []⟩

/-- The bits of bytes from the end on. The first bit that is set only marks the end, and it must be
in the last byte. -/
def ofEnd? (bytes : Bytes) : Option BitStream :=
  match bytes.reverse with
  | [] => none
  | b :: before =>
    match (byteBits b).reverse.dropWhile (!·) with
    | [] => none
    | _ :: bits => some ⟨bits ++ before.flatMap fun b => (byteBits b).reverse, []⟩

def bit? (s : BitStream) : Option (Bool × BitStream) :=
  match s.pending with
  | b :: more => some (b, ⟨more, s.rest⟩)
  | [] =>
    match s.rest with
    | [] => none
    | byte :: rest =>
      match byteBits byte with
      | b :: more => some (b, ⟨more, rest⟩)
      | [] => none

/-- A number of `n` bits, the lowest one first. -/
def bits? : Nat → BitStream → Option (Nat × BitStream)
  | 0, s => some (0, s)
  | n + 1, s => do
    let (b, s) ← s.bit?
    let (k, s) ← bits? n s
    return (b.toNat + 2 * k, s)

/-- A number of `n` bits, the highest one first. -/
def highBits? : Nat → BitStream → Option (Nat × BitStream)
  | 0, s => some (0, s)
  | n + 1, s => do
    let (b, s) ← s.bit?
    let (k, s) ← highBits? n s
    return (b.toNat * Nat.pow 2 n + k, s)

/-- The bytes after the byte that is partly read. -/
def aligned (s : BitStream) : Bytes :=
  s.rest

/-- How many bits are left. -/
def size (s : BitStream) : Nat :=
  s.pending.length + 8 * s.rest.length

end BitStream

end MailMerge.Archive
