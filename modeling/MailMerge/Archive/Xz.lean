import MailMerge.Archive.Branch
import MailMerge.Archive.Chunks
import MailMerge.Archive.Crc32
import MailMerge.Digest

/-!
# Streams of checked blocks

A stream has a header, blocks, an index of the blocks, and a footer, each with a checksum. A block
tells by which filters its data went: first perhaps differences or moved branches, at last chunks
of literals and copies.
-/

namespace MailMerge.Archive.Xz

open LittleEndian (read?)

/-- The checksum of 64 bits, taken bit by bit over the reversed polynomial. -/
def wideShift (c : UInt64) : UInt64 :=
  if c &&& 1 = 1 then (c >>> 1) ^^^ 0xC96C5795D7870F42 else c >>> 1

def wideByte (c : UInt64) (b : UInt8) : UInt64 :=
  Nat.repeat wideShift 8 (c ^^^ b.toUInt64)

def crc64 (bytes : Bytes) : UInt64 :=
  bytes.foldl wideByte 0xFFFFFFFFFFFFFFFF ^^^ 0xFFFFFFFFFFFFFFFF

/-- How the content of a block is checked. -/
inductive Check where
  | unchecked
  | crc32
  | crc64
  | sha256
  deriving DecidableEq, Repr

namespace Check

def ofCode? : UInt8 → Option Check
  | 0 => some unchecked
  | 1 => some crc32
  | 4 => some crc64
  | 10 => some sha256
  | _ => none

/-- The bytes that stand behind a block with this content. -/
def bytes (c : Check) (content : Bytes) : Bytes :=
  match c with
  | unchecked => []
  | crc32 => LittleEndian.bytes 4 (Archive.crc32 content).toNat
  | crc64 => LittleEndian.bytes 8 (Xz.crc64 content).toNat
  | sha256 => Digest.sha256 content

end Check

/-- A part of known size with its checksum behind it, and the bytes after both. -/
def checked? (size : Nat) (bytes : Bytes) : Option (Bytes × Bytes) := do
  let part := bytes.take size
  let (checksum, rest) ← read? 4 (bytes.drop size)
  if part.length = size && (crc32 part).toNat = checksum then return (part, rest) else none

/-- What is left of bytes that begin with the ones expected. -/
def strip? (expected bytes : Bytes) : Option Bytes :=
  if expected.isPrefixOf bytes then some (bytes.drop expected.length) else none

def headerMark : Bytes := [0xFD, 0x37, 0x7A, 0x58, 0x5A, 0]

def footerMark : Bytes := [0x59, 0x5A]

/-- A number of seven bits a byte, the lowest first, in at most `fuel` bytes, of which all but the
last have their highest bit set. -/
def numberFrom? : Nat → Bytes → Option (Nat × Bytes)
  | 0, _ => none
  | _, [] => none
  | fuel + 1, b :: rest =>
    if b < 128 then some (b.toNat, rest)
    else (numberFrom? fuel rest).map fun (n, rest) => (b.toNat - 128 + 128 * n, rest)

def number? (bytes : Bytes) : Option (Nat × Bytes) :=
  numberFrom? 9 bytes

/-- The shortest form of a number below `Nat.pow 128 (fuel + 1)`. -/
def numberBytes (fuel n : Nat) : Bytes :=
  match fuel with
  | 0 => [UInt8.ofNat n]
  | fuel + 1 =>
    if n < 128 then [UInt8.ofNat n]
    else UInt8.ofNat (128 + n % 128) :: numberBytes fuel (n / 128)

/-- What a block's data went through. -/
inductive Filter where
  /-- Each byte as the difference from the one so far before it. -/
  | differences (distance : Nat)
  /-- Branches of a machine's program that begins at a place. -/
  | branches (machine : Machine) (place : Nat)
  | chunks (reach : Nat)
  deriving DecidableEq, Repr

/-- The reach that a property of chunks stands for, which has two bits that count and how many
follow them. -/
def reach? (property : Nat) : Option Nat :=
  if property < 40 then some ((2 + property % 2) * Nat.pow 2 (property / 2 + 11))
  else if property = 40 then some (Nat.pow 2 32 - 1)
  else none

/-- Where a program begins: at zero, or at a place that fits the machine. -/
def programPlace? (m : Machine) (size : Nat) (bytes : Bytes) : Option (Nat × Bytes) :=
  if size = 0 then some (0, bytes)
  else if size = 4 then (read? 4 bytes).filter fun p => p.1 % m.alignment = 0
  else none

def filter? (bytes : Bytes) : Option (Filter × Bytes) := do
  let (id, bytes) ← number? bytes
  let (size, bytes) ← number? bytes
  match id, size, bytes with
  | 3, 1, distance :: rest => return (.differences (distance.toNat + 1), rest)
  | 0x21, 1, property :: rest => return (.chunks (← reach? property.toNat), rest)
  | id, size, bytes =>
    let machine ← Machine.codes.lookup id
    let (place, bytes) ← programPlace? machine size bytes
    return (.branches machine place, bytes)

def filters? : Nat → Bytes → Option (List Filter × Bytes)
  | 0, bytes => some ([], bytes)
  | n + 1, bytes => do
    let (f, bytes) ← filter? bytes
    let (fs, bytes) ← filters? n bytes
    return (f :: fs, bytes)

/-- The header of a block: how large its data is before and after unpacking, where that is said,
and its filters. -/
structure BlockHeader where
  packedSize : Option Nat
  size : Option Nat
  filters : List Filter
  deriving DecidableEq, Repr

def size? (isGiven : Bool) (bytes : Bytes) : Option (Option Nat × Bytes) :=
  if isGiven then (number? bytes).map fun (n, rest) => (some n, rest) else some (none, bytes)

/-- A block header behind the byte that gives its size; what is left of it is zero. -/
def blockHeader? : Bytes → Option BlockHeader
  | [] => none
  | flags :: bytes => do
    let n := flags.toNat
    let (packedSize, bytes) ← size? (n.testBit 6) bytes
    let (size, bytes) ← size? (n.testBit 7) bytes
    let (filters, bytes) ← filters? (n % 4 + 1) bytes
    if bytes.all (· = 0) then return ⟨packedSize, size, filters⟩ else none

/-- Adds to each byte the one so far before it; `sums` holds the bytes before, last first. -/
def sumUp (distance : Nat) (sums : Bytes) : Bytes → Bytes
  | [] => sums.reverse
  | b :: rest => sumUp distance ((b + sums[distance - 1]?.getD 0) :: sums) rest

/-- The content that data behind a block header stands for, and the bytes after the data. -/
def unfilter? : List Filter → Bytes → Option (Bytes × Bytes)
  | [.chunks reach], bytes => Chunks.read? (max reach Lzma.leastReach) bytes
  | .differences distance :: filters, bytes =>
    (unfilter? filters bytes).map fun (content, rest) => (sumUp distance [] content, rest)
  | .branches machine place :: filters, bytes =>
    (unfilter? filters bytes).map fun (content, rest) => (machine.restore place content, rest)
  | _, _ => none

/-- Zeros that fill up to a multiple of four. -/
def padding (size : Nat) : Bytes :=
  List.replicate ((4 - size % 4) % 4) 0

/-- The content of a block, and the bytes after the block. -/
def block? (check : Check) (headerSize : Nat) (bytes : Bytes) : Option (Bytes × Bytes) := do
  let (header, behind) ← checked? headerSize bytes
  let header ← blockHeader? (header.drop 1)
  let (content, rest) ← unfilter? header.filters behind
  let packedSize := behind.length - rest.length
  let rest ← strip? (padding packedSize ++ check.bytes content) rest
  if header.packedSize.getD packedSize = packedSize &&
      header.size.getD content.length = content.length then
    return (content, rest)
  else none

/-- The shortest form of the records of so many blocks, and the bytes after the records. -/
def records? : Nat → Bytes → Option (Bytes × Bytes)
  | 0, bytes => some ([], bytes)
  | n + 1, bytes => do
    let (packedSize, bytes) ← number? bytes
    let (size, bytes) ← number? bytes
    if packedSize = 0 then none
    else
      let (records, bytes) ← records? n bytes
      return (numberBytes 9 packedSize ++ numberBytes 9 size ++ records, bytes)

/-- The bytes after the index of so many blocks. Its padding and its checksum are those of its
shortest form. -/
def index? (blocks : Nat) (bytes : Bytes) : Option Bytes := do
  let (count, rest) ← number? (bytes.drop 1)
  if count = blocks then
    let (records, rest) ← records? count rest
    let short := 0 :: numberBytes 9 count ++ records
    let filling := padding short.length
    let rest ← strip? filling rest
    let (checksum, rest) ← read? 4 rest
    if (crc32 (short ++ filling)).toNat = checksum then return rest else none
  else none

/-- The footer of a stream with these flags. -/
def isFooter (flags bytes : Bytes) : Bool :=
  match read? 4 bytes with
  | some (checksum, rest) =>
    let part := rest.take 6
    (crc32 part).toNat = checksum && part.drop 4 == flags &&
      footerMark.isPrefixOf (rest.drop 6)
  | none => false

/-- The contents of the blocks ahead and behind them the index and the footer. -/
def readBlocks? (check : Check) (flags : Bytes) (blocks : Nat) (fuel : Nat) (bytes : Bytes) :
    Option Bytes :=
  match fuel, bytes with
  | 0, _ => none
  | _, [] => none
  | fuel + 1, first :: rest =>
    if first = 0 then
      match index? blocks (first :: rest) with
      | some footer => if isFooter flags footer then some [] else none
      | none => none
    else
      match block? check (4 * first.toNat) (first :: rest) with
      | some (content, rest) =>
        (readBlocks? check flags (blocks + 1) fuel rest).map fun more => content ++ more
      | none => none

/-- The bytes that a stream stands for, none if it is corrupt. What follows it does not matter. -/
def unpack? (bytes : Bytes) : Option Bytes := do
  let bytes ← strip? headerMark bytes
  let (flags, rest) ← checked? 2 bytes
  match flags with
  | [0, code] => readBlocks? (← Check.ofCode? code) flags 0 rest.length rest
  | _ => none

end MailMerge.Archive.Xz
