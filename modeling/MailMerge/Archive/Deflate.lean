import MailMerge.Archive.Huffman
import MailMerge.Archive.LittleEndian

/-!
# Deflated data

Deflated data is a row of blocks: stored ones, and ones of literals and copies in a fixed or a
given prefix code. Every kind is read; only stored blocks are written. Data that ends too early or
is corrupt gives what comes before its fault. There are two forms, the second one with longer and
farther copies.
-/

namespace MailMerge.Archive

/-- The greatest size of a stored block. -/
def storedLimit : Nat := 65535

def storedBlock (final : Bool) (chunk : Bytes) : Bytes :=
  (if final then 1 else 0) :: (LittleEndian.bytes 2 chunk.length ++
    LittleEndian.bytes 2 (storedLimit - chunk.length) ++ chunk)

/-- The bytes as stored blocks, the last one marked. -/
def deflate (bytes : Bytes) : Bytes :=
  if bytes.length ≤ storedLimit then storedBlock true bytes
  else storedBlock false (bytes.take storedLimit) ++ deflate (bytes.drop storedLimit)
termination_by bytes.length
decreasing_by simp only [List.length_drop, storedLimit] at *; omega

/-- What reading a part of deflated data comes to: more to read, the early end of the data, or data
that no writer produces. -/
inductive Inflated where
  | more (output : Array UInt8) (s : BitStream)
  | ended (output : Array UInt8)
  | corrupt (output : Array UInt8)

/-- How deflated data ends: with its last block, before it, or at what no writer produces. -/
inductive Ending where
  | whole
  | cutOff
  | corrupt
  deriving DecidableEq, Repr

/-- The bytes that deflated data stands for up to its end, and how it ends. -/
structure Inflation where
  content : Bytes
  ending : Ending
  deriving DecidableEq, Repr

/-- How far copies reach: 32 or 64 times 1024 bytes. -/
inductive Reach where
  | plain
  | wide
  deriving DecidableEq, Repr

/-- The base value and the number of extra bits of each symbol for a copy's length. -/
def lengthTable (reach : Reach) : List (Nat × Nat) :=
  [(3, 0), (4, 0), (5, 0), (6, 0), (7, 0), (8, 0), (9, 0), (10, 0), (11, 1), (13, 1), (15, 1),
    (17, 1), (19, 2), (23, 2), (27, 2), (31, 2), (35, 3), (43, 3), (51, 3), (59, 3), (67, 4),
    (83, 4), (99, 4), (115, 4), (131, 5), (163, 5), (195, 5), (227, 5),
    match reach with
    | .plain => (258, 0)
    | .wide => (3, 16)]

/-- The base value and the number of extra bits of each symbol for a copy's distance. -/
def distanceTable (reach : Reach) : List (Nat × Nat) :=
  [(1, 0), (2, 0), (3, 0), (4, 0), (5, 1), (7, 1), (9, 2), (13, 2), (17, 3), (25, 3), (33, 4),
    (49, 4), (65, 5), (97, 5), (129, 6), (193, 6), (257, 7), (385, 7), (513, 8), (769, 8),
    (1025, 9), (1537, 9), (2049, 10), (3073, 10), (4097, 11), (6145, 11), (8193, 12), (12289, 12),
    (16385, 13), (24577, 13)] ++
    match reach with
    | .plain => []
    | .wide => [(32769, 14), (49153, 14)]

/-- Repeats the byte that was written `distance` bytes ago, `n` times. -/
def copyBack (distance : Nat) : Nat → Array UInt8 → Option (Array UInt8)
  | 0, output => some output
  | n + 1, output =>
    if h : 0 < distance ∧ distance ≤ output.size then
      copyBack distance n (output.push output[output.size - distance])
    else none

def tableValue? (table : List (Nat × Nat)) (symbol : Nat) (s : BitStream) :
    Option (Option (Nat × BitStream)) :=
  match table[symbol]? with
  | none => none
  | some (base, extra) => some ((s.bits? extra).map fun (k, s) => (base + k, s))

/-- Reads the distance of a copy and makes the copy. -/
def inflateCopy (reach : Reach) (distances : PrefixCode) (length : Nat)
    (output : Array UInt8) (s : BitStream) : Inflated :=
  match distances.read? s with
  | none => .ended output
  | some (none, _) => .corrupt output
  | some (some symbol, s) =>
    match tableValue? (distanceTable reach) symbol s with
    | none => .corrupt output
    | some none => .ended output
    | some (some (distance, s)) =>
      match copyBack distance length output with
      | none => .corrupt output
      | some output => .more output s

/-- Reads literals and copies up to the end of a block. -/
def inflateSymbols (reach : Reach) (literals distances : PrefixCode) (fuel : Nat)
    (output : Array UInt8) (s : BitStream) : Inflated :=
  match fuel with
  | 0 => .ended output
  | fuel + 1 =>
    match literals.read? s with
    | none => .ended output
    | some (none, _) => .corrupt output
    | some (some symbol, s) =>
      if symbol < 256 then
        inflateSymbols reach literals distances fuel (output.push (UInt8.ofNat symbol)) s
      else if symbol = 256 then .more output s
      else
        match tableValue? (lengthTable reach) (symbol - 257) s with
        | none => .corrupt output
        | some none => .ended output
        | some (some (length, s)) =>
          match inflateCopy reach distances length output s with
          | .more output s => inflateSymbols reach literals distances fuel output s
          | stopped => stopped

def fixedLengths : List Nat :=
  List.replicate 144 8 ++ List.replicate 112 9 ++ List.replicate 24 7 ++ List.replicate 8 8

/-- The order in which the lengths of the code for lengths are given. -/
def lengthOrder : List Nat :=
  [16, 17, 18, 0, 8, 7, 9, 6, 10, 5, 11, 4, 12, 3, 13, 2, 14, 1, 15]

def readLengths : Nat → BitStream → Option (List Nat × BitStream)
  | 0, s => some ([], s)
  | n + 1, s => do
    let (k, s) ← s.bits? 3
    let (ks, s) ← readLengths n s
    return (k :: ks, s)

/-- Word lengths and where they end, or how they fail: none in the outer place for the end of the
data, none in the inner place for lengths that cannot be. -/
def expandLengths (code : PrefixCode) (total fuel : Nat) (done : List Nat) (s : BitStream) :
    Option (Option (List Nat × BitStream)) :=
  match fuel with
  | 0 => some none
  | fuel + 1 =>
    if total ≤ done.length then
      some (if done.length = total then some (done.reverse, s) else none)
    else
      match code.read? s with
      | none => none
      | some (none, _) => some none
      | some (some symbol, s) =>
        let repeated (value extra base : Nat) :=
          match s.bits? extra with
          | none => none
          | some (k, s) =>
            expandLengths code total fuel (List.replicate (base + k) value ++ done) s
        if symbol < 16 then expandLengths code total fuel (symbol :: done) s
        else if symbol = 16 then
          match done with
          | [] => some none
          | last :: _ => repeated last 2 3
        else if symbol = 17 then repeated 0 3 3
        else repeated 0 7 11

/-- Reads the codes of a block that brings its own. -/
def readCodes (reach : Reach) (s : BitStream) :
    Option (Option (PrefixCode × PrefixCode × BitStream)) :=
  match s.bits? 5 with
  | none => none
  | some (literalCount, s) =>
  match s.bits? 5 with
  | none => none
  | some (distanceCount, s) =>
  match s.bits? 4 with
  | none => none
  | some (lengthCount, s) =>
  match readLengths (lengthCount + 4) s with
  | none => none
  | some (given, s) =>
    let pairs := lengthOrder.zip given
    let lengths := (List.range 19).map fun i =>
      ((pairs.find? fun p => p.1 == i).map Prod.snd).getD 0
    match PrefixCode.ofLengths? false lengths with
    | none => some none
    | some code =>
      let literalCount := literalCount + 257
      let distanceCount := distanceCount + 1
      if reach = .plain && (286 < literalCount || 30 < distanceCount) then some none
      else
        match expandLengths code (literalCount + distanceCount) 400 [] s with
        | none => none
        | some none => some none
        | some (some (all, s)) =>
          match PrefixCode.ofLengths? true (all.take literalCount),
              PrefixCode.ofLengths? true (all.drop literalCount) with
          | some literals, some distances =>
            if (all.take literalCount)[256]? = some 0 then some none
            else some (some (literals, distances, s))
          | _, _ => some none

/-- Reads a stored block behind its header. -/
def inflateStored (output : Array UInt8) (s : BitStream) : Inflated :=
  match LittleEndian.read? 2 s.aligned with
  | none => .ended output
  | some (length, rest) =>
    match LittleEndian.read? 2 rest with
    | none => .ended output
    | some (complement, rest) =>
      if length + complement = storedLimit then
        let chunk := rest.take length
        if chunk.length < length then .ended (output ++ chunk)
        else .more (output ++ chunk) (.ofBytes (rest.drop length))
      else .corrupt output

def inflateBlock (reach : Reach) (kind : Nat) (output : Array UInt8) (s : BitStream) : Inflated :=
  match kind with
  | 0 => inflateStored output s
  | 1 =>
    match PrefixCode.ofLengths? true fixedLengths,
        PrefixCode.ofLengths? true (List.replicate 32 5) with
    | some literals, some distances => inflateSymbols reach literals distances (s.size + 1) output s
    | _, _ => .corrupt output
  | 2 =>
    match readCodes reach s with
    | none => .ended output
    | some none => .corrupt output
    | some (some (literals, distances, s)) =>
      inflateSymbols reach literals distances (s.size + 1) output s
  | _ => .corrupt output

def inflateBlocks (reach : Reach) (fuel : Nat) (output : Array UInt8) (s : BitStream) :
    Inflation :=
  match fuel with
  | 0 => ⟨output.toList, .cutOff⟩
  | fuel + 1 =>
    match s.bits? 1 with
    | none => ⟨output.toList, .cutOff⟩
    | some (final, s) =>
      match s.bits? 2 with
      | none => ⟨output.toList, .cutOff⟩
      | some (kind, s) =>
        match inflateBlock reach kind output s with
        | .corrupt output => ⟨output.toList, .corrupt⟩
        | .ended output => ⟨output.toList, .cutOff⟩
        | .more output s =>
          if final = 1 then ⟨output.toList, .whole⟩ else inflateBlocks reach fuel output s

/-- The bytes that deflated data stands for. -/
def inflate (reach : Reach) (bytes : Bytes) : Inflation :=
  inflateBlocks reach (bytes.length + 1) #[] (.ofBytes bytes)

/-- The size of the blocks in which packed data is read. -/
def inputBlock : Nat := 8192

/-- How many bytes of corrupt data arrive at a reader that asks for `piece` bytes at a time. A call
gives what the block at hand holds, at most a piece, and a call that meets the fault gives nothing.
The blocks up to the one of number `n` gave `start` bytes. -/
def arrivedFrom (piece fuel n start : Nat) (data : Bytes) : Nat :=
  match fuel with
  | 0 => start
  | fuel + 1 =>
    let i := inflate .plain (data.take (inputBlock * (n + 1)))
    if i.ending = .corrupt then start + (i.content.length - start - 1) / piece * piece
    else arrivedFrom piece fuel (n + 1) i.content.length data

/-- The bytes of corrupt data that a reader gets that asks for `piece` bytes at a time. -/
def Inflation.arrived (i : Inflation) (piece : Nat) (data : Bytes) : Bytes :=
  i.content.take (arrivedFrom piece (data.length / inputBlock + 1) 0 0 data)

end MailMerge.Archive
