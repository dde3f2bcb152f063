import MailMerge.Archive.Huffman

/-!
# Block-sorted data

The data is a row of blocks. Long runs of a byte are cut short, the rotations of a block are
sorted, and of each only its last byte is kept; these bytes are given by how long ago each was
last seen, with runs counted, in one of several prefix codes for every fifty of them. Reading undoes
the steps from the last to the first, and checks each block and the whole.
-/

namespace MailMerge.Archive.BlockSort

/-- The checksum over the polynomial with its highest bit first. -/
def checkShift (c : UInt32) : UInt32 :=
  if c &&& 0x80000000 = 0 then c <<< 1 else (c <<< 1) ^^^ 0x04C11DB7

def checkByte (c : UInt32) (b : UInt8) : UInt32 :=
  Nat.repeat checkShift 8 (c ^^^ (b.toUInt32 <<< 24))

def checksum (bytes : Bytes) : UInt32 :=
  ~~~(bytes.foldl checkByte 0xFFFFFFFF)

/-- The checksum of the blocks so far together with one more. -/
def combine (whole block : UInt32) : UInt32 :=
  ((whole <<< 1) ||| (whole >>> 31)) ^^^ block

/-- The numbers from `base` on whose bits are set. -/
def marked (base : Nat) : List Bool → List Nat
  | [] => []
  | b :: bits => if b then base :: marked (base + 1) bits else marked (base + 1) bits

def readBits? : Nat → BitStream → Option (List Bool × BitStream)
  | 0, s => some ([], s)
  | n + 1, s => do
    let (b, s) ← s.bit?
    let (bits, s) ← readBits? n s
    return (b :: bits, s)

/-- The bytes of the groups of sixteen that are marked. -/
def readUsed? : List Nat → BitStream → Option (Bytes × BitStream)
  | [], s => some ([], s)
  | group :: groups, s => do
    let (bits, s) ← readBits? 16 s
    let (used, s) ← readUsed? groups s
    return ((marked (16 * group) bits).map UInt8.ofNat ++ used, s)

/-- The bytes that occur in a block. -/
def readAlphabet? (s : BitStream) : Option (Bytes × BitStream) := do
  let (bits, s) ← readBits? 16 s
  readUsed? (marked 0 bits) s

/-- How many bits are set before one that is not, fewer than `limit`. -/
def readUnary? : Nat → BitStream → Option (Nat × BitStream)
  | 0, _ => none
  | limit + 1, s => do
    let (b, s) ← s.bit?
    if b then
      let (n, s) ← readUnary? limit s
      return (n + 1, s)
    else return (0, s)

/-- The item behind `i` others, and the items with it moved to the front. -/
def moveToFront? {α : Type} (i : Nat) (items : List α) : Option (α × List α) :=
  items[i]?.map fun x => (x, x :: items.eraseIdx i)

/-- Which code each fifty symbols are in, given the codes in the order of their last use. -/
def readSelectors? (recent : List Nat) : Nat → BitStream → Option (List Nat × BitStream)
  | 0, s => some ([], s)
  | n + 1, s => do
    let (i, s) ← readUnary? recent.length s
    let (selector, recent) ← moveToFront? i recent
    let (selectors, s) ← readSelectors? recent n s
    return (selector :: selectors, s)

/-- A word length, given as steps up and down from the one before it. -/
def readLength? (length : Nat) (fuel : Nat) (s : BitStream) : Option (Nat × BitStream) :=
  match fuel with
  | 0 => none
  | fuel + 1 =>
    if length < 1 || 20 < length then none
    else
      match s.bit? with
      | none => none
      | some (false, s) => some (length, s)
      | some (true, s) =>
        match s.bit? with
        | none => none
        | some (down, s) => readLength? (if down then length - 1 else length + 1) fuel s

def readLengths? (length : Nat) : Nat → BitStream → Option (List Nat × BitStream)
  | 0, s => some ([], s)
  | n + 1, s => do
    let (length, s) ← readLength? length (s.size + 1) s
    let (lengths, s) ← readLengths? length n s
    return (length :: lengths, s)

/-- The codes of a block for so many symbols. -/
def readCodes? (symbols : Nat) : Nat → BitStream → Option (List PrefixCode × BitStream)
  | 0, s => some ([], s)
  | n + 1, s => do
    let (length, s) ← s.highBits? 5
    let (lengths, s) ← readLengths? length symbols s
    let (codes, s) ← readCodes? symbols n s
    return (PrefixCode.canonical 20 lengths :: codes, s)

/-- Symbols in one code up to the last symbol or their greatest number, and whether it was the last
symbol that ended them. -/
def readGroup? (code : PrefixCode) (last : Nat) :
    Nat → BitStream → Option (List Nat × Bool × BitStream)
  | 0, s => some ([], false, s)
  | n + 1, s =>
    match code.read? s with
    | some (some symbol, s) =>
      if symbol = last then some ([], true, s)
      else (readGroup? code last n s).map fun (symbols, ended, s) => (symbol :: symbols, ended, s)
    | _ => none

/-- The symbols of a block before the last one. -/
def readSymbols? (codes : List PrefixCode) (last : Nat) :
    List Nat → BitStream → Option (List Nat × BitStream)
  | [], _ => none
  | selector :: selectors, s => do
    let code ← codes[selector]?
    let (symbols, ended, s) ← readGroup? code last 50 s
    if ended then return (symbols, s)
    else
      let (more, s) ← readSymbols? codes last selectors s
      return (symbols ++ more, s)

/-- The greatest weight of a digit in the count of a run. -/
def weightLimit : Nat := 2097152

/-- The bytes that symbols stand for, at most `limit` of them. The first two symbols are digits of
how often the byte in front comes, the lowest one first and of values one and two; any other one
moves a byte to the front. The count so far is `run`, and `weight` is the next digit's. -/
def unrank? (limit weight run : Nat) (front : Bytes) : List Nat → Option Bytes
  | [] => if limit < run then none else front.head?.map (List.replicate run)
  | symbol :: symbols =>
    if symbol < 2 then
      if weight < weightLimit then
        unrank? limit (2 * weight) (run + (symbol + 1) * weight) front symbols
      else none
    else if limit ≤ run then none
    else do
      let same ← front.head?
      let (b, front) ← moveToFront? (symbol - 1) front
      let rest ← unrank? (limit - run - 1) 1 0 front symbols
      return List.replicate run same ++ b :: rest

/-- Follows the sorted order from a place, so many steps. -/
def follow (last : Array UInt8) (order : Array Nat) : Nat → Nat → Bytes
  | 0, _ => []
  | n + 1, place =>
    let next := order.getD place 0
    last.getD next 0 :: follow last order n next

/-- The block whose sorted rotations end in these bytes, the block itself being at `place`. -/
def unsort (bytes : Bytes) (place : Nat) : Bytes :=
  let order := (bytes.zipIdx.mergeSort fun p q => p.1 ≤ q.1).map Prod.snd
  follow bytes.toArray order.toArray bytes.length place

/-- The sizes of the groups of bytes of which one has its lowest bit turned over, in a block whose
bytes were shuffled before they were sorted. -/
def groupSizes : List Nat :=
  [619, 720, 127, 481, 931, 816, 813, 233, 566, 247, 985, 724, 205, 454, 863, 491, 741, 242, 949,
    214, 733, 859, 335, 708, 621, 574, 73, 654, 730, 472, 419, 436, 278, 496, 867, 210, 399, 680,
    480, 51, 878, 465, 811, 169, 869, 675, 611, 697, 867, 561, 862, 687, 507, 283, 482, 129, 807,
    591, 733, 623, 150, 238, 59, 379, 684, 877, 625, 169, 643, 105, 170, 607, 520, 932, 727, 476,
    693, 425, 174, 647, 73, 122, 335, 530, 442, 853, 695, 249, 445, 515, 909, 545, 703, 919, 874,
    474, 882, 500, 594, 612, 641, 801, 220, 162, 819, 984, 589, 513, 495, 799, 161, 604, 958, 533,
    221, 400, 386, 867, 600, 782, 382, 596, 414, 171, 516, 375, 682, 485, 911, 276, 98, 553, 163,
    354, 666, 933, 424, 341, 533, 870, 227, 730, 475, 186, 263, 647, 537, 686, 600, 224, 469, 68,
    770, 919, 190, 373, 294, 822, 808, 206, 184, 943, 795, 384, 383, 461, 404, 758, 839, 887, 715,
    67, 618, 276, 204, 918, 873, 777, 604, 560, 951, 160, 578, 722, 79, 804, 96, 409, 713, 940, 652,
    934, 970, 447, 318, 353, 859, 672, 112, 785, 645, 863, 803, 350, 139, 93, 354, 99, 820, 908,
    609, 772, 154, 274, 580, 184, 79, 626, 630, 742, 653, 282, 762, 623, 680, 81, 927, 626, 789,
    125, 411, 521, 938, 300, 821, 78, 343, 175, 128, 250, 170, 774, 972, 275, 999, 639, 495, 78,
    352, 126, 857, 956, 358, 619, 580, 124, 737, 594, 701, 612, 669, 112, 134, 694, 363, 992, 809,
    743, 168, 974, 944, 375, 748, 52, 600, 747, 642, 182, 862, 81, 344, 805, 988, 739, 511, 655,
    814, 334, 249, 515, 897, 955, 664, 981, 649, 113, 974, 459, 893, 228, 433, 837, 553, 268, 926,
    240, 102, 654, 459, 51, 686, 754, 806, 760, 493, 403, 415, 394, 687, 700, 946, 670, 656, 610,
    738, 392, 760, 799, 887, 653, 978, 321, 576, 617, 626, 502, 894, 679, 243, 440, 680, 879, 194,
    572, 640, 724, 926, 56, 204, 700, 707, 151, 457, 449, 797, 195, 791, 558, 945, 679, 297, 59, 87,
    824, 713, 663, 412, 693, 342, 606, 134, 108, 571, 364, 631, 212, 174, 643, 304, 329, 343, 97,
    430, 751, 497, 314, 983, 374, 822, 928, 140, 206, 73, 263, 980, 736, 876, 478, 430, 305, 170,
    514, 364, 692, 829, 82, 855, 953, 676, 246, 369, 970, 294, 750, 807, 827, 150, 790, 288, 923,
    804, 378, 215, 828, 592, 281, 565, 555, 710, 82, 896, 831, 547, 261, 524, 462, 293, 465, 502,
    56, 661, 821, 976, 991, 658, 869, 905, 758, 745, 193, 768, 550, 608, 933, 378, 286, 215, 979,
    792, 961, 61, 688, 793, 644, 986, 403, 106, 366, 905, 644, 372, 567, 466, 434, 645, 210, 389,
    550, 919, 135, 780, 773, 635, 389, 707, 100, 626, 958, 165, 504, 920, 176, 193, 713, 857, 265,
    203, 50, 668, 108, 645, 990, 626, 197, 510, 357, 358, 850, 858, 364, 936, 638]

/-- Turns over the lowest bit of the last byte but one of each group. -/
def unshuffle (fuel : Nat) (sizes : List Nat) (bytes : Bytes) : Bytes :=
  match fuel with
  | 0 => bytes
  | fuel + 1 =>
    match sizes with
    | [] => unshuffle fuel groupSizes bytes
    | size :: sizes =>
      let group := bytes.take size
      if group.isEmpty then []
      else
        group.take (size - 2) ++ ((group.drop (size - 2)).take 1).map (· ^^^ 1) ++
          group.drop (size - 1) ++ unshuffle fuel sizes (bytes.drop size)

/-- Four bytes that are the same are followed by a count of more of them. -/
def lengthen (seen : Nat) (previous : UInt8) : Bytes → Bytes
  | [] => []
  | b :: rest =>
    if seen = 4 then List.replicate b.toNat previous ++ lengthen 0 previous rest
    else b :: lengthen (if 0 < seen && b == previous then seen + 1 else 1) b rest

/-- The content of a block behind its mark, with its checksum. -/
def readBlock? (limit : Nat) (s : BitStream) : Option (Bytes × UInt32 × BitStream) := do
  let (check, s) ← s.highBits? 32
  let (shuffled, s) ← s.highBits? 1
  let (place, s) ← s.highBits? 24
  let (alphabet, s) ← readAlphabet? s
  let (codeCount, s) ← s.highBits? 3
  let (selectorCount, s) ← s.highBits? 15
  if alphabet.isEmpty || codeCount < 2 || 6 < codeCount || selectorCount = 0 then
    none
  else
    let (selectors, s) ← readSelectors? (List.range codeCount) selectorCount s
    let (codes, s) ← readCodes? (alphabet.length + 2) codeCount s
    let (symbols, s) ← readSymbols? codes (alphabet.length + 1) selectors s
    let bytes ← unrank? limit 1 0 alphabet symbols
    if bytes.length ≤ place then none
    else
      let bytes := unsort bytes place
      let content :=
        lengthen 0 0 (if shuffled = 1 then unshuffle bytes.length groupSizes bytes else bytes)
      if (checksum content).toNat = check then return (content, checksum content, s) else none

def blockMark : Nat := 0x314159265359

def endMark : Nat := 0x177245385090

/-- The contents of blocks of at most `limit` bytes, up to the end mark; `whole` is the checksum so
far. -/
def readBlocks? (limit : Nat) (fuel : Nat) (whole : UInt32) (s : BitStream) : Option Bytes :=
  match fuel with
  | 0 => none
  | fuel + 1 => do
    let (mark, s) ← s.highBits? 48
    if mark = blockMark then
      let (content, check, s) ← readBlock? limit s
      let rest ← readBlocks? limit fuel (combine whole check) s
      return content ++ rest
    else if mark = endMark then
      let (check, _) ← s.highBits? 32
      if check = whole.toNat then return [] else none
    else none

/-- The bytes that block-sorted data stands for, none if it is corrupt. What follows the data does
not matter. -/
def unpack? : Bytes → Option Bytes
  | 0x42 :: 0x5A :: 0x68 :: level :: rest =>
    if 0x31 ≤ level && level ≤ 0x39 then
      readBlocks? (100000 * (level.toNat - 0x30)) (8 * rest.length) 0 (.ofHighBits rest)
    else none
  | _ => none

end MailMerge.Archive.BlockSort
