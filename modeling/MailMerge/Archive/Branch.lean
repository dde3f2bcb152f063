import MailMerge.Archive.LittleEndian

/-!
# Branches of machine code

Programs are packed better when a branch names its target by the place in the program rather than
by how far it is from the branch. Here the places are made distances again, for the machines whose
code is known. Anything that looks like a branch is one.
-/

namespace MailMerge.Archive

/-- The machines whose branches are known. -/
inductive Machine where
  | x86
  | powerPc
  | itanium
  | arm
  | thumb
  | sparc
  | arm64
  | riscV
  deriving DecidableEq, Repr

namespace Machine

/-- The machines by the numbers of their filters. -/
def codes : List (Nat × Machine) :=
  [(4, x86), (5, powerPc), (6, itanium), (7, arm), (8, thumb), (9, sparc), (10, arm64),
    (11, riscV)]

/-- The place of a program's first byte is a multiple of this. -/
def alignment : Machine → Nat
  | x86 => 1
  | thumb | riscV => 2
  | powerPc | arm | sparc | arm64 => 4
  | itanium => 16

/-- The number of four bytes, the lowest first. -/
def word (a b c d : UInt8) : UInt32 :=
  a.toUInt32 ||| (b.toUInt32 <<< 8) ||| (c.toUInt32 <<< 16) ||| (d.toUInt32 <<< 24)

/-- Adds the bytes of a number, the lowest first. -/
def pushWord (out : Array UInt8) (w : UInt32) : Array UInt8 :=
  (((out.push w.toUInt8).push (w >>> 8).toUInt8).push (w >>> 16).toUInt8).push (w >>> 24).toUInt8

/-- Instructions of four bytes, the lowest first, each a function of its place and of what it
was. -/
def lowWords (f : UInt32 → UInt32 → UInt32) (place : UInt32) (out : Array UInt8) :
    Bytes → Array UInt8
  | a :: b :: c :: d :: rest =>
    lowWords f (place + 4) (pushWord out (f place (word a b c d))) rest
  | rest => out ++ rest

/-- The same for instructions whose highest byte comes first. -/
def highWords (f : UInt32 → UInt32 → UInt32) (place : UInt32) (out : Array UInt8) :
    Bytes → Array UInt8
  | a :: b :: c :: d :: rest =>
    let w := f place (word d c b a)
    highWords f (place + 4)
      ((((out.push (w >>> 24).toUInt8).push (w >>> 16).toUInt8).push (w >>> 8).toUInt8).push
        w.toUInt8) rest
  | rest => out ++ rest

def powerPcWord (place w : UInt32) : UInt32 :=
  if w &&& 0xFC000003 = 0x48000001 then 0x48000001 ||| ((w - place) &&& 0x03FFFFFC) else w

/-- Distances are counted from two instructions behind the branch. -/
def armWord (place w : UInt32) : UInt32 :=
  if w.shiftRight 24 = 0xEB then
    0xEB000000 ||| ((((w.shiftLeft 2) - (place + 8)).shiftRight 2) &&& 0x00FFFFFF)
  else w

def sparcWord (place w : UInt32) : UInt32 :=
  if w.shiftRight 22 = 0x100 || w.shiftRight 22 = 0x1FF then
    let target := ((w.shiftLeft 2) - place).shiftRight 2
    let sign := (0 - ((target.shiftRight 22) &&& 1)).shiftLeft 22
    (sign &&& 0x3FFFFFFF) ||| (target &&& 0x3FFFFF) ||| 0x40000000
  else w

/-- A branch, or the page of an address. -/
def arm64Word (place w : UInt32) : UInt32 :=
  if w.shiftRight 26 = 0x25 then 0x94000000 ||| ((w - (place.shiftRight 2)) &&& 0x03FFFFFF)
  else if w &&& 0x9F000000 = 0x90000000 then
    let page := ((w.shiftRight 29) &&& 3) ||| ((w.shiftRight 3) &&& 0x001FFFFC)
    if (page + 0x20000) &&& 0x1C0000 ≠ 0 then w
    else
      let page := page - (place.shiftRight 12)
      (w &&& 0x9000001F) ||| ((page &&& 3).shiftLeft 29) ||| ((page &&& 0x3FFFC).shiftLeft 3) |||
        ((0 - (page &&& 0x20000)) &&& 0xE00000)
  else w

/-- Instructions of two bytes, of which two are a branch. -/
def thumbFrom (place : UInt32) (out : Array UInt8) : Bytes → Array UInt8
  | a :: b :: c :: d :: rest =>
    if b &&& 0xF8 = 0xF0 && d &&& 0xF8 = 0xF8 then
      let target := ((b.toUInt32 &&& 7).shiftLeft 19) ||| (a.toUInt32.shiftLeft 11) |||
        ((d.toUInt32 &&& 7).shiftLeft 8) ||| c.toUInt32
      let t := ((target.shiftLeft 1) - (place + 4)).shiftRight 1
      thumbFrom (place + 4) (pushWord out
        (word (t.shiftRight 11).toUInt8 (0xF0 ||| ((t.shiftRight 19).toUInt8 &&& 7)) t.toUInt8
          (0xF8 ||| ((t.shiftRight 8).toUInt8 &&& 7)))) rest
    else thumbFrom (place + 2) ((out.push a).push b) (c :: d :: rest)
  | rest => out ++ rest
termination_by bytes => bytes.length

/-- Which of the three instructions of a bundle may be branches, by the five lowest bits: the
lowest bit of the number is for the first one. -/
def itaniumSlots : List Nat :=
  [0, 0, 0, 0, 0, 0, 0, 0, 0, 0, 0, 0, 0, 0, 0, 0, 4, 4, 6, 6, 0, 0, 7, 7, 4, 4, 0, 0, 4, 4, 0, 0]

/-- An instruction of 41 bits at `shift` in a bundle. -/
def itaniumSlot (place : UInt32) (bundle shift : Nat) : Nat :=
  let instruction := bundle / Nat.pow 2 shift % Nat.pow 2 41
  if (instruction >>> 37) % 16 ≠ 5 || (instruction >>> 9) % 8 ≠ 0 then bundle
  else
    let low := (instruction >>> 13) % Nat.pow 2 20
    let high := (instruction >>> 36) % 2
    let target := ((UInt32.ofNat (low + high * Nat.pow 2 20) <<< 4) - place) >>> 4
    let moved := target.toNat % Nat.pow 2 20 * Nat.pow 2 13 +
      target.toNat / Nat.pow 2 20 % 2 * Nat.pow 2 36
    bundle - (low * Nat.pow 2 13 + high * Nat.pow 2 36) * Nat.pow 2 shift +
      moved * Nat.pow 2 shift

def itaniumBundle (place : UInt32) (bundle : Nat) : Nat :=
  let slots := itaniumSlots[bundle % 32]?.getD 0
  [0, 1, 2].foldl
    (fun bundle i => if slots.testBit i then itaniumSlot place bundle (5 + 41 * i) else bundle)
    bundle

def itaniumFrom (place : UInt32) (fuel : Nat) (out : Array UInt8) (bytes : Bytes) :
    Array UInt8 :=
  match fuel with
  | 0 => out ++ bytes
  | fuel + 1 =>
    let bundle := bytes.take 16
    if bundle.length < 16 then out ++ bytes
    else
      itaniumFrom (place + 16) fuel
        (out ++ LittleEndian.bytes 16 (itaniumBundle place (LittleEndian.value bundle)))
        (bytes.drop 16)

/-- A byte that only extends a sign. -/
def isSignByte (b : UInt8) : Bool :=
  b = 0 || b = 0xFF

/-- The place of the first one in the lowest three bits of a number, from one on. -/
def highestBit (recent : Nat) : Nat :=
  if 4 ≤ recent then 3 else if 2 ≤ recent then 2 else recent

/-- The target of a branch as a distance. Where the byte at `shift` only extends a sign, the bits
below it are turned over and taken as another place. -/
def x86Target (place : UInt32) (shift : Option UInt32) (fuel : Nat) (source : UInt32) : UInt32 :=
  let target := source - place
  match fuel, shift with
  | fuel + 1, some shift =>
    if isSignByte (target.shiftRight shift).toUInt8 then
      x86Target place (some shift) fuel (target ^^^ (((1 : UInt32).shiftLeft (shift + 8)) - 1))
    else target
  | _, _ => target

/-- A branch is an opcode and four bytes, of which the highest only extends a sign. `recent` tells
which of the bytes `gap` places ago and before looked like an opcode without being a branch. Bytes
that may belong to such a one are no branch, unless they cannot be its highest. -/
def x86From (place : UInt32) (gap recent : Nat) (out : Array UInt8) : Bytes → Array UInt8
  | o :: a :: b :: c :: d :: rest =>
    if o &&& 0xFE ≠ 0xE8 then
      x86From (place + 1) (gap + 1) recent (out.push o) (a :: b :: c :: d :: rest)
    else
      let recent := if 3 < gap then 0 else recent * Nat.pow 2 (gap - 1) % 8
      let last := highestBit recent
      let isClear := recent = 0 ||
        (recent ≠ 3 && recent < 5 && !isSignByte ([a, b, c][3 - last]?.getD 0))
      if isClear && isSignByte d then
        let shift := if recent = 0 then none else some (24 - 8 * UInt32.ofNat last)
        let target := x86Target (place + 5) shift 8 (word a b c d)
        let sign := if target &&& 0x1000000 = 0 then 0 else 0xFF000000
        x86From (place + 5) 5 0 (pushWord (out.push o) ((target &&& 0xFFFFFF) ||| sign)) rest
      else x86From (place + 1) 1 (2 * recent + 1) (out.push o) (a :: b :: c :: d :: rest)
  | rest => out ++ rest
termination_by bytes => bytes.length

/-- The instruction behind one that gives the highest bits of an address uses the same register. -/
def isAddressPair (first second : UInt32) : Bool :=
  ((first.shiftLeft 8) ^^^ (second - 3)) &&& 0xF8003 = 0

/-- The two instructions whose highest bits are given apart. -/
def isMovedPair (first : UInt32) : Bool :=
  (first - 0x3117).shiftLeft 18 < ((first.shiftRight 27) &&& 0x1D)

/-- A jump of four bytes. -/
def riscVJump (place : UInt32) (b1 b2 b3 : UInt8) : UInt8 × UInt8 × UInt8 :=
  let target := ((b1.toUInt32 &&& 0xF0).shiftLeft 13) ||| (b2.toUInt32.shiftLeft 9) |||
    (b3.toUInt32.shiftLeft 1)
  let t := target - place
  ((b1 &&& 0x0F) ||| ((t.shiftRight 8).toUInt8 &&& 0xF0),
    ((t.shiftRight 16).toUInt8 &&& 0x0F) ||| ((t.shiftRight 7).toUInt8 &&& 0x10) |||
      ((t.shiftLeft 4).toUInt8 &&& 0xE0),
    ((t.shiftRight 4).toUInt8 &&& 0x7F) ||| ((t.shiftRight 13).toUInt8 &&& 0x80))

/-- Jumps, and addresses in two instructions. Nothing is moved in the last seven bytes. -/
def riscVFrom (place : UInt32) (out : Array UInt8) : Bytes → Array UInt8
  | a :: b :: c :: d :: e :: f :: g :: h :: rest =>
    if a = 0xEF then
      if b &&& 0x0D ≠ 0 then
        riscVFrom (place + 2) ((out.push a).push b) (c :: d :: e :: f :: g :: h :: rest)
      else
        let (b, c, d) := riscVJump place b c d
        riscVFrom (place + 4) ((((out.push a).push b).push c).push d) (e :: f :: g :: h :: rest)
    else if a &&& 0x7F = 0x17 then
      let first := word a b c d
      let second := word e f g h
      if first &&& 0xE80 ≠ 0 then
        if isAddressPair first second then
          let address := (first &&& 0xFFFFF000) + second.shiftRight 20
          riscVFrom (place + 8)
            (pushWord (pushWord out (0x117 ||| (second.shiftLeft 12))) address) rest
        else
          riscVFrom (place + 6) ((pushWord out first).push e |>.push f) (g :: h :: rest)
      else if isMovedPair first then
        let register := first.shiftRight 27
        let address := word h g f e - place
        let high := (address + 0x800) &&& 0xFFFFF000
        riscVFrom (place + 8)
          (pushWord (pushWord out (0x17 ||| (register.shiftLeft 7) ||| high))
            ((first.shiftRight 12) ||| (address.shiftLeft 20))) rest
      else riscVFrom (place + 4) (pushWord out first) (e :: f :: g :: h :: rest)
    else riscVFrom (place + 2) ((out.push a).push b) (c :: d :: e :: f :: g :: h :: rest)
  | rest => out ++ rest
termination_by bytes => bytes.length

/-- The program that begins at a place, with distances in its branches. -/
def restore (m : Machine) (place : Nat) (bytes : Bytes) : Bytes :=
  let place := UInt32.ofNat place
  let program :=
    match m with
    | x86 => x86From place 1 0 #[] bytes
    | powerPc => highWords powerPcWord place #[] bytes
    | itanium => itaniumFrom place bytes.length #[] bytes
    | arm => lowWords armWord place #[] bytes
    | thumb => thumbFrom place #[] bytes
    | sparc => highWords sparcWord place #[] bytes
    | arm64 => lowWords arm64Word place #[] bytes
    | riscV => riscVFrom place #[] bytes
  program.toList

end Machine

end MailMerge.Archive
