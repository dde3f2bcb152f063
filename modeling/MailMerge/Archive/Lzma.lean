import MailMerge.Archive.Deflate
import MailMerge.Archive.RangeCode

/-!
# Literals and copies in a range code

The data is a row of literals, copies, and copies from one of the four distances used last, in a
range code whose weights depend on what came before. How many bytes there are is told from
outside; where it is not, an end mark follows them.
-/

namespace MailMerge.Archive.Lzma

/-- The kinds of choices. A `state` tells what the last steps were, a `place` is the lowest bits
of the number of bytes so far, and a `node` is the choices made so far for one number. -/
inductive Choice where
  | isCopy (state place : Nat)
  | literal (context node : Nat)
  /-- A bit of a literal, given the bit at the same place of the byte that a copy would give. -/
  | guided (context : Nat) (guide : Bool) (node : Nat)
  | isAgain (state : Nat)
  | isOlder (state : Nat)
  | isLonger (state place : Nat)
  | isThird (state : Nat)
  | isFourth (state : Nat)
  | isMiddle (again : Bool)
  | isLong (again : Bool)
  | short (again : Bool) (place node : Nat)
  | middle (again : Bool) (place node : Nat)
  | long (again : Bool) (node : Nat)
  | slot (lengthClass node : Nat)
  | low (slot node : Nat)
  | lowest (node : Nat)
  deriving DecidableEq, Hashable, Repr

/-- What the weights depend on: the highest bits of the byte before a literal, the lowest bits of
the number of bytes before a literal and before a copy; and how far back copies reach. -/
structure Properties where
  previousBits : Nat
  literalBits : Nat
  copyBits : Nat
  reach : Nat
  deriving DecidableEq, Repr

namespace Properties

/-- The properties that a byte stands for. -/
def ofByte? (b : UInt8) (reach : Nat) : Option Properties :=
  let n := b.toNat
  if n < 225 then some ⟨n % 9, n / 9 % 5, n / 45, reach⟩ else none

def place (g : Properties) (count : Nat) : Nat :=
  count % Nat.pow 2 g.copyBits

/-- What the weights of a literal depend on. -/
def context (g : Properties) (window : Array UInt8) : Nat :=
  window.size % Nat.pow 2 g.literalBits * Nat.pow 2 g.previousBits +
    (window.back?.getD 0).toNat / Nat.pow 2 (8 - g.previousBits)

end Properties

/-- What has been read: the bytes, the distances of the last copies, latest first, and whether the
end mark. -/
structure Reading where
  reader : RangeReader Choice
  state : Nat
  distances : Nat × Nat × Nat × Nat
  window : Array UInt8
  ended : Bool

/-- The distance of a copy that is the end mark. -/
def endDistance : Nat := Nat.pow 2 32

namespace Reading

/-- Begins anew behind the bytes so far. -/
def fresh (reader : RangeReader Choice) (window : Array UInt8) : Reading :=
  ⟨reader, 0, (1, 1, 1, 1), window, false⟩

/-- The bits of a literal as long as they are those of its guide, and then without it. -/
def guided? (context node : Nat) :
    List Bool → RangeReader Choice → Option (Nat × RangeReader Choice)
  | [], r => some (node, r)
  | guide :: guides, r => do
    let (b, r) ← r.choice? (.guided context guide node)
    if b = guide then guided? context (2 * node + b.toNat) guides r
    else r.tree? (.literal context) (2 * node + b.toNat) guides.length

/-- The literal is guided where a copy came just before. -/
def literal? (g : Properties) (r : Reading) : Option Reading := do
  let context := g.context r.window
  let guide := r.window[r.window.size - r.distances.1]?.getD 0
  let (node, reader) ←
    if r.state < 7 then r.reader.tree? (.literal context) 1 8
    else guided? context 1 (byteBits guide).reverse r.reader
  let state := if r.state < 4 then 0 else if r.state < 10 then r.state - 3 else r.state - 6
  return { r with
    reader := reader
    state := state
    window := r.window.push (UInt8.ofNat node) }

/-- The length of a copy, less the least one. -/
def length? (again : Bool) (place : Nat) (r : RangeReader Choice) :
    Option (Nat × RangeReader Choice) := do
  let (b, r) ← r.choice? (.isMiddle again)
  if !b then r.number? (.short again place) 3
  else
    let (b, r) ← r.choice? (.isLong again)
    if !b then (r.number? (.middle again place) 3).map fun (n, r) => (8 + n, r)
    else (r.number? (.long again) 8).map fun (n, r) => (16 + n, r)

/-- The distance of a copy: a slot gives its highest two bits and how many more there are, of which
at most the four lowest are weighted in a large distance. -/
def distance? (length : Nat) (r : RangeReader Choice) : Option (Nat × RangeReader Choice) := do
  let (slot, r) ← r.number? (.slot (min length 3)) 6
  if slot < 4 then return (slot + 1, r)
  else
    let bits := slot / 2 - 1
    let high := (2 + slot % 2) * Nat.pow 2 bits
    if slot < 14 then
      let (n, r) ← r.reverseNumber? (.low slot) 1 bits
      return (high + n + 1, r)
    else
      let (middle, r) ← r.evenNumber? 0 (bits - 4)
      let (n, r) ← r.reverseNumber? .lowest 1 4
      return (high + 16 * middle + n + 1, r)

/-- Copies bytes from the distance used last. -/
def copy? (g : Properties) (length : Nat) : Reading → Option Reading
  | ⟨reader, state, distances, window, ended⟩ =>
    if distances.1 = endDistance then some ⟨reader, state, distances, window, true⟩
    else if g.reach < distances.1 then none
    else
      (copyBack distances.1 length window).map fun window =>
        ⟨reader, state, distances, window, ended⟩

/-- A copy from a new distance. -/
def newCopy? (g : Properties) (r : Reading) : Option Reading := do
  let (length, reader) ← length? false (g.place r.window.size) r.reader
  let (distance, reader) ← distance? length reader
  let (first, second, third, _) := r.distances
  copy? g (length + 2) { r with
    reader := reader
    state := if r.state < 7 then 7 else 10
    distances := (distance, first, second, third) }

/-- The distances with the one that is used again in front. -/
def again? (r : Reading) : Option Reading := do
  let (first, second, third, fourth) := r.distances
  let (b, reader) ← r.reader.choice? (.isThird r.state)
  if !b then return { r with reader := reader, distances := (second, first, third, fourth) }
  else
    let (b, reader) ← reader.choice? (.isFourth r.state)
    return { r with
      reader := reader
      distances := if b then (fourth, first, second, third) else (third, first, second, fourth) }

/-- A copy from a distance that has been used, of one byte or longer. -/
def oldCopy? (g : Properties) (r : Reading) : Option Reading := do
  let (b, reader) ← r.reader.choice? (.isOlder r.state)
  let (longer, reader) ←
    if b then some (true, reader) else reader.choice? (.isLonger r.state (g.place r.window.size))
  if !longer then copy? g 1 { r with reader := reader, state := if r.state < 7 then 9 else 11 }
  else
    let r ← if b then again? { r with reader := reader } else some { r with reader := reader }
    let (length, reader) ← length? true (g.place r.window.size) r.reader
    copy? g (length + 2) { r with reader := reader, state := if r.state < 7 then 8 else 11 }

def step? (g : Properties) (r : Reading) : Option Reading := do
  let (isCopy, reader) ← r.reader.choice? (.isCopy r.state (g.place r.window.size))
  let r := { r with reader := reader }
  if !isCopy then literal? g r
  else
    let (isAgain, reader) ← r.reader.choice? (.isAgain r.state)
    let r := { r with reader := reader }
    if isAgain then oldCopy? g r else newCopy? g r

/-- Reads until there are exactly `count` bytes and no end mark. -/
def upTo? (g : Properties) (count fuel : Nat) (r : Reading) : Option Reading :=
  if r.ended then none
  else if r.window.size = count then some r
  else
    match fuel with
    | 0 => none
    | fuel + 1 =>
      if count < r.window.size then none else (step? g r).bind fun r => upTo? g count fuel r

/-- Reads up to the end mark. -/
def upToMark? (g : Properties) (fuel : Nat) (r : Reading) : Option Reading :=
  if r.ended then some r
  else
    match fuel with
    | 0 => none
    | fuel + 1 => (step? g r).bind fun r => upToMark? g fuel r

end Reading

/-- The least number of bytes that copies may reach back, whatever the properties say. -/
def leastReach : Nat := 4096

/-- How far copies reach for a number in the properties: it is rounded up to a multiple of 16. -/
def reach? (n : Nat) : Option Nat :=
  if 0xFFFFFFF0 < n then none else some ((max n leastReach + 15) / 16 * 16)

/-- The size that stands for one that is not known. -/
def unknownSize : Nat := Nat.pow 2 64 - 1

/-- How many steps so many bytes can hold: every choice takes more than a 400th of a byte. -/
def stepsIn (length : Nat) : Nat :=
  400 * (length + 8)

/-- The bytes, `size` of them, that data with its properties in front stands for. -/
def unpack? (size : Nat) : Bytes → Option Bytes
  | _ :: _ :: 5 :: 0 :: shape :: rest => do
    let (reach, rest) ← LittleEndian.read? 4 rest
    let g ← Properties.ofByte? shape (← reach? reach)
    let reader ← RangeReader.start? true {} rest
    let fresh := Reading.fresh reader #[]
    let r ←
      if size = unknownSize then fresh.upToMark? g (stepsIn rest.length)
      else fresh.upTo? g size (stepsIn rest.length)
    return r.window.toList
  | _ => none

end MailMerge.Archive.Lzma
