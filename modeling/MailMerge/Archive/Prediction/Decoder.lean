import MailMerge.Archive.Prediction.Learning

/-!
# Predicted data

A model predicts each byte of a text, and a range code tells which of its guesses is right, or that
none is; then the guesses of the suffix that are new count, and so on. An end mark is that no
guess is right in any context. The data may also end without it.
-/

namespace MailMerge.Archive.Prediction

/-- A range of numbers, the number that is sought in it, and the bytes ahead. -/
structure RangeStream where
  low : UInt32
  range : UInt32
  code : UInt32
  rest : Bytes

namespace RangeStream

def start? : Bytes → Option RangeStream
  | a :: b :: c :: d :: rest =>
    let code :=
      (a.toUInt32 <<< 24) ||| (b.toUInt32 <<< 16) ||| (c.toUInt32 <<< 8) ||| d.toUInt32
    if code = 0xFFFFFFFF then none else some ⟨0, 0xFFFFFFFF, code, rest⟩
  | _ => none

/-- Widens the range while its numbers have their highest byte in common or it is too narrow, which
it is cut for. -/
def widened? (low range code : UInt32) (rest : Bytes) : Option RangeStream :=
  let isSame := (low ^^^ (low + range)) < 0x1000000
  if isSame || range < 0x8000 then
    let range := if isSame then range else (0 - low) &&& 0x7FFF
    match rest with
    | b :: rest => widened? (low <<< 8) (range <<< 8) ((code <<< 8) ||| b.toUInt32) rest
    | [] => none
  else some ⟨low, range, code, rest⟩

/-- The range in so many parts, and the part that the number is in. -/
def parted (s : RangeStream) (total : Nat) : Nat × RangeStream :=
  let range := s.range / UInt32.ofNat total
  ((s.code / range).toNat, { s with range := range })

/-- The parts from one on, so many of them, as the range. -/
def take? (s : RangeStream) (first count : Nat) : Option RangeStream :=
  let skipped := UInt32.ofNat first * s.range
  widened? (s.low + skipped) (s.range * UInt32.ofNat count) (s.code - skipped) s.rest

end RangeStream

/-- What reading comes to: a byte, the end mark, the end of the data, or data that no writer
produces. -/
inductive Symbol where
  | byte (b : UInt8) (m : Model) (s : RangeStream)
  | endMark (s : RangeStream)
  | dry
  | corrupt

namespace Model

def estimateShift : Nat := 7

/-- A likelihood after a right guess, or after a wrong one. -/
def moved (likelihood : Nat) (right : Bool) : Nat :=
  let step := (likelihood + 32) / 128
  if right then likelihood + 128 - step else likelihood - step

/-- Where the likelihood of the guess of a single-guess context is. -/
def singleIndex (m : Model) (c : Context) : Nat :=
  let below := match c.suffix with
    | some suffix => (m.context suffix).others
    | none => 0
  let size := if below = 0 then 0 else if below = 1 then 2 else if below < 11 then 4 else 6
  64 * level (c.weight 0 - 1) + size + m.wasLikely.toNat + c.marks + (if m.run < 0 then 32 else 0)

def escapeWeights : List Nat :=
  [25, 14, 9, 7, 5, 5, 4, 4, 4, 3, 3, 3, 2, 2, 2, 2]

/-- Where the estimate of an escape from a context is, none in the context of no bytes. -/
def escapeIndex? (m : Model) (c : Context) (masked : Nat) : Option Nat :=
  if c.others = 255 then none
  else
    let below := match c.suffix with
      | some suffix => (m.context suffix).others
      | none => 0
    some (32 * (level (c.others + 2) - 3) + (decide (11 * (c.others + 1) < c.total)).toNat +
      2 * (decide (2 * c.others < below + masked)).toNat + c.marks)

/-- The weight of an escape, and the estimates after it is taken from one of them. -/
def escapeWeightAt (m : Model) (index : Option Nat) : Nat × Model :=
  match index with
  | none => (1, m)
  | some i =>
    match m.escapes[i]? with
    | none => (1, m)
    | some e =>
      let weight := e.sum / Nat.pow 2 e.shift
      (max weight 1,
        { m with escapes := m.escapes.setIfInBounds i { e with sum := e.sum - weight } })

def modifyEstimate (m : Model) (index : Option Nat) (f : Estimate → Estimate) : Model :=
  match index with
  | none => m
  | some i => { m with escapes := m.escapes.modify i f }

/-- An estimate that was used becomes worth more after some uses. -/
def usedOnce (e : Estimate) : Estimate :=
  if e.shift < estimateShift then
    if e.count = 1 then
      ⟨2 * e.sum % 65536, e.shift + 1, 3 * Nat.pow 2 e.shift % 256⟩
    else { e with count := e.count - 1 }
  else e

/-- The first guess of some whose weights with those before it exceed a number, and the weights
before it. -/
def guessAt? (sought before : Nat) : List (Nat × Guess) → Option (Nat × Nat × Guess)
  | [] => none
  | (i, g) :: rest =>
    if sought < before + g.weight then some (before, i, g)
    else guessAt? sought (before + g.weight) rest

/-- The guesses of a context that are not masked, with their places. -/
def open_ (c : Context) (masked : List UInt8) : List (Nat × Guess) :=
  ((List.range c.guesses.size).zip c.guesses.toList).filter fun p => !masked.contains p.2.byte

/-- The nearest context with more guesses than are masked, by suffixes. -/
def escape (m : Model) (masked : Nat) : Nat → Option Model
  | 0 => none
  | fuel + 1 =>
    match (m.context m.here).suffix with
    | none => none
    | some suffix =>
      let m := { m with fall := m.fall + 1, here := suffix }
      if (m.context suffix).others = masked then m.escape masked fuel else some m

/-- Reads a byte that is not among the masked ones, all of which are guesses in the context at
hand. -/
def readMasked (m : Model) (s : RangeStream) (masked : List UInt8) : Nat → Symbol
  | 0 => .corrupt
  | fuel + 1 =>
    let count := (m.context m.here).others
    match m.escape count (m.order + 2) with
    | none => .endMark s
    | some m =>
      let c := m.context m.here
      let guesses := open_ c masked
      let known := guesses.foldl (fun n p => n + p.2.weight) 0
      let index := m.escapeIndex? c count
      let (weight, m) := m.escapeWeightAt index
      let total := known + weight
      let (sought, s) := s.parted total
      match guessAt? sought 0 guesses with
      | some (before, i, g) =>
        match s.take? before g.weight with
        | none => .dry
        | some s =>
          let m := { m.modifyEstimate index usedOnce with found := ⟨m.here, i⟩ }
          let m := { m.raiseFound with run := firstRun m.order }
          .byte g.byte m.learn s
      | none =>
        if total ≤ sought then .corrupt
        else
          match s.take? known weight with
          | none => .dry
          | some s =>
            (m.modifyEstimate index fun e => { e with sum := (e.sum + total) % 65536 }).readMasked s
              (guesses.foldl (fun bytes p => p.2.byte :: bytes) masked) fuel

/-- Reads a byte in a context of one guess. -/
def readSingle (m : Model) (c : Context) (s : RangeStream) : Symbol :=
  let i := m.singleIndex c
  let likelihood := m.single[i]?.getD 0
  let g := c.guess 0
  let (sought, s) := s.parted certainty
  if sought < likelihood then
    match s.take? 0 likelihood with
    | none => .dry
    | some s =>
      let m := { m with
        single := m.single.setIfInBounds i (moved likelihood true)
        found := ⟨m.here, 0⟩
        wasLikely := true
        run := m.run + 1 }
      let m := if g.weight < 196 then m.modify m.here (·.addWeight 0 1) else m
      .byte g.byte m.advance s
  else
    match s.take? likelihood (certainty - likelihood) with
    | none => .dry
    | some s =>
      let likelihood := moved likelihood false
      { m with
        single := m.single.setIfInBounds i likelihood
        escapeWeight := escapeWeights[likelihood / 1024]?.getD 0
        wasLikely := false }.readMasked s [g.byte] 256

/-- Reads a byte in a context of several guesses. -/
def readSeveral (m : Model) (c : Context) (s : RangeStream) : Symbol :=
  let (sought, s) := s.parted c.total
  let all := open_ c []
  match guessAt? sought 0 all with
  | some (before, i, g) =>
    match s.take? before g.weight with
    | none => .dry
    | some s =>
      let m := { m with found := ⟨m.here, i⟩ }
      if i = 0 then
        let isLikely : Bool := c.total ≤ 2 * g.weight
        let m := { m with wasLikely := isLikely, run := m.run + isLikely.toNat }
        .byte g.byte m.raiseFound.advance s
      else .byte g.byte { m with wasLikely := false }.raiseLater.advance s
  | none =>
    if c.total ≤ sought then .corrupt
    else
      let known := all.foldl (fun n p => n + p.2.weight) 0
      let m := { m with wasLikely := false }
      match s.take? known (c.total - known) with
      | none => .dry
      | some s => m.readMasked s (all.map fun p => p.2.byte) 256

def read (m : Model) (s : RangeStream) : Symbol :=
  let c := m.context m.here
  if c.isSingle then m.readSingle c s else m.readSeveral c s

/-- All bytes up to the end, none if the data is corrupt. -/
def readAll? (m : Model) (s : RangeStream) (done : Array UInt8) : Nat → Option Bytes
  | 0 => none
  | fuel + 1 =>
    match m.read s with
    | .byte b m s => m.readAll? s (done.push b) fuel
    | .endMark s => if s.code = 0 then some done.toList else none
    | .dry => some done.toList
    | .corrupt => none

end Model

/-- The least order of a model. -/
def leastOrder : Nat := 2

/-- How many bytes there can be for each byte of data. -/
def growthLimit : Nat := 4096

/-- The bytes that data stands for, which has the order, the room, and the way to make room in its
first two bytes. -/
def unpack? : Bytes → Option Bytes
  | a :: b :: rest =>
    let shape := a.toNat + 256 * b.toNat
    let order := shape % 16 + 1
    let size := (shape / 16 % 256 + 1) * 1048576
    let way := shape / 4096
    if order < leastOrder || 1 < way then none
    else
      match RangeStream.start? rest with
      | none => none
      | some s =>
        (Model.fresh order size (way = 0) #[]).readAll? s #[] (growthLimit * (rest.length + 8))
  | _ => none

end MailMerge.Archive.Prediction
