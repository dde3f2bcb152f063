import Std.Data.HashMap

/-!
# The room of a model

A model that predicts bytes has a fixed room: a text grows from its start, and blocks of units are
given out behind the text. How much room is left decides when a model forgets, so it is counted
exactly. Blocks come in classes of sizes; free ones are kept by class, latest first, and joined from
time to time.
-/

namespace MailMerge.Archive.Prediction

/-- The size of a unit in bytes. -/
def unitSize : Nat := 12

/-- How many classes of block sizes there are. -/
def classCount : Nat := 38

/-- How many units the blocks of a class have. -/
def classUnits (c : Nat) : Nat :=
  if c < 4 then c + 1
  else if c < 8 then 2 * c - 2
  else if c < 12 then 3 * c - 9
  else 4 * c - 20

/-- The first class whose blocks have so many units. -/
def classOf (units : Nat) : Nat :=
  if units ≤ 4 then units - 1
  else if units ≤ 12 then (units + 3) / 2
  else if units ≤ 24 then (units + 11) / 3
  else (units + 23) / 4

/-- The room: where the text ends, where the units begin, the stretch of units that was never given
out, and the places of the free blocks by class. The blocks are joined when `patience` is spent. -/
structure Heap where
  size : Nat
  text : Nat
  units : Nat
  low : Nat
  high : Nat
  free : Array (List Nat)
  patience : Nat
  deriving Repr

namespace Heap

/-- A room where only the two blocks of a fresh model are given out, one unit at the end and the
largest block in front. -/
def fresh (size : Nat) : Heap :=
  let units := size - size / 8 / unitSize * 7 * unitSize
  { size := size
    text := 0
    units := units
    low := units + 128 * unitSize
    high := size - unitSize
    free := Array.replicate classCount []
    patience := 0 }

def freeOf (h : Heap) (c : Nat) : List Nat :=
  h.free[c]?.getD []

/-- Adds a free block of a class. -/
def release (h : Heap) (place c : Nat) : Heap :=
  { h with free := h.free.setIfInBounds c (place :: h.freeOf c) }

/-- A free block of exactly this class. -/
def reuse? (h : Heap) (c : Nat) : Option (Nat × Heap) :=
  match h.freeOf c with
  | [] => none
  | place :: rest => some (place, { h with free := h.free.setIfInBounds c rest })

/-- Adds a free block of so many units, which may have to be two blocks. -/
def releaseUnits (h : Heap) (place count : Nat) : Heap :=
  let c := classOf count
  if classUnits c = count then h.release place c
  else
    let first := classUnits (c - 1)
    (h.release (place + first * unitSize) (count - first - 1)).release place (c - 1)

/-- Gives back what a block of a class has more than one of a lower class. -/
def split (h : Heap) (place old new : Nat) : Heap :=
  h.releaseUnits (place + classUnits new * unitSize) (classUnits old - classUnits new)

/-- The free blocks in the order of their classes. -/
def freeBlocks (h : Heap) : List (Nat × Nat) :=
  (List.range classCount).flatMap fun c => (h.freeOf c).map fun place => (place, classUnits c)

/-- The units of a free block together with those of the free blocks that follow it, and the
places of these. -/
def joined (blocks : Std.HashMap Nat Nat) (place : Nat) (fuel count : Nat) : Nat × List Nat :=
  match fuel with
  | 0 => (count, [])
  | fuel + 1 =>
    let next := place + count * unitSize
    match blocks[next]? with
    | some more =>
      let (count, others) := joined blocks place fuel (count + more)
      (count, next :: others)
    | none => (count, [])

/-- Joins the blocks one after another; one that has been joined to another is passed over, also
if it came before. -/
def joinAll (blocks : Std.HashMap Nat Nat) (done : List (Nat × Nat)) :
    List (Nat × Nat) → List (Nat × Nat)
  | [] => done.reverse.filter fun b => blocks.contains b.1
  | (place, _) :: rest =>
    match blocks[place]? with
    | none => joinAll blocks done rest
    | some own =>
      let (count, others) := joined blocks place blocks.size own
      let blocks := (others.foldl (fun m o => m.erase o) blocks).insert place count
      joinAll blocks ((place, count) :: done) rest

/-- Adds a free block of any size. -/
def releaseLarge (h : Heap) (fuel place count : Nat) : Heap :=
  match fuel with
  | 0 => h
  | fuel + 1 =>
    if 128 < count then
      (h.release place (classCount - 1)).releaseLarge fuel (place + 128 * unitSize) (count - 128)
    else h.releaseUnits place count

/-- The most steps before free blocks are joined again. -/
def fullPatience : Nat := 8192

/-- Joins free blocks that follow one another. -/
def join (h : Heap) : Heap :=
  let blocks := h.freeBlocks
  (joinAll (Std.HashMap.ofList blocks) [] blocks).foldl
    (fun h b => h.releaseLarge (b.2 + 1) b.1 b.2)
    { h with free := Array.replicate classCount [], patience := fullPatience }

/-- A block of a class from a block of a higher one, or from the room between text and units. -/
def carve (h : Heap) (c : Nat) : Option Nat × Heap :=
  match (List.range classCount).find? fun d => c < d && !(h.freeOf d).isEmpty with
  | some d =>
    match h.reuse? d with
    | some (place, h) => (some place, h.split place d c)
    | none => (none, h)
  | none =>
    let bytes := classUnits c * unitSize
    let h := { h with patience := h.patience - 1 }
    if bytes < h.units - h.text then
      (some (h.units - bytes), { h with units := h.units - bytes })
    else (none, h)

/-- A block of a class that is not simply at hand. -/
def allocateRare (h : Heap) (c : Nat) : Option Nat × Heap :=
  if h.patience = 0 then
    let h := h.join
    match h.reuse? c with
    | some (place, h) => (some place, h)
    | none => h.carve c
  else h.carve c

/-- A block of a class. -/
def allocate (h : Heap) (c : Nat) : Option Nat × Heap :=
  match h.reuse? c with
  | some (place, h) => (some place, h)
  | none =>
    let bytes := classUnits c * unitSize
    if bytes ≤ h.high - h.low then (some h.low, { h with low := h.low + bytes })
    else h.allocateRare c

/-- A unit for a context, from the end of what was never given out. -/
def allocateUnit (h : Heap) : Option Nat × Heap :=
  if h.high ≠ h.low then (some (h.high - unitSize), { h with high := h.high - unitSize })
  else
    match h.reuse? 0 with
    | some (place, h) => (some place, h)
    | none => h.allocateRare 0

/-- The place of a block when it needs fewer units than before. -/
def shrink (h : Heap) (place old new : Nat) : Nat × Heap :=
  let oldClass := classOf old
  let newClass := classOf new
  if oldClass = newClass then (place, h)
  else
    match h.reuse? newClass with
    | some (better, h) => (better, h.release place oldClass)
    | none => (place, h.split place oldClass newClass)

/-- Gives a unit back, to the text if it is the first one. -/
def releaseUnit (h : Heap) (place : Nat) : Heap :=
  if place = h.units then { h with units := h.units + unitSize } else h.release place 0

/-- How far behind the first unit blocks are worth moving. -/
def movingReach : Nat := 16384

/-- The place of a block of so many units when it is moved away from the text if it can be. -/
def moveUp (h : Heap) (place count : Nat) : Nat × Heap :=
  let c := classOf count
  match h.freeOf c with
  | [] => (place, h)
  | better :: rest =>
    if h.units + movingReach < place || better < place then (place, h)
    else
      let h := { h with free := h.free.setIfInBounds c rest }
      if place = h.units then (better, { h with units := h.units + classUnits c * unitSize })
      else (better, h.release place c)

/-- Where the free blocks end that begin at the first unit. -/
def freeEnd (blocks : Std.HashMap Nat Nat) (fuel place : Nat) : Nat :=
  match fuel with
  | 0 => place
  | fuel + 1 =>
    match blocks[place]? with
    | some count => freeEnd blocks fuel (place + count * unitSize)
    | none => place

/-- Gives the free blocks at the first unit to the text. -/
def expandText (h : Heap) : Heap :=
  let blocks := Std.HashMap.ofList h.freeBlocks
  let units := freeEnd blocks blocks.size h.units
  { h with units := units, free := h.free.map fun places => places.filter (units ≤ ·) }

/-- How much of the room is in use. -/
def used (h : Heap) : Nat :=
  let free := (h.freeBlocks.map Prod.snd).foldl (· + ·) 0
  h.size - (h.high - h.low) - (h.units - h.text) - free * unitSize

end Heap

end MailMerge.Archive.Prediction
