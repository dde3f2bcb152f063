import MailMerge.Archive.Prediction.Context
import MailMerge.Archive.Prediction.Heap

/-!
# Models

A model holds a tree of contexts, from the one of no bytes to those of `order` bytes, and learns
from each byte. It knows the text of the last bytes, from which contexts are made when they are
first needed. When its room is used up it begins anew, or forgets what is least likely.
-/

namespace MailMerge.Archive.Prediction

/-- An estimate of how likely it is that none of the guesses is right: a sum that is worth more the
greater `shift` is, which grows with every `count` uses. -/
structure Estimate where
  sum : Nat
  shift : Nat
  count : Nat
  deriving Repr

/-- Where a guess is: its context and its place there. -/
structure Spot where
  context : Nat
  index : Nat
  deriving DecidableEq, Repr

/-- A model: its contexts by place, the context at hand and the longest one that is known, and the
guess that was right last. `fall` is how many bytes the context at hand is short of the order.
`single` weighs the guesses of contexts that have only one, and `escapes` the bytes that are not
among the guesses. -/
structure Model where
  order : Nat
  restarts : Bool
  heap : Heap
  text : Array UInt8
  contexts : Std.HashMap Nat Context
  here : Nat
  longest : Nat
  found : Spot
  fall : Nat
  escapeWeight : Nat
  wasLikely : Bool
  run : Int
  single : Array Nat
  escapes : Array Estimate

/-- The classes that numbers below 260 fall into, wider ones for greater numbers. -/
def levelsFrom (level width left : Nat) : Nat → List Nat
  | 0 => []
  | n + 1 =>
    level :: if left = 0 then levelsFrom (level + 1) (width + 1) width n
      else levelsFrom level width (left - 1) n

def levels : Array Nat :=
  ([0, 1, 2, 3, 4] ++ levelsFrom 5 1 0 255).toArray

def level (n : Nat) : Nat :=
  levels[n]?.getD 0

/-- How many numbers are of a level or below it. -/
def upToLevel (l : Nat) : Nat :=
  levels.foldl (fun n k => if k ≤ l then n + 1 else n) 0

/-- The likelihood of a right guess is a part of this. -/
def certainty : Nat := 16384

def firstEscapes : List Nat :=
  [0x3CDD, 0x1F3F, 0x59BF, 0x48F3, 0x64A1, 0x5ABC, 0x6632, 0x6051]

/-- For each of 25 levels of a weight, 64 likelihoods. -/
def freshSingle : Array Nat :=
  let row (l : Nat) := firstEscapes.map fun e => certainty - e / (upToLevel l + 1)
  ((List.range 25).flatMap fun l => (List.replicate 8 (row l)).flatten).toArray

/-- For each of 24 levels of how many guesses there are, 32 estimates. -/
def freshEscapes : Array Estimate :=
  ((List.range 24).flatMap fun l =>
    List.replicate 32 ⟨(2 * (upToLevel (l + 3) - 3) + 5) * 8, 3, 7⟩).toArray

namespace Model

/-- How far below zero the run of likely guesses begins. -/
def firstRun (order : Nat) : Int :=
  -(min order 12 : Nat) - 1

/-- The context of no bytes, where every byte is a guess. -/
def root (block : Nat) : Context where
  guesses := ((List.range 256).map fun b => (⟨UInt8.ofNat b, 1, .none⟩ : Guess)).toArray
  total := 257
  block := block
  suffix := none
  isAfterHigh := false
  holdsHigh := false
  isHalved := false

/-- The model as it is at first, with an order and a room. What was written down as text before may
be there still. -/
def fresh (order size : Nat) (restarts : Bool) (text : Array UInt8) : Model :=
  let heap := Heap.fresh size
  { order := order
    restarts := restarts
    heap := heap
    text := text
    contexts := Std.HashMap.ofList [(heap.high, root heap.units)]
    here := heap.high
    longest := heap.high
    found := ⟨heap.high, 0⟩
    fall := order
    escapeWeight := 0
    wasLikely := false
    run := firstRun order
    single := freshSingle
    escapes := freshEscapes }

def context (m : Model) (place : Nat) : Context :=
  m.contexts.getD place default

def modify (m : Model) (place : Nat) (f : Context → Context) : Model :=
  { m with contexts := m.contexts.modify place f }

def put (m : Model) (place : Nat) (c : Context) : Model :=
  { m with contexts := m.contexts.insert place c }

def guess (m : Model) (s : Spot) : Guess :=
  (m.context s.context).guess s.index

def setNext (m : Model) (s : Spot) (next : Link) : Model :=
  m.modify s.context fun c => c.setNext s.index next

/-- The spot of a byte in a context. -/
def spot (m : Model) (place : Nat) (b : UInt8) : Spot :=
  ⟨place, ((m.context place).find? b).getD 0⟩

/-- The byte of the text at a place. -/
def textAt (m : Model) (place : Nat) : UInt8 :=
  m.text[place]?.getD 0

/-- Writes a byte behind the text. -/
def write (m : Model) (b : UInt8) : Model :=
  let place := m.heap.text
  { m with
    text := if place < m.text.size then m.text.setIfInBounds place b else m.text.push b
    heap := { m.heap with text := place + 1 } }

/-- The spots of a byte in the suffixes of a context as long as they lead to text, the last one
first, and then the context that the next one leads to, or else the context of no bytes; and whether
it is the former. Each spot is raised but one that is known beforehand. -/
def branch (m : Model) (b : UInt8) (known : Option Spot) (spots : List Spot) (place : Nat) :
    Nat → Model × List Spot × Nat × Bool
  | 0 => (m, spots, place, false)
  | fuel + 1 =>
    match (m.context place).suffix with
    | none => (m, spots, place, false)
    | some suffix =>
      let (m, spot) :=
        match known with
        | some spot => (m, spot)
        | none =>
          let spot := m.spot suffix b
          let c := m.context suffix
          if c.isSingle then
            let isLow := match c.suffix with
              | some below => (m.context below).isSingle
              | none => false
            if isLow && c.weight 0 < 24 then (m.modify suffix (·.addWeight 0 1), spot)
            else (m, spot)
          else if c.weight spot.index < weightLimit - 9 then
            (m.modify suffix (·.raise spot.index 1), spot)
          else (m, spot)
      match (m.guess spot).next with
      | .context next => (m, spots, next, true)
      | _ => m.branch b none (spot :: spots) suffix fuel

/-- The weight of the first guess of a new context, from the weight of the same byte in the context
of one byte fewer. -/
def inherited (c : Context) (b : UInt8) : Nat :=
  if c.isSingle then c.weight 0
  else
    let own := c.weight ((c.find? b).getD 0) - 1
    let rest := c.total - c.others - own
    1 + if 2 * own ≤ rest then (if rest < 5 * own then 1 else 0) else (own + 2 * rest - 3) / rest

/-- Makes a context for each of the spots, each with the one before as its suffix. -/
def extend (m : Model) (c : Context) (suffix : Nat) : List Spot → Option Nat × Model
  | [] => (some suffix, m)
  | spot :: spots =>
    match m.heap.allocateUnit with
    | (none, heap) => (none, { m with heap := heap })
    | (some place, heap) =>
      let m := { m with heap := heap }
      extend ((m.put place { c with suffix := some suffix }).setNext spot (.context place)) c place
        spots

/-- Makes the context that a guess leads to which leads to text, and those that its byte leads to in
the suffixes. Where the context of the guess `isFull`, having as many bytes as there are at most,
the guess leads to the same context as in its suffix. -/
def successor (m : Model) (spot : Spot) (isFull : Bool) (known : Option Spot) :
    Option Nat × Model :=
  let g := m.guess spot
  let place := match g.next with
    | .text place => place
    | _ => 0
  let spots := if isFull then [] else [spot]
  let (m, spots, base, isFound) := m.branch g.byte known spots spot.context (m.order + 2)
  if isFound && spots.isEmpty then (some base, m)
  else
    let b := m.textAt place
    let first : Guess := ⟨b, inherited (m.context base) b, .text (place + 1)⟩
    let c : Context :=
      { guesses := #[first]
        total := 0
        block := 0
        suffix := none
        isAfterHigh := g.isHigh
        holdsHigh := first.isHigh
        isHalved := false }
    m.extend c base spots

end Model

end MailMerge.Archive.Prediction
