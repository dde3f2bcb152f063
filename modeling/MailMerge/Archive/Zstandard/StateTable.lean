import MailMerge.Archive.BitStream

/-!
# State tables

Symbols of a distribution are coded by states. A state gives its symbol, and with some more bits
the state of the next symbol; the likelier a symbol is, the more states it has and the fewer bits
it needs.
-/

namespace MailMerge.Archive.Zstandard

/-- How likely symbols are, in parts of `Nat.pow 2 accuracy`; none for one that is less likely than
one part, of which it still gets one. -/
structure Distribution where
  accuracy : Nat
  shares : List (Option Nat)
  deriving DecidableEq, Repr

/-- A state: its symbol, and the next state as a base and a number of more bits. -/
structure StateCell where
  symbol : Nat
  bits : Nat
  base : Nat
  deriving DecidableEq, Repr

/-- The states of a distribution; a state is read from `accuracy` bits. -/
structure StateTable where
  accuracy : Nat
  cells : Array StateCell
  deriving Repr

namespace Distribution

/-- A share of the parts that are left, counted from one on; zero stands for less than one part.
Small numbers save a bit where the parts left are no power of two. -/
def readShare? (left : Nat) (s : BitStream) : Option (Nat × BitStream) := do
  let half := Nat.pow 2 (Nat.log2 left)
  let spare := 2 * half - 1 - left
  let (n, s) ← s.bits? (Nat.log2 left)
  if n < spare then return (n, s)
  else
    let (b, s) ← s.bit?
    return (if b then n + half - spare else n, s)

/-- How many symbols more have no share: numbers of two bits, as long as they are three. -/
def readGap? (fuel : Nat) (s : BitStream) : Option (Nat × BitStream) :=
  match fuel with
  | 0 => none
  | fuel + 1 => do
    let (n, s) ← s.bits? 2
    if n = 3 then
      let (more, s) ← readGap? fuel s
      return (n + more, s)
    else return (n, s)

/-- Reads shares of at most `limit` symbols until one part more than none is left; `shares` holds
those before, last first. -/
def readShares? (limit left fuel : Nat) (shares : List (Option Nat)) (s : BitStream) :
    Option (List (Option Nat) × BitStream) :=
  if left = 1 then some (shares.reverse, s)
  else
    match fuel with
    | 0 => none
    | fuel + 1 =>
      if limit ≤ shares.length then none
      else
        match readShare? left s with
        | none => none
        | some (0, s) => readShares? limit (left - 1) fuel (none :: shares) s
        | some (1, s) =>
          match readGap? (s.size + 1) s with
          | none => none
          | some (gap, s) =>
            readShares? limit left fuel (List.replicate (gap + 1) (some 0) ++ shares) s
        | some (n + 2, s) =>
          readShares? limit (left - (n + 1)) fuel (some (n + 1) :: shares) s

/-- A distribution over at most `limit` symbols, of at most the accuracy `finest`, and the bytes
after it. -/
def read? (limit finest : Nat) (bytes : Bytes) : Option (Distribution × Bytes) := do
  let (n, s) ← (BitStream.ofBytes bytes).bits? 4
  let accuracy := n + 5
  if finest < accuracy then none
  else
    let (shares, s) ← readShares? limit (Nat.pow 2 accuracy + 1) (limit + 1) [] s
    return (⟨accuracy, shares⟩, s.aligned)

/-- The symbols that are less likely than one part. -/
def rare (d : Distribution) : List Nat :=
  (d.shares.zipIdx.filter fun p => p.1 = none).map Prod.snd

/-- The other symbols, each as often as it has parts. -/
def common (d : Distribution) : List Nat :=
  d.shares.zipIdx.flatMap fun p => List.replicate (p.1.getD 0) p.2

/-- The places of states that common symbols are spread over, in the order of taking them. -/
def places (d : Distribution) : List Nat :=
  let size := Nat.pow 2 d.accuracy
  let step := size / 2 + size / 8 + 3
  ((List.range size).map fun k => k * step % size).filter (· < size - d.rare.length)

/-- The symbols of the states: rare ones from the last state down, and common ones spread. -/
def symbols (d : Distribution) : Array Nat :=
  let size := Nat.pow 2 d.accuracy
  let rare := d.rare.zipIdx.map fun p => (size - 1 - p.2, p.1)
  (rare ++ d.places.zip d.common).foldl (fun a p => a.setIfInBounds p.1 p.2)
    (Array.replicate size 0)

/-- The states of a distribution. Those of one symbol are numbered from its share on, and such a
number tells how many more bits lead to the next state. -/
def cellsFrom (accuracy : Nat) (next : Array Nat) : List Nat → List StateCell
  | [] => []
  | symbol :: rest =>
    let n := next.getD symbol 1
    let bits := accuracy - Nat.log2 n
    ⟨symbol, bits, n * Nat.pow 2 bits - Nat.pow 2 accuracy⟩ ::
      cellsFrom accuracy (next.setIfInBounds symbol (n + 1)) rest

def table (d : Distribution) : StateTable :=
  let next := d.shares.toArray.map fun share => share.getD 1
  ⟨d.accuracy, (cellsFrom d.accuracy next d.symbols.toList).toArray⟩

end Distribution

namespace StateTable

/-- The table of a symbol that is the only one. -/
def only (symbol : Nat) : StateTable :=
  ⟨0, #[⟨symbol, 0, 0⟩]⟩

/-- The first state in a stream. -/
def start? (t : StateTable) (s : BitStream) : Option (StateCell × BitStream) := do
  let (n, s) ← s.highBits? t.accuracy
  return (← t.cells[n]?, s)

/-- The state after another one. -/
def next? (t : StateTable) (c : StateCell) (s : BitStream) : Option (StateCell × BitStream) := do
  let (n, s) ← s.highBits? c.bits
  return (← t.cells[c.base + n]?, s)

end StateTable

end MailMerge.Archive.Zstandard
