import MailMerge.Text.Utf8

/-!
# Contexts

A context is what the last bytes were. It has the bytes that came next so far, each with a weight
and with the context that it leads to. The context of one byte fewer is its suffix.
-/

namespace MailMerge.Archive.Prediction

/-- The context that a byte leads to: none yet, one that begins as the text does at a place, or the
one at a place. -/
inductive Link where
  | none
  | text (place : Nat)
  | context (place : Nat)
  deriving DecidableEq, Repr

/-- A byte that may come next. -/
structure Guess where
  byte : UInt8
  weight : Nat
  next : Link
  deriving Repr

/-- Bytes from here on are told apart from the ones before them, as letters are from digits. -/
def highByte : UInt8 := 0x40

def Guess.isHigh (g : Guess) : Bool :=
  highByte ≤ g.byte

/-- A context: its guesses, their weights with that of all other bytes together, the place of the
block that keeps the guesses of more than one, whether the byte that led here was high, whether
there are high ones among the guesses, and whether their weights have been halved. -/
structure Context where
  guesses : Array Guess
  total : Nat
  block : Nat
  suffix : Option Nat
  isAfterHigh : Bool
  holdsHigh : Bool
  isHalved : Bool
  deriving Repr, Inhabited

/-- The greatest weight of a guess. -/
def weightLimit : Nat := 124

namespace Context

/-- How many guesses there are besides the first. -/
def others (c : Context) : Nat :=
  c.guesses.size - 1

def isSingle (c : Context) : Bool :=
  c.guesses.size ≤ 1

/-- A number below 32 for the marks of a context, of which the lowest two bits are open. -/
def marks (c : Context) : Nat :=
  16 * c.isAfterHigh.toNat + 8 * c.holdsHigh.toNat + 4 * c.isHalved.toNat

def guess (c : Context) (i : Nat) : Guess :=
  c.guesses[i]?.getD ⟨0, 0, .none⟩

def weight (c : Context) (i : Nat) : Nat :=
  (c.guess i).weight

/-- Where a byte is among the guesses. -/
def find? (c : Context) (b : UInt8) : Option Nat :=
  c.guesses.findIdx? fun g => g.byte = b

def swap (c : Context) (i j : Nat) : Context :=
  { c with guesses := c.guesses.swapIfInBounds i j }

def modifyGuess (c : Context) (i : Nat) (f : Guess → Guess) : Context :=
  { c with guesses := c.guesses.modify i f }

def setNext (c : Context) (i : Nat) (next : Link) : Context :=
  c.modifyGuess i fun g => { g with next := next }

/-- Adds to the weight of a guess alone. -/
def addWeight (c : Context) (i n : Nat) : Context :=
  c.modifyGuess i fun g => { g with weight := g.weight + n }

/-- Adds to the weight of a guess and to the total. -/
def raise (c : Context) (i n : Nat) : Context :=
  { c.addWeight i n with total := c.total + n }

/-- How many units the guesses take. -/
def unitCount (guesses : Nat) : Nat :=
  (guesses + 1) / 2

def highMark (guesses : Array Guess) : Bool :=
  guesses.any Guess.isHigh

/-- A weight over so many halvings of one kind, rounded up. -/
def halved (times weight : Nat) : Nat :=
  (weight + times) / Nat.pow 2 times

/-- A context of a single guess, with an eighth of its weight. -/
def reduced (c : Context) (g : Guess) : Context :=
  { c with
    guesses := #[{ g with weight := (g.weight + 11) / 8 }]
    holdsHigh := g.isHigh
    isHalved := false }

/-- Halves all weights, or none; the mark of it stays only where it happens again. -/
def refresh (c : Context) (again : Bool) : Context :=
  let times := again.toNat
  let known := c.guesses.foldl (fun n g => n + g.weight) 0
  let guesses := c.guesses.map fun g => { g with weight := halved times g.weight }
  { c with
    guesses := guesses
    total := guesses.foldl (fun n g => n + g.weight) 0 + halved times (c.total - known)
    holdsHigh := highMark guesses
    isHalved := again && c.isHalved }

/-- Moves a guess in front of all that weigh less, down to the first place at the most. -/
def sink (guesses : Array Guess) (i : Nat) : Array Guess :=
  match i with
  | 0 => guesses
  | i + 1 =>
    match guesses[i]?, guesses[i + 1]? with
    | some a, some b =>
      if a.weight < b.weight then sink (guesses.swapIfInBounds i (i + 1)) i else guesses
    | _, _ => guesses

/-- Halves the weights behind the first place and keeps the order by weight. -/
def halveFrom (adder : Nat) (guesses : Array Guess) (i fuel : Nat) : Array Guess :=
  match fuel with
  | 0 => guesses
  | fuel + 1 =>
    let guesses := guesses.modify i fun g => { g with weight := (g.weight + adder) / 2 }
    halveFrom adder (sink guesses i) (i + 1) fuel

/-- The guesses with the one at a place in front. -/
def toFront (guesses : Array Guess) (i : Nat) : Array Guess :=
  match i with
  | 0 => guesses
  | i + 1 => toFront (guesses.swapIfInBounds i (i + 1)) i

end Context

end MailMerge.Archive.Prediction
