import MailMerge.Text.Utf8
import Std.Data.HashMap

/-!
# Range codes

A choice of two is coded by dividing a range of numbers in the proportion of how likely both are.
How likely they are is learnt: each kind of choice has a weight, which every choice of its kind
moves.
-/

namespace MailMerge.Archive

/-- Reads choices of the kinds `κ`: the width of the range, the number that is sought in it, the
weights that have been moved, the bytes ahead, and whether zeros are taken to follow them. -/
structure RangeReader (κ : Type) [BEq κ] [Hashable κ] where
  range : UInt32
  code : UInt32
  weights : Std.HashMap κ UInt32
  rest : Bytes
  isOpen : Bool

namespace RangeReader

variable {κ : Type} [BEq κ] [Hashable κ]

/-- The weight at first, half of the greatest one. -/
def evenWeight : UInt32 := 1024

/-- Reads the first bytes, of which the very first one is zero. -/
def start? (isOpen : Bool) (weights : Std.HashMap κ UInt32) : Bytes → Option (RangeReader κ)
  | 0 :: a :: b :: c :: d :: rest =>
    let code :=
      (a.toUInt32 <<< 24) ||| (b.toUInt32 <<< 16) ||| (c.toUInt32 <<< 8) ||| d.toUInt32
    some ⟨0xFFFFFFFF, code, weights, rest, isOpen⟩
  | _ => none

/-- Widens the range by a byte where it has become too narrow. -/
def widened? (r : RangeReader κ) : Option (RangeReader κ) :=
  if r.range < 0x1000000 then
    match r.rest with
    | b :: rest =>
      some { r with range := r.range <<< 8, code := (r.code <<< 8) ||| b.toUInt32, rest := rest }
    | [] =>
      if r.isOpen then some { r with range := r.range <<< 8, code := r.code <<< 8 } else none
  else some r

/-- A choice of a kind. -/
def choice? (kind : κ) (r : RangeReader κ) : Option (Bool × RangeReader κ) :=
  match r.widened? with
  | none => none
  | some r =>
    let weight := r.weights.getD kind evenWeight
    let bound := (r.range >>> 11) * weight
    if r.code < bound then
      some (false, { r with
        range := bound
        weights := r.weights.insert kind (weight + ((2048 - weight) >>> 5)) })
    else
      some (true, { r with
        range := r.range - bound
        code := r.code - bound
        weights := r.weights.insert kind (weight - (weight >>> 5)) })

/-- A choice of two that are as likely as each other. -/
def evenChoice? (r : RangeReader κ) : Option (Bool × RangeReader κ) :=
  match r.widened? with
  | none => none
  | some r =>
    let half := r.range >>> 1
    if r.code < half then some (false, { r with range := half })
    else some (true, { r with range := half, code := r.code - half })

/-- A number of `n` even choices, the highest bit first, behind the bits of `high`. -/
def evenNumber? (high : Nat) : Nat → RangeReader κ → Option (Nat × RangeReader κ)
  | 0, r => some (high, r)
  | n + 1, r => do
    let (b, r) ← r.evenChoice?
    evenNumber? (2 * high + b.toNat) n r

/-- A number of `n` choices, the highest bit first. The kind of each choice is that of the ones
before it, which `node` holds behind a leading one. -/
def tree? (kind : Nat → κ) (node : Nat) : Nat → RangeReader κ → Option (Nat × RangeReader κ)
  | 0, r => some (node, r)
  | n + 1, r => do
    let (b, r) ← r.choice? (kind node)
    tree? kind (2 * node + b.toNat) n r

/-- A number below `Nat.pow 2 n`, the highest bit first. -/
def number? (kind : Nat → κ) (n : Nat) (r : RangeReader κ) : Option (Nat × RangeReader κ) :=
  (tree? kind 1 n r).map fun (node, r) => (node - Nat.pow 2 n, r)

/-- A number of `n` choices, the lowest bit first. -/
def reverseNumber? (kind : Nat → κ) (node : Nat) :
    Nat → RangeReader κ → Option (Nat × RangeReader κ)
  | 0, r => some (0, r)
  | n + 1, r => do
    let (b, r) ← r.choice? (kind node)
    let (k, r) ← reverseNumber? kind (2 * node + b.toNat) n r
    return (b.toNat + 2 * k, r)

end RangeReader

end MailMerge.Archive
