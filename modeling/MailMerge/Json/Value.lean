import MailMerge.Fields
import MailMerge.Number.Shortest
import MailMerge.Json.Tree

/-!
# JSON values

Values with sorted fields. A number is an integer of 64 bits, signed or unsigned, or else the
binary number that its digits come to; a text with a number past the finite ones, with half a
surrogate pair or with containers nested too deep has no value.
-/

namespace MailMerge.Json

inductive Number where
  | integer (n : Int)
  | real (x : Binary64)
  deriving DecidableEq, Repr

inductive Value where
  | null
  | bool (b : Bool)
  | number (n : Number)
  | string (s : String)
  | array (items : List Value)
  | object (fields : List (String × Value))
  deriving Repr

def wordBound : Nat := Nat.pow 2 64

/-- Takes digits into a significand of 64 bits until the next one does not fit. -/
def significand (start : Nat) : List Char → Nat × List Char
  | [] => (start, [])
  | d :: ds =>
    let next := start * 10 + Digits.value d
    if next < wordBound then significand next ds else (start, d :: ds)

/-- Scales by powers of ten that are rounded themselves, in steps of `10 ^ 308`. -/
def scale (fuel : Nat) (x : Binary64) (exponent : Int) : Option Binary64 :=
  match fuel with
  | 0 => some x
  | fuel + 1 =>
    if exponent.natAbs ≤ 308 then
      let power := Binary64.ofNat (Nat.pow 10 exponent.natAbs)
      if 0 ≤ exponent then
        let y := x.mul power
        if y.isFinite then some y else none
      else some (x.div power)
    else if x.isZero then some x
    else if 0 ≤ exponent then none
    else scale fuel (x.div (Binary64.ofNat (Nat.pow 10 308))) (exponent + 308)

def exponentBound : Nat := Nat.pow 2 31

/-- The binary number of a numeral: the digits that fit into 64 bits times a power of ten. -/
def Numeral.real? (n : Numeral) : Option Binary64 :=
  let signed (x : Binary64) := if n.negative then x.neg else x
  let (whole, dropped) := significand 0 n.whole
  let (digits, rest) := significand whole n.decimals
  let point : Int := (dropped.length : Int) - (n.decimals.length - rest.length : Nat)
  match n.exponent with
  | none => (scale 8 (Binary64.ofNat digits) point).map signed
  | some (down, ds) =>
    let e := Digits.toNat ds
    if exponentBound ≤ e then
      if digits ≠ 0 && !down then none else some (signed (Binary64.zero false))
    else
      let exponent := if down then point - e else point + e
      (scale 8 (Binary64.ofNat digits) exponent).map signed

/-- The number of a numeral: an integer if it has no decimals, no exponent, no sign before a zero
and fits into 64 bits. -/
def Numeral.number? (n : Numeral) : Option Number :=
  let whole := Digits.toNat n.whole
  if n.decimals.isEmpty && n.exponent.isNone && !n.negative && whole < wordBound then
    some (.integer whole)
  else if n.decimals.isEmpty && n.exponent.isNone && n.negative && 0 < whole &&
      whole ≤ wordBound / 2 then
    some (.integer (-whole))
  else n.real?.map .real

/-- How deep containers may be nested. -/
def depthLimit : Nat := 127

mutual

def Value.ofTree? (depth : Nat) : Tree → Option Value
  | .null => some .null
  | .bool b => some (.bool b)
  | .number n => n.number?.map .number
  | .string s => s.map .string
  | .array items =>
    match depth with
    | 0 => none
    | d + 1 => (Value.ofItems? d items).map .array
  | .object fields =>
    match depth with
    | 0 => none
    | d + 1 => (Value.ofFields? d [] fields).map .object

def Value.ofItems? (depth : Nat) : List Tree → Option (List Value)
  | [] => some []
  | t :: ts =>
    match Value.ofTree? depth t, Value.ofItems? depth ts with
    | some v, some vs => some (v :: vs)
    | _, _ => none

def Value.ofFields? (depth : Nat) (done : List (String × Value)) :
    List (Option String × Tree) → Option (List (String × Value))
  | [] => some done
  | (name, t) :: rest =>
    match name, Value.ofTree? depth t with
    | some name, some v => Value.ofFields? depth (Fields.set name v done) rest
    | _, _ => none

end

/-- The value of a whole JSON text. -/
def Value.ofText? (text : String) : Option Value :=
  (Tree.ofText? text).bind (Value.ofTree? depthLimit)

end MailMerge.Json
