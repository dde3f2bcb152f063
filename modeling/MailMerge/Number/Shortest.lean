import MailMerge.Number.Binary64

/-!
# Shortest decimal text

The text of a finite number has the fewest digits that read back as that number and, among
those, the digits nearest to it. A `Layout` settles what is left open: where a tie goes, when an
exponent is written, and whether a whole number keeps a decimal.
-/

namespace MailMerge

/-- A positive decimal number `digits * 10 ^ exponent`. -/
structure Decimal where
  digits : Nat
  exponent : Int
  deriving DecidableEq, Repr

/-- Where a number halfway between two decimals goes. -/
inductive Tie where
  | toEven
  | up
  deriving DecidableEq, Repr

/-- The decisions about the text of a number. -/
structure NumberLayout where
  tie : Tie
  /-- Keeps `.0` behind a whole number. -/
  keepPoint : Bool
  /-- Numbers with `10 ^ k ≤ |x| < 10 ^ (k + 1)` are written without exponent for these `k`. -/
  positional : Int → Bool

namespace Binary64

/-- The greatest `k` with `10 ^ k ≤ num / den`, for positive `num` and `den`. -/
def logTen (num den : Nat) : Int :=
  let guess : Int := ((Nat.toDigits 10 num).length : Int) - (Nat.toDigits 10 den).length
  let fits :=
    if 0 ≤ guess then den * Nat.pow 10 guess.toNat ≤ num
    else den ≤ num * Nat.pow 10 (-guess).toNat
  if fits then guess else guess - 1

/-- The multiple of `10 ^ p` nearest to `m * 2 ^ e`, if a neighbouring multiple reads back as
that number. -/
def onGrid (tie : Tie) (m : Nat) (e p : Int) : Option Nat :=
  let (unit, den) := quotient 1 (e - 2)
  let a := unit * Nat.pow 10 (-p).toNat
  let b := den * Nat.pow 10 p.toNat
  let value := 4 * m * a
  let low := (if m = Nat.pow 2 52 && leastExponent < e then 4 * m - 1 else 4 * m - 2) * a
  let high := (4 * m + 2) * a
  let reads (c : Nat) : Bool :=
    if m % 2 = 0 then low ≤ c * b && c * b ≤ high else low < c * b && c * b < high
  let c := value / b
  let below := value - c * b
  let above := (c + 1) * b - value
  match reads c, reads (c + 1) with
  | false, false => none
  | true, false => some c
  | false, true => some (c + 1)
  | true, true =>
    if below < above then some c
    else if above < below then some (c + 1)
    else match tie with
      | .up => some (c + 1)
      | .toEven => some (if c % 2 = 0 then c else c + 1)

/-- Tries ever finer grids, `n` of them. -/
def firstGrid (tie : Tie) (m : Nat) (e p : Int) : Nat → Decimal
  | 0 => ⟨m, 0⟩
  | n + 1 =>
    match onGrid tie m e p with
    | some c => ⟨c, p⟩
    | none => firstGrid tie m e (p - 1) n

/-- The shortest decimal that reads back as `m * 2 ^ e`, for positive `m`. -/
def shortest (tie : Tie) (m : Nat) (e : Int) : Decimal :=
  let (num, den) := quotient m e
  firstGrid tie m e (logTen num den) 18

end Binary64

namespace Decimal

/-- The digits without zeros at the end, and the place of the point counted from the first digit:
the number is `0.d₁d₂… * 10 ^ place`. -/
def text (d : Decimal) : List Char × Int :=
  let all := Nat.toDigits 10 d.digits
  ((all.reverse.dropWhile (· == '0')).reverse, (all.length : Int) + d.exponent)

/-- The digits with a point at its place and no exponent. -/
def positional (keepPoint : Bool) (digits : List Char) (place : Int) : List Char :=
  if place ≤ 0 then '0' :: '.' :: (List.replicate (-place).toNat '0' ++ digits)
  else
    let n := place.toNat
    if digits.length ≤ n then
      digits ++ List.replicate (n - digits.length) '0' ++ (if keepPoint then ['.', '0'] else [])
    else digits.take n ++ '.' :: digits.drop n

/-- One digit, the other digits behind a point if there are any, and the signed exponent. -/
def scientific (digits : List Char) (place : Int) : List Char :=
  let head := digits.take 1
  let tail := digits.drop 1
  let exponent := place - 1
  head ++ (if tail.isEmpty then [] else '.' :: tail) ++ 'e' ::
    (if 0 ≤ exponent then '+' else '-') :: Nat.toDigits 10 exponent.natAbs

end Decimal

/-- The text of a number in a layout. -/
def Binary64.text (layout : NumberLayout) (x : Binary64) : List Char :=
  match x with
  | .nan => "NaN".toList
  | .infinite s => if s then "-inf".toList else "inf".toList
  | .finite s m e =>
    let sign := if s then ['-'] else []
    if m = 0 then sign ++ '0' :: (if layout.keepPoint then ['.', '0'] else [])
    else
      let (digits, place) := (Binary64.shortest layout.tie m e).text
      sign ++
        (if layout.positional (place - 1) then Decimal.positional layout.keepPoint digits place
        else Decimal.scientific digits place)

/-- Plain text of a number: never an exponent, no decimal behind a whole number, halves up. -/
def NumberLayout.plain : NumberLayout :=
  ⟨.up, false, fun _ => true⟩

/-- Numbers inside JSON: a decimal is always kept, and an exponent is written below `10 ^ -5` and
from `10 ^ 16` on. -/
def NumberLayout.json : NumberLayout :=
  ⟨.toEven, true, fun k => -5 ≤ k && k < 16⟩

end MailMerge
