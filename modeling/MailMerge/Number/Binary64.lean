/-!
# Binary floating point numbers

Numbers of the 64-bit binary format with exact arithmetic underneath: every operation forms the
exact rational result and rounds it once, to nearest with ties to the even significand.
-/

namespace MailMerge

/-- A 64-bit binary number. A finite one is `significand * 2 ^ exponent` with a significand below
`2 ^ 53`; the exponent is at least -1074 and the significand at least `2 ^ 52` unless the
exponent is -1074. -/
inductive Binary64 where
  | nan
  | infinite (negative : Bool)
  | finite (negative : Bool) (significand : Nat) (exponent : Int)
  deriving DecidableEq, Repr, Inhabited

namespace Binary64

def leastExponent : Int := -1074

def greatestExponent : Int := 971

/-- The greatest `k` with `2 ^ k ≤ num / den`, for positive `num` and `den`. -/
def logTwo (num den : Nat) : Int :=
  let guess : Int := (Nat.log2 num : Int) - Nat.log2 den
  let fits :=
    if 0 ≤ guess then den * Nat.pow 2 guess.toNat ≤ num
    else den ≤ num * Nat.pow 2 (-guess).toNat
  if fits then guess else guess - 1

/-- The quotient rounded to the nearest natural number, a half going to the even one. -/
def roundedQuotient (num den : Nat) : Nat :=
  let q := num / den
  let twice := 2 * (num % den)
  if den < twice || (twice == den && q % 2 == 1) then q + 1 else q

/-- The number nearest to `num / den`; past the greatest finite number it is an infinity. -/
def round (negative : Bool) (num den : Nat) : Binary64 :=
  if num = 0 then finite negative 0 leastExponent
  else
    let e := max (logTwo num den - 52) leastExponent
    let q :=
      if 0 ≤ e then roundedQuotient num (den * Nat.pow 2 e.toNat)
      else roundedQuotient (num * Nat.pow 2 (-e).toNat) den
    let (q, e) := if q = Nat.pow 2 53 then (Nat.pow 2 52, e + 1) else (q, e)
    if greatestExponent < e then infinite negative else finite negative q e

/-- `m * 2 ^ e` as a quotient of natural numbers. -/
def quotient (m : Nat) (e : Int) : Nat × Nat :=
  if 0 ≤ e then (m * Nat.pow 2 e.toNat, 1) else (m, Nat.pow 2 (-e).toNat)

def ofNat (n : Nat) : Binary64 :=
  round false n 1

def zero (negative : Bool) : Binary64 :=
  finite negative 0 leastExponent

def neg : Binary64 → Binary64
  | nan => nan
  | infinite s => infinite (!s)
  | finite s m e => finite (!s) m e

def isZero : Binary64 → Bool
  | finite _ m _ => m == 0
  | _ => false

def isFinite : Binary64 → Bool
  | finite .. => true
  | _ => false

def mul : Binary64 → Binary64 → Binary64
  | finite s m e, finite t n f =>
    let (num, den) := quotient (m * n) (e + f)
    round (s != t) num den
  | infinite s, finite t n _ => if n = 0 then nan else infinite (s != t)
  | finite s m _, infinite t => if m = 0 then nan else infinite (s != t)
  | infinite s, infinite t => infinite (s != t)
  | _, _ => nan

def div : Binary64 → Binary64 → Binary64
  | finite s m e, finite t n f =>
    if n = 0 then (if m = 0 then nan else infinite (s != t))
    else
      let (num, den) := quotient m (e - f)
      round (s != t) num (den * n)
  | infinite s, finite t _ _ => infinite (s != t)
  | finite s _ _, infinite t => zero (s != t)
  | _, _ => nan

/-- The number nearest to `digits * 10 ^ exponent`. -/
def ofDecimal (negative : Bool) (digits : Nat) (exponent : Int) : Binary64 :=
  let magnitude : Int := (Nat.toDigits 10 digits).length + exponent
  if digits = 0 || magnitude < -330 then zero negative
  else if 310 < magnitude then infinite negative
  else if 0 ≤ exponent then round negative (digits * Nat.pow 10 exponent.toNat) 1
  else round negative digits (Nat.pow 10 (-exponent).toNat)

/-- The integer that a finite number is, if it is one. -/
def toInt? : Binary64 → Option Int
  | finite s m e =>
    let (num, den) := quotient m e
    if num % den = 0 then some (if s then -((num / den : Nat) : Int) else ((num / den : Nat) : Int))
    else none
  | _ => none

end Binary64

end MailMerge
