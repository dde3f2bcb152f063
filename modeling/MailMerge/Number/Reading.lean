import MailMerge.Number.Binary64

/-!
# Reading numbers

The texts of floating point numbers: an optional sign, digits with an optional point among them,
and an optional exponent; or a name of infinity or of not-a-number in any case.
-/

namespace MailMerge

namespace Digits

def isDigit (c : Char) : Bool :=
  '0' ≤ c && c ≤ '9'

def value (c : Char) : Nat :=
  c.toNat - '0'.toNat

/-- The number that decimal digits denote. -/
def toNat (cs : List Char) : Nat :=
  cs.foldl (fun n c => n * 10 + value c) 0

def ofNat (n : Nat) : List Char :=
  Nat.toDigits 10 n

/-- The number of a text of digits only, at least one. -/
def toNat? (cs : List Char) : Option Nat :=
  if cs.isEmpty || !cs.all isDigit then none else some (toNat cs)

end Digits

namespace Binary64

/-- The exponent behind the mantissa: nothing, or `e`, an optional sign and digits. -/
def exponent? : List Char → Option Int
  | [] => some 0
  | c :: rest =>
    if c == 'e' || c == 'E' then
      match rest with
      | '+' :: ds => (Digits.toNat? ds).map Int.ofNat
      | '-' :: ds => (Digits.toNat? ds).map fun n => -(n : Int)
      | ds => (Digits.toNat? ds).map Int.ofNat
    else none

/-- A number without its sign. -/
def unsigned? (negative : Bool) (cs : List Char) : Option Binary64 :=
  let lower := cs.map Char.toLower
  if lower == "inf".toList || lower == "infinity".toList then some (infinite negative)
  else if lower == "nan".toList then some nan
  else
    let whole := cs.takeWhile Digits.isDigit
    let rest := cs.dropWhile Digits.isDigit
    let (decimals, rest) :=
      match rest with
      | '.' :: more => (more.takeWhile Digits.isDigit, more.dropWhile Digits.isDigit)
      | _ => ([], rest)
    if whole.isEmpty && decimals.isEmpty then none
    else
      (exponent? rest).map fun e =>
        ofDecimal negative (Digits.toNat (whole ++ decimals)) (e - decimals.length)

/-- The number that a text denotes. -/
def read? : List Char → Option Binary64
  | '-' :: cs => unsigned? true cs
  | '+' :: cs => unsigned? false cs
  | cs => unsigned? false cs

end Binary64

end MailMerge
