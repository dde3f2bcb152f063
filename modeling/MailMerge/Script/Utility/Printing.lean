import MailMerge.Number.Binary64
import MailMerge.Script.Utility.Basic

/-!
# Printing

Texts in which backslashes escape, and formats that lay out their arguments: texts, whole numbers
and floating point numbers, padded to a width and cut or extended to a precision.
-/

namespace MailMerge.Script.Utility

namespace Printing

def isOctal (c : Char) : Bool :=
  '0' ≤ c && c ≤ '7'

/-- The character that a letter behind a backslash stands for. -/
def escaped? : Char → Option Char
  | 'a' => some '\x07'
  | 'b' => some '\x08'
  | 't' => some '\t'
  | 'n' => some '\n'
  | 'v' => some '\x0b'
  | 'f' => some '\x0c'
  | 'r' => some '\r'
  | 'e' => some '\x1b'
  | '\\' => some '\\'
  | _ => none

/-- The character that stands behind a backslash, and the text after it. One that means nothing
leaves the backslash as it is. -/
def escape (cs : Octets) : Char × Octets :=
  match cs with
  | [] => ('\\', [])
  | c :: rest =>
    if isOctal c then
      let digits := (cs.take 3).takeWhile isOctal
      (Char.ofNat (Formula.valueOf 8 digits % 256), cs.drop digits.length)
    else
      match escaped? c with
      | some e => (e, rest)
      | none => ('\\', cs)

/-- The text in which backslashes escape, and whether it asks for nothing to follow. A number has
a zero in front of its digits. -/
def unescape : Nat → Octets → Octets × Bool
  | 0, _ => ([], false)
  | _, [] => ([], false)
  | _ + 1, '\\' :: 'c' :: _ => ([], true)
  | fuel + 1, '\\' :: rest =>
    let cs := match rest with
      | '0' :: d :: _ => if isOctal d then rest.drop 1 else rest
      | _ => rest
    let (c, rest) := escape cs
    let (more, ends) := unescape fuel rest
    (c :: more, ends)
  | fuel + 1, c :: rest =>
    let (more, ends) := unescape fuel rest
    (c :: more, ends)

def unescaped (cs : Octets) : Octets × Bool :=
  unescape (cs.length + 1) cs

/-- The layout of one argument. -/
structure Layout where
  flags : List Char
  width : Nat
  precision : Option Nat
  letter : Char

def Layout.has (l : Layout) (c : Char) : Bool :=
  l.flags.contains c

/-- Extends a text to the width; `sign` is what stands before the zeros of a number. -/
def Layout.pad (l : Layout) (zeros : Bool) (sign text : Octets) : Octets :=
  let missing := l.width - (sign.length + text.length)
  if l.has '-' then sign ++ text ++ List.replicate missing ' '
  else if zeros && l.has '0' then sign ++ List.replicate missing '0' ++ text
  else List.replicate missing ' ' ++ sign ++ text

def Layout.text (l : Layout) (cs : Octets) : Octets :=
  l.pad false [] (match l.precision with
    | some n => cs.take n
    | none => cs)

/-- The sign of a number. -/
def Layout.sign (l : Layout) (negative : Bool) : Octets :=
  if negative then ['-'] else if l.has '+' then ['+'] else if l.has ' ' then [' '] else []

/-- The digits of a whole number with at least as many as the precision asks for. -/
def Layout.digits (l : Layout) (cs : Octets) : Octets :=
  match l.precision with
  | some 0 => if cs = ['0'] then [] else cs
  | some n => List.replicate (n - cs.length) '0' ++ cs
  | none => cs

def Layout.signed (l : Layout) (n : Int) : Octets :=
  l.pad l.precision.isNone (l.sign (n < 0)) (l.digits (decimal n.natAbs))

def Layout.unsigned (l : Layout) (n : Nat) : Octets :=
  let hex := Nat.toDigits 16 n
  match l.letter with
  | 'o' =>
    let cs := l.digits (Nat.toDigits 8 n)
    l.pad l.precision.isNone [] (if l.has '#' && cs.head? ≠ some '0' then '0' :: cs else cs)
  | 'x' => l.pad l.precision.isNone (if l.has '#' && n ≠ 0 then ['0', 'x'] else []) (l.digits hex)
  | 'X' =>
    l.pad l.precision.isNone (if l.has '#' && n ≠ 0 then ['0', 'X'] else [])
      (l.digits (hex.map Char.toUpper))
  | _ => l.pad l.precision.isNone [] (l.digits (decimal n))

/-- A number of decimals, with the point where there are any. -/
def pointed (alternative : Bool) (decimals : Nat) (n : Nat) : Octets :=
  let cs := decimal n
  let cs := List.replicate (decimals + 1 - cs.length) '0' ++ cs
  let whole := cs.take (cs.length - decimals)
  if decimals = 0 then if alternative then whole ++ ['.'] else whole
  else whole ++ '.' :: cs.drop (cs.length - decimals)

/-- The quotient with so many decimals, as a whole number of its last place. -/
def scaled (num den : Nat) (places : Int) : Nat :=
  if 0 ≤ places then Binary64.roundedQuotient (num * Nat.pow 10 places.toNat) den
  else Binary64.roundedQuotient num (den * Nat.pow 10 (-places).toNat)

/-- The power of ten of the first digit. -/
def magnitude (num den : Nat) : Int :=
  if den ≤ num then (decimal (num / den)).length - 1
  else
    let zeros := (decimal (den / num)).length
    if den ≤ num * Nat.pow 10 (zeros - 1) then -((zeros - 1 : Nat) : Int) else -(zeros : Int)

/-- The digits of a quotient, one before the point and `decimals` behind it, with the power of
ten. -/
def exponential (num den decimals : Nat) : Nat × Int :=
  if num = 0 then (0, 0)
  else
    let e := magnitude num den
    let n := scaled num den (decimals - e)
    if Nat.pow 10 (decimals + 1) ≤ n then (scaled num den (decimals - (e + 1)), e + 1) else (n, e)

def exponentText (upper : Bool) (e : Int) : Octets :=
  let cs := decimal e.natAbs
  (if upper then 'E' else 'e') :: (if e < 0 then '-' else '+') ::
    (if cs.length < 2 then '0' :: cs else cs)

def withoutZeros (cs : Octets) : Octets :=
  if cs.contains '.' then
    let cs := cs.reverse.dropWhile (· = '0')
    ((if cs.head? = some '.' then cs.drop 1 else cs)).reverse
  else cs

/-- A quotient in the layout of a letter for floating point numbers. -/
def Layout.floating (l : Layout) (num den : Nat) : Octets :=
  let upper := l.letter.isUpper
  let p := l.precision.getD 6
  let alternative := l.has '#'
  match l.letter.toLower with
  | 'f' => pointed alternative p (scaled num den p)
  | 'e' =>
    let (n, e) := exponential num den p
    pointed alternative p n ++ exponentText upper e
  | _ =>
    let p := if p = 0 then 1 else p
    let (n, e) := exponential num den (p - 1)
    let trim (cs : Octets) := if alternative then cs else withoutZeros cs
    if e < -4 || (p : Int) ≤ e then trim (pointed alternative (p - 1) n) ++ exponentText upper e
    else
      let places := ((p : Int) - 1 - e).toNat
      trim (pointed alternative places (scaled num den places))

/-- A number in base sixteen with a power of two. -/
def Layout.hexadecimal (m : Nat) (e : Int) : Octets :=
  if m = 0 then octets "0x0p+0"
  else
    let size := Nat.log2 m
    let power := e + size
    let fraction := (m - Nat.pow 2 size) * Nat.pow 2 (52 - size)
    let digits := Nat.toDigits 16 fraction
    let digits := List.replicate (13 - digits.length) '0' ++ digits
    let digits := (digits.reverse.dropWhile (· = '0')).reverse
    octets "0x1" ++ (if digits = [] then [] else '.' :: digits) ++
      'p' :: (if power < 0 then '-' else '+') :: decimal power.natAbs

def Layout.float (l : Layout) (x : Binary64) : Octets :=
  let cased (s : String) := if l.letter.isUpper then octets s.toUpper else octets s
  match x with
  | .nan => l.pad false [] (cased "nan")
  | .infinite negative => l.pad false (l.sign negative) (cased "inf")
  | .finite negative m e =>
    let text :=
      if l.letter.toLower = 'a' then Layout.hexadecimal m e
      else
        let (num, den) := Binary64.quotient m e
        l.floating num den
    l.pad true (l.sign negative) (if l.letter = 'A' then text.map Char.toUpper else text)

/-- The floating point number that a text begins with, and the text behind it. -/
def float? (cs : Octets) : Option (Binary64 × Octets) :=
  let cs := cs.dropWhile fun c => Pattern.isOfClass c "space"
  let (negative, cs) := match cs with
    | '-' :: rest => (true, rest)
    | '+' :: rest => (false, rest)
    | _ => (false, cs)
  let named (s : String) := Text.after? s.toList (cs.map Char.toLower)
  if (named "infinity").isSome then some (.infinite negative, cs.drop 8)
  else if (named "inf").isSome then some (.infinite negative, cs.drop 3)
  else if (named "nan").isSome then some (.nan, cs.drop 3)
  else
    let whole := cs.takeWhile Char.isDigit
    let rest := cs.drop whole.length
    let (decimals, rest) := match rest with
      | '.' :: more => (more.takeWhile Char.isDigit, more.dropWhile Char.isDigit)
      | _ => ([], rest)
    if whole = [] && decimals = [] then none
    else
      let (sign, digits) : Int × Octets := match rest.drop 1 with
        | '-' :: ds => (-1, ds.takeWhile Char.isDigit)
        | '+' :: ds => (1, ds.takeWhile Char.isDigit)
        | ds => (1, ds.takeWhile Char.isDigit)
      let isPower := (rest.head? = some 'e' || rest.head? = some 'E') && digits ≠ []
      let size := (rest.drop 1).takeWhile fun c => c = '-' || c = '+'
      let e : Int := if isPower then sign * Formula.valueOf 10 digits else 0
      let rest := if isPower then rest.drop (1 + size.length + digits.length) else rest
      some (.ofDecimal negative (Formula.valueOf 10 (whole ++ decimals)) (e - decimals.length),
        rest)

/-- What printing leaves: the arguments that are left, what was printed, last first, and the
status; printing may also have come to its end. -/
structure Progress where
  arguments : List Octets
  printed : Octets
  status : Nat
  ended : Bool

abbrev Printer := StateT Progress Running

def out (cs : Octets) : Printer Unit :=
  modify fun p => { p with printed := cs.reverse ++ p.printed }

def nextArgument : Printer (Option Octets) :=
  modifyGet fun p => (p.arguments.head?, { p with arguments := p.arguments.tail })

def warn (text : Octets) : Printer Unit := do
  Running.complain text
  modify fun p => { p with status := 1 }

/-- Warns where an argument is no number as a whole. -/
def checkNumber (a : Octets) (rest : Option Octets) (inRange : Bool) : Printer Unit := do
  match rest with
  | none => if a ≠ [] then warn (a ++ octets ": expected numeric value")
  | some [] =>
    if !inRange then warn (a ++ octets ": Numerical result out of range")
  | some _ => warn (a ++ octets ": not completely converted")

/-- The next argument as a whole number; a quotation mark asks for the number of the character
behind it. -/
def nextInteger (signed : Bool) : Printer Int := do
  match ← nextArgument with
  | none => return 0
  | some ('\'' :: c :: _) | some ('"' :: c :: _) => return c.toNat
  | some ['\''] | some ['"'] => return 0
  | some a =>
    let top : Int := if signed then Formula.greatest else (Nat.pow 2 64 - 1 : Nat)
    let low : Int := if signed then -(Formula.greatest : Int) - 1 else -top
    match Formula.integer? a with
    | none =>
      checkNumber a none true
      return 0
    | some (n, rest) =>
      checkNumber a (some rest) (low ≤ n && n ≤ top)
      return if n < low then (if signed then low else top) else min n top

def nextFloat : Printer Binary64 := do
  match ← nextArgument with
  | none => return .zero false
  | some ('\'' :: c :: _) | some ('"' :: c :: _) => return .ofNat c.toNat
  | some a =>
    match float? a with
    | none =>
      checkNumber a none true
      return .zero false
    | some (x, rest) =>
      checkNumber a (some rest) true
      return x

/-- A width or precision, which may be taken from the arguments; with the text behind it. -/
def size (cs : Octets) : Printer (Int × Octets) := do
  match cs with
  | '*' :: rest => return (← nextInteger true, rest)
  | cs => return (Formula.valueOf 10 (cs.takeWhile Char.isDigit), cs.dropWhile Char.isDigit)

/-- Prints one argument as the letter of a layout asks. -/
def conversion (whole : Octets) (l : Layout) : Printer Unit := do
  match l.letter with
  | 's' => out (l.text ((← nextArgument).getD []))
  | 'b' =>
    let (text, ends) := unescaped ((← nextArgument).getD [])
    out (l.text text)
    if ends then modify fun p => { p with ended := true }
  | 'c' =>
    let c := ((← nextArgument).getD []).head?.getD '\x00'
    out (l.pad false [] [c])
  | c =>
    if c = 'd' || c = 'i' then out (l.signed (← nextInteger true))
    else if "ouxX".toList.contains c then
      let n ← nextInteger false
      out (l.unsigned (n % (Nat.pow 2 64 : Int)).toNat)
    else if "aAeEfFgG".toList.contains c then out (l.float (← nextFloat))
    else
      Running.fault (whole ++ octets ": invalid directive")

/-- Prints a format once. -/
def format : Nat → Octets → Printer Unit
  | 0, _ => return ()
  | _, [] => return ()
  | fuel + 1, '\\' :: rest => do
    let (c, rest) := escape rest
    out [c]
    format fuel rest
  | fuel + 1, '%' :: '%' :: rest => do
    out ['%']
    format fuel rest
  | fuel + 1, '%' :: rest => do
    let flags := rest.takeWhile "#-+ 0".toList.contains
    let (width, behind) ← size (rest.drop flags.length)
    let (precision, behind) ← match behind with
      | '.' :: more => do
        let (n, behind) ← size more
        pure (if n < 0 then none else some n.toNat, behind)
      | _ => pure (none, behind)
    match behind with
    | [] => do
      let printed := (← get).printed.reverse
      Running.emit printed
      Running.fault (octets "missing format character")
    | letter :: after =>
      let flags := if width < 0 then '-' :: flags else flags
      let whole := '%' :: rest.take (rest.length - after.length)
      conversion whole ⟨flags, width.natAbs, precision, letter⟩
      if (← get).ended then return ()
      format fuel after
  | fuel + 1, c :: rest => do
    out [c]
    format fuel rest

/-- Prints a format as often as it takes to use up the arguments. -/
def formatAll (cs : Octets) : Nat → Printer Unit
  | 0 => return ()
  | fuel + 1 => do
    let before := (← get).arguments.length
    format (cs.length + 1) cs
    let p ← get
    if p.ended || p.arguments.isEmpty || p.arguments.length = before then return ()
    formatAll cs fuel

end Printing

/-- Prints its arguments, in which backslashes escape, and a line end. -/
def echo : Utility := fun arguments => do
  let (plain, arguments) := match arguments with
    | ['-', 'n'] :: rest => (true, rest)
    | _ => (false, arguments)
  let (text, ends) := Printing.unescaped (Text.join [' '] arguments)
  Running.emit (if plain || ends then text else text ++ ['\n'])
  return 0

/-- The options of printing at the front of the arguments: whether there is no line end, and
whether backslashes escape. -/
def printOptions : Bool → Bool → List Octets → Bool × Bool × List Octets
  | plain, escapes, ('-' :: c :: cs) :: rest =>
    if (c :: cs).all fun d => d = 'n' || d = 'e' || d = 'E' then
      let escapes := match (c :: cs).reverse.find? (· ≠ 'n') with
        | some d => d = 'e'
        | none => escapes
      printOptions (plain || (c :: cs).contains 'n') escapes rest
    else (plain, escapes, ('-' :: c :: cs) :: rest)
  | plain, escapes, rest => (plain, escapes, rest)

/-- Prints its arguments as they are, unless it is told that backslashes escape. -/
def plainEcho : Utility := fun arguments => do
  let (plain, escapes, arguments) := printOptions false false arguments
  let text := Text.join [' '] arguments
  let (text, ends) := if escapes then Printing.unescaped text else (text, false)
  Running.emit (if plain || ends then text else text ++ ['\n'])
  return 0

def printf : Utility := fun arguments => do
  let arguments := match arguments with
    | ['-', '-'] :: rest => rest
    | _ => arguments
  match arguments with
  | [] => Running.fault (octets "usage: printf format [arg ...]")
  | cs :: rest => do
    let (_, p) ← (Printing.formatAll cs (rest.length + 1)).run ⟨rest, [], 0, false⟩
    Running.emit p.printed.reverse
    return p.status

end MailMerge.Script.Utility
