import MailMerge.Script.Utility.Lines
import MailMerge.Script.Utility.Printing

/-!
# Numbers in lines

Utilities that make lines of numbers or put numbers before lines.
-/

namespace MailMerge.Script.Utility

open Lines

/-- Numbers the lines of texts that are not empty. -/
def nl : Utility := fun arguments =>
  withOptions "nl" { flags := "p", valued := "bdfhilnsvw" } arguments fun o files => do
    let (content, status) ← allInput "nl" files
    let width := ((o.value? 'w').bind natural?).getD 6
    let separator := (o.value? 's').getD ['\t']
    let start := ((o.value? 'v').bind natural?).getD 1
    let step := ((o.value? 'i').bind natural?).getD 1
    let style := (o.value? 'b').getD ['t']
    let shape (n : Nat) : Octets :=
      let cs := decimal n
      match (o.value? 'n').map String.ofList with
      | some "ln" => cs ++ List.replicate (width - cs.length) ' '
      | some "rz" => List.replicate (width - cs.length) '0' ++ cs
      | _ => padded width n
    let lines := (linesOf content).foldl (fun ((n, out) : Nat × List Octets) l =>
      if style = ['a'] || (style = ['t'] && l ≠ []) then
        (n + step, (shape n ++ separator ++ l) :: out)
      else (n, (List.replicate (width + separator.length) ' ' ++ l) :: out)) (start, [])
    Running.emit (unlines lines.2.reverse)
    return status

/-- A decimal number, in units of a power of ten. -/
structure Scaled where
  value : Int
  places : Nat

def scaled? (cs : Octets) : Option Scaled :=
  let (negative, cs) := match cs with
    | '-' :: rest => (true, rest)
    | '+' :: rest => (false, rest)
    | _ => (false, cs)
  let (whole, decimals) := (Text.cutFirst '.' cs).getD (cs, [])
  if (whole = [] && decimals = []) || !(whole ++ decimals).all Char.isDigit then none
  else
    let n : Int := Formula.valueOf 10 (whole ++ decimals)
    some ⟨if negative then -n else n, decimals.length⟩

def Scaled.raise (s : Scaled) (places : Nat) : Int :=
  s.value * (Nat.pow 10 (places - s.places) : Int)

/-- A scaled number in digits. -/
def scaledText (places : Nat) (n : Int) : Octets :=
  let cs := decimal n.natAbs
  let cs := List.replicate (places + 1 - cs.length) '0' ++ cs
  let whole := cs.take (cs.length - places)
  let text := if places = 0 then whole else whole ++ '.' :: cs.drop (cs.length - places)
  if n < 0 then '-' :: text else text

/-- How numbers in a row are written: what stands between them, whether zeros make them equally
wide, and the layout of one if it is given. -/
structure RowForm where
  separator : Octets
  wide : Bool
  layout : Option Octets

/-- The form that options ask for, and the other arguments. -/
def rowForm (f : RowForm) : List Octets → RowForm × List Octets
  | ['-', 's'] :: s :: rest => rowForm { f with separator := s } rest
  | ('-' :: 's' :: c :: s) :: rest => rowForm { f with separator := c :: s } rest
  | ['-', 'w'] :: rest => rowForm { f with wide := true } rest
  | ['-', 'f'] :: l :: rest => rowForm { f with layout := some l } rest
  | ('-' :: 'f' :: c :: l) :: rest => rowForm { f with layout := some (c :: l) } rest
  | ['-', '-'] :: rest => (f, rest)
  | rest => (f, rest)

/-- The numbers from a first one on by steps up to a last one, in digits; none if a step leads
nowhere. -/
def rowOf? (first step last : Scaled) : Option (List Octets) :=
  let shown := max first.places step.places
  let places := max shown last.places
  let stride := step.raise places
  if stride = 0 then none
  else
    let start := first.raise places
    let limit := last.raise places
    let count :=
      if 0 < stride then (limit - start) / stride + 1 else (start - limit) / (-stride) + 1
    let unit := (Nat.pow 10 (places - shown) : Int)
    some ((List.range (min count.toNat 2000000)).map fun i =>
      scaledText shown ((start + stride * Int.ofNat i) / unit))

/-- Digits with zeros before them up to a width, behind the sign. -/
def widened (width : Nat) (cs : Octets) : Octets :=
  let zeros := List.replicate (width - cs.length) '0'
  match cs with
  | '-' :: digits => '-' :: zeros ++ digits
  | digits => zeros ++ digits

def seq : Utility := fun arguments => do
  let (form, operands) := rowForm ⟨['\n'], false, none⟩ arguments
  let refused (text : String) (a : Octets) : Running Nat := do
    complain "seq" (octets text ++ quoted a)
    hint "seq"
    return 1
  let ends? := match operands with
    | [last] => some (octets "1", octets "1", last)
    | [first, last] => some (first, octets "1", last)
    | [first, step, last] => some (first, step, last)
    | _ => none
  match ends?, operands.drop 3 with
  | _, a :: _ => refused "extra operand " a
  | none, [] => missingOperand "seq"
  | some (first, step, last), [] =>
    match scaled? first, scaled? step, scaled? last with
    | some a, some d, some b =>
      match rowOf? a d b with
      | none => refused "invalid Zero increment value: " step
      | some [] => return 0
      | some numbers =>
        let width := if form.wide then numbers.foldl (fun n t => max n t.length) 0 else 0
        let written ← numbers.mapM fun t => do
          match form.layout with
          | some layout =>
            let (_, p) ← (Printing.formatAll layout 2).run ⟨[t], [], 0, false⟩
            return p.printed.reverse
          | none => return widened width t
        Running.emit (Text.join form.separator written ++ ['\n'])
        return 0
    | x, d, _ =>
      refused "invalid floating point argument: "
        (if x.isNone then first else if d.isNone then step else last)

/-- Lines that never end; a reader takes what it wants of them. -/
def yes : Utility := fun arguments => do
  let line := (if arguments.isEmpty then ['y'] else Text.join [' '] arguments) ++ ['\n']
  Running.emit ((List.replicate 20000 line).flatMap id)
  throw .endless

end MailMerge.Script.Utility
