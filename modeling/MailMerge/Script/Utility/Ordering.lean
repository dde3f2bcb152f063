import MailMerge.Script.Utility.Lines
import MailMerge.Script.Utility.Printing

/-!
# The order of lines

Utilities that sort lines, and that compare lines that are sorted.
-/

namespace MailMerge.Script.Utility

open Lines

/-- What a key of an order is and how it is compared. -/
structure Key where
  field : Nat
  char : Nat
  lastField : Option Nat
  lastChar : Nat
  letters : List Char

/-- The fields of a line, each with the blanks before it unless a separator is given. -/
def fieldsOf (separator : Option Char) (l : Octets) : List Octets :=
  match separator with
  | some c => Text.pieces c l
  | none => go (l.length + 1) l
where
  go : Nat → Octets → List Octets
    | 0, _ => []
    | _, [] => []
    | fuel + 1, cs =>
      let isBlank (c : Char) := c = ' ' || c = '\t'
      let blanks := cs.takeWhile isBlank
      let rest := cs.drop blanks.length
      let word := rest.takeWhile fun c => !isBlank c
      (blanks ++ word) :: go fuel (rest.drop word.length)

/-- The part of a line that a key compares. -/
def keyText (separator : Option Char) (k : Key) (l : Octets) : Octets :=
  let fields := fieldsOf separator l
  let joint := separator.elim [] fun c => [c]
  let skip (cs : Octets) := if k.letters.contains 'b' then cs.dropWhile fun c => c = ' ' || c = '\t'
    else cs
  let first := k.field - 1
  let last := match k.lastField with
    | some n => n
    | none => fields.length
  let chosen := (fields.take last).drop first
  match chosen with
  | [] => []
  | f :: rest =>
    let cutLast (cs : Octets) :=
      if k.lastChar = 0 || k.lastField.isNone then cs else cs.take k.lastChar
    if rest.isEmpty then ((cutLast (skip f)).drop (k.char - 1))
    else
      let rest := match rest.reverse with
        | l :: before => (cutLast l :: before).reverse
        | [] => []
      Text.join joint ((skip f).drop (k.char - 1) :: rest)

/-- A decimal number at the front of a text, in billionths of billionths. -/
def leadingNumber (cs : Octets) : Int :=
  let cs := cs.dropWhile fun c => c = ' ' || c = '\t'
  let (negative, cs) := match cs with
    | '-' :: rest => (true, rest)
    | _ => (false, cs)
  let whole := cs.takeWhile Char.isDigit
  let decimals := match cs.drop whole.length with
    | '.' :: rest => rest.takeWhile Char.isDigit
    | _ => []
  let decimals := (decimals ++ List.replicate 18 '0').take 18
  let n : Int := Formula.valueOf 10 (whole ++ decimals)
  if negative then -n else n

/-- How two texts compare by the floating point numbers at their fronts; texts without one come
first. -/
def compareGeneral (a b : Octets) : Ordering :=
  let rank : Option (Binary64 × Octets) → Nat
    | none => 0
    | some (.nan, _) => 1
    | some (.infinite true, _) => 2
    | some (.finite .., _) => 3
    | some (.infinite false, _) => 4
  let fraction (negative : Bool) (m : Nat) (e : Int) : Int × Nat :=
    let (num, den) := Binary64.quotient m e
    (if negative then -(num : Int) else num, den)
  let x := Printing.float? a
  let y := Printing.float? b
  match x, y with
  | some (.finite s m e, _), some (.finite t n f, _) =>
    let (p, q) := fraction s m e
    let (u, v) := fraction t n f
    compare (p * v) (u * q)
  | x, y => compare (rank x) (rank y)

/-- The power of a thousand that a letter behind the number at the front stands for, with the sign
of the number. -/
def magnitudeOf (cs : Octets) : Int :=
  let number := leadingNumber cs
  let rest := cs.dropWhile fun c => c = ' ' || c = '\t' || c = '-'
  let letter := (rest.dropWhile fun c => c.isDigit || c = '.').head?
  let power : Int := match letter.bind fun c => "KMGTPEZY".toList.idxOf? c with
    | some i => i + 1
    | none => if letter = some 'k' then 1 else 0
  if number = 0 then 0 else if number < 0 then -power else power

def months : List String :=
  ["JAN", "FEB", "MAR", "APR", "MAY", "JUN", "JUL", "AUG", "SEP", "OCT", "NOV", "DEC"]

/-- The number of the month whose name a text begins with. -/
def monthOf (cs : Octets) : Nat :=
  let name := ((cs.dropWhile fun c => c = ' ' || c = '\t').take 3).map Char.toUpper
  ((months.idxOf? (String.ofList name)).map (· + 1)).getD 0

/-- The place of a character in versions: ends and digits come before letters. -/
def versionPlace : Option Char → Int
  | none => -1
  | some c =>
    if c.isDigit then 0
    else if c.isAlpha then c.toNat
    else if c = '~' then -2
    else c.toNat + 256

/-- How two versions compare: by turns the texts between numbers, and the numbers. -/
def compareVersions : Nat → Octets → Octets → Ordering
  | 0, _, _ => .eq
  | fuel + 1, a, b =>
    if a = [] && b = [] then .eq
    else
      let isNumber (cs : Octets) := cs.head?.any Char.isDigit
      let isOver (cs : Octets) := cs = [] || isNumber cs
      if isOver a && isOver b then
        let number (cs : Octets) := Formula.valueOf 10 (cs.takeWhile Char.isDigit)
        let rest (cs : Octets) := cs.dropWhile Char.isDigit
        if isNumber a || isNumber b then
          (compare (number a) (number b)).then
            (if isNumber a && isNumber b then compareVersions fuel (rest a) (rest b)
              else if isNumber a then .gt else .lt)
        else .eq
      else
        (compare (versionPlace a.head?) (versionPlace b.head?)).then
          (compareVersions fuel (a.drop 1) (b.drop 1))

/-- A name without what looks like endings. -/
def withoutEndings (cs : Octets) : Octets :=
  match Text.cutLast '.' cs with
  | some (before, d :: ending) =>
    if (d.isAlpha || d = '~') && ending.all (fun c => c.isAlphanum || c = '~') && before ≠ [] then
      before
    else cs
  | _ => cs

def compareNamedVersions (a b : Octets) : Ordering :=
  let fuel := a.length + b.length + 1
  (compareVersions fuel (withoutEndings a) (withoutEndings b)).then (compareVersions fuel a b)

/-- How two key texts compare under the letters of a key. -/
def compareBy (letters : List Char) (a b : Octets) : Ordering :=
  let o :=
    if letters.contains 'n' then compare (leadingNumber a) (leadingNumber b)
    else if letters.contains 'g' then compareGeneral a b
    else if letters.contains 'h' then
      (compare (magnitudeOf a) (magnitudeOf b)).then (compare (leadingNumber a) (leadingNumber b))
    else if letters.contains 'M' then compare (monthOf a) (monthOf b)
    else if letters.contains 'V' then compareNamedVersions a b
    else
      let shape (cs : Octets) : Octets :=
        let cs :=
          if letters.contains 'd' then cs.filter fun c => c.isAlphanum || c = ' ' || c = '\t'
          else if letters.contains 'i' then cs.filter fun c => ' ' ≤ c && c ≤ '~'
          else cs
        if letters.contains 'f' then cs.map Char.toUpper else cs
      let a := shape a
      let b := shape b
      if a < b then .lt else if b < a then .gt else .eq
  if letters.contains 'r' then o.swap else o

/-- A key in the form `field.char letters, field.char letters`. -/
def key? (cs : Octets) : Option Key :=
  let place (cs : Octets) : Option (Nat × Nat × List Char) :=
    let field := cs.takeWhile Char.isDigit
    let rest := cs.drop field.length
    let (char, rest) := match rest with
      | '.' :: more => (more.takeWhile Char.isDigit, more.dropWhile Char.isDigit)
      | _ => ([], rest)
    if field = [] || rest.any fun c => !c.isAlpha then none
    else some (Formula.valueOf 10 field, Formula.valueOf 10 char, rest)
  match Text.cutFirst ',' cs with
  | none => (place cs).map fun (f, c, ls) => ⟨f, max c 1, none, 0, ls⟩
  | some (first, last) =>
    (place first).bind fun (f, c, ls) => (place last).map fun (g, d, ms) =>
      ⟨f, max c 1, some g, d, ls ++ ms⟩

def sort : Utility := fun arguments =>
  withOptions "sort"
    { flags := "bcdfgimnrsuzMhV", valued := "ktoST", status := 2
      long := [("reverse", 'r'), ("numeric-sort", 'n'), ("unique", 'u'), ("key", 'k'),
        ("field-separator", 't'), ("output", 'o'), ("ignore-case", 'f'), ("stable", 's'),
        ("check", 'c'), ("ignore-leading-blanks", 'b'), ("human-numeric-sort", 'h'),
        ("general-numeric-sort", 'g'), ("version-sort", 'V'), ("month-sort", 'M'),
        ("dictionary-order", 'd'), ("merge", 'm')] } arguments fun o files => do
      let general := "bdfghinrMV".toList.filter o.has
      let texts := (o.filter fun g => g.1 = 'k').map Prod.snd
      let separator := (o.value? 't').bind List.head?
      match (texts.map key?).mapM id with
      | none =>
        failed "sort" 2 (octets "invalid number at field start: invalid count at start of " ++
          quoted (texts.headD []))
      | some keys =>
        let (content, status) ← allInput "sort" files
        let lines := linesOf content
        let keys := keys.map fun k => if k.letters.isEmpty then { k with letters := general } else k
        let byKeys (a b : Octets) : Ordering :=
          if keys.isEmpty then
            let skip (cs : Octets) := if o.has 'b' then cs.dropWhile fun c => c = ' ' || c = '\t'
              else cs
            compareBy general (skip a) (skip b)
          else
            keys.foldl (fun found k =>
              found.then (compareBy k.letters (keyText separator k a) (keyText separator k b))) .eq
        let plainly (a b : Octets) : Ordering := compareBy (general.filter (· = 'r')) a b
        let order (a b : Octets) : Ordering :=
          let found := byKeys a b
          if o.has 's' || o.has 'u' then found else found.then (plainly a b)
        let sorted := lines.mergeSort fun a b => order a b != .gt
        let result := if o.has 'u' then distinctBy byKeys sorted else sorted
        if o.has 'c' then
          match (lines.zip (lines.drop 1)).zipIdx.find? fun ((a, b), _) =>
              order a b = .gt || (o.has 'u' && order a b = .eq) with
          | some ((_, b), i) =>
            let name := match files with
              | f :: _ => f
              | [] => ['-']
            failed "sort" 1 (name ++ ':' :: decimal (i + 2) ++ octets ": disorder: " ++ b)
          | none => return status
        else
          match o.value? 'o' with
          | some path =>
            let σ ← get
            let written := σ.files.write σ.working (pathOf path) (toBytes (unlines result))
            return max status (← change "sort" path written)
          | none =>
            Running.emit (unlines result)
            return if status = 0 then 0 else 2
where
  /-- Leaves out lines that compare equal to the one before. -/
  distinctBy (compare : Octets → Octets → Ordering) : List Octets → List Octets
    | a :: b :: rest =>
      if compare a b = .eq then distinctBy compare (a :: rest)
      else a :: distinctBy compare (b :: rest)
    | ls => ls
  termination_by ls => ls.length

/-- Equal lines in a row, with their number. -/
def runs (same : Octets → Octets → Bool) : List Octets → List (Octets × Nat)
  | [] => []
  | l :: rest =>
    match runs same rest with
    | (k, n) :: more => if same l k then (l, n + 1) :: more else (l, 1) :: (k, n) :: more
    | [] => [(l, 1)]

def uniq : Utility := fun arguments =>
  withOptions "uniq"
    { flags := "cdiuzD", valued := "fsw"
      long := [("count", 'c'), ("repeated", 'd'), ("unique", 'u'), ("ignore-case", 'i'),
        ("skip-fields", 'f'), ("skip-chars", 's'), ("check-chars", 'w')] } arguments
    fun o files => do
      let number (letter : Char) := (o.value? letter).bind natural?
      let compared (l : Octets) : Octets :=
        let fields := fieldsOf none l
        let l := (fields.drop ((number 'f').getD 0)).flatMap id
        let l := l.drop ((number 's').getD 0)
        let l := match number 'w' with
          | some n => l.take n
          | none => l
        if o.has 'i' then l.map Char.toLower else l
      match ← argumentContent (files.headD ['-']) with
      | .error fault =>
        failed "uniq" 1 (files.headD ['-'] ++ octets ": " ++ faultText fault)
      | .ok content =>
        let found := runs (fun a b => compared a = compared b) (linesOf content)
        let kept := found.filter fun (_, n) =>
          (!o.has 'd' || n > 1) && (!o.has 'u' || n = 1)
        let out := unlines (kept.map fun (l, n) =>
          if o.has 'c' then padded 7 n ++ ' ' :: l else l)
        match files with
        | [_, path] =>
          let σ ← get
          change "uniq" path (σ.files.write σ.working (pathOf path) (toBytes out))
        | _ =>
          Running.emit out
          return 0

/-- The lines of two sorted texts in three columns: those of the first only, those of the second
only, and those of both. -/
def compared : Nat → List Octets → List Octets → List (Nat × Octets)
  | 0, _, _ => []
  | _, [], bs => bs.map fun b => (2, b)
  | _, as, [] => as.map fun a => (1, a)
  | fuel + 1, a :: as, b :: bs =>
    if a = b then (3, a) :: compared fuel as bs
    else if a < b then (1, a) :: compared fuel as (b :: bs)
    else (2, b) :: compared fuel (a :: as) bs

def comm : Utility := fun arguments =>
  withOptions "comm" { flags := "123", valued := "" } arguments fun o files => do
    match files with
    | [a, b] =>
      match ← argumentContent a, ← argumentContent b with
      | .ok x, .ok y =>
        let hidden (n : Nat) := o.has (Char.ofNat ('0'.toNat + n))
        let lines := compared (x.length + y.length + 1) (linesOf x) (linesOf y)
        Running.emit (lines.flatMap fun (n, l) =>
          if hidden n then []
          else
            let tabs := ((List.range n).filter fun k => k ≠ 0 && !hidden k).length
            List.replicate tabs '\t' ++ l ++ ['\n'])
        return 0
      | .error fault, _ => failed "comm" 1 (a ++ octets ": " ++ faultText fault)
      | _, .error fault => failed "comm" 1 (b ++ octets ": " ++ faultText fault)
    | _ => missingOperand "comm"

end MailMerge.Script.Utility
