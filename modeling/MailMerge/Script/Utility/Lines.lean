import MailMerge.Script.Utility.Basic

/-!
# Lines

Utilities that show and count the lines of texts, or take some of them.
-/

namespace MailMerge.Script.Utility

namespace Lines

/-- The pieces of a text up to and with each line end; the last one may have none. -/
def whole (cs : Octets) : List Octets :=
  let pieces := Text.pieces '\n' cs
  let last := pieces.getLast?.getD []
  (pieces.dropLast.map (· ++ ['\n'])) ++ if last = [] then [] else [last]

/-- Digits, with blanks before them up to a width. -/
def padded (width n : Nat) : Octets :=
  let cs := decimal n
  List.replicate (width - cs.length) ' ' ++ cs

/-- A number in digits of a base, with zeros or blanks before it. -/
def based (base width : Nat) (fill : Char) (n : Nat) : Octets :=
  let cs := Nat.toDigits base n
  List.replicate (width - cs.length) fill ++ cs

/-- The words of a text, between blanks. -/
def words (cs : Octets) : List Octets :=
  let isBlank (c : Char) := Pattern.isOfClass c "space"
  let (last, done) := cs.foldl (fun ((word, done) : Octets × List Octets) c =>
    if isBlank c then ([], if word = [] then done else word.reverse :: done)
    else (c :: word, done)) ([], [])
  (if last = [] then done else last.reverse :: done).reverse

/-- A number with a letter for a power of 1024. -/
def sized? (cs : Octets) : Option Nat :=
  let digits := cs.takeWhile Char.isDigit
  if digits = [] then none
  else
    let n := Formula.valueOf 10 digits
    match String.ofList (cs.drop digits.length) with
    | "" => some n
    | "b" => some (512 * n)
    | "K" | "k" | "KiB" => some (1024 * n)
    | "kB" => some (1000 * n)
    | "M" | "MiB" => some (1048576 * n)
    | _ => none

/-- Arguments in which a number behind a sign stands for an option. -/
def withNumber (signs : List Char) (arguments : List Octets) : List Octets :=
  match arguments with
  | (sign :: d :: cs) :: rest =>
    if signs.contains sign && d.isDigit then
      let digits := (d :: cs).takeWhile Char.isDigit
      let letter := match (d :: cs).drop digits.length with
        | 'c' :: _ => 'c'
        | _ => 'n'
      ['-', letter] :: ((if sign = '+' then ['+'] else []) ++ digits) :: rest
    else arguments
  | _ => arguments

/-- Acts on every input under a heading where there are several. -/
def underHeadings (name : String) (files : List Octets) (quiet always : Bool)
    (act : Octets → Octets) : Running Nat := do
  let headed := !quiet && (always || files.length > 1)
  let mut first := true
  let mut status := 0
  for a in if files.isEmpty then [['-']] else files do
    match ← argumentContent a with
    | .ok content =>
      if headed then
        let title := if a = ['-'] then octets "standard input" else a
        Running.emit ((if first then [] else ['\n']) ++ octets "==> " ++ title ++
          octets " <==\n")
      first := false
      Running.emit (act content)
    | .error fault =>
      complain name (octets (if fault = .isFolder then "error reading " else "cannot open ") ++
        quoted a ++ octets (if fault = .isFolder then ": " else " for reading: ") ++
        faultText fault)
      status := 1
  return status

end Lines

open Lines

/-! ## Showing -/

def printable (tabs ends : Bool) (c : Char) : Octets :=
  if c = '\n' then if ends then ['$', '\n'] else ['\n']
  else if c = '\t' then if tabs then ['^', 'I'] else ['\t']
  else [c]

/-- A character in signs that can be seen. -/
def visible (c : Char) : Octets :=
  if c = '\n' || c = '\t' then [c]
  else
    let low (n : Nat) : Octets :=
      if n < 32 then ['^', Char.ofNat (n + 64)]
      else if n = 127 then ['^', '?']
      else [Char.ofNat n]
    if c.toNat < 128 then low c.toNat else ['M', '-'] ++ low (c.toNat - 128)

/-- Leaves out empty lines behind empty lines. -/
def squeezed : Bool → List Octets → List Octets
  | _, [] => []
  | wasEmpty, l :: rest =>
    if l = ['\n'] then if wasEmpty then squeezed true rest else l :: squeezed true rest
    else l :: squeezed false rest

/-- Numbers lines; those that are empty may have none. -/
def numbered (all : Bool) : Nat → List Octets → List Octets
  | _, [] => []
  | n, l :: rest =>
    if all || l ≠ ['\n'] then (padded 6 n ++ '\t' :: l) :: numbered all (n + 1) rest
    else l :: numbered all n rest

def cat : Utility := fun arguments =>
  withOptions "cat"
    { flags := "AbeEnstTuv", valued := ""
      long := [("number", 'n'), ("number-nonblank", 'b'), ("squeeze-blank", 's'),
        ("show-ends", 'E'), ("show-tabs", 'T'), ("show-all", 'A'), ("show-nonprinting", 'v')] }
    arguments fun o files => do
      let has (letters : String) := letters.toList.any o.has
      let number := has "nb"
      let plain := !(number || has "sAeEtTv")
      if plain then forInputs "cat" files fun _ content => Running.emit content
      else
        let (all, status) ← allInput "cat" files
        let lines := whole all
        let lines := if has "s" then squeezed false lines else lines
        let shown := lines.map fun l =>
          let l := if has "vAet" then l.flatMap visible else l
          l.flatMap (printable (has "TAt") (has "EAe"))
        let isEmpty (l : Octets) := l = ['\n'] || l = ['$', '\n']
        let shown :=
          if number then
            (shown.foldl (fun ((n, done) : Nat × List Octets) l =>
              if has "b" && isEmpty l then
                (n, (if has "EAe" then List.replicate 6 ' ' ++ '\t' :: l else l) :: done)
              else (n + 1, (padded 6 n ++ '\t' :: l) :: done)) (1, [])).2.reverse
          else shown
        Running.emit (shown.flatMap id)
        return status

/-- The options ask for lines and not for bytes. -/
def countsLines (o : Given) : Bool :=
  match o.reverse.find? fun g => g.1 = 'n' || g.1 = 'c' with
  | some (letter, _) => letter = 'n'
  | none => true

/-- The front of a text: so many lines or characters, or all but so many. -/
def front (count : Nat) (butLast lines : Bool) (cs : Octets) : Octets :=
  if lines then
    let ls := whole cs
    (ls.take (if butLast then ls.length - count else count)).flatMap id
  else cs.take (if butLast then cs.length - count else count)

def head : Utility := fun arguments =>
  withOptions "head"
    { flags := "qvz", valued := "nc"
      long := [("lines", 'n'), ("bytes", 'c'), ("quiet", 'q'), ("verbose", 'v')] }
    (withNumber ['-'] arguments) fun o files => do
      let lines := countsLines o
      let given := ((o.value? (if lines then 'n' else 'c')).getD ['1', '0'])
      let (butLast, digits) := match given with
        | '-' :: ds => (true, ds)
        | '+' :: ds => (false, ds)
        | ds => (false, ds)
      match sized? digits with
      | some n => underHeadings "head" files (o.has 'q') (o.has 'v') (front n butLast lines)
      | none =>
        let unit := if lines then "lines" else "bytes"
        failed "head" 1 (octets s!"invalid number of {unit}: " ++ quoted given)

/-- The back of a text: so many lines or characters, or all from a numbered one on. -/
def back (count : Nat) (fromStart lines : Bool) (cs : Octets) : Octets :=
  if lines then
    let ls := whole cs
    (ls.drop (if fromStart then count - 1 else ls.length - count)).flatMap id
  else cs.drop (if fromStart then count - 1 else cs.length - count)

def tail : Utility := fun arguments =>
  withOptions "tail"
    { flags := "qvzfF", valued := "ncs"
      long := [("lines", 'n'), ("bytes", 'c'), ("quiet", 'q'), ("verbose", 'v')] }
    (withNumber ['-', '+'] arguments) fun o files => do
      let lines := countsLines o
      let given := ((o.value? (if lines then 'n' else 'c')).getD ['1', '0'])
      let (fromStart, digits) := match given with
        | '+' :: ds => (true, ds)
        | '-' :: ds => (false, ds)
        | ds => (false, ds)
      match sized? digits with
      | some n => underHeadings "tail" files (o.has 'q') (o.has 'v') (back n fromStart lines)
      | none =>
        let unit := if lines then "lines" else "bytes"
        failed "tail" 1 (octets s!"invalid number of {unit}: " ++ quoted given)

def tac : Utility := fun arguments =>
  withOptions "tac" { flags := "br", valued := "s" } arguments fun _ files => do
    let mut status := 0
    for a in if files.isEmpty then [['-']] else files do
      match ← argumentContent a with
      | .ok content => Running.emit ((whole content).reverse.flatMap id)
      | .error fault =>
        let text := if fault = .isFolder then a ++ octets ": read error: "
          else octets "failed to open " ++ quoted a ++ octets " for reading: "
        complain "tac" (text ++ faultText fault)
        status := 1
    return status

def rev : Utility := fun arguments =>
  forInputs "rev" arguments fun _ content =>
    Running.emit ((whole content).flatMap fun l =>
      match l.reverse with
      | '\n' :: cs => cs ++ ['\n']
      | cs => cs)

def tee : Utility := fun arguments =>
  withOptions "tee" { flags := "aip", valued := "", long := [("append", 'a')] } arguments
    fun o files => do
      let content ← Running.input
      Running.emit content
      forAll (fun path => do
        match channelOf? path with
        | some channel =>
          let _ ← Running.emitTo channel content
          return 0
        | none =>
          if path = octets "/dev/null" then return 0
          let σ ← get
          let before := (σ.files.read σ.working (pathOf path)).toOption.getD []
          let kept := if o.has 'a' then before else []
          change "tee" path (σ.files.write σ.working (pathOf path) (kept ++ toBytes content)))
        files

/-! ## Counting -/

/-- The greatest width of a line. -/
def longest (cs : Octets) : Nat :=
  (linesOf cs).foldl (fun n l => max n l.length) 0

def counts (letters : List Char) (cs : Octets) : List Nat :=
  letters.map fun
    | 'l' => cs.count '\n'
    | 'w' => (words cs).length
    | 'L' => longest cs
    | _ => cs.length

/-- The size of what an argument names, if it is a file. -/
def sizeOf? (a : Octets) : Running (Option Nat) := do
  let σ ← get
  if a = ['-'] then
    match σ.opened? 0 with
    | some (_, o) =>
      match o.target with
      | .stored place => return some (σ.world.sizeAt place)
      | _ => return none
    | none => return none
  else return (σ.files.read σ.working (pathOf a)).toOption.map List.length

def wc : Utility := fun arguments =>
  withOptions "wc"
    { flags := "lwcmL", valued := ""
      long := [("lines", 'l'), ("words", 'w'), ("bytes", 'c'), ("chars", 'm'),
        ("max-line-length", 'L')] } arguments fun o files => do
      let asked := "lwmcL".toList.filter o.has
      let letters := if asked.isEmpty then ['l', 'w', 'c'] else asked
      let named := if files.isEmpty then [['-']] else files
      let sizes ← named.mapM sizeOf?
      let total := sizes.foldl (fun n s => n + s.getD 0) 0
      let width :=
        if named.length = 1 && letters.length = 1 then 1
        else max (decimal total).length (if sizes.any Option.isNone then 7 else 1)
      let line (ns : List Nat) (name : Octets) : Octets :=
        Text.join [' '] (ns.map (padded width)) ++ (if name = [] then [] else ' ' :: name) ++ ['\n']
      let mut status := 0
      let mut sums := letters.map fun _ => 0
      for a in named do
        match ← argumentContent a with
        | .ok content =>
          let ns := counts letters content
          sums := (sums.zip ns).map fun (x, y) => x + y
          Running.emit (line ns (if files.isEmpty then [] else a))
        | .error fault =>
          complain "wc" (a ++ octets ": " ++ faultText fault)
          if fault = .isFolder then Running.emit (line (letters.map fun _ => 0) a)
          status := 1
      if files.length > 1 then Running.emit (line sums (octets "total"))
      return status

end MailMerge.Script.Utility
