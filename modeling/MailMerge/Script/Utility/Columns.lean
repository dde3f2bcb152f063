import MailMerge.Script.Utility.Lines

/-!
# Columns

Utilities that choose parts of lines and that join lines side by side.
-/

namespace MailMerge.Script.Utility

open Lines

/-- Ranges of places, counted from one; the last place may be open. -/
abbrev Ranges := List (Nat × Option Nat)

def range? (cs : Octets) : Option (Nat × Option Nat) :=
  match Text.cutFirst '-' cs with
  | none => (natural? cs).bind fun n => if n = 0 then none else some (n, some n)
  | some ([], last) => (natural? last).map fun n => (1, some n)
  | some (first, []) => (natural? first).map fun n => (n, none)
  | some (first, last) =>
    (natural? first).bind fun a => (natural? last).bind fun b =>
      if b < a then none else some (a, some b)

def ranges? (cs : Octets) : Option Ranges :=
  ((Text.pieces ',' cs).map range?).mapM id

def within (rs : Ranges) (n : Nat) : Bool :=
  rs.any fun (first, last) => first ≤ n && last.all (n ≤ ·)

/-- What is wrong with ranges. -/
def rangeFault (ofFields : Bool) (cs : Octets) : Octets :=
  let isPart (c : Char) := c.isDigit || c = '-' || c = ','
  let other := cs.dropWhile isPart
  if other ≠ [] then
    octets (if ofFields then "invalid field value " else "invalid byte/character position ") ++
      quoted other
  else
    let pieces := Text.pieces ',' cs
    if pieces.contains ['-'] then octets "invalid range with no endpoint: -"
    else
      let isZero (p : Octets) := p = [] || (Text.pieces '-' p).any fun n => natural? n = some 0
      if pieces.any isZero then
        octets (if ofFields then "fields are numbered from 1"
          else "byte/character positions are numbered from 1")
      else octets "invalid decreasing range"

/-- The items at chosen places. -/
def chosen {α : Type} (rs : Ranges) (others : Bool) (items : List α) : List α :=
  (items.zipIdx 1).filterMap fun (a, n) => if within rs n != others then some a else none

def cut : Utility := fun arguments =>
  withOptions "cut"
    { flags := "snC", valued := "dfcbO"
      long := [("delimiter", 'd'), ("fields", 'f'), ("characters", 'c'), ("bytes", 'b'),
        ("only-delimited", 's'), ("complement", 'C'), ("output-delimiter", 'O')] } arguments
    fun o files => do
      let isList (g : Char × Octets) := g.1 = 'f' || g.1 = 'c' || g.1 = 'b'
      let refused (text : String) : Running Nat := do
        complain "cut" (octets text)
        hint "cut"
        return 1
      match o.filter isList with
      | [] => refused "you must specify a list of bytes, characters, or fields"
      | _ :: _ :: _ => refused "only one list may be specified"
      | [(letter, text)] =>
        if (o.value? 'd').any fun d => 1 < d.length then
          return ← refused "the delimiter must be a single character"
        if o.has 'd' && letter ≠ 'f' then
          return ← refused "an input delimiter may be specified only\n\twhen operating on fields"
        if o.has 's' && letter ≠ 'f' then
          return ← refused ("suppressing non-delimited lines makes sense\n" ++
            "\tonly when operating on fields")
        match ranges? text with
        | none =>
          complain "cut" (rangeFault (letter = 'f') text)
          hint "cut"
          return 1
        | some rs =>
          let delimiter := ((o.value? 'd').getD ['\t']).head?.getD '\x00'
          let joint := (o.value? 'O').getD (if letter = 'f' then [delimiter] else [])
          forInputs "cut" files fun _ content =>
            Running.emit ((linesOf content).flatMap fun l =>
              if letter = 'f' then
                let fields := Text.pieces delimiter l
                if fields.length = 1 then if o.has 's' then [] else l ++ ['\n']
                else Text.join joint (chosen rs (o.has 'C') fields) ++ ['\n']
              else chosen rs (o.has 'C') l ++ ['\n'])

/-- Joins the lines of several texts side by side, or those of each text in turn. -/
def paste : Utility := fun arguments =>
  withOptions "paste"
    { flags := "sz", valued := "d", long := [("serial", 's'), ("delimiters", 'd')] } arguments
    fun o files => do
      let delimiters := unescaped ((o.value? 'd').getD ['\t'])
      let delimiter (i : Nat) : Octets :=
        if delimiters.isEmpty then [] else (delimiters[i % delimiters.length]?).getD []
      let mut reversed := []
      for a in if files.isEmpty then [['-']] else files do
        match ← argumentContent a with
        | .ok content => reversed := linesOf content :: reversed
        | .error fault => return ← failed "paste" 1 (a ++ octets ": " ++ faultText fault)
      let texts := reversed.reverse
      let joined (items : List Octets) : Octets :=
        (items.zipIdx).flatMap fun (l, i) => (if i = 0 then [] else delimiter (i - 1)) ++ l
      if o.has 's' then Running.emit (unlines (texts.map joined))
      else
        let hyphens := (if files.isEmpty then [['-']] else files).map fun a => a == ['-']
        let texts := shared (hyphens.count true) hyphens texts
        let height := texts.foldl (fun n t => max n t.length) 0
        Running.emit (unlines ((List.range height).map fun i =>
          joined (texts.map fun t => (t[i]?).getD [])))
      return 0
where
  /-- The delimiters of a list; one may be written with a backslash. -/
  unescaped : Octets → List Octets
    | '\\' :: 'n' :: rest => ['\n'] :: unescaped rest
    | '\\' :: 't' :: rest => ['\t'] :: unescaped rest
    | '\\' :: '0' :: rest => [] :: unescaped rest
    | '\\' :: c :: rest => [c] :: unescaped rest
    | c :: rest => [c] :: unescaped rest
    | [] => []
  /-- Deals the lines of the input out to all arguments that stand for it. -/
  shared (count : Nat) (hyphens : List Bool) (texts : List (List Octets)) : List (List Octets) :=
    let input := ((hyphens.zip texts).find? fun t => t.1 && !t.2.isEmpty).elim [] Prod.snd
    if count < 2 then texts
    else
      ((hyphens.zip texts).foldl (fun ((i, done) : Nat × List (List Octets)) (isInput, t) =>
        if isInput then
          (i + 1, ((input.zipIdx).filterMap fun (l, n) =>
            if n % count = i then some l else none) :: done)
        else (i, t :: done)) (0, [])).2.reverse

end MailMerge.Script.Utility
