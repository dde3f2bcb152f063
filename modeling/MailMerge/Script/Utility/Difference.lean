import MailMerge.Script.Utility.Lines
import MailMerge.Script.Utility.Ordering

/-!
# Differences and joins

Utilities that compare texts line by line, or join lines that begin alike.
-/

namespace MailMerge.Script.Utility

/-! ## Differences -/

/-- A line of one text or of both. -/
inductive Step where
  | both (l : Octets)
  | first (l : Octets)
  | second (l : Octets)
  deriving DecidableEq

/-- The lengths of the longest common parts of a line's rest with the rests of another text, given
those of the rest behind the line. -/
def commonRow (a : Octets) (bs : List Octets) (below : List Nat) : List Nat :=
  ((bs.zip below).zip (below.drop 1)).foldr (fun ((b, here), further) row =>
    (if a = b then further + 1 else max here (row.headD 0)) :: row) [0]

/-- The lengths of the longest common parts of all rests of two texts. -/
def commonTable (as bs : List Octets) : List (List Nat) :=
  as.foldr (fun a rows => commonRow a bs (rows.headD []) :: rows)
    [List.replicate (bs.length + 1) 0]

/-- The lines of two texts with as many as possible in both. -/
def stepsBetween : List Octets → List Octets → List (List Nat) → List Step
  | [], bs, _ => bs.map .second
  | as, [], _ => as.map .first
  | a :: as, b :: bs, row :: rows =>
    let cut (rows : List (List Nat)) := rows.map (List.drop 1)
    if a = b then .both a :: stepsBetween as bs (cut rows)
    else if row.getD 1 0 ≤ (rows.headD []).headD 0 then
      .first a :: stepsBetween as (b :: bs) rows
    else .second b :: stepsBetween (a :: as) bs (cut (row :: rows))
  | as, bs, [] => as.map .first ++ bs.map .second
termination_by as bs => as.length + bs.length

/-- Lines in a row that differ: where they stand in both texts, and what they are. -/
structure Hunk where
  firstPlace : Nat
  secondPlace : Nat
  removed : List Octets
  added : List Octets

/-- The hunks of steps; `i` and `j` lines came before. -/
def hunks : Nat → Nat → List Step → Option Hunk → List Hunk
  | _, _, [], current => current.toList
  | i, j, .both _ :: rest, current => current.toList ++ hunks (i + 1) (j + 1) rest none
  | i, j, .first l :: rest, current =>
    let h := current.getD ⟨i, j, [], []⟩
    hunks (i + 1) j rest (some { h with removed := h.removed ++ [l] })
  | i, j, .second l :: rest, current =>
    let h := current.getD ⟨i, j, [], []⟩
    hunks i (j + 1) rest (some { h with added := h.added ++ [l] })

/-- Lines of a text at a place, in numbers; if there are none, the line before. -/
def spanText (place count : Nat) : Octets :=
  if count = 0 then decimal place
  else if count = 1 then decimal (place + 1)
  else decimal (place + 1) ++ ',' :: decimal (place + count)

/-- A line behind a sign; a last line without an end is followed by a note. -/
def signed (sign : String) (l : Octets) : Octets :=
  let line := octets sign ++ l
  if l.getLast? = some '\n' then line else line ++ octets "\n\\ No newline at end of file\n"

def Hunk.text (h : Hunk) : Octets :=
  let letter :=
    if h.removed.isEmpty then 'a' else if h.added.isEmpty then 'd' else 'c'
  spanText h.firstPlace h.removed.length ++ letter :: spanText h.secondPlace h.added.length ++
    '\n' :: h.removed.flatMap (signed "< ") ++
    (if letter = 'c' then octets "---\n" else []) ++ h.added.flatMap (signed "> ")

def diff : Utility := fun arguments =>
  withOptions "diff"
    { flags := "abBcdeiNnqrstTuwyEZ", valued := "CIUL", status := 2
      long := [("brief", 'q'), ("report-identical-files", 's'), ("ignore-case", 'i'),
        ("ignore-all-space", 'w'), ("ignore-space-change", 'b'), ("unified", 'u')] } arguments
    fun o files => do
      match files with
      | [a, b] =>
        match ← argumentContent a, ← argumentContent b with
        | .ok x, .ok y =>
          let shape (l : Octets) : Octets :=
            let l := if o.has 'w' then l.filter fun c => c ≠ ' ' && c ≠ '\t' else l
            let l := if o.has 'b' then Text.join [' '] (Lines.words l) else l
            if o.has 'i' then l.map Char.toLower else l
          let pair := octets "Files " ++ a ++ octets " and " ++ b
          if shape x = shape y then
            if o.has 's' then Running.emit (pair ++ octets " are identical\n")
            return 0
          else if o.has 'q' then
            Running.emit (pair ++ octets " differ\n")
            return 1
          else
            let as := Lines.whole x
            let bs := Lines.whole y
            let start := ((as.zip bs).takeWhile fun (l, m) => l = m).length
            let as := as.drop start
            let bs := bs.drop start
            let steps := stepsBetween as bs (commonTable as bs)
            let found := hunks start start steps none
            Running.emit (found.flatMap Hunk.text)
            return if found.isEmpty then 0 else 1
        | .error fault, _ => failed "diff" 2 (a ++ octets ": " ++ faultText fault)
        | _, .error fault => failed "diff" 2 (b ++ octets ": " ++ faultText fault)
      | _ =>
        let text := match files with
          | [] => octets "missing operand after 'diff'"
          | [a] => octets "missing operand after " ++ quoted a
          | more => octets "extra operand " ++ quoted ((more.drop 2).headD [])
        complain "diff" text
        complain "diff" (octets "Try 'diff --help' for more information.")
        return 2

/-! ## Joins -/

/-- The fields of a line that is to be joined. -/
def joinFields (separator : Option Char) (l : Octets) : List Octets :=
  match separator with
  | some c => Text.pieces c l
  | none => Lines.words l

/-- Joins the lines of two sorted texts that have a field in common. -/
def join : Utility := fun arguments =>
  withOptions "join" { flags := "i", valued := "ave12jot" } arguments fun o files => do
    match files with
    | [a, b] =>
      match ← argumentContent a, ← argumentContent b with
      | .ok x, .ok y =>
        let separator := (o.value? 't').bind List.head?
        let place (letter : Char) : Nat :=
          (((o.value? letter).orElse fun _ => o.value? 'j').bind natural?).getD 1 - 1
        let read (letter : Char) (text : Octets) : List (Octets × List Octets) :=
          (linesOf text).map fun l =>
            let fields := joinFields separator l
            (fields.getD (place letter) [], fields.eraseIdx (place letter))
        let firsts := read '1' x
        let seconds := read '2' y
        let shown (fields : List Octets) : Octets :=
          Text.join [separator.getD ' '] fields ++ ['\n']
        let unpaired (n : Char) : Bool :=
          o.any fun g => (g.1 = 'a' || g.1 = 'v') && g.2 = [n]
        let paired := !o.has 'v'
        let ofFirst := firsts.map fun (key, rest) =>
          let partners := seconds.filter fun s => s.1 = key
          let text :=
            if partners.isEmpty then if unpaired '1' then shown (key :: rest) else []
            else if paired then partners.flatMap fun s => shown (key :: rest ++ s.2)
            else []
          (key, text)
        let ofSecond := if !unpaired '2' then [] else
          (seconds.filter fun s => !firsts.any fun f => f.1 = s.1).map fun (key, rest) =>
            (key, shown (key :: rest))
        let all := (ofFirst ++ ofSecond).mergeSort fun p q => atMost p.1 q.1
        Running.emit (all.flatMap Prod.snd)
        return 0
      | .error fault, _ => failed "join" 1 (a ++ octets ": " ++ faultText fault)
      | _, .error fault => failed "join" 1 (b ++ octets ": " ++ faultText fault)
    | [] => missingOperand "join"
    | a :: _ =>
      complain "join" (octets "missing operand after " ++ quoted a)
      hint "join"
      return 1

end MailMerge.Script.Utility
