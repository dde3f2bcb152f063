import MailMerge.Markup.Event
import MailMerge.Number.Reading

/-!
# Escapes in markup

Five characters are written by name in running text. Reading knows the same five names and
character numbers, decimal or hexadecimal, and takes no other use of an ampersand. In a document a
number has at most seven digits, or six hexadecimal ones.
-/

namespace MailMerge.Markup

def escapedChar (c : Char) : List Char :=
  match c with
  | '<' => "&lt;".toList
  | '>' => "&gt;".toList
  | '&' => "&amp;".toList
  | '\'' => "&apos;".toList
  | '"' => "&quot;".toList
  | c => [c]

def escape (cs : List Char) : List Char :=
  cs.flatMap escapedChar

def hexDigit? (c : Char) : Option Nat :=
  if '0' ≤ c && c ≤ '9' then some (c.toNat - 48)
  else if 'a' ≤ c && c ≤ 'f' then some (c.toNat - 87)
  else if 'A' ≤ c && c ≤ 'F' then some (c.toNat - 55)
  else none

def hexNumber? (cs : List Char) : Option Nat :=
  if cs.isEmpty then none
  else cs.foldl (fun n c => match n, hexDigit? c with
    | some n, some d => some (n * 16 + d)
    | _, _ => none) (some 0)

/-- The character of a number; zero and numbers of no character have none. -/
def charOf? (n : Nat) : Option Char :=
  if n = 0 then none else if n.isValidChar then some (Char.ofNat n) else none

/-- A number has no more digits than this in a document. -/
def fits (g : Grammar) (limit : Nat) (digits : List Char) : Bool :=
  g = .part || digits.length ≤ limit

/-- The character that stands between an ampersand and a semicolon. -/
def entity? (g : Grammar) (name : List Char) : Option Char :=
  match name with
  | '#' :: 'x' :: ds => if fits g 6 ds then (hexNumber? ds).bind charOf? else none
  | '#' :: ds => if fits g 7 ds then (Digits.toNat? ds).bind charOf? else none
  | _ =>
    if name = "lt".toList then some '<'
    else if name = "gt".toList then some '>'
    else if name = "amp".toList then some '&'
    else if name = "apos".toList then some '\''
    else if name = "quot".toList then some '"'
    else none

/-- The name of an entity and the text behind its semicolon; another ampersand may not come
first. -/
def entityName? : List Char → Option (List Char × List Char)
  | [] => none
  | c :: rest =>
    if c = ';' then some ([], rest)
    else if c = '&' then none
    else (entityName? rest).map fun (name, after) => (c :: name, after)

theorem length_of_entityName? {cs name after : List Char}
    (h : entityName? cs = some (name, after)) : after.length < cs.length := by
  induction cs generalizing name with
  | nil => simp [entityName?] at h
  | cons c cs ih =>
    rw [entityName?] at h
    split at h
    · simp only [Option.some.injEq, Prod.mk.injEq] at h
      simp [h.2]
    · split at h
      · simp at h
      · obtain ⟨⟨name, rest⟩, hn, he⟩ := Option.map_eq_some_iff.1 h
        simp only [Prod.mk.injEq] at he
        exact Nat.lt_succ_of_lt (ih (he.2 ▸ hn))

/-- The text that an escaped text stands for. -/
def unescape? (g : Grammar) (cs : List Char) : Option (List Char) :=
  match cs with
  | [] => some []
  | c :: rest =>
    if c = '&' then
      match _h : entityName? rest with
      | none => none
      | some (name, after) =>
        match entity? g name with
        | none => none
        | some e => (unescape? g after).map (e :: ·)
    else (unescape? g rest).map (c :: ·)
termination_by cs.length
decreasing_by
  · exact Nat.lt_succ_of_lt (length_of_entityName? _h)
  · exact Nat.lt_succ_self _

end MailMerge.Markup
