import MailMerge.Text.Split

/-!
# Markup events

A marked-up text is read as a row of events. Reading is lenient: elements may be open at the end,
attributes are not looked at, and a tag's content is everything up to a closing bracket outside
quotes. Documents and the parts of workbooks differ in a few rules. A text that cannot be read on
ends with the event `malformed`.
-/

namespace MailMerge.Markup

inductive Event where
  | text (raw : List Char)
  /-- A reference in running text, where it is told apart from the text around it. -/
  | reference (name : List Char)
  | opened (name attributes : List Char)
  /-- An element without content, written as one tag. -/
  | single (name attributes : List Char)
  | closed (name : List Char)
  | cdata (raw : List Char)
  /-- The instruction that a text may begin with, which may name its encoding. -/
  | declaration (attributes : List Char)
  /-- A comment, another instruction or a document type. -/
  | aside
  | malformed
  deriving DecidableEq, Repr

/-- Whose rules a text is read by. -/
inductive Grammar where
  /-- An element ends by its own name and the innermost one first, and a tag that ends one ends at
  the first closing bracket. An instruction does so too, and its question mark must stand there. A
  bracket at the end opens nothing. -/
  | document
  /-- Any name ends the innermost element, and there must be one. An instruction ends at a question
  mark before a bracket, and marks of character data are in capitals. -/
  | part
  deriving DecidableEq, Repr

def isSpace (c : Char) : Bool :=
  c == ' ' || c == '\r' || c == '\n' || c == '\t'

/-- What stands before and after the first closing bracket that a test of the text before it
allows; `seen` holds the text read so far, last character first. -/
def untilBracket (ends : List Char → Bool) (seen : List Char) :
    List Char → Option (List Char × List Char)
  | [] => none
  | c :: rest =>
    if c = '>' && ends seen then some (seen.reverse, rest) else untilBracket ends (c :: seen) rest

theorem length_of_untilBracket {ends : List Char → Bool} {seen cs content rest : List Char}
    (h : untilBracket ends seen cs = some (content, rest)) : rest.length < cs.length := by
  induction cs generalizing seen with
  | nil => simp [untilBracket] at h
  | cons c cs ih =>
    rw [untilBracket] at h
    split at h
    · simp only [Option.some.injEq, Prod.mk.injEq] at h
      simp [h.2]
    · exact Nat.lt_succ_of_lt (ih h)

/-- Inside which quote the end of a tag's content is. -/
inductive Quote where
  | none
  | single
  | double
  deriving DecidableEq, Repr

def Quote.next (q : Quote) (c : Char) : Quote :=
  match q, c with
  | .none, '\'' => .single
  | .none, '"' => .double
  | .single, '\'' => .none
  | .double, '"' => .none
  | q, _ => q

/-- The content of a tag up to the first closing bracket outside quotes, and the text after it. -/
def tagContent (q : Quote) : List Char → Option (List Char × List Char)
  | [] => none
  | c :: rest =>
    if c = '>' && q = .none then some ([], rest)
    else (tagContent (q.next c) rest).map fun (content, after) => (c :: content, after)

theorem length_of_tagContent {q : Quote} {cs content rest : List Char}
    (h : tagContent q cs = some (content, rest)) : rest.length < cs.length := by
  induction cs generalizing q content with
  | nil => simp [tagContent] at h
  | cons c cs ih =>
    rw [tagContent] at h
    split at h
    · simp only [Option.some.injEq, Prod.mk.injEq] at h
      simp [h.2]
    · obtain ⟨⟨content, after⟩, hc, he⟩ := Option.map_eq_some_iff.1 h
      simp only [Prod.mk.injEq] at he
      exact Nat.lt_succ_of_lt (ih (he.2 ▸ hc))

def lower (cs : List Char) : List Char :=
  cs.map Char.toLower

def commentEnds (seen : List Char) : Bool :=
  ['-', '-'].isPrefixOf seen && !(seen.drop 4).isEmpty

def cdataEnds (seen : List Char) : Bool :=
  [']', ']'].isPrefixOf seen

/-- What stands before and after the closing bracket that nothing opened; `depth` brackets are
open. -/
def untilClosed (depth : Nat) : List Char → Option (List Char × List Char)
  | [] => none
  | c :: rest =>
    if c = '>' && depth = 0 then some ([], rest)
    else
      let depth := if c = '<' then depth + 1 else if c = '>' then depth - 1 else depth
      (untilClosed depth rest).map fun (content, after) => (c :: content, after)

theorem length_of_untilClosed {depth : Nat} {cs content rest : List Char}
    (h : untilClosed depth cs = some (content, rest)) : rest.length < cs.length := by
  induction cs generalizing depth content with
  | nil => simp [untilClosed] at h
  | cons c cs ih =>
    rw [untilClosed] at h
    split at h
    · simp only [Option.some.injEq, Prod.mk.injEq] at h
      simp [h.2]
    · obtain ⟨⟨content, after⟩, hc, he⟩ := Option.map_eq_some_iff.1 h
      simp only [Prod.mk.injEq] at he
      exact Nat.lt_succ_of_lt (ih (he.2 ▸ hc))

def instructionEnds (seen : List Char) : Bool :=
  seen.head? == some '?'

def withoutLast (n : Nat) (cs : List Char) : List Char :=
  cs.take (cs.length - n)

def isCdataMark (g : Grammar) (mark : List Char) : Bool :=
  match g with
  | .document => lower mark == "![cdata[".toList
  | .part => mark == "![CDATA[".toList

/-- Reads what begins with an exclamation mark, which is part of the text given. -/
def bang (g : Grammar) (cs : List Char) : Option (Event × List Char) :=
  match cs.drop 1 with
  | '[' :: _ => do
    let (content, rest) ← untilBracket cdataEnds [] cs
    if isCdataMark g (content.take 8) then
      some (.cdata (withoutLast 2 (content.drop 8)), rest)
    else none
  | '-' :: _ => do
    let (content, rest) ← untilBracket commentEnds [] cs
    if content.take 3 = "!--".toList then some (.aside, rest) else none
  | c :: _ =>
    if c = 'D' || c = 'd' then do
      let (content, rest) ← untilClosed 0 cs
      if lower (content.take 8) = "!doctype".toList && !(content.drop 8).all isSpace then
        some (.aside, rest)
      else none
    else none
  | [] => none

theorem length_of_bang {g : Grammar} {cs rest : List Char} {e : Event}
    (h : bang g cs = some (e, rest)) : rest.length < cs.length := by
  unfold bang at h
  split at h
  · obtain ⟨⟨content, after⟩, hc, he⟩ := Option.bind_eq_some_iff.1 h
    dsimp only at he
    split at he <;> simp only [Option.some.injEq, Prod.mk.injEq, reduceCtorEq] at he
    exact he.2 ▸ length_of_untilBracket hc
  · obtain ⟨⟨content, after⟩, hc, he⟩ := Option.bind_eq_some_iff.1 h
    dsimp only at he
    split at he <;> simp only [Option.some.injEq, Prod.mk.injEq, reduceCtorEq] at he
    exact he.2 ▸ length_of_untilBracket hc
  · split at h
    · obtain ⟨⟨content, after⟩, hc, he⟩ := Option.bind_eq_some_iff.1 h
      dsimp only at he
      split at he <;> simp only [Option.some.injEq, Prod.mk.injEq, reduceCtorEq] at he
      exact he.2 ▸ length_of_untilClosed hc
    · simp at h
  · simp at h

/-- The event of an instruction with this content, which stands between question marks. -/
def instructionEvent (content : List Char) : Event :=
  match Text.after? "xml".toList content with
  | some [] => .declaration []
  | some (c :: attributes) => if isSpace c then .declaration (c :: attributes) else .aside
  | none => .aside

/-- Reads an instruction, which is part of the text given from its question mark on. -/
def instruction (g : Grammar) (cs : List Char) : Option (Event × List Char) :=
  match g with
  | .document =>
    let content := cs.takeWhile (· ≠ '>')
    if 2 < content.length && content.getLast? = some '?' then
      some (.aside, (cs.dropWhile (· ≠ '>')).drop 1)
    else none
  | .part => do
    let (content, rest) ← untilBracket instructionEnds [] cs
    if 1 < content.length then some (instructionEvent (withoutLast 1 (content.drop 1)), rest)
    else none

theorem length_dropWhile_drop_le (p : Char → Bool) (cs : List Char) :
    ((cs.dropWhile p).drop 1).length ≤ cs.length :=
  Nat.le_trans (List.drop_sublist _ _).length_le (List.dropWhile_sublist p).length_le

theorem length_of_instruction {g : Grammar} {cs rest : List Char} {e : Event}
    (h : instruction g cs = some (e, rest)) : rest.length ≤ cs.length := by
  cases g with
  | document =>
    simp only [instruction] at h
    split at h
    · simp only [Option.some.injEq, Prod.mk.injEq] at h
      exact h.2 ▸ length_dropWhile_drop_le _ cs
    · simp at h
  | part =>
    obtain ⟨⟨content, after⟩, hc, he⟩ := Option.bind_eq_some_iff.1 h
    have : after = rest := by grind
    exact this ▸ Nat.le_of_lt (length_of_untilBracket hc)

/-- The name of an element that is closed: blanks behind it do not count. -/
def closedName (content : List Char) : List Char :=
  if content.all isSpace then content else (content.reverse.dropWhile isSpace).reverse

/-- Reads a tag that ends an element, given the text behind its slash. -/
def closing (g : Grammar) (cs : List Char) : Option (Event × List Char) :=
  match g with
  | .document =>
    some (.closed (closedName (cs.takeWhile (· ≠ '>'))), (cs.dropWhile (· ≠ '>')).drop 1)
  | .part => (tagContent .none cs).map fun (content, rest) => (.closed (closedName content), rest)

theorem length_of_closing {g : Grammar} {cs rest : List Char} {e : Event}
    (h : closing g cs = some (e, rest)) : rest.length ≤ cs.length := by
  cases g with
  | document =>
    simp only [closing, Option.some.injEq, Prod.mk.injEq] at h
    exact h.2 ▸ length_dropWhile_drop_le _ cs
  | part =>
    obtain ⟨⟨content, after⟩, hc, he⟩ := Option.map_eq_some_iff.1 h
    simp only [Prod.mk.injEq] at he
    exact he.2 ▸ Nat.le_of_lt (length_of_tagContent hc)

/-- The event of a tag with this content. -/
def startEvent (content : List Char) : Event :=
  let name := content.takeWhile fun c => !isSpace c
  let attributes := content.dropWhile fun c => !isSpace c
  if content.getLast? = some '/' then
    if attributes.isEmpty then .single (withoutLast 1 name) []
    else .single name (withoutLast 1 attributes)
  else .opened name attributes

/-- The open elements after an event, innermost first, or none if the event does not fit. -/
def nest (g : Grammar) (stack : List (List Char)) (e : Event) : Option (List (List Char)) :=
  match e with
  | .opened name _ => some (name :: stack)
  | .closed name =>
    match stack with
    | top :: below => if g = .part || top = name then some below else none
    | [] => none
  | _ => some stack

/-- Reads what begins with an opening bracket, given the text behind the bracket. -/
def mark (g : Grammar) (cs : List Char) : Option (Event × List Char) :=
  match cs with
  | '!' :: _ => bang g cs
  | '?' :: _ => instruction g cs
  | '/' :: rest => closing g rest
  | _ => (tagContent .none cs).map fun (content, rest) => (startEvent content, rest)

/-- Reading goes on behind what is read. -/
theorem length_of_mark {g : Grammar} {cs rest : List Char} {e : Event}
    (h : mark g cs = some (e, rest)) : rest.length ≤ cs.length := by
  unfold mark at h
  split at h
  · exact Nat.le_of_lt (length_of_bang h)
  · exact length_of_instruction h
  · exact Nat.le_succ_of_le (length_of_closing h)
  · obtain ⟨⟨content, after⟩, hc, he⟩ := Option.map_eq_some_iff.1 h
    simp only [Prod.mk.injEq] at he
    exact he.2 ▸ Nat.le_of_lt (length_of_tagContent hc)

/-- The events of a text inside the open elements. -/
def eventsFrom (g : Grammar) (stack : List (List Char)) (cs : List Char) : List Event :=
  match cs with
  | [] => []
  | ['<'] => if g = .document then [] else [.malformed]
  | '<' :: c :: rest =>
    match _h : mark g (c :: rest) with
    | none => [.malformed]
    | some (e, after) =>
      match nest g stack e with
      | none => [.malformed]
      | some stack => e :: eventsFrom g stack after
  | c :: rest =>
    .text (c :: rest.takeWhile (· ≠ '<')) :: eventsFrom g stack (rest.dropWhile (· ≠ '<'))
termination_by cs.length
decreasing_by
  · exact Nat.lt_succ_of_le (length_of_mark _h)
  · exact Nat.lt_succ_of_le (List.dropWhile_sublist _).length_le

def events (g : Grammar) (cs : List Char) : List Event :=
  eventsFrom g [] cs

end MailMerge.Markup
