import MailMerge.Markup.Event
import Mathlib.Data.List.TakeWhile
import Mathlib.Tactic.Lemma

/-!
# Written tags

How elements, comments and instructions are written, and what the reader makes of each of them. An
attribute value may hold closing brackets, so the content of a tag is told by its quotes alone.
-/

namespace MailMerge.Markup

section Attributes

/-- Text whose closing brackets and quotes all stand in quoted values. -/
inductive Quoted : List Char → Prop
  | nil : Quoted []
  | plain {c : Char} {cs : List Char} (hbracket : c ≠ '>') (hdouble : c ≠ '"') (hsingle : c ≠ '\'')
      (rest : Quoted cs) : Quoted (c :: cs)
  | value {q : Char} {value cs : List Char} (hquote : q = '"' ∨ q = '\'') (hvalue : q ∉ value)
      (rest : Quoted cs) : Quoted (q :: (value ++ q :: cs))

lemma quoted_of_forall {cs : List Char} (h : ∀ c ∈ cs, c ≠ '>' ∧ c ≠ '"' ∧ c ≠ '\'') :
    Quoted cs := by
  induction cs with
  | nil => exact .nil
  | cons c cs ih =>
    rw [List.forall_mem_cons] at h
    exact .plain h.1.1 h.1.2.1 h.1.2.2 (ih h.2)

lemma Quoted.append {cs ds : List Char} (hc : Quoted cs) (hd : Quoted ds) : Quoted (cs ++ ds) := by
  induction hc with
  | nil => exact hd
  | plain hbracket hdouble hsingle _ ih => exact .plain hbracket hdouble hsingle ih
  | value hquote hvalue _ ih =>
    rw [List.cons_append, List.append_assoc]
    exact .value hquote hvalue ih

lemma next_of_plain {c : Char} (hdouble : c ≠ '"') (hsingle : c ≠ '\'') :
    Quote.none.next c = .none := by
  unfold Quote.next
  split <;> simp_all

/-- The automaton's state inside a value. -/
def insideOf (q : Char) : Quote :=
  if q = '"' then .double else .single

lemma next_of_quote {q : Char} (h : q = '"' ∨ q = '\'') :
    Quote.none.next q = insideOf q ∧ (insideOf q).next q = .none ∧ insideOf q ≠ .none := by
  rcases h with rfl | rfl <;> decide

lemma next_insideOf {q c : Char} (h : q = '"' ∨ q = '\'') (hne : c ≠ q) :
    (insideOf q).next c = insideOf q := by
  rcases h with rfl | rfl
  · rw [insideOf, if_pos rfl]
    unfold Quote.next
    split <;> simp_all
  · rw [insideOf, if_neg (by decide)]
    unfold Quote.next
    split <;> simp_all

lemma tagContent_cons {q : Quote} {c : Char} {cs content after : List Char}
    (h : ¬(c = '>' ∧ q = .none)) (hrest : tagContent (q.next c) cs = some (content, after)) :
    tagContent q (c :: cs) = some (c :: content, after) := by
  rw [tagContent, if_neg (by simpa using h), hrest]
  rfl

/-- A value does not end a tag, whatever it holds. -/
lemma tagContent_value {q : Char} (hq : q = '"' ∨ q = '\'') {value cs content after : List Char}
    (hvalue : q ∉ value) (h : tagContent .none cs = some (content, after)) :
    tagContent (insideOf q) (value ++ q :: cs) = some (value ++ q :: content, after) := by
  obtain ⟨-, hleave, hinside⟩ := next_of_quote hq
  induction value with
  | nil =>
    refine tagContent_cons (fun hend => hinside hend.2) ?_
    rw [hleave]
    exact h
  | cons c value ih =>
    rw [List.mem_cons, not_or] at hvalue
    refine tagContent_cons (fun hend => hinside hend.2) ?_
    rw [next_insideOf hq (Ne.symm hvalue.1)]
    exact ih hvalue.2

lemma Quoted.tagContent_eq {cs : List Char} (h : Quoted cs) (rest : List Char) :
    tagContent .none (cs ++ '>' :: rest) = some (cs, rest) := by
  induction h with
  | nil => simp [tagContent]
  | plain hbracket hdouble hsingle _ ih =>
    refine tagContent_cons (fun hend => hbracket hend.1) ?_
    rw [next_of_plain hdouble hsingle]
    exact ih
  | @value q value cs hquote hvalue _ ih =>
    refine tagContent_cons ?_ ?_
    · rintro ⟨rfl, -⟩
      exact absurd hquote (by decide)
    · have hrest := tagContent_value hquote hvalue ih
      rw [(next_of_quote hquote).1]
      simpa using hrest

/-- What stands in a tag behind its name: nothing, or blanks and attributes. -/
structure Attributes where
  chars : List Char
  quoted : Quoted chars
  apart : ∀ c ∈ chars.head?, isSpace c = true
  unslashed : chars.getLast? ≠ some '/'

def Attributes.none : Attributes :=
  ⟨[], .nil, by simp, by simp⟩

end Attributes

section Names

/-- The characters that no name holds. -/
def unnamed : List Char := [' ', '\t', '\r', '\n', '<', '>', '/', '!', '?', '"', '\'']

def IsName (name : List Char) : Prop :=
  name ≠ [] ∧ ∀ c ∈ name, c ∉ unnamed

-- The name is searched, not the type of characters.
instance (name : List Char) : Decidable (IsName name) :=
  @instDecidableAnd _ _ _ (List.decidableBAll _ name)

variable {name : List Char}

lemma IsName.isSpace_eq_false (h : IsName name) {c : Char} (hc : c ∈ name) : isSpace c = false := by
  have hout := h.2 c hc
  simp only [unnamed, List.mem_cons, not_or] at hout
  simp [isSpace, hout]

lemma IsName.ne_of_mem (h : IsName name) {c d : Char} (hc : c ∈ name) (hd : d ∈ unnamed) :
    c ≠ d := by
  rintro rfl
  exact h.2 c hc hd

lemma IsName.quoted (h : IsName name) : Quoted name :=
  quoted_of_forall fun _ hc =>
    ⟨h.ne_of_mem hc (by decide), h.ne_of_mem hc (by decide), h.ne_of_mem hc (by decide)⟩

lemma IsName.split (h : IsName name) {cs : List Char} (happart : ∀ c ∈ cs.head?, isSpace c = true) :
    (name ++ cs).takeWhile (fun c => !isSpace c) = name ∧
      (name ++ cs).dropWhile (fun c => !isSpace c) = cs := by
  have hname : ∀ c ∈ name, (!isSpace c) = true := fun c hc => by simp [h.isSpace_eq_false hc]
  rw [List.takeWhile_append_of_pos hname, List.dropWhile_append_of_pos hname]
  cases cs with
  | nil => simp
  | cons c cs =>
    have hblank : isSpace c = true := happart c rfl
    simp [hblank]

lemma IsName.getLast?_ne (h : IsName name) : name.getLast? ≠ some '/' := by
  intro hlast
  exact h.ne_of_mem (List.mem_of_getLast? hlast) (d := '/') (by decide) rfl

end Names

section Tags

/-- The tag that opens an element. -/
def openingTag (name : List Char) (attributes : Attributes) : List Char :=
  '<' :: (name ++ attributes.chars ++ ['>'])

/-- The tag that is an element without content. -/
def emptyTag (name : List Char) (attributes : Attributes) : List Char :=
  '<' :: (name ++ attributes.chars ++ ['/', '>'])

/-- The tag that ends an element, with blanks behind the name. -/
def closingTag (name gap : List Char) : List Char :=
  '<' :: '/' :: (name ++ gap ++ ['>'])

variable {name : List Char}

lemma startEvent_opening (h : IsName name) (attributes : Attributes) :
    startEvent (name ++ attributes.chars) = .opened name attributes.chars := by
  obtain ⟨htake, hdrop⟩ := h.split attributes.apart
  have hlast : (name ++ attributes.chars).getLast? ≠ some '/' := by
    rw [List.getLast?_append]
    cases hc : attributes.chars.getLast? with
    | none => simpa using h.getLast?_ne
    | some c =>
      have hne := attributes.unslashed
      rw [hc] at hne
      simpa using hne
  rw [startEvent, if_neg hlast, htake, hdrop]

lemma startEvent_empty (h : IsName name) (attributes : Attributes) :
    startEvent (name ++ attributes.chars ++ ['/']) = .single name attributes.chars := by
  have hlast : (name ++ attributes.chars ++ ['/']).getLast? = some '/' := by simp
  rw [startEvent, if_pos hlast]
  by_cases hnone : attributes.chars = []
  · have hall : ∀ c ∈ name ++ ['/'], (!isSpace c) = true := by
      intro c hc
      rcases List.mem_append.mp hc with hc | hc
      · simp [h.isSpace_eq_false hc]
      · rw [List.mem_singleton.mp hc]
        rfl
    rw [hnone, List.append_nil, List.takeWhile_eq_self_iff.mpr hall,
      List.dropWhile_eq_nil_iff.mpr hall]
    simp [withoutLast]
  · have happart : ∀ c ∈ (attributes.chars ++ ['/']).head?, isSpace c = true := by
      obtain ⟨c, cs, hchars⟩ := List.exists_cons_of_ne_nil hnone
      have hhead := attributes.apart
      rw [hchars] at hhead ⊢
      exact hhead
    obtain ⟨htake, hdrop⟩ := h.split happart
    rw [List.append_assoc, htake, hdrop]
    simp [withoutLast]

lemma mark_of_isName (h : IsName name) {g : Grammar} {content : List Char}
    (hquoted : Quoted content) (rest : List Char) :
    mark g (name ++ content ++ '>' :: rest) = some (startEvent (name ++ content), rest) := by
  have hcontent := (h.quoted.append hquoted).tagContent_eq rest
  obtain ⟨c, cs, rfl⟩ := List.exists_cons_of_ne_nil h.1
  have hc : c ∈ c :: cs := List.mem_cons_self
  unfold mark
  split
  · next heq => exact absurd (List.cons.inj heq).1 (h.ne_of_mem hc (by decide))
  · next heq => exact absurd (List.cons.inj heq).1 (h.ne_of_mem hc (by decide))
  · next heq => exact absurd (List.cons.inj heq).1 (h.ne_of_mem hc (by decide))
  · rw [hcontent]
    rfl

lemma mark_openingTag (h : IsName name) (g : Grammar) (attributes : Attributes)
    (rest : List Char) :
    mark g ((openingTag name attributes).tail ++ rest) =
      some (.opened name attributes.chars, rest) := by
  have hmark := mark_of_isName h (g := g) attributes.quoted rest
  rw [startEvent_opening h] at hmark
  simpa [openingTag] using hmark

lemma mark_emptyTag (h : IsName name) (g : Grammar) (attributes : Attributes) (rest : List Char) :
    mark g ((emptyTag name attributes).tail ++ rest) =
      some (.single name attributes.chars, rest) := by
  have hslash : Quoted ['/'] := .plain (by decide) (by decide) (by decide) .nil
  have hmark := mark_of_isName h (g := g) (attributes.quoted.append hslash) rest
  rw [← List.append_assoc, startEvent_empty h] at hmark
  simpa [emptyTag] using hmark

lemma closedName_append (h : IsName name) {gap : List Char} (hgap : ∀ c ∈ gap, isSpace c = true) :
    closedName (name ++ gap) = name := by
  obtain ⟨c, cs, hname⟩ := List.exists_cons_of_ne_nil h.1
  have hsome : (name ++ gap).all isSpace = false := by
    rw [hname, List.cons_append, List.all_cons, h.isSpace_eq_false (hname ▸ List.mem_cons_self)]
    rfl
  have hgap' : ∀ c ∈ gap.reverse, isSpace c = true := fun c hc => hgap c (List.mem_reverse.mp hc)
  have hstop : name.reverse.dropWhile isSpace = name.reverse := by
    obtain ⟨d, ds, hreverse⟩ := List.exists_cons_of_ne_nil (List.reverse_ne_nil_iff.mpr h.1)
    have hd : d ∈ name := List.mem_reverse.mp (hreverse ▸ List.mem_cons_self)
    rw [hreverse, List.dropWhile_cons_of_neg]
    simp [h.isSpace_eq_false hd]
  rw [closedName, hsome, if_neg (by decide), List.reverse_append,
    List.dropWhile_append_of_pos hgap', hstop, List.reverse_reverse]

lemma mark_closingTag (h : IsName name) (g : Grammar) {gap : List Char}
    (hgap : ∀ c ∈ gap, isSpace c = true) (rest : List Char) :
    mark g ((closingTag name gap).tail ++ rest) = some (.closed name, rest) := by
  have hplain : ∀ c ∈ name ++ gap, c ≠ '>' ∧ c ≠ '"' ∧ c ≠ '\'' := by
    intro c hc
    rcases List.mem_append.mp hc with hc | hc
    · exact ⟨h.ne_of_mem hc (by decide), h.ne_of_mem hc (by decide), h.ne_of_mem hc (by decide)⟩
    · have hblank := hgap c hc
      refine ⟨?_, ?_, ?_⟩ <;> rintro rfl <;> exact absurd hblank (by decide)
  have hnobracket : ∀ c ∈ name ++ gap, decide (c ≠ '>') = true :=
    fun c hc => decide_eq_true (hplain c hc).1
  have hshape : (closingTag name gap).tail ++ rest = '/' :: (name ++ gap ++ '>' :: rest) := by
    simp [closingTag]
  rw [hshape]
  change closing g (name ++ gap ++ '>' :: rest) = _
  cases g with
  | document =>
    rw [closing, List.takeWhile_append_of_pos hnobracket, List.dropWhile_append_of_pos hnobracket]
    simp [closedName_append h hgap]
  | part =>
    rw [closing, (quoted_of_forall hplain).tagContent_eq, Option.map_some]
    simp only [closedName_append h hgap]

/-- How the two tags of an element are written. -/
structure Tags where
  attributes : Attributes
  gap : List Char
  blank : ∀ c ∈ gap, isSpace c = true

def Tags.plain : Tags :=
  ⟨.none, [], by simp⟩

/-- An element with content. -/
def Tags.around (tags : Tags) (name content : List Char) : List Char :=
  openingTag name tags.attributes ++ content ++ closingTag name tags.gap

end Tags

section Asides

lemma untilBracket_append {ends : List Char → Bool} {seen body : List Char}
    (hinside : ∀ front back, body = front ++ '>' :: back → ends (front.reverse ++ seen) = false)
    (hend : ends (body.reverse ++ seen) = true) (rest : List Char) :
    untilBracket ends seen (body ++ '>' :: rest) = some ((body.reverse ++ seen).reverse, rest) := by
  induction body generalizing seen with
  | nil =>
    rw [List.nil_append, untilBracket, if_pos]
    · rfl
    · simpa using hend
  | cons c body ih =>
    have hstay : ¬(decide (c = '>') && ends seen) = true := by
      intro h
      rw [Bool.and_eq_true, decide_eq_true_eq] at h
      obtain ⟨rfl, hends⟩ := h
      rw [← List.nil_append seen, ← List.reverse_nil, hinside [] body rfl] at hends
      cases hends
    rw [List.cons_append, untilBracket, if_neg hstay, ih]
    · simp
    · intro front back hback
      have hfront := hinside (c :: front) back (by rw [hback, List.cons_append])
      simpa using hfront
    · simpa using hend

lemma exists_of_append_pair {d : Char} (hd : d ≠ '>') {body front back : List Char}
    (h : body ++ [d, d] = front ++ '>' :: back) : ∃ behind, body = front ++ '>' :: behind := by
  rcases List.append_eq_append_iff.mp h with ⟨as, -, has⟩ | ⟨bs, hbs, hback⟩
  · have hmem : '>' ∈ [d, d] := has ▸ List.mem_append_right _ List.mem_cons_self
    rw [List.mem_cons, List.mem_singleton, or_self] at hmem
    exact absurd hmem.symm hd
  · cases bs with
    | nil => exact absurd (List.cons.inj hback).1.symm hd
    | cons b bs =>
      rw [← (List.cons.inj hback).1] at hbs
      exact ⟨bs, hbs⟩

lemma front_of_pair {d : Char} {front mark : List Char} (h : [d, d] <+: front.reverse ++ mark) :
    front = [] ∨ front = [d] ∨ ∃ before, front = before ++ [d, d] := by
  rcases hreverse : front.reverse with _ | ⟨a, _ | ⟨b, cs⟩⟩
  · exact .inl (List.reverse_eq_nil_iff.mp hreverse)
  · rw [hreverse, List.singleton_append, List.cons_prefix_cons] at h
    exact .inr (.inl (by rw [← List.reverse_reverse front, hreverse, h.1]; rfl))
  · rw [hreverse, List.cons_append, List.cons_append, List.cons_prefix_cons,
      List.cons_prefix_cons] at h
    refine .inr (.inr ⟨cs.reverse, ?_⟩)
    rw [← List.reverse_reverse front, hreverse, ← h.1, ← h.2.1]
    simp

/-- What is read up to a pair of characters and a bracket ends at the first such pair, if the text
has none and what stands before the text ends nothing. -/
lemma untilBracket_pair {ends : List Char → Bool} {d : Char} (hd : d ≠ '>')
    (seen : List Char) {body : List Char} (hpair : ∀ cs, ends cs = true → [d, d] <+: cs)
    (hnone : ends seen = false) (hone : ends (d :: seen) = false)
    (hbody : ¬[d, d, '>'] <:+: body) (hend : ends (d :: d :: (body.reverse ++ seen)) = true)
    (rest : List Char) : untilBracket ends seen (body ++ [d, d] ++ '>' :: rest) =
      some (seen.reverse ++ (body ++ [d, d]), rest) := by
  have hinside : ∀ front back, body ++ [d, d] = front ++ '>' :: back →
      ends (front.reverse ++ seen) = false := by
    intro front back hfront
    obtain ⟨behind, rfl⟩ := exists_of_append_pair hd hfront
    rw [Bool.eq_false_iff]
    intro hends
    obtain rfl | rfl | ⟨before, rfl⟩ := front_of_pair (hpair _ hends)
    · exact absurd hends (Bool.eq_false_iff.mp hnone)
    · exact absurd hends (Bool.eq_false_iff.mp hone)
    · exact hbody ⟨before, behind, by simp⟩
  rw [untilBracket_append hinside (by simpa using hend)]
  simp

/-- A comment, which ends at the first mark of its end. -/
def comment (body : List Char) : List Char :=
  "<!--".toList ++ body ++ "-->".toList

/-- An instruction or the declaration that a text begins with. -/
def processing (body : List Char) : List Char :=
  "<?".toList ++ body ++ "?>".toList

lemma mark_comment {body : List Char} (hbody : ¬"-->".toList <:+: body) (g : Grammar)
    (rest : List Char) : mark g ((comment body).tail ++ rest) = some (.aside, rest) := by
  have hpair (cs : List Char) (hends : commentEnds cs = true) : ['-', '-'] <+: cs := by
    rw [commentEnds, Bool.and_eq_true, List.isPrefixOf_iff_prefix] at hends
    exact hends.1
  have huntil := untilBracket_pair (by decide) "--!".toList hpair (by decide) (by decide)
    hbody (by simp [commentEnds]) rest
  have hshape : (comment body).tail ++ rest =
      '!' :: '-' :: '-' :: (body ++ ['-', '-'] ++ '>' :: rest) := by
    simp [comment]
  have hfront (cs : List Char) : untilBracket commentEnds [] ('!' :: '-' :: '-' :: cs) =
      untilBracket commentEnds "--!".toList cs := rfl
  rw [hshape]
  change (untilBracket commentEnds [] _).bind _ = _
  rw [hfront, huntil]
  simp

def cdataMark : List Char := ['!', '[', 'C', 'D', 'A', 'T', 'A', '[']

/-- Character data, which ends at the first mark of its end. -/
def characterData (body : List Char) : List Char :=
  '<' :: (cdataMark ++ body ++ "]]>".toList)

lemma mark_characterData {body : List Char} (hbody : ¬"]]>".toList <:+: body) (g : Grammar)
    (rest : List Char) : mark g ((characterData body).tail ++ rest) = some (.cdata body, rest) := by
  have hpair (cs : List Char) (hends : cdataEnds cs = true) : [']', ']'] <+: cs :=
    List.isPrefixOf_iff_prefix.mp hends
  have huntil := untilBracket_pair (by decide) cdataMark.reverse hpair (by decide)
    (by decide) hbody (by simp [cdataEnds]) rest
  have hshape : (characterData body).tail ++ rest =
      cdataMark ++ (body ++ [']', ']'] ++ '>' :: rest) := by
    simp [characterData]
  have hfront (cs : List Char) : untilBracket cdataEnds [] (cdataMark ++ cs) =
      untilBracket cdataEnds cdataMark.reverse cs := rfl
  have hmark : isCdataMark g cdataMark = true := by
    cases g <;> decide
  have htake (cs : List Char) : (cdataMark ++ cs).take 8 = cdataMark := rfl
  have hdrop (cs : List Char) : (cdataMark ++ cs).drop 8 = cs := rfl
  rw [hshape]
  change (untilBracket cdataEnds [] _).bind _ = _
  rw [hfront, huntil, Option.bind_some, List.reverse_reverse]
  simp only [htake, hdrop, hmark, if_true]
  simp [withoutLast]

/-- Text in which brackets open and close in pairs. -/
inductive Balanced : List Char → Prop
  | nil : Balanced []
  | plain {c : Char} {cs : List Char} (hopen : c ≠ '<') (hclose : c ≠ '>') (rest : Balanced cs) :
      Balanced (c :: cs)
  | pair {inner cs : List Char} (hinner : Balanced inner) (rest : Balanced cs) :
      Balanced ('<' :: (inner ++ '>' :: cs))

lemma balanced_of_not_mem {cs : List Char} (hopen : '<' ∉ cs) (hclose : '>' ∉ cs) :
    Balanced cs := by
  induction cs with
  | nil => exact .nil
  | cons c cs ih =>
    rw [List.mem_cons, not_or] at hopen hclose
    exact .plain (Ne.symm hopen.1) (Ne.symm hclose.1) (ih hopen.2 hclose.2)

lemma Balanced.append {cs ds : List Char} (hc : Balanced cs) (hd : Balanced ds) :
    Balanced (cs ++ ds) := by
  induction hc with
  | nil => exact hd
  | plain hopen hclose _ ih => exact .plain hopen hclose ih
  | pair hinner _ _ ih =>
    rw [List.cons_append, List.append_assoc, List.cons_append]
    exact .pair hinner ih

/-- Pairs of brackets do not end a text that is read up to a bracket without its partner. -/
lemma untilClosed_balanced {body : List Char} (h : Balanced body) (depth : Nat)
    (rest : List Char) : untilClosed depth (body ++ rest) =
      (untilClosed depth rest).map fun (content, after) => (body ++ content, after) := by
  induction h generalizing depth rest with
  | nil => simp
  | plain hopen hclose _ ih =>
    rw [List.cons_append, untilClosed, if_neg (by simp [hclose])]
    simp only [if_neg hopen, if_neg hclose]
    rw [ih, Option.map_map]
    rfl
  | @pair inner cs _ _ ihinner ihrest =>
    have hclose : untilClosed (depth + 1) ('>' :: (cs ++ rest)) =
        (untilClosed depth (cs ++ rest)).map fun (content, after) => ('>' :: content, after) := by
      rw [untilClosed, if_neg (by simp)]
      simp
    rw [List.cons_append, List.append_assoc, List.cons_append, untilClosed, if_neg (by simp)]
    simp only [if_true]
    rw [ihinner, hclose, ihrest, Option.map_map, Option.map_map, Option.map_map]
    congr 1
    funext x
    simp

def doctypeMark : List Char := ['!', 'D', 'O', 'C', 'T', 'Y', 'P', 'E']

/-- A document type, which may describe elements between its brackets. -/
def doctype (body : List Char) : List Char :=
  '<' :: (doctypeMark ++ body ++ ['>'])

lemma mark_doctype {body : List Char} (hbody : Balanced body)
    (hword : ∃ c ∈ body, isSpace c = false) (g : Grammar) (rest : List Char) :
    mark g ((doctype body).tail ++ rest) = some (.aside, rest) := by
  have hbalanced : Balanced (doctypeMark ++ body) :=
    (balanced_of_not_mem (by decide) (by decide)).append hbody
  have huntil : untilClosed 0 (doctypeMark ++ body ++ '>' :: rest) =
      some (doctypeMark ++ body, rest) := by
    rw [untilClosed_balanced hbalanced]
    simp [untilClosed]
  have hshape : (doctype body).tail ++ rest = doctypeMark ++ body ++ '>' :: rest := by
    simp [doctype]
  have hdeclared : lower doctypeMark = "!doctype".toList := by decide
  have htake : (doctypeMark ++ body).take 8 = doctypeMark := rfl
  have hdrop : (doctypeMark ++ body).drop 8 = body := rfl
  have hsome : body.all isSpace = false := by
    obtain ⟨c, hc, hspace⟩ := hword
    exact List.all_eq_false.mpr ⟨c, hc, by simp [hspace]⟩
  rw [hshape]
  change (untilClosed 0 (doctypeMark ++ body ++ '>' :: rest)).bind _ = _
  rw [huntil, Option.bind_some]
  simp only [htake, hdrop, hdeclared, hsome]
  rfl

lemma mark_processing {body : List Char} (hne : body ≠ []) (hbody : '>' ∉ body)
    (rest : List Char) : mark .document ((processing body).tail ++ rest) = some (.aside, rest) := by
  have hinside : ∀ c ∈ '?' :: (body ++ ['?']), decide (c ≠ '>') = true := by
    intro c hc
    rw [decide_eq_true_eq]
    rintro rfl
    simp [hbody] at hc
  have hlong : 0 < body.length := List.length_pos_iff.mpr hne
  have hlast : ('?' :: (body ++ ['?'])).getLast? = some '?' := by
    rw [← List.cons_append]
    exact List.getLast?_concat
  have hshape : (processing body).tail ++ rest = '?' :: (body ++ ['?']) ++ '>' :: rest := by
    simp [processing]
  rw [hshape]
  change instruction .document ('?' :: (body ++ ['?']) ++ '>' :: rest) = _
  rw [instruction, List.takeWhile_append_of_pos hinside, List.dropWhile_append_of_pos hinside]
  simp [hlong, hlast]

/-- The reader gives up at an instruction with a closing bracket in it. -/
lemma mark_processing_of_bracket {body : List Char} (hbracket : '>' ∈ body)
    (hend : ¬"?>".toList <:+: body) (rest : List Char) :
    mark .document ((processing body).tail ++ rest) = none := by
  obtain ⟨front, back, rfl, hfront⟩ := List.eq_append_cons_of_mem hbracket
  have hinside : ∀ c ∈ '?' :: front, decide (c ≠ '>') = true := by
    intro c hc
    rw [decide_eq_true_eq]
    rintro rfl
    simp [hfront] at hc
  have hshape : (processing (front ++ '>' :: back)).tail ++ rest =
      ('?' :: front) ++ '>' :: (back ++ "?>".toList ++ rest) := by
    simp [processing]
  rw [hshape]
  change instruction .document (('?' :: front) ++ '>' :: (back ++ "?>".toList ++ rest)) = _
  rw [instruction, List.takeWhile_append_of_pos hinside, List.takeWhile_cons_of_neg (by simp),
    List.append_nil]
  rcases List.eq_nil_or_concat front with rfl | ⟨before, last, rfl⟩
  · rfl
  · rw [List.concat_eq_append] at hend ⊢
    have hlast : ('?' :: (before ++ [last])).getLast? = some last := by
      rw [← List.cons_append]
      exact List.getLast?_concat
    have hne : last ≠ '?' := by
      rintro rfl
      exact hend ⟨before, back, by simp⟩
    rw [hlast, if_neg (by simp [hne])]

end Asides

section Events

variable {g : Grammar} {stack stack' : List (List Char)} {name : List Char}

lemma eventsFrom_tag {c : Char} {cs after : List Char} {e : Event}
    (hmark : mark g (c :: cs) = some (e, after)) (hnest : nest g stack e = some stack') :
    eventsFrom g stack ('<' :: c :: cs) = e :: eventsFrom g stack' after := by
  rw [eventsFrom]
  split
  · next h =>
    rw [hmark] at h
    cases h
  · next h =>
    rw [hmark] at h
    cases h
    simp only [hnest]

lemma nest_closed (g : Grammar) (name : List Char) (stack : List (List Char)) :
    nest g (name :: stack) (.closed name) = some stack := by
  simp [nest]

lemma eventsFrom_append {cs : List Char} (hne : cs ≠ [])
    (hbracket : '<' ∉ cs) (rest : List Char) :
    eventsFrom g stack (cs ++ rest) =
      .text (cs ++ rest.takeWhile (· ≠ '<')) :: eventsFrom g stack (rest.dropWhile (· ≠ '<')) := by
  have hall : ∀ c ∈ cs, decide (c ≠ '<') = true := by
    intro c hc
    rw [decide_eq_true_eq]
    rintro rfl
    exact hbracket hc
  cases cs with
  | nil => exact absurd rfl hne
  | cons c cs =>
    rw [List.forall_mem_cons] at hall
    rw [List.cons_append, eventsFrom, List.takeWhile_append_of_pos hall.2,
      List.dropWhile_append_of_pos hall.2]
    · rfl
    · rintro rfl
      exact absurd List.mem_cons_self hbracket
    · rintro d ds rfl
      exact absurd List.mem_cons_self hbracket

lemma eventsFrom_text {cs : List Char} (hne : cs ≠ []) (hbracket : '<' ∉ cs) (rest : List Char) :
    eventsFrom g stack (cs ++ '<' :: rest) = .text cs :: eventsFrom g stack ('<' :: rest) := by
  rw [eventsFrom_append hne hbracket]
  simp

lemma eventsFrom_mark {tag rest : List Char} {e : Event} (htag : tag = '<' :: tag.tail)
    (hne : tag.tail ≠ []) (hmark : mark g (tag.tail ++ rest) = some (e, rest))
    (hnest : nest g stack e = some stack') :
    eventsFrom g stack (tag ++ rest) = e :: eventsFrom g stack' rest := by
  obtain ⟨c, cs, hcs⟩ := List.exists_cons_of_ne_nil hne
  rw [hcs] at hmark htag
  rw [htag]
  exact eventsFrom_tag hmark hnest

lemma eventsFrom_openingTag (h : IsName name) (attributes : Attributes) (rest : List Char) :
    eventsFrom g stack (openingTag name attributes ++ rest) =
      .opened name attributes.chars :: eventsFrom g (name :: stack) rest :=
  eventsFrom_mark rfl (by simp [openingTag]) (mark_openingTag h g attributes rest) rfl

lemma eventsFrom_emptyTag (h : IsName name) (attributes : Attributes) (rest : List Char) :
    eventsFrom g stack (emptyTag name attributes ++ rest) =
      .single name attributes.chars :: eventsFrom g stack rest :=
  eventsFrom_mark rfl (by simp [emptyTag]) (mark_emptyTag h g attributes rest) rfl

lemma eventsFrom_closingTag (h : IsName name) {gap : List Char}
    (hgap : ∀ c ∈ gap, isSpace c = true) (rest : List Char) :
    eventsFrom g (name :: stack) (closingTag name gap ++ rest) =
      .closed name :: eventsFrom g stack rest :=
  eventsFrom_mark rfl (by simp [closingTag]) (mark_closingTag h g hgap rest) (nest_closed ..)

lemma eventsFrom_comment {body : List Char} (hbody : ¬"-->".toList <:+: body)
    (rest : List Char) :
    eventsFrom g stack (comment body ++ rest) = .aside :: eventsFrom g stack rest :=
  eventsFrom_mark rfl (by simp [comment]) (mark_comment hbody g rest) rfl

lemma eventsFrom_characterData {body : List Char} (hbody : ¬"]]>".toList <:+: body)
    (rest : List Char) :
    eventsFrom g stack (characterData body ++ rest) = .cdata body :: eventsFrom g stack rest :=
  eventsFrom_mark rfl (by simp [characterData]) (mark_characterData hbody g rest) rfl

lemma eventsFrom_doctype {body : List Char} (hbody : Balanced body)
    (hword : ∃ c ∈ body, isSpace c = false) (rest : List Char) :
    eventsFrom g stack (doctype body ++ rest) = .aside :: eventsFrom g stack rest :=
  eventsFrom_mark rfl (by simp [doctype]) (mark_doctype hbody hword g rest) rfl

lemma eventsFrom_processing {body : List Char} (hne : body ≠ []) (hbody : '>' ∉ body)
    (rest : List Char) :
    eventsFrom .document stack (processing body ++ rest) =
      .aside :: eventsFrom .document stack rest :=
  eventsFrom_mark rfl (by simp [processing]) (mark_processing hne hbody rest) rfl

lemma eventsFrom_processing_of_bracket {body : List Char} (hbracket : '>' ∈ body)
    (hend : ¬"?>".toList <:+: body) (rest : List Char) :
    eventsFrom .document stack (processing body ++ rest) = [.malformed] := by
  have hmark := mark_processing_of_bracket hbracket hend rest
  obtain ⟨c, cs, hcs⟩ := List.exists_cons_of_ne_nil
    (show (processing body).tail ++ rest ≠ [] by simp [processing])
  have hshape : processing body ++ rest = '<' :: c :: cs := by
    rw [← hcs]
    rfl
  rw [hcs] at hmark
  rw [hshape, eventsFrom]
  split
  · rfl
  · next h =>
    rw [hmark] at h
    cases h

end Events

end MailMerge.Markup
