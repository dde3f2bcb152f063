import MailMerge.Layout
import MailMerge.Proofs.TextCuts
import MailMerge.Text.Utf8
import Mathlib.Data.List.Chain
import Mathlib.Data.List.Nodup

/-!
# Layouts of templates

A layout is right for a text if its segments divide the bytes of the text at borders of characters,
if the tokens among them are those that stand in the text and the literals have none in them, and
if the index has, for every name, the numbers of its segments (`IsLayoutOf`). The layout that is
made of a text is right for it (`layout_divides_text`): its segments are the parts that the text is
cut into, each placed behind those before it, and the index keeps in step with the segments that it
has seen.
-/

namespace MailMerge

lemma Utf8.encode_append (s t : String) : encode (s ++ t) = encode s ++ encode t := by
  simp [encode, String.toUTF8]

lemma Utf8.length_encode (s : String) : (encode s).length = s.utf8ByteSize := rfl

namespace Part

/-- No part is empty, and no two literals are side by side. -/
structure AreReduced (parts : List Part) : Prop where
  nonempty : ∀ p ∈ parts, p.chars ≠ []
  apart : parts.IsChain fun p q => p.name? ≠ none ∨ q.name? ≠ none

lemma AreReduced.cons_token {parts : List Part} (h : AreReduced parts) (t : Token) :
    AreReduced (token t :: parts) := by
  refine ⟨List.forall_mem_cons.mpr ⟨?_, h.nonempty⟩, h.apart.cons fun q _ => .inl nofun⟩
  rw [chars, Token.chars]
  exact List.cons_ne_nil _ _

lemma AreReduced.extendLiteral {parts : List Part} (h : AreReduced parts) (c : Char) :
    AreReduced (extendLiteral c parts) := by
  have hfirst (cs : List Char) : (literal (c :: cs)).chars ≠ [] := List.cons_ne_nil c cs
  match parts, h with
  | [], _ => exact ⟨List.forall_mem_singleton.mpr (hfirst []), .singleton _⟩
  | literal cs :: parts, h =>
    -- The literal grows, and what is behind it stays behind a literal.
    obtain ⟨-, hrest⟩ := List.forall_mem_cons.mp h.nonempty
    obtain ⟨hnext, hchain⟩ := List.isChain_cons.mp h.apart
    exact ⟨List.forall_mem_cons.mpr ⟨hfirst cs, hrest⟩, hchain.cons hnext⟩
  | token t :: parts, h =>
    exact ⟨List.forall_mem_cons.mpr ⟨hfirst [], h.nonempty⟩, h.apart.cons_cons (.inr nofun)⟩

lemma mem_occurrences_cons {p : Part} {parts : List Part} {o : Occurrence} :
    o ∈ occurrences (p :: parts) ↔ (∃ t, p = token t ∧ o = ⟨0, t⟩) ∨
      ∃ o' ∈ occurrences parts, o'.shift p.chars.length = o := by
  cases p <;> simp [occurrences, chars]

lemma mem_occurrences_iff {parts : List Part} {o : Occurrence} :
    o ∈ occurrences parts ↔ ∃ front t back, parts = front ++ token t :: back ∧
      o = ⟨(front.flatMap chars).length, t⟩ := by
  induction parts generalizing o with
  | nil => simp [occurrences]
  | cons p parts ih =>
    rw [mem_occurrences_cons]
    constructor
    · rintro (⟨t, rfl, rfl⟩ | ⟨o', ho', rfl⟩)
      · exact ⟨[], t, parts, rfl, rfl⟩
      · obtain ⟨front, t, back, rfl, rfl⟩ := ih.mp ho'
        refine ⟨p :: front, t, back, rfl, ?_⟩
        rw [List.flatMap_cons, List.length_append, Occurrence.shift]
    · rintro ⟨front, t, back, hparts, rfl⟩
      cases front with
      | nil =>
        cases hparts
        exact .inl ⟨t, rfl, rfl⟩
      | cons q front =>
        cases hparts
        refine .inr ⟨_, ih.mpr ⟨front, t, back, rfl, rfl⟩, ?_⟩
        rw [List.flatMap_cons, List.length_append, Occurrence.shift]

end Part

lemma areReduced_cut (cs : List Char) : Part.AreReduced (cut cs) := by
  fun_induction cut cs with
  | case1 cs t rest hread _ ih => exact ih.cons_token t
  | case2 => exact ⟨List.forall_mem_nil _, .nil⟩
  | case3 c rest hread ih => exact ih.extendLiteral c

namespace Segment

lemma byteSize_eq (cs : List Char) : byteSize cs = (String.ofList cs).utf8ByteSize := by
  induction cs with
  | nil => rfl
  | cons c cs ih =>
    rw [byteSize, ih, String.ofList_cons, String.utf8ByteSize_append, String.utf8ByteSize_singleton]

lemma byteSize_append (cs ds : List Char) : byteSize (cs ++ ds) = byteSize cs + byteSize ds := by
  rw [byteSize_eq, String.ofList_append, String.utf8ByteSize_append, ← byteSize_eq, ← byteSize_eq]

lemma byteSize_pos {cs : List Char} (h : cs ≠ []) : 0 < byteSize cs := by
  cases cs with
  | nil => exact absurd rfl h
  | cons c cs =>
    have hsize := c.utf8Size_pos
    rw [byteSize]
    omega

/-- The segments lead from one place to another: none is empty, and each begins where the one
before it stops. -/
def Lead (first last : Nat) : List Segment → Prop
  | [] => first = last
  | s :: rest => s.start = first ∧ s.start < s.stop ∧ Lead s.stop last rest

lemma lead_place {parts : List Part} (h : ∀ p ∈ parts, p.chars ≠ []) (start : Nat) :
    Lead start (start + byteSize (parts.flatMap Part.chars)) (place start parts) := by
  induction parts generalizing start with
  | nil => rfl
  | cons p parts ih =>
    obtain ⟨hp, hparts⟩ := List.forall_mem_cons.mp h
    rw [List.flatMap_cons, byteSize_append, ← Nat.add_assoc]
    exact ⟨rfl, Nat.lt_add_of_pos_right (byteSize_pos hp), ih hparts _⟩

/-- The range of the segment is one of whole characters, and what is read there is its text. -/
structure IsSliceOf (s : Segment) (text : String) : Prop where
  start : String.Pos.Raw.IsValid text ⟨s.start⟩
  stop : String.Pos.Raw.IsValid text ⟨s.stop⟩
  bytes : (Utf8.encode text).extract s.start s.stop = Utf8.encode (String.ofList s.text)

lemma isSliceOf_of_append {text : String} {front back : List Char} {s : Segment}
    (htext : text.toList = front ++ (s.text ++ back)) (hstart : s.start = byteSize front) :
    s.IsSliceOf text := by
  have hstring : text = String.ofList front ++ (String.ofList s.text ++ String.ofList back) := by
    rw [← String.ofList_append, ← String.ofList_append, ← htext, String.ofList_toList]
  have hbegin : s.start = (String.ofList front).utf8ByteSize := hstart.trans (byteSize_eq front)
  have hstop : s.stop = (String.ofList front ++ String.ofList s.text).utf8ByteSize := by
    rw [stop, hbegin, byteSize_eq, String.utf8ByteSize_append]
  refine ⟨?_, ?_, ?_⟩
  · exact String.Pos.Raw.isValid_iff_exists_append.mpr ⟨_, _, hstring, by rw [hbegin]; rfl⟩
  · rw [← String.append_assoc] at hstring
    exact String.Pos.Raw.isValid_iff_exists_append.mpr ⟨_, _, hstring, by rw [hstop]; rfl⟩
  · rw [hstring, Utf8.encode_append, Utf8.encode_append, List.extract_eq_take_drop, stop, hbegin,
      ← Utf8.length_encode, List.drop_left, Nat.add_sub_cancel_left, byteSize_eq,
      ← Utf8.length_encode, List.take_left]

lemma mem_place_iff {parts : List Part} {start : Nat} {s : Segment} :
    s ∈ place start parts ↔ ∃ front p back, parts = front ++ p :: back ∧
      s = ⟨p.name?, p.chars, start + byteSize (front.flatMap Part.chars)⟩ := by
  induction parts generalizing start with
  | nil => simp [place]
  | cons p parts ih =>
    rw [place, List.mem_cons, ih]
    constructor
    · rintro (rfl | ⟨front, q, back, rfl, rfl⟩)
      · exact ⟨[], p, parts, rfl, rfl⟩
      · refine ⟨p :: front, q, back, rfl, ?_⟩
        rw [List.flatMap_cons, byteSize_append, Nat.add_assoc]
    · rintro ⟨front, q, back, hparts, rfl⟩
      cases front with
      | nil =>
        cases hparts
        exact .inl rfl
      | cons r front =>
        cases hparts
        refine .inr ⟨front, q, back, rfl, ?_⟩
        rw [List.flatMap_cons, byteSize_append, Nat.add_assoc]

lemma map_name?_place (start : Nat) (parts : List Part) :
    (place start parts).map Segment.name? = parts.map Part.name? := by
  induction parts generalizing start with
  | nil => rfl
  | cons p parts ih => rw [place, List.map_cons, List.map_cons, ih]

end Segment

/-- The token as a segment of the text that it stands in. -/
def Occurrence.segment (cs : List Char) (o : Occurrence) : Segment :=
  ⟨some o.name, o.token.chars, Segment.byteSize (cs.take o.start)⟩

lemma IsCutOf.mem_place_and_named_iff {parts : List Part} {cs : List Char} (h : IsCutOf parts cs)
    {s : Segment} :
    s ∈ Segment.place 0 parts ∧ s.name? ≠ none ↔
      ∃ o : Occurrence, o.StandsIn cs ∧ o.segment cs = s := by
  have hsegment {front back : List Part} {t : Token} (hparts : parts = front ++ .token t :: back) :
      Occurrence.segment cs ⟨(front.flatMap Part.chars).length, t⟩ =
        ⟨(Part.token t).name?, t.chars, 0 + Segment.byteSize (front.flatMap Part.chars)⟩ := by
    rw [Occurrence.segment, ← h.whole, hparts, List.flatMap_append, List.take_left, Nat.zero_add]
    rfl
  rw [Segment.mem_place_iff]
  constructor
  · rintro ⟨⟨front, p, back, hparts, rfl⟩, hnamed⟩
    cases p with
    | literal cs => exact absurd rfl hnamed
    | token t =>
      exact ⟨_, (h.complete _).mp (Part.mem_occurrences_iff.mpr ⟨front, t, back, hparts, rfl⟩),
        hsegment hparts⟩
  · rintro ⟨o, ho, rfl⟩
    obtain ⟨front, t, back, hparts, rfl⟩ := Part.mem_occurrences_iff.mp ((h.complete o).mpr ho)
    exact ⟨⟨front, .token t, back, hparts, hsegment hparts⟩, nofun⟩

namespace Layout

/-- The numbers of the segments that hold tokens of this name, in ascending order. -/
def numbers (name : String) (segments : List Segment) : List Nat :=
  (List.range segments.length).filter fun i => segments[i]?.bind Segment.name? = some name

/-- The index has one entry for every name of a token, with the numbers of its segments. -/
structure IsIndexOf (index : List (String × List Nat)) (segments : List Segment) : Prop where
  distinct : (index.map Prod.fst).Nodup
  lookup : ∀ name found,
    index.lookup name = some found ↔ found ≠ [] ∧ found = numbers name segments

section Index

variable {name other : String} {i : Nat} {index : List (String × List Nat)}
  {segments : List Segment} {s : Segment}

lemma numbers_append (name : String) (segments : List Segment) (s : Segment) :
    numbers name (segments ++ [s]) =
      numbers name segments ++ if s.name? = some name then [segments.length] else [] := by
  have hbefore : ∀ i ∈ List.range segments.length, (segments ++ [s])[i]? = segments[i]? := by
    intro i hi
    exact List.getElem?_append_left (List.mem_range.mp hi)
  have hlast : (segments ++ [s])[segments.length]? = some s := List.getElem?_concat_length
  rw [numbers, List.length_append, List.length_singleton, List.range_succ, List.filter_append,
    numbers]
  congr 1
  · exact List.filter_congr fun i hi => by rw [hbefore i hi]
  · rw [List.filter_singleton, hlast]
    simp

lemma map_fst_note : (note name i index).map Prod.fst =
    if name ∈ index.map Prod.fst then index.map Prod.fst else index.map Prod.fst ++ [name] := by
  induction index with
  | nil => rfl
  | cons entry index ih =>
    rw [note]
    by_cases hname : entry.1 = name
    · simp [hname]
    · rw [if_neg hname, List.map_cons, ih]
      by_cases hmem : name ∈ index.map Prod.fst
      · simp [hmem]
      · simp [hmem, Ne.symm hname]

lemma lookup_cons_eq (n : String) (found : List Nat) :
    ((n, found) :: index).lookup name = if name = n then some found else index.lookup name := by
  rw [List.lookup_cons]
  by_cases hname : name = n
  · rw [if_pos hname, beq_iff_eq.mpr hname]
  · rw [if_neg hname, beq_eq_false_iff_ne.mpr hname]

lemma lookup_note : (note name i index).lookup other =
    if other = name then some ((index.lookup name).getD [] ++ [i]) else index.lookup other := by
  induction index with
  | nil => exact lookup_cons_eq name [i]
  | cons entry index ih =>
    obtain ⟨n, found⟩ := entry
    rw [note, lookup_cons_eq, lookup_cons_eq]
    by_cases hname : n = name
    · rw [if_pos hname, lookup_cons_eq, if_pos hname.symm, hname, Option.getD_some]
      split
      · rfl
      · rfl
    · rw [if_neg hname, lookup_cons_eq, ih, if_neg (Ne.symm hname)]
      by_cases hother : other = n
      · rw [if_pos hother, if_pos hother, if_neg (hother ▸ hname)]
      · rw [if_neg hother, if_neg hother]

lemma isIndexOf_nil : IsIndexOf [] [] :=
  ⟨List.nodup_nil, fun _ _ => ⟨nofun, fun h => absurd h.2 h.1⟩⟩

lemma IsIndexOf.getD_lookup (h : IsIndexOf index segments) (name : String) :
    (index.lookup name).getD [] = numbers name segments := by
  cases hlookup : index.lookup name with
  | none =>
    -- A name with segments would have an entry.
    by_contra hne
    have hsome := (h.lookup name _).mpr ⟨Ne.symm hne, rfl⟩
    rw [hlookup] at hsome
    cases hsome
  | some found => exact ((h.lookup name found).mp hlookup).2

lemma IsIndexOf.note (h : IsIndexOf index segments) (hname : s.name? = some name) :
    IsIndexOf (Layout.note name segments.length index) (segments ++ [s]) := by
  constructor
  · rw [map_fst_note]
    split
    · exact h.distinct
    · next hnew =>
      rw [← List.concat_eq_append]
      exact List.Nodup.concat hnew h.distinct
  · intro other found
    rw [lookup_note, numbers_append, hname]
    by_cases hother : other = name
    · rw [if_pos hother, h.getD_lookup, hother, if_pos rfl, Option.some.injEq]
      constructor
      · rintro rfl
        exact ⟨by simp, rfl⟩
      · rintro ⟨-, rfl⟩
        rfl
    · rw [if_neg hother, h.lookup, if_neg (by simpa using Ne.symm hother), List.append_nil]

lemma IsIndexOf.literal (h : IsIndexOf index segments) (hname : s.name? = none) :
    IsIndexOf index (segments ++ [s]) := by
  refine ⟨h.distinct, fun other found => ?_⟩
  rw [numbers_append, hname, if_neg nofun, List.append_nil, h.lookup]

/-- Going on through the segments, the index keeps in step with those it has seen. -/
lemma IsIndexOf.indexFrom (h : IsIndexOf index segments) (rest : List Segment) :
    IsIndexOf (Layout.indexFrom segments.length index rest) (segments ++ rest) := by
  induction rest generalizing index segments with
  | nil => rwa [List.append_nil]
  | cons s rest ih =>
    -- The number that is counted is that of the segments seen so far.
    have hlength : segments.length + 1 = (segments ++ [s]).length := by simp
    rw [List.append_cons, Layout.indexFrom, hlength]
    cases hname : s.name? with
    | none => exact ih (h.literal hname)
    | some name => exact ih (h.note hname)

end Index

/-- What makes a layout right for a text. -/
structure IsLayoutOf (l : Layout) (text : String) : Prop where
  /-- The segments divide the bytes of the text, and none is empty. -/
  lead : Segment.Lead 0 text.utf8ByteSize l.segments
  /-- They begin and stop between two characters, and their texts are what stands there. -/
  slices : ∀ s ∈ l.segments, s.IsSliceOf text
  /-- No two literals are side by side. -/
  apart : l.segments.IsChain fun a b => a.name? ≠ none ∨ b.name? ≠ none
  /-- The segments with names are the tokens that stand in the text. -/
  tokens : ∀ s, s ∈ l.segments ∧ s.name? ≠ none ↔
    ∃ o : Occurrence, o.StandsIn text.toList ∧ o.segment text.toList = s
  /-- No token stands in a segment without a name. -/
  literals : ∀ s ∈ l.segments, s.name? = none → ∀ o : Occurrence, ¬o.StandsIn s.text
  index : IsIndexOf l.index l.segments

/-- The segments of a text's layout follow each other from its first byte to its last, each begins
and stops between two characters, and no two literals are side by side. Those with names are the
tokens that stand in the text, and in the others stands none; the index has, for every name, the
ascending numbers of the segments that hold its tokens. -/
theorem layout_divides_text (text : String) : IsLayoutOf (ofText text) text := by
  have hcut := isCutOf_cut text.toList
  have hreduced := areReduced_cut text.toList
  have hsize : 0 + Segment.byteSize ((cut text.toList).flatMap Part.chars) =
      text.utf8ByteSize := by
    rw [hcut.whole, Segment.byteSize_eq, String.ofList_toList, Nat.zero_add]
  refine ⟨hsize ▸ Segment.lead_place hreduced.nonempty 0, ?_, ?_,
    fun s => hcut.mem_place_and_named_iff, ?_, ?_⟩
  · intro s hs
    obtain ⟨front, p, back, hparts, rfl⟩ := Segment.mem_place_iff.mp hs
    have htext : text.toList =
        front.flatMap Part.chars ++ (p.chars ++ back.flatMap Part.chars) := by
      rw [← hcut.whole, hparts, List.flatMap_append, List.flatMap_cons]
    exact Segment.isSliceOf_of_append htext (Nat.zero_add _)
  · have hapart : ((ofText text).segments.map Segment.name?).IsChain
        fun a b => a ≠ none ∨ b ≠ none :=
      Segment.map_name?_place 0 _ ▸ (List.isChain_map Part.name?).mpr hreduced.apart
    exact (List.isChain_map Segment.name?).mp hapart
  · intro s hs hname o
    obtain ⟨front, p, back, hparts, rfl⟩ := Segment.mem_place_iff.mp hs
    cases p with
    | literal cs =>
      have hmem : .literal cs ∈ cut text.toList := by simp [hparts]
      exact hcut.not_standsIn_literal hmem o
    | token t => cases hname
  · exact isIndexOf_nil.indexFrom _

example : ofText "é\x7b\x7b a \x7d\x7d\x7b\x7bb\x7d\x7d\x7b\x7ba\x7d\x7d\x7b\x7b" =
    ⟨[⟨none, ['é'], 0⟩, ⟨some "a", "\x7b\x7b a \x7d\x7d".toList, 2⟩,
      ⟨some "b", "\x7b\x7bb\x7d\x7d".toList, 9⟩, ⟨some "a", "\x7b\x7ba\x7d\x7d".toList, 14⟩,
      ⟨none, "\x7b\x7b".toList, 19⟩], [("a", [1, 3]), ("b", [2])]⟩ := by
  decide +kernel

end Layout

end MailMerge
