import MailMerge.Proofs.TokenPlaces
import Mathlib.Data.List.Basic

/-!
# Cuts of a text

A text is cut into parts if the parts make it up and the tokens among them are all that stand in it.
Reading from the left gives such a cut, and every other one differs from it only in where the texts
between two tokens are divided (`IsCutOf.cut_eq`). So what is made of the parts one by one, and
keeps the texts between the tokens, does not depend on the cut.
-/

namespace MailMerge

namespace Part

/-- The parts with no text between two tokens divided. -/
def joined : List Part → List Part
  | [] => []
  | literal cs :: parts => cs.foldr extendLiteral (joined parts)
  | token t :: parts => token t :: joined parts

/-- The characters that are in no token. -/
def free : Part → List Char
  | literal cs => cs
  | token _ => []

section Between

/-! What keeps the texts between tokens does not see how they are divided. -/

variable {f : Part → List Char} (hf : ∀ cs, f (literal cs) = cs)

include hf

lemma flatMap_extendLiteral (c : Char) (parts : List Part) :
    (extendLiteral c parts).flatMap f = c :: parts.flatMap f := by
  match parts with
  | [] => simp [extendLiteral, hf]
  | literal cs :: parts => simp [extendLiteral, hf]
  | token t :: parts => simp [extendLiteral, hf]

lemma flatMap_joined (parts : List Part) : (joined parts).flatMap f = parts.flatMap f := by
  have hfold (cs : List Char) (parts : List Part) :
      (cs.foldr extendLiteral parts).flatMap f = cs ++ parts.flatMap f := by
    induction cs with
    | nil => rfl
    | cons c cs ih => rw [List.foldr_cons, flatMap_extendLiteral hf, ih, List.cons_append]
  induction parts with
  | nil => rfl
  | cons p parts ih =>
    cases p with
    | literal cs => rw [joined, hfold, ih, List.flatMap_cons, hf]
    | token t => rw [joined, List.flatMap_cons, List.flatMap_cons, ih]

end Between

lemma filterMap_joined (parts : List Part) :
    (joined parts).filterMap name? = parts.filterMap name? := by
  have hfold (cs : List Char) (parts : List Part) :
      (cs.foldr extendLiteral parts).filterMap name? = parts.filterMap name? := by
    induction cs with
    | nil => rfl
    | cons c cs ih => rw [List.foldr_cons, filterMap_extendLiteral, ih]
  induction parts with
  | nil => rfl
  | cons p parts ih =>
    cases p with
    | literal cs => rw [joined, hfold, ih, List.filterMap_cons_none rfl]
    | token t =>
      have hname : (token t).name? = some (String.ofList t.name) := rfl
      rw [joined, List.filterMap_cons_some hname, List.filterMap_cons_some hname, ih]

lemma shift_mem_occurrences {p : Part} {parts : List Part} {o : Occurrence} :
    o.shift p.chars.length ∈ occurrences (p :: parts) ↔ o ∈ occurrences parts := by
  cases p with
  | literal cs => exact List.mem_map_of_injective (Occurrence.shift_injective _)
  | token t =>
    have hne : o.shift t.chars.length ≠ ⟨0, t⟩ := by
      intro h
      have hstart : t.chars.length + o.start = 0 := congrArg Occurrence.start h
      have hlong := t.two_lt_length
      omega
    rw [occurrences, chars, List.mem_cons, or_iff_right hne]
    exact List.mem_map_of_injective (Occurrence.shift_injective _)

end Part

lemma flatMap_chars_cut (cs : List Char) : (cut cs).flatMap Part.chars = cs := by
  fun_induction cut cs with
  | case1 cs t rest hread _ ih =>
    rw [List.flatMap_cons, ih, Part.chars, ← Token.eq_append_of_read? hread]
  | case2 => rfl
  | case3 c rest hread ih => rw [Part.flatMap_extendLiteral fun _ => rfl, ih]

/-- Where no token begins nothing is cut. -/
lemma cut_append {front rest : List Char}
    (h : ∀ o : Occurrence, o.StandsIn (front ++ rest) → front.length ≤ o.start) :
    cut (front ++ rest) = front.foldr extendLiteral (cut rest) := by
  induction front with
  | nil => rfl
  | cons c front ih =>
    have hnone : Token.read? (c :: (front ++ rest)) = none := by
      cases hread : Token.read? (c :: (front ++ rest)) with
      | none => rfl
      | some found =>
        have hstart := h ⟨0, found.1⟩ (Occurrence.standsIn_iff.mpr ⟨found.2, hread⟩)
        exact absurd hstart (Nat.not_succ_le_zero _)
    have hbehind (o : Occurrence) (ho : o.StandsIn (front ++ rest)) : front.length ≤ o.start := by
      have hshift := h (o.shift 1) (Occurrence.standsIn_cons_iff.mpr ho)
      rw [Occurrence.shift_start, List.length_cons] at hshift
      omega
    rw [List.cons_append, cut_char hnone, ih hbehind, List.foldr_cons]

/-- The parts make up the text, and the tokens among them are all that stand in it. -/
structure IsCutOf (parts : List Part) (cs : List Char) : Prop where
  whole : parts.flatMap Part.chars = cs
  complete : ∀ o, o ∈ Part.occurrences parts ↔ o.StandsIn cs

lemma isCutOf_cut (cs : List Char) : IsCutOf (cut cs) cs :=
  ⟨flatMap_chars_cut cs, fun _ => mem_occurrences_cut⟩

namespace IsCutOf

variable {p : Part} {parts : List Part} {cs : List Char}

lemma eq_append (h : IsCutOf (p :: parts) cs) : cs = p.chars ++ parts.flatMap Part.chars := by
  rw [← h.whole, List.flatMap_cons]

lemma tail (h : IsCutOf (p :: parts) cs) : IsCutOf parts (parts.flatMap Part.chars) := by
  refine ⟨rfl, fun o => ?_⟩
  rw [← Part.shift_mem_occurrences (p := p), h.complete, h.eq_append,
    Occurrence.standsIn_append_iff]

lemma length_le_start {front : List Char} (h : IsCutOf (.literal front :: parts) cs)
    {o : Occurrence} (ho : o.StandsIn cs) : front.length ≤ o.start := by
  obtain ⟨o', -, rfl⟩ := List.mem_map.mp ((h.complete o).mpr ho)
  exact Nat.le_add_right _ _

lemma read?_eq {t : Token} (h : IsCutOf (.token t :: parts) cs) :
    Token.read? cs = some (t, parts.flatMap Part.chars) := by
  have hfirst := (h.complete ⟨0, t⟩).mp List.mem_cons_self
  rw [Token.read?_eq_some_iff]
  exact ⟨hfirst.1, h.eq_append⟩

/-- A text has one cut in which no text between two tokens is divided. -/
theorem cut_eq (h : IsCutOf parts cs) : cut cs = Part.joined parts := by
  induction parts generalizing cs with
  | nil =>
    have hnil : cs = [] := h.whole.symm
    rw [hnil, cut]
    rfl
  | cons p parts ih =>
    cases p with
    | literal front =>
      -- All tokens are behind this part, so reading goes through it character by character.
      have hcs : cs = front ++ parts.flatMap Part.chars := h.eq_append
      have hfree (o : Occurrence) (ho : o.StandsIn (front ++ parts.flatMap Part.chars)) :
          front.length ≤ o.start :=
        h.length_le_start (hcs ▸ ho)
      rw [hcs, cut_append hfree, ih h.tail, Part.joined]
    | token t => rw [cut_token h.read?_eq, ih h.tail, Part.joined]

lemma flatMap_cut (h : IsCutOf parts cs) {f : Part → List Char} (hf : ∀ cs, f (.literal cs) = cs) :
    (cut cs).flatMap f = parts.flatMap f := by
  rw [h.cut_eq, Part.flatMap_joined hf]

lemma tokenNames_eq (h : IsCutOf parts cs) : tokenNames cs = parts.filterMap Part.name? := by
  rw [tokenNames, h.cut_eq, Part.filterMap_joined]

lemma cons_literal {front : List Char} (h : IsCutOf parts cs) (hfront : '\x7b' ∉ front) :
    IsCutOf (.literal front :: parts) (front ++ cs) := by
  refine ⟨by rw [List.flatMap_cons, h.whole]; rfl, fun o => ?_⟩
  rw [Occurrence.standsIn_literal_iff hfront, Part.occurrences, List.mem_map]
  exact exists_congr fun o' => and_congr_left' (h.complete o')

lemma append_literal {back : List Char} (h : IsCutOf parts cs) (hback : '\x7d' ∉ back) :
    IsCutOf (parts ++ [.literal back]) (cs ++ back) := by
  refine ⟨by simp [h.whole, Part.chars], fun o => ?_⟩
  rw [Part.occurrences_append_literal, Occurrence.standsIn_append_literal_iff hback, h.complete]

lemma not_standsIn_literal {front : List Char} (h : IsCutOf parts cs)
    (hfront : .literal front ∈ parts) (o : Occurrence) : ¬o.StandsIn front := by
  induction parts generalizing cs with
  | nil => cases hfront
  | cons p parts ih =>
    rcases List.mem_cons.mp hfront with rfl | hfront
    · intro ho
      -- It would stand in the whole text, where all tokens begin behind this literal.
      have hwhole : o.StandsIn cs := h.eq_append ▸ ho.append _
      exact absurd o.start_lt_stop (Nat.not_lt.mpr (Nat.le_trans ho.stop_le (h.length_le_start hwhole)))
    · exact ih h.tail hfront

lemma isSound {t : Token} (h : IsCutOf parts cs) (ht : .token t ∈ parts) : t.IsSound := by
  induction parts generalizing cs with
  | nil => cases ht
  | cons p parts ih =>
    rcases List.mem_cons.mp ht with rfl | ht
    · exact Token.isSound_of_read? h.read?_eq
    · exact ih h.tail ht

end IsCutOf

/-- Every `c` of a text is in one of its tokens. -/
def OnlyInTokens (c : Char) (cs : List Char) : Prop :=
  ∀ i, cs[i]? = some c → ∃ o : Occurrence, o.StandsIn cs ∧ o.Covers i

section OnlyInTokens

open Occurrence

variable {c : Char}

lemma onlyInTokens_token_iff {cs : List Char} {t : Token} {rest : List Char}
    (h : Token.read? cs = some (t, rest)) : OnlyInTokens c cs ↔ OnlyInTokens c rest := by
  have hat (i : Nat) : cs[t.chars.length + i]? = rest[i]? := by
    rw [Token.eq_append_of_read? h, List.getElem?_append_right (Nat.le_add_right _ _),
      Nat.add_sub_cancel_left]
  constructor
  · intro hcs i hi
    obtain ⟨o, ho, hcovers⟩ := hcs _ ((hat i).trans hi)
    rcases (standsIn_token_iff h).mp ho with rfl | ⟨o', ho', rfl⟩
    · have hinside : t.chars.length + i < 0 + t.chars.length := hcovers.2
      omega
    · exact ⟨o', ho', covers_shift_iff.mp hcovers⟩
  · intro hrest i hi
    rcases Nat.lt_or_ge i t.chars.length with hinside | hbehind
    · have hstop : i < (Occurrence.mk 0 t).stop := by rwa [stop, Nat.zero_add]
      exact ⟨⟨0, t⟩, (standsIn_token_iff h).mpr (.inl rfl), Nat.zero_le i, hstop⟩
    · obtain ⟨j, rfl⟩ := Nat.exists_eq_add_of_le hbehind
      obtain ⟨o, ho, hcovers⟩ := hrest j ((hat j).symm.trans hi)
      exact ⟨o.shift _, (standsIn_token_iff h).mpr (.inr ⟨o, ho, rfl⟩),
        covers_shift_iff.mpr hcovers⟩

lemma onlyInTokens_char_iff {d : Char} {rest : List Char} (h : Token.read? (d :: rest) = none) :
    OnlyInTokens c (d :: rest) ↔ c ≠ d ∧ OnlyInTokens c rest := by
  have hat (i : Nat) : (d :: rest)[1 + i]? = rest[i]? := by
    rw [Nat.add_comm, List.getElem?_cons_succ]
  constructor
  · intro hcs
    constructor
    · rintro rfl
      obtain ⟨o, ho, hcovers⟩ := hcs 0 rfl
      obtain ⟨o', -, rfl⟩ := (standsIn_char_iff h).mp ho
      have hstart : 1 + o'.start ≤ 0 := hcovers.1
      omega
    · intro i hi
      obtain ⟨o, ho, hcovers⟩ := hcs _ ((hat i).trans hi)
      obtain ⟨o', ho', rfl⟩ := (standsIn_char_iff h).mp ho
      exact ⟨o', ho', covers_shift_iff.mp hcovers⟩
  · rintro ⟨hne, hrest⟩ i hi
    rcases Nat.eq_zero_or_pos i with rfl | hpos
    · exact absurd (Option.some.inj hi).symm hne
    · obtain ⟨j, rfl⟩ := Nat.exists_eq_add_of_le hpos
      obtain ⟨o, ho, hcovers⟩ := hrest j ((hat j).symm.trans hi)
      exact ⟨o.shift 1, (standsIn_char_iff h).mpr ⟨o, ho, rfl⟩, covers_shift_iff.mpr hcovers⟩

/-- It is in one of them unless reading the text finds it between two tokens. -/
theorem onlyInTokens_iff {cs : List Char} :
    OnlyInTokens c cs ↔ c ∉ (cut cs).flatMap Part.free := by
  fun_induction cut cs with
  | case1 cs t rest hread _ ih =>
    rw [onlyInTokens_token_iff hread, ih, List.flatMap_cons, Part.free, List.nil_append]
  | case2 => simp [OnlyInTokens]
  | case3 d rest hread ih =>
    rw [onlyInTokens_char_iff hread, ih, Part.flatMap_extendLiteral fun _ => rfl, List.mem_cons,
      not_or]

instance (c : Char) (cs : List Char) : Decidable (OnlyInTokens c cs) :=
  decidable_of_iff _ onlyInTokens_iff.symm

end OnlyInTokens

end MailMerge
