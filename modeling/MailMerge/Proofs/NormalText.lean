import MailMerge.Normal
import MailMerge.Proofs.TextCuts
import Mathlib.Data.List.Forall2

/-!
# Tokens of normal texts

Normal texts have other blank characters than the texts they are made from, and fewer of them at
their ends. No token has a blank character at an end, and inside one it does not matter which blank
characters stand around the name, so the names of a text stay (`placeholders_normalizeText`).
-/

namespace MailMerge

open List (Forall₂)

/-- Characters that tokens do not tell apart. -/
def Alike (c d : Char) : Prop :=
  c = d ∨ Text.isBlank c = true ∧ Text.isBlank d = true

lemma Alike.symm {c d : Char} (h : Alike c d) : Alike d c := by
  rcases h with rfl | ⟨hc, hd⟩
  · exact .inl rfl
  · exact .inr ⟨hd, hc⟩

lemma Alike.eq {c d : Char} (h : Alike c d) (hc : Text.isBlank c = false) : c = d := by
  rcases h with rfl | ⟨hblank, -⟩
  · rfl
  · rw [hc] at hblank
    cases hblank

lemma Alike.isBlank {c d : Char} (h : Alike c d) (hc : Text.isBlank c = true) :
    Text.isBlank d = true := by
  rcases h with rfl | ⟨-, hd⟩
  · exact hc
  · exact hd

section Alike

variable {cs ds : List Char}

lemma eq_of_alike (h : Forall₂ Alike cs ds) (hcs : ∀ c ∈ cs, Text.isBlank c = false) : cs = ds := by
  induction h with
  | nil => rfl
  | cons hc _ ih => rw [hc.eq (hcs _ (by simp)), ih fun c h => hcs c (by simp [h])]

lemma isBlank_of_alike (h : Forall₂ Alike cs ds) (hcs : ∀ c ∈ cs, Text.isBlank c = true) :
    ∀ d ∈ ds, Text.isBlank d = true := by
  induction h with
  | nil => simp
  | cons hc _ ih =>
    intro d hd
    rcases List.mem_cons.mp hd with rfl | hd
    · exact hc.isBlank (hcs _ (by simp))
    · exact ih (fun c h => hcs c (by simp [h])) d hd

lemma exists_append_of_alike {front back : List Char} (h : Forall₂ Alike (front ++ back) ds) :
    ∃ front' back', ds = front' ++ back' ∧ Forall₂ Alike front front' ∧
      Forall₂ Alike back back' := by
  have htake := List.forall₂_take front.length h
  have hdrop := List.forall₂_drop front.length h
  rw [List.take_left] at htake
  rw [List.drop_left] at hdrop
  exact ⟨_, _, (List.take_append_drop front.length ds).symm, htake, hdrop⟩

/-- In alike texts tokens of the same names stand at the same places. -/
lemma read?_alike (h : Forall₂ Alike cs ds) {t : Token} {rest : List Char}
    (hread : Token.read? cs = some (t, rest)) :
    ∃ u rest', Token.read? ds = some (u, rest') ∧ u.name = t.name ∧ Forall₂ Alike rest rest' := by
  obtain ⟨hsound, rfl⟩ := Token.read?_eq_some_iff.mp hread
  have hchars : t.chars ++ rest =
      ['\x7b', '\x7b'] ++ (t.before ++ (t.name ++ (t.after ++ (['\x7d', '\x7d'] ++ rest)))) := by
    simp [Token.chars]
  rw [hchars] at h
  obtain ⟨opening, ds1, rfl, hopening, h⟩ := exists_append_of_alike h
  obtain ⟨before, ds2, rfl, hbefore, h⟩ := exists_append_of_alike h
  obtain ⟨name, ds3, rfl, hname, h⟩ := exists_append_of_alike h
  obtain ⟨after, ds4, rfl, hafter, h⟩ := exists_append_of_alike h
  obtain ⟨closing, rest', rfl, hclosing, h⟩ := exists_append_of_alike h
  have hopening' := eq_of_alike hopening (by simp [Text.isBlank])
  have hname' := eq_of_alike hname fun c hc => Token.isBlank_of_isNameChar (hsound.name c hc)
  have hclosing' := eq_of_alike hclosing (by simp [Text.isBlank])
  refine ⟨⟨before, t.name, after⟩, rest', Token.read?_eq_some_iff.mpr ⟨?_, ?_⟩, rfl, h⟩
  · exact ⟨isBlank_of_alike hbefore hsound.before, hsound.name, hsound.named,
      isBlank_of_alike hafter hsound.after⟩
  · rw [← hopening', ← hname', ← hclosing']
    simp [Token.chars]

lemma read?_eq_none_of_alike (h : Forall₂ Alike cs ds) (hread : Token.read? cs = none) :
    Token.read? ds = none := by
  cases hds : Token.read? ds with
  | none => rfl
  | some found =>
    have hflip : Forall₂ Alike ds cs := h.flip.imp fun _ _ => Alike.symm
    obtain ⟨u, rest, hu, -⟩ := read?_alike hflip hds
    rw [hread] at hu
    cases hu

lemma tokenNames_alike (h : Forall₂ Alike cs ds) : tokenNames cs = tokenNames ds := by
  fun_induction cut cs generalizing ds with
  | case1 cs t rest hread _ ih =>
    obtain ⟨u, rest', hu, hname, hrest⟩ := read?_alike h hread
    rw [tokenNames_token hread, tokenNames_token hu, hname, ih hrest]
  | case2 hread =>
    rw [List.forall₂_nil_left_iff.mp h]
  | case3 c rest hread ih =>
    obtain ⟨d, rest', hd, hrest, rfl⟩ := List.forall₂_cons_left_iff.mp h
    rw [tokenNames_char hread, tokenNames_char (read?_eq_none_of_alike h hread), ih hrest]

end Alike

section Ends

lemma trimStart_append (cs : List Char) : ∃ bs, (∀ c ∈ bs, Text.isBlank c = true) ∧
    cs = bs ++ Text.trimStart cs :=
  ⟨cs.takeWhile Text.isBlank, List.all_eq_true.mp List.all_takeWhile,
    List.takeWhile_append_dropWhile.symm⟩

lemma trimEnd_append (cs : List Char) : ∃ bs, (∀ c ∈ bs, Text.isBlank c = true) ∧
    cs = Text.trimEnd cs ++ bs := by
  obtain ⟨bs, hbs, hcs⟩ := trimStart_append cs.reverse
  refine ⟨bs.reverse, ?_, ?_⟩
  · intro c hc
    exact hbs c (List.mem_reverse.mp hc)
  · rw [Text.trimEnd, ← List.reverse_append, ← Text.trimStart, ← hcs, List.reverse_reverse]

lemma exists_trim (cs : List Char) : ∃ front back, (∀ c ∈ front, Text.isBlank c = true) ∧
    (∀ c ∈ back, Text.isBlank c = true) ∧ cs = front ++ (Text.trim cs ++ back) := by
  obtain ⟨front, hfront, hcs⟩ := trimStart_append cs
  obtain ⟨back, hback, hstart⟩ := trimEnd_append (Text.trimStart cs)
  refine ⟨front, back, hfront, hback, ?_⟩
  rw [Text.trim, ← hstart, ← hcs]

lemma not_mem_of_isBlank {bs : List Char} (hbs : ∀ c ∈ bs, Text.isBlank c = true) {d : Char}
    (hd : Text.isBlank d = false) : d ∉ bs := by
  intro hmem
  rw [hbs d hmem] at hd
  cases hd

/-- Blank characters at the ends of a text are in no token. -/
lemma isCutOf_surrounded {front back : List Char} (hfront : ∀ c ∈ front, Text.isBlank c = true)
    (hback : ∀ c ∈ back, Text.isBlank c = true) (cs : List Char) :
    IsCutOf (.literal front :: (cut cs ++ [.literal back])) (front ++ (cs ++ back)) :=
  ((isCutOf_cut cs).append_literal (not_mem_of_isBlank hback (by decide))).cons_literal
    (not_mem_of_isBlank hfront (by decide))

lemma tokenNames_trim (cs : List Char) : tokenNames (Text.trim cs) = tokenNames cs := by
  obtain ⟨front, back, hfront, hback, hcs⟩ := exists_trim cs
  have hcut := isCutOf_surrounded hfront hback (Text.trim cs)
  rw [← hcs] at hcut
  rw [hcut.tokenNames_eq, List.filterMap_cons_none rfl, List.filterMap_append,
    List.filterMap_cons_none rfl, List.filterMap_nil, List.append_nil, tokenNames]

end Ends

/-- No-break spaces made plain, and nothing else changed. -/
def plainSpace (c : Char) : Char :=
  if c == '\u00A0' then ' ' else c

lemma normalizeText_eq (text : String) :
    normalizeText text = String.ofList (Text.trim (text.toList.map plainSpace)) := rfl

lemma alike_plainSpace (c : Char) : Alike c (plainSpace c) := by
  unfold plainSpace
  split
  · next h =>
    rw [beq_iff_eq.mp h]
    exact .inr ⟨by decide, by decide⟩
  · exact .inl rfl

/-- The names of a text are those of its normal form. -/
theorem placeholders_normalizeText (text : String) :
    placeholders (normalizeText text) = placeholders text := by
  have halike : Forall₂ Alike text.toList (text.toList.map plainSpace) := by
    rw [List.forall₂_map_right_iff, List.forall₂_same]
    exact fun c _ => alike_plainSpace c
  rw [placeholders_eq, normalizeText_eq, String.toList_ofList, tokenNames_trim,
    ← tokenNames_alike halike, placeholders_eq]

lemma trim_append_blank {bs : List Char} (hbs : ∀ c ∈ bs, Text.isBlank c = true)
    (cs : List Char) : Text.trim (cs ++ bs) = Text.trim cs := by
  have hback (ds : List Char) : Text.trimEnd (ds ++ bs) = Text.trimEnd ds := by
    rw [Text.trimEnd, List.reverse_append,
      List.dropWhile_append_of_pos fun c hc => hbs c (List.mem_reverse.mp hc), ← Text.trimEnd]
  have hblank : bs.dropWhile Text.isBlank = [] := by
    rw [← List.append_nil bs, List.dropWhile_append_of_pos hbs, List.dropWhile_nil]
  rw [Text.trim, Text.trimStart, List.dropWhile_append]
  split
  · next h => rw [hblank, Text.trim, Text.trimStart, List.isEmpty_iff.mp h]
  · rw [hback]
    rfl

/-- Line ends behind a text are no part of its normal form. -/
theorem normalizeText_append_lineEnds (text : String) :
    normalizeText (text ++ "\n\n") = normalizeText text := by
  have hends : "\n\n".toList.map plainSpace = ['\n', '\n'] := by decide
  rw [normalizeText_eq, String.toList_append, List.map_append, hends,
    trim_append_blank (by simp [Text.isBlank]), normalizeText_eq]

end MailMerge
