import MailMerge.Markup.Escape
import Mathlib.Tactic.Lemma

/-!
# Escaped text

An escaped text stands for the text it was made from (`unescape?_escape`), and it has no opening
bracket, so that it is one piece of running text.
-/

namespace MailMerge.Markup

lemma unescape?_reference {g : Grammar} {c : Char} {cs after : List Char} (name : String)
    (hname : entityName? cs = some (name.toList, after))
    (hentity : entity? g name.toList = some c) :
    unescape? g ('&' :: cs) = (unescape? g after).map (c :: ·) := by
  rw [unescape?, if_pos rfl]
  split
  · next h =>
    rw [hname] at h
    cases h
  · next h =>
    rw [hname] at h
    cases h
    simp only [hentity]

lemma unescape?_cons {g : Grammar} {c : Char} (h : c ≠ '&') (cs : List Char) :
    unescape? g (c :: cs) = (unescape? g cs).map (c :: ·) := by
  rw [unescape?, if_neg h]

lemma entityName?_append {cs name after : List Char} (h : entityName? cs = some (name, after))
    (more : List Char) : entityName? (cs ++ more) = some (name, after ++ more) := by
  induction cs generalizing name with
  | nil => cases h
  | cons c cs ih =>
    rw [entityName?] at h
    rw [List.cons_append, entityName?]
    by_cases hend : c = ';'
    · rw [if_pos hend] at h ⊢
      cases h
      rfl
    · rw [if_neg hend] at h ⊢
      by_cases hand : c = '&'
      · rw [if_pos hand] at h
        cases h
      · rw [if_neg hand] at h ⊢
        obtain ⟨⟨name', after'⟩, hrest, heq⟩ := Option.map_eq_some_iff.1 h
        cases heq
        rw [ih hrest]
        rfl

lemma unescape?_append {g : Grammar} {cs text : List Char} (h : unescape? g cs = some text)
    (more : List Char) : unescape? g (cs ++ more) = (unescape? g more).map (text ++ ·) := by
  fun_induction unescape? g cs generalizing text with
  | case1 =>
    cases h
    simp
  | case2 | case3 => cases h
  | case4 rest name after hname c hentity ih =>
    obtain ⟨text', hafter, rfl⟩ := Option.map_eq_some_iff.1 h
    rw [List.cons_append, unescape?_reference (String.ofList name)
      (by rw [String.toList_ofList]; exact entityName?_append hname more)
      (by rw [String.toList_ofList]; exact hentity), ih hafter, Option.map_map]
    rfl
  | case5 c rest hand ih =>
    obtain ⟨text', hrest, rfl⟩ := Option.map_eq_some_iff.1 h
    rw [List.cons_append, unescape?_cons hand, ih hrest, Option.map_map]
    rfl

lemma unescape?_escapedChar (g : Grammar) (c : Char) (rest : List Char) :
    unescape? g (escapedChar c ++ rest) = (unescape? g rest).map (c :: ·) := by
  unfold escapedChar
  split
  · exact unescape?_reference "lt" rfl rfl
  · exact unescape?_reference "gt" rfl rfl
  · exact unescape?_reference "amp" rfl rfl
  · exact unescape?_reference "apos" rfl rfl
  · exact unescape?_reference "quot" rfl rfl
  · next hamp _ _ => exact unescape?_cons hamp rest

/-- An escaped text stands for the text it was made from. -/
theorem unescape?_escape (g : Grammar) (cs : List Char) : unescape? g (escape cs) = some cs := by
  induction cs with
  | nil => rw [escape, List.flatMap_nil, unescape?]
  | cons c cs ih =>
    rw [escape, List.flatMap_cons, unescape?_escapedChar, ← escape, ih]
    rfl

lemma escapedChar_ne_nil (c : Char) : escapedChar c ≠ [] := by
  unfold escapedChar
  split <;> simp

lemma escape_ne_nil {cs : List Char} (h : cs ≠ []) : escape cs ≠ [] := by
  cases cs with
  | nil => exact absurd rfl h
  | cons c cs =>
    rw [escape, List.flatMap_cons]
    exact List.append_ne_nil_of_left_ne_nil (escapedChar_ne_nil c) _

lemma bracket_not_mem_escapedChar (c : Char) : '<' ∉ escapedChar c := by
  unfold escapedChar
  split
  · decide
  · decide
  · decide
  · decide
  · decide
  · next hlt _ _ _ _ =>
    rw [List.mem_singleton]
    exact Ne.symm hlt

lemma bracket_not_mem_escape (cs : List Char) : '<' ∉ escape cs := by
  intro h
  obtain ⟨c, -, hc⟩ := List.mem_flatMap.mp h
  exact bracket_not_mem_escapedChar c hc

end MailMerge.Markup
