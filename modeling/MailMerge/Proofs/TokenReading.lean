import MailMerge.Token
import Mathlib.Tactic.Lemma

/-!
# Reading tokens

A token is read exactly where the characters of a sound token stand (`read?_eq_some_iff`), and the
names in a text are those of the tokens that are read in it from the left.
-/

namespace MailMerge

namespace Token

/-- The parts of a token are what they are read as. -/
structure IsSound (t : Token) : Prop where
  before : ∀ c ∈ t.before, Text.isBlank c = true
  name : ∀ c ∈ t.name, isNameChar c = true
  named : t.name ≠ []
  after : ∀ c ∈ t.after, Text.isBlank c = true

lemma bounds_of_isNameChar {c : Char} (h : isNameChar c = true) :
    45 ≤ c.toNat ∧ c.toNat ≤ 122 := by
  simp only [isNameChar, Bool.or_eq_true, Bool.and_eq_true, decide_eq_true_eq, beq_iff_eq,
    Char.le_def, UInt32.le_iff_toNat_le, or_assoc] at h
  rcases h with h | h | h | rfl | rfl | rfl
  · exact ⟨Nat.le_trans (by decide) h.1, Nat.le_trans h.2 (by decide)⟩
  · exact ⟨Nat.le_trans (by decide) h.1, Nat.le_trans h.2 (by decide)⟩
  · exact ⟨Nat.le_trans (by decide) h.1, Nat.le_trans h.2 (by decide)⟩
  · decide
  · decide
  · decide

lemma bounds_of_isBlank {c : Char} (h : Text.isBlank c = true) :
    c.toNat ≤ 32 ∨ 0x85 ≤ c.toNat := by
  simp only [Text.isBlank, Bool.or_eq_true, Bool.and_eq_true, decide_eq_true_eq, beq_iff_eq] at h
  omega

lemma isBlank_of_isNameChar {c : Char} (h : isNameChar c = true) : Text.isBlank c = false := by
  have hname := bounds_of_isNameChar h
  cases hc : Text.isBlank c with
  | false => rfl
  | true =>
    have hblank := bounds_of_isBlank hc
    omega

lemma isNameChar_of_isBlank {c : Char} (h : Text.isBlank c = true) : isNameChar c = false := by
  cases hc : isNameChar c with
  | false => rfl
  | true =>
    rw [isBlank_of_isNameChar hc] at h
    cases h

lemma dropWhile_append_cons {p : Char → Bool} {front : List Char} (hfront : ∀ c ∈ front, p c = true)
    {c : Char} (hc : p c = false) (rest : List Char) :
    (front ++ c :: rest).dropWhile p = c :: rest := by
  rw [List.dropWhile_append_of_pos hfront, List.dropWhile_cons_of_neg (by simp [hc])]

lemma takeWhile_append_cons {p : Char → Bool} {front : List Char} (hfront : ∀ c ∈ front, p c = true)
    {c : Char} (hc : p c = false) (rest : List Char) :
    (front ++ c :: rest).takeWhile p = front := by
  rw [List.takeWhile_append_of_pos hfront, List.takeWhile_cons_of_neg (by simp [hc]),
    List.append_nil]

lemma cut_name {name after : List Char} (hname : ∀ c ∈ name, isNameChar c = true)
    (hafter : ∀ c ∈ after, Text.isBlank c = true) (rest : List Char) :
    (name ++ (after ++ '\x7d' :: rest)).takeWhile isNameChar = name ∧
      (name ++ (after ++ '\x7d' :: rest)).dropWhile isNameChar = after ++ '\x7d' :: rest := by
  cases after with
  | nil =>
    have hbrace : isNameChar '\x7d' = false := by decide
    exact ⟨takeWhile_append_cons hname hbrace rest, dropWhile_append_cons hname hbrace rest⟩
  | cons a after =>
    have ha := isNameChar_of_isBlank (hafter a (by simp))
    exact ⟨takeWhile_append_cons hname ha _, dropWhile_append_cons hname ha _⟩

/-- The characters of a sound token are read as that token, whatever follows them. -/
lemma read?_chars {t : Token} (h : t.IsSound) (rest : List Char) :
    read? (t.chars ++ rest) = some (t, rest) := by
  obtain ⟨before, name, after⟩ := t
  obtain ⟨c, cs, rfl⟩ : ∃ c cs, name = c :: cs := List.exists_cons_of_ne_nil h.named
  have hc : Text.isBlank c = false := isBlank_of_isNameChar (h.name c (by simp))
  have hbrace : Text.isBlank '\x7d' = false := by decide
  have hchars : Token.chars ⟨before, c :: cs, after⟩ ++ rest =
      '\x7b' :: '\x7b' :: (before ++ c :: (cs ++ (after ++ '\x7d' :: '\x7d' :: rest))) := by
    simp [chars]
  have hcut := cut_name h.name h.after ('\x7d' :: rest)
  rw [List.cons_append] at hcut
  rw [hchars, read?]
  simp only [dropWhile_append_cons h.before hc, takeWhile_append_cons h.before hc, hcut,
    dropWhile_append_cons h.after hbrace, takeWhile_append_cons h.after hbrace]

lemma isSound_of_read? {cs : List Char} {t : Token} {rest : List Char}
    (h : read? cs = some (t, rest)) : t.IsSound := by
  unfold read? at h
  split at h
  · dsimp only at h
    split at h
    · next c name rest'' hname hrest =>
      obtain ⟨rfl, rfl⟩ := Prod.mk.inj (Option.some.inj h)
      refine ⟨?_, ?_, ?_, ?_⟩
      · exact List.all_eq_true.mp List.all_takeWhile
      · exact List.all_eq_true.mp List.all_takeWhile
      · exact fun hnil => List.cons_ne_nil c name (hname.symm.trans hnil)
      · exact List.all_eq_true.mp List.all_takeWhile
    · cases h
  · cases h

/-- A token is read exactly where the characters of a sound token stand. -/
theorem read?_eq_some_iff {cs : List Char} {t : Token} {rest : List Char} :
    read? cs = some (t, rest) ↔ t.IsSound ∧ cs = t.chars ++ rest := by
  constructor
  · intro h
    exact ⟨isSound_of_read? h, eq_append_of_read? h⟩
  · rintro ⟨h, rfl⟩
    exact read?_chars h rest

lemma read?_of_ne_brace {c : Char} (hc : c ≠ '\x7b') (cs : List Char) :
    read? (c :: cs) = none := by
  cases hread : read? (c :: cs) with
  | none => rfl
  | some found =>
    have hchars := eq_append_of_read? hread
    rw [chars, List.cons_append] at hchars
    exact absurd (List.cons.inj hchars).1 hc

end Token

lemma cut_token {cs : List Char} {t : Token} {rest : List Char}
    (h : Token.read? cs = some (t, rest)) : cut cs = .token t :: cut rest := by
  rw [cut]
  split
  · next h' =>
    rw [h] at h'
    cases h'
    rfl
  · next h' =>
    rw [h] at h'
    cases h'

lemma cut_char {c : Char} {cs : List Char} (h : Token.read? (c :: cs) = none) :
    cut (c :: cs) = extendLiteral c (cut cs) := by
  rw [cut]
  split
  · next h' =>
    rw [h] at h'
    cases h'
  · rfl

/-- The names of the tokens of a text, in order. -/
def tokenNames (cs : List Char) : List String :=
  (cut cs).filterMap Part.name?

lemma placeholders_eq (text : String) : placeholders text = tokenNames text.toList := rfl

lemma tokenNames_token {cs : List Char} {t : Token} {rest : List Char}
    (h : Token.read? cs = some (t, rest)) :
    tokenNames cs = String.ofList t.name :: tokenNames rest := by
  rw [tokenNames, cut_token h]
  rfl

lemma filterMap_extendLiteral (c : Char) (parts : List Part) :
    (extendLiteral c parts).filterMap Part.name? = parts.filterMap Part.name? := by
  cases parts with
  | nil => rfl
  | cons p parts => cases p <;> rfl

lemma tokenNames_char {c : Char} {cs : List Char} (h : Token.read? (c :: cs) = none) :
    tokenNames (c :: cs) = tokenNames cs := by
  rw [tokenNames, cut_char h]
  exact filterMap_extendLiteral c (cut cs)

end MailMerge
