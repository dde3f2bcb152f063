import MailMerge.Json.Printer
import Mathlib.Tactic.Lemma

/-!
# Strings in JSON texts

Whatever characters a string has, its printed form is one token, which says the string again
(`token?_quoted`), and reading goes on behind it (`tokens?_quoted`).
-/

namespace MailMerge.Json

lemma hexValue?_hexDigit {n : Nat} (h : n < 16) : hexValue? (hexDigit n) = some n := by
  have hall : ∀ m < 16, hexValue? (hexDigit m) = some m := by decide
  exact hall n h

lemma stringParts_of_plain {c : Char} (hquote : c ≠ '"') (hback : c ≠ '\\')
    (hcontrol : 32 ≤ c.toNat) (rest : List Char) :
    stringParts (c :: rest) = (stringParts rest).map fun p => (.char c :: p.1, p.2) := by
  rw [stringParts]
  · have hother : ¬((c == '\\' || decide (c.toNat < 32)) = true) := by
      simpa [hback] using hcontrol
    rw [if_neg hother]
  · simpa using hquote
  · rintro a b d e f rfl
    exact absurd rfl hback
  · rintro e f rfl
    exact absurd rfl hback

lemma joinParts_of_small {n : Nat} (h : n < 0xD800) (parts : List StringPart) :
    joinParts (.unit n :: parts) = (joinParts parts).map (Char.ofNat n :: ·) := by
  rw [joinParts.eq_def]
  exact if_pos (by simp [h])

lemma exists_part (c : Char) : ∃ part,
    (∀ rest, stringParts (escapedChar c ++ rest) =
      (stringParts rest).map fun p => (part :: p.1, p.2)) ∧
    ∀ parts, joinParts (part :: parts) = (joinParts parts).map (c :: ·) := by
  unfold escapedChar
  split
  -- A character without a short form of its own: its number is written if it is small.
  case h_8 hquote hback _ _ _ _ _ =>
    by_cases hcontrol : c.toNat < 32
    · rw [if_pos hcontrol]
      refine ⟨.unit c.toNat, fun rest => ?_, fun parts => ?_⟩
      · have hunit : unit? '0' '0' (hexDigit (c.toNat / 16)) (hexDigit (c.toNat % 16)) =
            some c.toNat := by
          rw [unit?, hexValue?_hexDigit (by omega), hexValue?_hexDigit (by omega)]
          simp [hexValue?]
          omega
        rw [List.cons_append, List.cons_append, List.cons_append, List.cons_append,
          List.cons_append, List.cons_append, List.nil_append, stringParts, hunit]
      · rw [joinParts_of_small (by omega), Char.ofNat_toNat]
    · rw [if_neg hcontrol]
      exact ⟨.char c, stringParts_of_plain hquote hback (by omega), fun _ => rfl⟩
  all_goals exact ⟨.char _, fun _ => rfl, fun _ => rfl⟩

lemma exists_parts (cs rest : List Char) : ∃ parts,
    stringParts (cs.flatMap escapedChar ++ '"' :: rest) = some (parts, rest) ∧
      joinParts parts = some cs := by
  induction cs with
  | nil => exact ⟨[], rfl, rfl⟩
  | cons c cs ih =>
    obtain ⟨parts, hparts, hjoin⟩ := ih
    obtain ⟨part, hpart, hchar⟩ := exists_part c
    refine ⟨part :: parts, ?_, by rw [hchar, hjoin]; rfl⟩
    rw [List.flatMap_cons, List.append_assoc, hpart, hparts]
    rfl

/-- A printed string is one token. -/
theorem token?_quoted (s : String) (rest : List Char) :
    token? (quoted s ++ rest) = some (.string (some s), rest) := by
  obtain ⟨parts, hparts, hjoin⟩ := exists_parts s.toList rest
  rw [quoted, List.cons_append, List.append_assoc, List.singleton_append, token?, hparts]
  simp [hjoin]

lemma tokens?_of_token {c : Char} {cs rest : List Char} {t : Token} (hspace : isSpace c = false)
    (htoken : token? (c :: cs) = some (t, rest)) (hlength : rest.length ≤ cs.length) :
    tokens? (c :: cs) = (tokens? rest).map (t :: ·) := by
  rw [tokens?, if_neg (by simp [hspace]), htoken]
  exact if_pos hlength

theorem tokens?_quoted (s : String) (rest : List Char) :
    tokens? (quoted s ++ rest) = (tokens? rest).map (.string (some s) :: ·) := by
  refine tokens?_of_token (by decide) (token?_quoted s rest) ?_
  rw [List.append_eq, List.length_append]
  exact Nat.le_add_left _ _

lemma tokens?_mark {c : Char} {t : Token} (hspace : isSpace c = false)
    (h : ∀ rest, token? (c :: rest) = some (t, rest)) (rest : List Char) :
    tokens? (c :: rest) = (tokens? rest).map (t :: ·) :=
  tokens?_of_token hspace (h rest) (Nat.le_refl _)

end MailMerge.Json
