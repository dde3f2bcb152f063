import MailMerge.Proofs.FieldLookup
import MailMerge.Proofs.TemplateFilling

/-!
# Seams of a filled text

Filling puts the texts between the tokens and the values side by side. If every name has a value and
no value has a token in it, then none of these pieces has one, but the braces at the end of one
piece may meet those at the beginning of a later one. The tokens that come about so, across seams,
are all that a filled text has, so a name of the template may come back
(`filled_names_return_across_seams`).
-/

namespace MailMerge

section Pieces

variable {α : Type}

/-- The items begin at the end of one piece, take in all pieces up to a later one, and end at the
beginning of that one. -/
def LiesAcross (xs : List α) (pieces : List (List α)) : Prop :=
  ∃ before first middle last after opening closing,
    pieces = before ++ first :: (middle ++ last :: after) ∧
    opening ≠ [] ∧ opening <:+ first ∧ closing ≠ [] ∧ closing <+: last ∧
    xs = opening ++ (middle.flatten ++ closing)

lemma LiesAcross.cons {xs : List α} {pieces : List (List α)} (h : LiesAcross xs pieces)
    (piece : List α) : LiesAcross xs (piece :: pieces) := by
  obtain ⟨before, first, middle, last, after, opening, closing, rfl, h⟩ := h
  exact ⟨piece :: before, first, middle, last, after, opening, closing, rfl, h⟩

lemma LiesAcross.infix_flatten {xs : List α} {pieces : List (List α)} (h : LiesAcross xs pieces) :
    xs <:+: pieces.flatten := by
  obtain ⟨before, first, middle, last, after, opening, closing, rfl, -, ⟨front, rfl⟩, -,
    ⟨back, rfl⟩, rfl⟩ := h
  exact ⟨before.flatten ++ front, back ++ after.flatten, by simp⟩

/-- A beginning of the joined pieces takes in some of them and ends at the beginning of the next. -/
lemma exists_of_prefix_flatten {xs : List α} {pieces : List (List α)} (h : xs <+: pieces.flatten)
    (hxs : xs ≠ []) :
    ∃ middle last after closing, pieces = middle ++ last :: after ∧ closing ≠ [] ∧
      closing <+: last ∧ xs = middle.flatten ++ closing := by
  induction pieces generalizing xs with
  | nil => exact absurd (List.prefix_nil.mp h) hxs
  | cons piece pieces ih =>
    obtain ⟨rest, hrest⟩ := h
    rw [List.flatten_cons] at hrest
    rcases List.append_eq_append_iff.mp hrest with ⟨back, hback, -⟩ | ⟨back, rfl, hback⟩
    · exact ⟨[], piece, pieces, xs, rfl, hxs, ⟨back, hback.symm⟩, rfl⟩
    · by_cases hnil : back = []
      · refine ⟨[], piece, pieces, piece ++ back, rfl, hxs, ⟨[], ?_⟩, rfl⟩
        rw [hnil, List.append_nil, List.append_nil]
      · obtain ⟨middle, last, after, closing, rfl, hclosing, hlast, rfl⟩ :=
          ih ⟨rest, hback.symm⟩ hnil
        exact ⟨piece :: middle, last, after, closing, rfl, hclosing, hlast, by simp⟩

/-- What is in the joined pieces is in one of them or lies across seams. -/
lemma infix_flatten {xs : List α} {pieces : List (List α)} (h : xs <:+: pieces.flatten)
    (hxs : xs ≠ []) : (∃ piece ∈ pieces, xs <:+: piece) ∨ LiesAcross xs pieces := by
  induction pieces with
  | nil => exact absurd (List.infix_nil.mp h) hxs
  | cons piece pieces ih =>
    have hbehind (h : xs <:+: pieces.flatten) :
        (∃ p ∈ piece :: pieces, xs <:+: p) ∨ LiesAcross xs (piece :: pieces) := by
      rcases ih h with ⟨p, hp, hxs⟩ | hacross
      · exact .inl ⟨p, List.mem_cons_of_mem _ hp, hxs⟩
      · exact .inr (hacross.cons piece)
    rw [List.flatten_cons] at h
    rcases List.infix_append_iff.mp h with hfirst | hrest | ⟨opening, rest, rfl, hopening, hrest⟩
    · exact .inl ⟨piece, List.mem_cons_self, hfirst⟩
    · exact hbehind hrest
    · by_cases hnil : opening = []
      · rw [hnil, List.nil_append] at hbehind ⊢
        exact hbehind hrest.isInfix
      · by_cases hnil' : rest = []
        · rw [hnil', List.append_nil]
          exact .inl ⟨piece, List.mem_cons_self, hopening.isInfix⟩
        · obtain ⟨middle, last, after, closing, rfl, hclosing, hlast, rfl⟩ :=
            exists_of_prefix_flatten hrest hnil'
          exact .inr ⟨[], piece, middle, last, after, opening, closing, rfl, hnil, hopening,
            hclosing, hlast, rfl⟩

end Pieces

/-- The texts that filling puts side by side. -/
def filledPieces (text : String) (r : Record) : List (List Char) :=
  (cut text.toList).map (Part.filled r)

lemma toList_fill_eq_flatten (text : String) (r : Record) :
    (fill text r).toList = (filledPieces text r).flatten := by
  rw [toList_fill, List.flatMap_def, filledPieces]

lemma Token.chars_ne_nil (t : Token) : t.chars ≠ [] :=
  List.cons_ne_nil _ _

lemma IsCutOf.not_infix_literal {parts : List Part} {cs front : List Char} (h : IsCutOf parts cs)
    (hfront : .literal front ∈ parts) {t : Token} (ht : t.IsSound) : ¬t.chars <:+: front := by
  rintro ⟨before, after, rfl⟩
  exact h.not_standsIn_literal hfront ⟨before.length, t⟩
    ⟨ht, before, after, rfl, List.append_assoc _ _ _⟩

section Filled

variable {text : String} {r : Record} (hnames : ∀ name ∈ placeholders text, r.contains name = true)

include hnames

lemma exists_filled_eq {t : Token} (ht : .token t ∈ cut text.toList) :
    ∃ f ∈ r.fields, (Part.token t).filled r = f.2.toList := by
  have hcontains := hnames _ (mem_placeholders_of_mem_cut ht rfl)
  obtain ⟨value, hvalue⟩ := Option.isSome_iff_exists.mp hcontains
  refine ⟨(_, value), Record.get?_eq_some_iff.mp hvalue, ?_⟩
  rw [Part.filled, hvalue]

lemma not_infix_piece (hvalues : ∀ f ∈ r.fields, placeholders f.2 = []) {piece : List Char}
    (hpiece : piece ∈ filledPieces text r) {t : Token} (ht : t.IsSound) : ¬t.chars <:+: piece := by
  obtain ⟨p, hp, rfl⟩ := List.mem_map.mp hpiece
  cases p with
  | literal front => exact (isCutOf_cut _).not_infix_literal hp ht
  | token u =>
    obtain ⟨f, hf, hfilled⟩ := exists_filled_eq hnames hp
    rw [hfilled]
    intro hwithin
    have hmem := mem_placeholders_iff.mpr ⟨t, ht, rfl, hwithin⟩
    rw [hvalues f hf] at hmem
    cases hmem

lemma mem_placeholders_fill_iff (hvalues : ∀ f ∈ r.fields, placeholders f.2 = []) {name : String} :
    name ∈ placeholders (fill text r) ↔
      ∃ t : Token, t.IsSound ∧ String.ofList t.name = name ∧
        LiesAcross t.chars (filledPieces text r) := by
  rw [mem_placeholders_iff, toList_fill_eq_flatten]
  constructor
  · rintro ⟨t, ht, hname, hwithin⟩
    rcases infix_flatten hwithin t.chars_ne_nil with ⟨piece, hpiece, hin⟩ | hacross
    · exact absurd hin (not_infix_piece hnames hvalues hpiece ht)
    · exact ⟨t, ht, hname, hacross⟩
  · rintro ⟨t, ht, hname, hacross⟩
    exact ⟨t, ht, hname, hacross.infix_flatten⟩

lemma not_mem_fill {c : Char} (htext : OnlyInTokens c text.toList) (hvalues : r.Lacks c) :
    c ∉ (fill text r).toList := by
  rw [toList_fill, List.mem_flatMap]
  rintro ⟨p, hp, hc⟩
  cases p with
  | literal front => exact onlyInTokens_iff.mp htext (List.mem_flatMap.mpr ⟨_, hp, hc⟩)
  | token t =>
    obtain ⟨f, hf, hfilled⟩ := exists_filled_eq hnames hp
    rw [hfilled] at hc
    exact hvalues f hf hc

end Filled

lemma mem_chars_of_isBrace {brace : Char} (hbrace : brace = '\x7b' ∨ brace = '\x7d') (t : Token) :
    brace ∈ t.chars := by
  rw [Token.chars]
  rcases hbrace with rfl | rfl <;> simp

lemma placeholders_eq_nil_of_not_mem {text : String} {brace : Char}
    (hbrace : brace = '\x7b' ∨ brace = '\x7d') (h : brace ∉ text.toList) :
    placeholders text = [] := by
  rw [List.eq_nil_iff_forall_not_mem]
  intro name hname
  obtain ⟨t, -, -, hwithin⟩ := mem_placeholders_iff.mp hname
  exact h (hwithin.subset (mem_chars_of_isBrace hbrace t))

/-- If a record has a value for every name of a text and no value has a token in it, then the filled
text has the tokens that lie across seams, and no others. So no name of the text comes back unless a
token of this name lies across seams, and none does if one kind of brace is in no value and, in the
text, in tokens only. -/
theorem filled_names_return_across_seams (text : String) (r : Record)
    (hnames : ∀ name ∈ placeholders text, r.contains name = true)
    (hvalues : ∀ f ∈ r.fields, placeholders f.2 = []) :
    (∀ name, name ∈ placeholders (fill text r) ↔
      ∃ t : Token, t.IsSound ∧ String.ofList t.name = name ∧
        LiesAcross t.chars (filledPieces text r)) ∧
    ((∀ t : Token, t.IsSound → LiesAcross t.chars (filledPieces text r) →
        String.ofList t.name ∉ placeholders text) →
      ∀ name ∈ placeholders text, name ∉ placeholders (fill text r)) ∧
    (∀ brace, brace = '\x7b' ∨ brace = '\x7d' → OnlyInTokens brace text.toList →
      r.Lacks brace → placeholders (fill text r) = []) := by
  refine ⟨fun name => mem_placeholders_fill_iff hnames hvalues, ?_, ?_⟩
  · intro hacross name hname hfilled
    obtain ⟨t, ht, rfl, hseams⟩ := (mem_placeholders_fill_iff hnames hvalues).mp hfilled
    exact hacross t ht hseams hname
  · intro brace hbrace htext hfree
    exact placeholders_eq_nil_of_not_mem hbrace (not_mem_fill hnames htext hfree)

/-- A token with the characters of another one around it, which its own braces keep apart. -/
def splitToken : String :=
  "\x7b\x7b\x7ba\x7d\x7d\x7ba\x7d\x7d"

/-- A closing brace in front of two adjacent tokens. -/
def strayBrace : String :=
  "\x7d\x7b\x7ba\x7d\x7d\x7b\x7bb\x7d\x7d"

theorem filled_names_return_across_seams_braces :
    (∃ t : Token, t.IsSound ∧ String.ofList t.name = "a" ∧
      LiesAcross t.chars (filledPieces splitToken (.ofList [("a", "")]))) ∧
    OnlyInTokens '\x7b' strayBrace.toList ∧
    (Record.ofList [("a", "a\x7d\x7d"), ("b", "")]).Lacks '\x7b' ∧
    placeholders (fill strayBrace (.ofList [("a", "a\x7d\x7d"), ("b", "")])) = [] := by
  have hsplit := filled_names_return_across_seams splitToken (.ofList [("a", "")])
    (by decide +kernel) (by decide +kernel)
  have hstray := filled_names_return_across_seams strayBrace
    (.ofList [("a", "a\x7d\x7d"), ("b", "")]) (by decide +kernel) (by decide +kernel)
  have hback : "a" ∈ placeholders (fill splitToken (.ofList [("a", "")])) := by decide +kernel
  have htext : OnlyInTokens '\x7b' strayBrace.toList := by decide +kernel
  have hlacks : (Record.ofList [("a", "a\x7d\x7d"), ("b", "")]).Lacks '\x7b' := by
    decide +kernel
  exact ⟨(hsplit.1 "a").mp hback, htext, hlacks, hstray.2.2 '\x7b' (.inl rfl) htext hlacks⟩

/-- An empty value is enough for a name to come back. -/
theorem not_filled_names_disappear :
    ¬∀ (text : String) (r : Record),
      (∀ name ∈ placeholders text, r.contains name = true) →
      (∀ f ∈ r.fields, placeholders f.2 = []) →
      ∀ name ∈ placeholders text, name ∉ placeholders (fill text r) := by
  intro h
  have hnames : placeholders splitToken = ["a"] := by decide +kernel
  have hfilled : placeholders (fill splitToken (.ofList [("a", "")])) = ["a"] := by decide +kernel
  have hgone := h splitToken (.ofList [("a", "")])
  rw [hnames, hfilled] at hgone
  exact hgone (by decide +kernel) (by decide +kernel) "a" List.mem_cons_self List.mem_cons_self

end MailMerge
