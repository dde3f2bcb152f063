import MailMerge.Layout
import MailMerge.Proofs.TextCuts

/-!
# Filling a template

However a text is cut into the tokens that stand in it and the texts between them, filling a record
in puts the record's values in place of the tokens it has values for and leaves everything else as
it is (`fill_replaces_tokens_at_once`).
-/

namespace MailMerge

namespace Part

/-- What a record puts in place of a part: the value of a token's name, or else the part itself. -/
def filled (r : Record) : Part → List Char
  | literal cs => cs
  | token t =>
    match r.get? (String.ofList t.name) with
    | some value => value.toList
    | none => t.chars

lemma filled_of_get?_eq_none {r : Record} {p : Part}
    (h : ∀ name ∈ p.name?, r.get? name = none) : p.filled r = p.chars := by
  cases p with
  | literal cs => rfl
  | token t => rw [filled, h _ rfl, chars]

lemma filled_congr {r r' : Record} {p : Part}
    (h : ∀ name ∈ p.name?, r.get? name = r'.get? name) : p.filled r = p.filled r' := by
  cases p with
  | literal cs => rfl
  | token t => rw [filled, filled, h _ rfl]

end Part

namespace Segment

lemma filled_eq (r : Record) (p : Part) (start : Nat) :
    Segment.filled r ⟨p.name?, p.chars, start⟩ = p.filled r := by
  cases p <;> rfl

lemma flatMap_filled_place (r : Record) (start : Nat) (parts : List Part) :
    (place start parts).flatMap (Segment.filled r) = parts.flatMap (Part.filled r) := by
  induction parts generalizing start with
  | nil => rfl
  | cons p parts ih => rw [place, List.flatMap_cons, List.flatMap_cons, ih, filled_eq]

end Segment

lemma toList_fill (text : String) (r : Record) :
    (fill text r).toList = (cut text.toList).flatMap (Part.filled r) := by
  rw [fill, Layout.fill, String.toList_ofList]
  exact Segment.flatMap_filled_place r 0 _

lemma IsCutOf.toList_fill {text : String} {parts : List Part} (h : IsCutOf parts text.toList)
    (r : Record) : (fill text r).toList = parts.flatMap (Part.filled r) := by
  rw [MailMerge.toList_fill, h.flatMap_cut fun _ => rfl]

lemma mem_placeholders_of_mem_cut {text : String} {p : Part} (hp : p ∈ cut text.toList)
    {name : String} (hname : name ∈ p.name?) : name ∈ placeholders text :=
  List.mem_filterMap.mpr ⟨p, hp, hname⟩

lemma fill_eq_self {text : String} {r : Record}
    (h : ∀ name ∈ placeholders text, r.contains name = false) : fill text r = text := by
  rw [← String.toList_inj, toList_fill]
  calc (cut text.toList).flatMap (Part.filled r) = (cut text.toList).flatMap Part.chars := by
        refine List.flatMap_congr fun p hp => Part.filled_of_get?_eq_none fun name hname => ?_
        have hmissing := h name (mem_placeholders_of_mem_cut hp hname)
        rwa [Record.contains, Option.isSome_eq_false_iff, Option.isNone_iff_eq_none] at hmissing
    _ = text.toList := flatMap_chars_cut _

lemma fill_congr {text : String} {r r' : Record}
    (h : ∀ name ∈ placeholders text, r.get? name = r'.get? name) : fill text r = fill text r' := by
  rw [← String.toList_inj, toList_fill, toList_fill]
  exact List.flatMap_congr fun p hp => Part.filled_congr fun name hname =>
    h name (mem_placeholders_of_mem_cut hp hname)

/-- A text can be cut at all tokens that stand in it, and filling a record in joins the parts again
with the record's values in place of the tokens it has values for. So a record without any of the
names changes nothing, and records that agree on the names give the same text. -/
theorem fill_replaces_tokens_at_once (text : String) (r : Record) :
    (∃ parts, IsCutOf parts text.toList) ∧
    (∀ parts, IsCutOf parts text.toList →
      (fill text r).toList = parts.flatMap (Part.filled r)) ∧
    ((∀ name ∈ placeholders text, r.contains name = false) → fill text r = text) ∧
    (∀ r' : Record, (∀ name ∈ placeholders text, r.get? name = r'.get? name) →
      fill text r = fill text r') :=
  ⟨⟨_, isCutOf_cut text.toList⟩, fun _ h => h.toList_fill r, fill_eq_self, fun _ => fill_congr⟩

/-- Two adjacent tokens behind a character of two bytes. -/
def adjacentTokens : String :=
  "é\x7b\x7b a\t\x7d\x7d\x7b\x7bb\x7d\x7d"

theorem fill_replaces_tokens_at_once_adjacentTokens :
    IsCutOf [.literal ['é'], .token ⟨[' '], ['a'], ['\t']⟩, .token ⟨[], ['b'], []⟩]
      adjacentTokens.toList ∧
    (fill adjacentTokens (.ofList [("b", "\x7b\x7ba\x7d\x7d")])).toList =
      "é\x7b\x7b a\t\x7d\x7d\x7b\x7ba\x7d\x7d".toList ∧
    fill adjacentTokens (.ofList [("A", "1")]) = adjacentTokens ∧
    fill adjacentTokens (.ofList [("b", "2")]) =
      fill adjacentTokens (.ofList [("A", "1"), ("b", "2")]) := by
  have hcut : cut adjacentTokens.toList =
      [.literal ['é'], .token ⟨[' '], ['a'], ['\t']⟩, .token ⟨[], ['b'], []⟩] := by
    decide +kernel
  have hparts := isCutOf_cut adjacentTokens.toList
  rw [hcut] at hparts
  have hfill := (fill_replaces_tokens_at_once adjacentTokens
    (.ofList [("b", "\x7b\x7ba\x7d\x7d")])).2.1 _ hparts
  exact ⟨hparts, hfill.trans (by decide +kernel),
    (fill_replaces_tokens_at_once adjacentTokens _).2.2.1 (by decide +kernel),
    (fill_replaces_tokens_at_once adjacentTokens _).2.2.2 _ (by decide +kernel)⟩

end MailMerge
