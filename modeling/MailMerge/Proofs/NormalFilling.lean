import MailMerge.Proofs.NormalText
import MailMerge.Proofs.TemplateFilling

/-!
# Filling normal texts

The tokens of a normal text are those of the text it is made from, with plain spaces in them, and
the blank characters that are taken off its ends are in no token. So it does not matter for the
normal form of a filled text whether the text was in normal form before
(`normalizeText_fill_normalizeText`).
-/

namespace MailMerge

section Trimming

lemma trim_surrounded {front back : List Char} (hfront : ∀ c ∈ front, Text.isBlank c = true)
    (hback : ∀ c ∈ back, Text.isBlank c = true) (cs : List Char) :
    Text.trim (front ++ (cs ++ back)) = Text.trim cs := by
  have hstart (ds : List Char) : Text.trim (front ++ ds) = Text.trim ds := by
    rw [Text.trim, Text.trimStart, List.dropWhile_append_of_pos hfront]
    rfl
  rw [hstart, trim_append_blank hback]

lemma trim_trim (cs : List Char) : Text.trim (Text.trim cs) = Text.trim cs := by
  obtain ⟨front, back, hfront, hback, hcs⟩ := exists_trim cs
  calc Text.trim (Text.trim cs) = Text.trim (front ++ (Text.trim cs ++ back)) :=
        (trim_surrounded hfront hback _).symm
    _ = Text.trim cs := by rw [← hcs]

end Trimming

section PlainSpaces

lemma plainSpace_plainSpace (c : Char) : plainSpace (plainSpace c) = plainSpace c := by
  by_cases h : (c == '\u00A0') = true
  · have hplain : plainSpace c = ' ' := if_pos h
    rw [hplain]
    decide
  · have hsame : plainSpace c = c := if_neg h
    rw [hsame, hsame]

lemma isBlank_plainSpace {c : Char} (h : Text.isBlank c = true) :
    Text.isBlank (plainSpace c) = true :=
  (alike_plainSpace c).isBlank h

lemma plainSpace_of_isBlank {c : Char} (h : Text.isBlank c = false) : plainSpace c = c :=
  ((alike_plainSpace c).eq h).symm

lemma map_plainSpace_map (cs : List Char) :
    (cs.map plainSpace).map plainSpace = cs.map plainSpace := by
  rw [List.map_map]
  exact List.map_congr_left fun c _ => plainSpace_plainSpace c

lemma map_plainSpace_of_isBlank {cs : List Char} (h : ∀ c ∈ cs, Text.isBlank c = false) :
    cs.map plainSpace = cs := by
  conv_rhs => rw [← List.map_id cs]
  exact List.map_congr_left fun c hc => plainSpace_of_isBlank (h c hc)

lemma forall_isBlank_map {cs : List Char} (h : ∀ c ∈ cs, Text.isBlank c = true) :
    ∀ c ∈ cs.map plainSpace, Text.isBlank c = true := by
  intro c hc
  obtain ⟨d, hd, rfl⟩ := List.mem_map.mp hc
  exact isBlank_plainSpace (h d hd)

/-- A normal form is its own normal form. -/
theorem normalizeText_normalizeText (text : String) :
    normalizeText (normalizeText text) = normalizeText text := by
  obtain ⟨front, back, -, -, hparts⟩ := exists_trim (text.toList.map plainSpace)
  have hplain : (Text.trim (text.toList.map plainSpace)).map plainSpace =
      Text.trim (text.toList.map plainSpace) := by
    have hall := map_plainSpace_map text.toList
    rw [hparts, List.map_append, List.map_append] at hall
    have hlengths := List.append_inj hall (by simp)
    exact (List.append_inj hlengths.2 (by simp)).1
  rw [normalizeText_eq, normalizeText_eq, String.toList_ofList, hplain, trim_trim]

end PlainSpaces

namespace Token

/-- The token with plain spaces around its name. -/
def plain (t : Token) : Token :=
  ⟨t.before.map plainSpace, t.name, t.after.map plainSpace⟩

variable {t : Token}

lemma IsSound.plain (h : t.IsSound) : t.plain.IsSound :=
  ⟨forall_isBlank_map h.before, h.name, h.named, forall_isBlank_map h.after⟩

lemma chars_plain (h : t.IsSound) : t.plain.chars = t.chars.map plainSpace := by
  have hname : t.name.map plainSpace = t.name :=
    map_plainSpace_of_isBlank fun c hc => isBlank_of_isNameChar (h.name c hc)
  have hbraces : plainSpace '\x7b' = '\x7b' ∧ plainSpace '\x7d' = '\x7d' := by decide
  simp [chars, plain, hname, hbraces]

lemma read?_map_plainSpace {cs rest : List Char} (h : read? cs = some (t, rest)) :
    read? (cs.map plainSpace) = some (t.plain, rest.map plainSpace) := by
  obtain ⟨hsound, rfl⟩ := read?_eq_some_iff.mp h
  rw [List.map_append, ← chars_plain hsound]
  exact read?_chars hsound.plain _

lemma read?_map_plainSpace_eq_none {cs : List Char} (h : read? cs = none) :
    read? (cs.map plainSpace) = none := by
  refine read?_eq_none_of_alike ?_ h
  rw [List.forall₂_map_right_iff, List.forall₂_same]
  exact fun c _ => alike_plainSpace c

end Token

section Filling

variable {r : Record} {cs rest : List Char}

/-- The characters of a filled text. -/
def filledChars (r : Record) (cs : List Char) : List Char :=
  (cut cs).flatMap (Part.filled r)

lemma filledChars_token {t : Token} (h : Token.read? cs = some (t, rest)) :
    filledChars r cs = (Part.token t).filled r ++ filledChars r rest := by
  rw [filledChars, cut_token h, List.flatMap_cons]
  rfl

lemma filledChars_char {c : Char} (h : Token.read? (c :: cs) = none) :
    filledChars r (c :: cs) = c :: filledChars r cs := by
  rw [filledChars, cut_char h, Part.flatMap_extendLiteral fun _ => rfl]
  rfl

/-- A token that is kept is kept with plain spaces, and a value does not depend on them. -/
lemma map_filled_plain {t : Token} (h : t.IsSound) (r : Record) :
    ((Part.token t.plain).filled r).map plainSpace = ((Part.token t).filled r).map plainSpace := by
  have hname : t.plain.name = t.name := rfl
  rw [Part.filled, Part.filled, hname]
  cases r.get? (String.ofList t.name) with
  | some value => rfl
  | none =>
    dsimp only
    rw [Token.chars_plain h, map_plainSpace_map]

lemma map_filledChars_map (r : Record) (cs : List Char) :
    (filledChars r (cs.map plainSpace)).map plainSpace = (filledChars r cs).map plainSpace := by
  fun_induction cut cs with
  | case1 cs t rest hread _ ih =>
    rw [filledChars_token hread, filledChars_token (Token.read?_map_plainSpace hread),
      List.map_append, List.map_append, map_filled_plain (Token.isSound_of_read? hread), ih]
  | case2 => rfl
  | case3 c rest hread ih =>
    have hmapped := Token.read?_map_plainSpace_eq_none hread
    rw [List.map_cons] at hmapped
    rw [List.map_cons, filledChars_char hread, filledChars_char hmapped, List.map_cons,
      List.map_cons, plainSpace_plainSpace, ih]

lemma filledChars_surrounded {front back : List Char}
    (hfront : ∀ c ∈ front, Text.isBlank c = true) (hback : ∀ c ∈ back, Text.isBlank c = true)
    (cs : List Char) :
    filledChars r (front ++ (cs ++ back)) = front ++ (filledChars r cs ++ back) := by
  rw [filledChars, (isCutOf_surrounded hfront hback cs).flatMap_cut fun _ => rfl]
  simp [filledChars, Part.filled]

/-- A text and its normal form are filled alike, up to normal form. -/
theorem normalizeText_fill_normalizeText (text : String) (r : Record) :
    normalizeText (fill (normalizeText text) r) = normalizeText (fill text r) := by
  obtain ⟨front, back, hfront, hback, hparts⟩ := exists_trim (text.toList.map plainSpace)
  have hfilled : (filledChars r text.toList).map plainSpace = front.map plainSpace ++
      ((filledChars r (Text.trim (text.toList.map plainSpace))).map plainSpace ++
        back.map plainSpace) := by
    rw [← map_filledChars_map]
    conv_lhs => rw [hparts]
    rw [filledChars_surrounded hfront hback, List.map_append, List.map_append]
  rw [normalizeText_eq, normalizeText_eq (fill text r), toList_fill, toList_fill, normalizeText_eq,
    String.toList_ofList, ← filledChars, ← filledChars, hfilled,
    trim_surrounded (forall_isBlank_map hfront) (forall_isBlank_map hback)]

/-- Normal forms have the names of the texts they are made from, are normal themselves, and are
filled alike. -/
theorem normalizing_is_neutral_for_tokens (text : String) (r : Record) :
    placeholders (normalizeText text) = placeholders text ∧
      normalizeText (normalizeText text) = normalizeText text ∧
      normalizeText (fill (normalizeText text) r) = normalizeText (fill text r) :=
  ⟨placeholders_normalizeText text, normalizeText_normalizeText text,
    normalizeText_fill_normalizeText text r⟩

end Filling

end MailMerge
