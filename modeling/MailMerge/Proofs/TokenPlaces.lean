import MailMerge.Proofs.TokenReading

/-!
# Where tokens stand

A token stands at a place of a text if its characters are found there, whatever is around it. Its
opening braces are the only ones in it, so two tokens that stand in a text never overlap, and
reading the text from the left, past every token that is found, finds all of them
(`placeholders_are_all_occurrences`).
-/

namespace MailMerge

namespace Token

lemma ne_brace_of_isNameChar {c : Char} (h : isNameChar c = true) : c ≠ '\x7b' := by
  rintro rfl
  exact absurd h (by decide)

lemma ne_brace_of_isBlank {c : Char} (h : Text.isBlank c = true) : c ≠ '\x7b' := by
  rintro rfl
  exact absurd h (by decide)

lemma chars_eq (t : Token) :
    t.chars = '\x7b' :: '\x7b' :: (t.before ++ (t.name ++ (t.after ++ ['\x7d', '\x7d']))) := by
  simp [chars]

lemma getLast?_chars (t : Token) : t.chars.getLast? = some '\x7d' := by
  have hchars : t.chars = '\x7b' :: '\x7b' :: (t.before ++ t.name ++ t.after ++ ['\x7d']) ++
      ['\x7d'] := by
    simp [chars]
  rw [hchars, List.getLast?_concat]

/-- A token has opening braces at its first two places only. -/
lemma lt_two_of_getElem? {t : Token} (h : t.IsSound) {i : Nat} (hi : t.chars[i]? = some '\x7b') :
    i < 2 := by
  match i with
  | 0 | 1 => decide
  | i + 2 =>
    rw [chars_eq, List.getElem?_cons_succ, List.getElem?_cons_succ] at hi
    have hmem := List.mem_of_getElem? hi
    simp only [List.mem_append, List.mem_cons, List.not_mem_nil, or_false] at hmem
    rcases hmem with hmem | hmem | hmem | hmem | hmem
    · exact absurd rfl (ne_brace_of_isBlank (h.before _ hmem))
    · exact absurd rfl (ne_brace_of_isNameChar (h.name _ hmem))
    · exact absurd rfl (ne_brace_of_isBlank (h.after _ hmem))
    · exact absurd hmem (by decide)
    · exact absurd hmem (by decide)

lemma two_lt_length (t : Token) : 2 < t.chars.length := by
  rw [chars_eq]
  simp only [List.length_cons, List.length_append]
  omega

end Token

/-- A token and the number of characters in front of it. -/
structure Occurrence where
  start : Nat
  token : Token
  deriving DecidableEq, Repr

namespace Occurrence

def name (o : Occurrence) : String :=
  String.ofList o.token.name

/-- The number of characters up to the end of the token. -/
def stop (o : Occurrence) : Nat :=
  o.start + o.token.chars.length

/-- The character behind the first `i` belongs to the token. -/
def Covers (o : Occurrence) (i : Nat) : Prop :=
  o.start ≤ i ∧ i < o.stop

/-- The token is well formed, and the text has its characters at its place. -/
def StandsIn (o : Occurrence) (cs : List Char) : Prop :=
  o.token.IsSound ∧ ∃ front rest, front.length = o.start ∧ cs = front ++ (o.token.chars ++ rest)

/-- The token with `n` more characters in front of it. -/
def shift (n : Nat) (o : Occurrence) : Occurrence :=
  ⟨n + o.start, o.token⟩

@[simp] lemma shift_start (n : Nat) (o : Occurrence) : (o.shift n).start = n + o.start := rfl

@[simp] lemma shift_token (n : Nat) (o : Occurrence) : (o.shift n).token = o.token := rfl

@[simp] lemma shift_stop (n : Nat) (o : Occurrence) : (o.shift n).stop = n + o.stop := by
  simp [stop, Nat.add_assoc]

lemma covers_shift_iff {n i : Nat} {o : Occurrence} :
    (o.shift n).Covers (n + i) ↔ o.Covers i := by
  rw [Covers, Covers, shift_start, shift_stop, Nat.add_le_add_iff_left, Nat.add_lt_add_iff_left]

lemma shift_injective (n : Nat) : Function.Injective (shift n) := by
  rintro ⟨i, t⟩ ⟨j, u⟩ h
  simp only [shift, Occurrence.mk.injEq, Nat.add_left_cancel_iff] at h ⊢
  exact h

lemma shift_shift (m n : Nat) (o : Occurrence) : (o.shift n).shift m = o.shift (m + n) := by
  simp [shift, Nat.add_assoc]

lemma start_lt_stop (o : Occurrence) : o.start < o.stop := by
  have := o.token.two_lt_length
  rw [stop]
  omega

lemma exists_shift {n : Nat} {o : Occurrence} (h : n ≤ o.start) : ∃ o', Occurrence.shift n o' = o :=
  ⟨⟨o.start - n, o.token⟩, by simp [shift, Nat.add_sub_cancel' h]⟩

lemma standsIn_iff {o : Occurrence} {cs : List Char} :
    o.StandsIn cs ↔ ∃ rest, Token.read? (cs.drop o.start) = some (o.token, rest) := by
  constructor
  · rintro ⟨hsound, front, rest, hfront, rfl⟩
    refine ⟨rest, ?_⟩
    rw [← hfront, List.drop_left]
    exact Token.read?_chars hsound rest
  · rintro ⟨rest, hread⟩
    obtain ⟨hsound, hdrop⟩ := Token.read?_eq_some_iff.mp hread
    refine ⟨hsound, cs.take o.start, rest, ?_, ?_⟩
    · have hlength := congrArg List.length hdrop
      have hlong := o.token.two_lt_length
      rw [List.length_drop, List.length_append] at hlength
      rw [List.length_take]
      omega
    · rw [← hdrop, List.take_append_drop]

instance (o : Occurrence) (cs : List Char) : Decidable (o.StandsIn cs) :=
  decidable_of_iff ((Token.read? (cs.drop o.start)).map Prod.fst = some o.token) <| by
    rw [standsIn_iff, Option.map_eq_some_iff]
    constructor
    · rintro ⟨⟨t, rest⟩, hread, rfl⟩
      exact ⟨rest, hread⟩
    · rintro ⟨rest, hread⟩
      exact ⟨(o.token, rest), hread, rfl⟩

lemma StandsIn.stop_le {o : Occurrence} {cs : List Char} (h : o.StandsIn cs) :
    o.stop ≤ cs.length := by
  obtain ⟨-, front, rest, hfront, rfl⟩ := h
  simp only [stop, List.length_append]
  omega

lemma StandsIn.append {o : Occurrence} {cs : List Char} (h : o.StandsIn cs) (rest : List Char) :
    o.StandsIn (cs ++ rest) := by
  obtain ⟨hsound, front, back, hfront, rfl⟩ := h
  exact ⟨hsound, front, back ++ rest, hfront, by simp⟩

lemma standsIn_append_iff {front cs : List Char} {o : Occurrence} :
    (o.shift front.length).StandsIn (front ++ cs) ↔ o.StandsIn cs := by
  rw [standsIn_iff, standsIn_iff, shift_start, shift_token, ← List.drop_drop, List.drop_left]

lemma standsIn_cons_iff {c : Char} {cs : List Char} {o : Occurrence} :
    (o.shift 1).StandsIn (c :: cs) ↔ o.StandsIn cs := by
  rw [standsIn_iff, standsIn_iff, shift_start, shift_token, Nat.add_comm, List.drop_succ_cons]

lemma StandsIn.getElem?_eq {o : Occurrence} {cs : List Char} (h : o.StandsIn cs) {i : Nat}
    (hi : i < o.token.chars.length) : cs[o.start + i]? = o.token.chars[i]? := by
  obtain ⟨-, front, rest, hfront, rfl⟩ := h
  rw [← hfront, List.getElem?_append_right (Nat.le_add_right _ _), Nat.add_sub_cancel_left,
    List.getElem?_append_left hi]

/-- Of two tokens in a text, the one that begins first ends before the other begins: otherwise the
braces of the other one would stand inside the first. -/
lemma stop_le_start {cs : List Char} {a b : Occurrence} (ha : a.StandsIn cs) (hb : b.StandsIn cs)
    (h : a.start < b.start) : a.stop ≤ b.start := by
  apply Nat.le_of_not_lt
  intro hoverlap
  rw [stop] at hoverlap
  have hlonga := a.token.two_lt_length
  have hlongb := b.token.two_lt_length
  obtain ⟨k, hk⟩ : ∃ k, b.start = a.start + k := ⟨b.start - a.start, by omega⟩
  have hfirst : a.token.chars[k]? = some '\x7b' := by
    rw [← ha.getElem?_eq (by omega), ← hk, ← Nat.add_zero b.start, hb.getElem?_eq (by omega),
      Token.chars_eq]
    rfl
  have hplace := Token.lt_two_of_getElem? ha.1 hfirst
  -- `k` is 1 by now, but the second token's second brace would be the first one's third character.
  have hsecond : a.token.chars[k + 1]? = some '\x7b' := by
    rw [← ha.getElem?_eq (by omega), ← Nat.add_assoc, ← hk, hb.getElem?_eq (by omega),
      Token.chars_eq]
    rfl
  have hplace' := Token.lt_two_of_getElem? ha.1 hsecond
  omega

lemma eq_of_start_eq {cs : List Char} {a b : Occurrence} (ha : a.StandsIn cs) (hb : b.StandsIn cs)
    (h : a.start = b.start) : a = b := by
  obtain ⟨resta, hresta⟩ := standsIn_iff.mp ha
  obtain ⟨restb, hrestb⟩ := standsIn_iff.mp hb
  rw [h, hrestb] at hresta
  obtain ⟨i, t⟩ := a
  obtain ⟨j, u⟩ := b
  cases hresta
  cases h
  rfl

lemma disjoint_of_ne {cs : List Char} {a b : Occurrence} (ha : a.StandsIn cs) (hb : b.StandsIn cs)
    (h : a ≠ b) : a.stop ≤ b.start ∨ b.stop ≤ a.start := by
  rcases Nat.lt_trichotomy a.start b.start with hlt | heq | hgt
  · exact .inl (stop_le_start ha hb hlt)
  · exact absurd (eq_of_start_eq ha hb heq) h
  · exact .inr (stop_le_start hb ha hgt)

lemma not_standsIn_nil (o : Occurrence) : ¬o.StandsIn [] := by
  intro h
  have := h.stop_le
  have := o.start_lt_stop
  rw [List.length_nil] at *
  omega

lemma standsIn_token_iff {cs : List Char} {t : Token} {rest : List Char}
    (h : Token.read? cs = some (t, rest)) {o : Occurrence} :
    o.StandsIn cs ↔
      o = ⟨0, t⟩ ∨ ∃ o' : Occurrence, o'.StandsIn rest ∧ o'.shift t.chars.length = o := by
  have hfirst : Occurrence.StandsIn ⟨0, t⟩ cs := standsIn_iff.mpr ⟨rest, h⟩
  have hcs := Token.eq_append_of_read? h
  constructor
  · intro ho
    by_cases hzero : o = ⟨0, t⟩
    · exact .inl hzero
    · right
      have hbehind : t.chars.length ≤ o.start := by
        rcases disjoint_of_ne ho hfirst hzero with hstop | hstop
        · exact absurd (Nat.le_zero.mp hstop) (Nat.ne_zero_of_lt o.start_lt_stop)
        · rwa [stop, Nat.zero_add] at hstop
      obtain ⟨o', rfl⟩ := exists_shift hbehind
      rw [hcs, standsIn_append_iff] at ho
      exact ⟨o', ho, rfl⟩
  · rintro (rfl | ⟨o', ho', rfl⟩)
    · exact hfirst
    · rw [hcs]
      exact standsIn_append_iff.mpr ho'

lemma standsIn_char_iff {c : Char} {cs : List Char} (h : Token.read? (c :: cs) = none)
    {o : Occurrence} :
    o.StandsIn (c :: cs) ↔ ∃ o' : Occurrence, o'.StandsIn cs ∧ o'.shift 1 = o := by
  constructor
  · intro ho
    have hpos : 1 ≤ o.start := by
      rw [Nat.one_le_iff_ne_zero]
      intro hzero
      obtain ⟨rest, hread⟩ := standsIn_iff.mp ho
      rw [hzero, List.drop_zero, h] at hread
      cases hread
    obtain ⟨o', rfl⟩ := exists_shift hpos
    exact ⟨o', standsIn_cons_iff.mp ho, rfl⟩
  · rintro ⟨o', ho', rfl⟩
    exact standsIn_cons_iff.mpr ho'

lemma standsIn_literal_iff {front cs : List Char} (h : '\x7b' ∉ front) {o : Occurrence} :
    o.StandsIn (front ++ cs) ↔ ∃ o' : Occurrence, o'.StandsIn cs ∧ o'.shift front.length = o := by
  induction front generalizing o with
  | nil => simp [shift]
  | cons c front ih =>
    obtain ⟨hc, hfront⟩ := not_or.mp (mt List.mem_cons.mpr h)
    rw [List.cons_append, standsIn_char_iff (Token.read?_of_ne_brace (Ne.symm hc) _)]
    constructor
    · rintro ⟨o', ho', rfl⟩
      obtain ⟨o'', ho'', rfl⟩ := (ih hfront).mp ho'
      refine ⟨o'', ho'', ?_⟩
      rw [shift_shift, List.length_cons, Nat.add_comm]
    · rintro ⟨o', ho', rfl⟩
      refine ⟨o'.shift front.length, (ih hfront).mpr ⟨o', ho', rfl⟩, ?_⟩
      rw [shift_shift, List.length_cons, Nat.add_comm]

lemma standsIn_append_literal_iff {cs back : List Char} (h : '\x7d' ∉ back) {o : Occurrence} :
    o.StandsIn (cs ++ back) ↔ o.StandsIn cs := by
  constructor
  · rintro ⟨hsound, front, rest, hfront, hcs⟩
    rw [← List.append_assoc] at hcs
    rcases List.append_eq_append_iff.mp hcs with ⟨last, hends, rfl⟩ | ⟨between, rfl, -⟩
    · rcases List.eq_nil_or_concat last with rfl | ⟨last, c, rfl⟩
      · rw [List.append_nil] at hends
        exact ⟨hsound, front, [], hfront, by rw [List.append_nil, hends]⟩
      · -- The token would end with the last character of this part of `back`.
        have hlast := congrArg List.getLast? hends
        rw [List.getLast?_append, Token.getLast?_chars, List.concat_eq_append, ← List.append_assoc,
          List.getLast?_concat] at hlast
        cases hlast
        exact absurd (by simp) h
    · exact ⟨hsound, front, between, hfront, List.append_assoc _ _ _⟩
  · exact fun ho => ho.append back

end Occurrence

namespace Part

/-- The tokens among the parts of a text, with their places. -/
def occurrences : List Part → List Occurrence
  | [] => []
  | literal cs :: parts => (occurrences parts).map (Occurrence.shift cs.length)
  | token t :: parts => ⟨0, t⟩ :: (occurrences parts).map (Occurrence.shift t.chars.length)

lemma occurrences_extendLiteral (c : Char) (parts : List Part) :
    occurrences (extendLiteral c parts) = (occurrences parts).map (Occurrence.shift 1) := by
  match parts with
  | [] => rfl
  | literal cs :: parts =>
    simp only [extendLiteral, occurrences, List.map_map, List.length_cons]
    congr 1
    funext o
    simp [Occurrence.shift_shift, Nat.add_comm]
  | token t :: parts => rfl

lemma occurrences_append_literal (parts : List Part) (back : List Char) :
    occurrences (parts ++ [literal back]) = occurrences parts := by
  induction parts with
  | nil => rfl
  | cons p parts ih => cases p <;> rw [List.cons_append, occurrences, ih, occurrences]

lemma filterMap_name?_eq (parts : List Part) :
    parts.filterMap name? = (occurrences parts).map Occurrence.name := by
  induction parts with
  | nil => rfl
  | cons p parts ih =>
    have hshift (n : Nat) : Occurrence.name ∘ Occurrence.shift n = Occurrence.name := rfl
    cases p with
    | literal cs =>
      have hname : (literal cs).name? = none := rfl
      rw [List.filterMap_cons_none hname, occurrences, List.map_map, hshift, ih]
    | token t =>
      have hname : (token t).name? = some (Occurrence.mk 0 t).name := rfl
      rw [List.filterMap_cons_some hname, occurrences, List.map_cons, List.map_map, hshift, ih]

lemma pairwise_occurrences (parts : List Part) :
    (occurrences parts).Pairwise fun a b => a.stop ≤ b.start := by
  have hshift (n : Nat) {os : List Occurrence} (h : os.Pairwise fun a b => a.stop ≤ b.start) :
      (os.map (Occurrence.shift n)).Pairwise fun a b => a.stop ≤ b.start := by
    rw [List.pairwise_map]
    refine h.imp fun {a b} hab => ?_
    rw [Occurrence.shift_stop, Occurrence.shift_start]
    omega
  induction parts with
  | nil => exact List.Pairwise.nil
  | cons p parts ih =>
    cases p with
    | literal cs => exact hshift _ ih
    | token t =>
      refine List.Pairwise.cons (fun o ho => ?_) (hshift _ ih)
      obtain ⟨o', -, rfl⟩ := List.mem_map.mp ho
      simp [Occurrence.stop]

end Part

/-- The tokens that a text is cut at are those that stand in it. -/
lemma mem_occurrences_cut {cs : List Char} {o : Occurrence} :
    o ∈ Part.occurrences (cut cs) ↔ o.StandsIn cs := by
  fun_induction cut cs generalizing o with
  | case1 cs t rest hread _ ih =>
    rw [Occurrence.standsIn_token_iff hread]
    simp [Part.occurrences, ih]
  | case2 => simp [Part.occurrences, Occurrence.not_standsIn_nil]
  | case3 c rest hread ih =>
    rw [Occurrence.standsIn_char_iff hread, Part.occurrences_extendLiteral]
    simp [ih]

lemma mem_placeholders_iff {name : String} {text : String} :
    name ∈ placeholders text ↔
      ∃ t : Token, t.IsSound ∧ String.ofList t.name = name ∧ t.chars <:+: text.toList := by
  rw [placeholders, Part.filterMap_name?_eq, List.mem_map]
  constructor
  · rintro ⟨o, ho, hname⟩
    obtain ⟨hsound, front, rest, -, htext⟩ := mem_occurrences_cut.mp ho
    exact ⟨o.token, hsound, hname, front, rest, by rw [htext, List.append_assoc]⟩
  · rintro ⟨t, hsound, hname, front, rest, htext⟩
    refine ⟨⟨front.length, t⟩, mem_occurrences_cut.mpr ⟨hsound, front, rest, rfl, ?_⟩, hname⟩
    rw [← htext, List.append_assoc]

/-- Tokens that stand in a text do not overlap, and the placeholders of the text are the names of
all of them, each once and from the left. -/
theorem placeholders_are_all_occurrences (text : String) :
    (∀ a b : Occurrence, a.StandsIn text.toList → b.StandsIn text.toList → a ≠ b →
      a.stop ≤ b.start ∨ b.stop ≤ a.start) ∧
    ∃ occurrences : List Occurrence,
      (∀ o, o ∈ occurrences ↔ o.StandsIn text.toList) ∧
      occurrences.Pairwise (fun a b => a.stop ≤ b.start) ∧
      placeholders text = occurrences.map Occurrence.name := by
  refine ⟨fun a b ha hb h => Occurrence.disjoint_of_ne ha hb h, Part.occurrences (cut text.toList),
    fun o => mem_occurrences_cut, Part.pairwise_occurrences _, ?_⟩
  rw [placeholders]
  exact Part.filterMap_name?_eq _

/-- Two tokens after openings that lead to none. -/
def falseStarts : String :=
  "\x7b\x7b \x7b\x7bx\x7d\x7d\x7b\x7b\x7by \x7d\x7d\x7d"

theorem placeholders_are_all_occurrences_falseStarts :
    Occurrence.StandsIn ⟨3, [], ['x'], []⟩ falseStarts.toList ∧
    Occurrence.StandsIn ⟨9, [], ['y'], [' ']⟩ falseStarts.toList ∧
    (Occurrence.stop ⟨3, [], ['x'], []⟩ ≤ 9 ∨ Occurrence.stop ⟨9, [], ['y'], [' ']⟩ ≤ 3) ∧
    ∃ occurrences : List Occurrence,
      (∀ o, o ∈ occurrences ↔ o.StandsIn falseStarts.toList) ∧
      occurrences.Pairwise (fun a b => a.stop ≤ b.start) ∧
      ["x", "y"] = occurrences.map Occurrence.name := by
  have hx : Occurrence.StandsIn ⟨3, [], ['x'], []⟩ falseStarts.toList := by decide +kernel
  have hy : Occurrence.StandsIn ⟨9, [], ['y'], [' ']⟩ falseStarts.toList := by decide +kernel
  have hnames : placeholders falseStarts = ["x", "y"] := by decide +kernel
  obtain ⟨hdisjoint, hall⟩ := placeholders_are_all_occurrences falseStarts
  rw [hnames] at hall
  exact ⟨hx, hy, hdisjoint _ _ hx hy (by decide), hall⟩

end MailMerge
