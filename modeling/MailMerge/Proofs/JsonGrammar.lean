import MailMerge.Proofs.JsonTrees

/-!
# What counts as a JSON text

A text is read as a tree exactly if it is a text of this tree (`Tree.ofText?_eq_some_iff`): besides
the spellings of its tokens nothing is accepted. Reading takes a spelled token off the front each
time, and the machine holds what it has taken so far.
-/

namespace MailMerge.Json

section Strings

lemma isHexDigit_of_hexValue? {n : Nat} {c : Char} (h : hexValue? c = some n) :
    IsHexDigit n c := by
  have hdecimal : ∀ m < 10, Char.ofNat (m + 48) = Nat.digitChar m := by decide
  have hlower : ∀ m < 16, 10 ≤ m → Char.ofNat (m + 87) = Nat.digitChar m := by decide
  have hupper : ∀ m < 16, 10 ≤ m → Char.ofNat (m + 55) = (Nat.digitChar m).toUpper := by decide
  simp only [hexValue?, Bool.and_eq_true, decide_eq_true_eq, Char.le_def,
    UInt32.le_iff_toNat_le] at h
  have hnat : c.val.toNat = c.toNat := rfl
  split at h
  · next hrange =>
    have hbounds : 48 ≤ c.toNat ∧ c.toNat ≤ 57 := hrange
    obtain rfl := Option.some.inj h
    refine ⟨by omega, .inl ?_⟩
    rw [← hdecimal _ (by omega), Nat.sub_add_cancel hbounds.1, Char.ofNat_toNat]
  · split at h
    · next hrange =>
      have hbounds : 97 ≤ c.toNat ∧ c.toNat ≤ 102 := hrange
      obtain rfl := Option.some.inj h
      refine ⟨by omega, .inl ?_⟩
      rw [← hlower _ (by omega) (by omega), Nat.sub_add_cancel (by omega), Char.ofNat_toNat]
    · split at h
      · next hrange =>
        have hbounds : 65 ≤ c.toNat ∧ c.toNat ≤ 70 := hrange
        obtain rfl := Option.some.inj h
        refine ⟨by omega, .inr ?_⟩
        rw [← hupper _ (by omega) (by omega), Nat.sub_add_cancel (by omega), Char.ofNat_toNat]
      · cases h

lemma isSpelled_of_unit? {a b c d : Char} {n : Nat} (h : unit? a b c d = some n) :
    StringPart.IsSpelled (.unit n) ['\\', 'u', a, b, c, d] := by
  simp only [unit?, Option.bind_eq_bind, Option.bind_eq_some_iff, Option.pure_def,
    Option.some.injEq] at h
  obtain ⟨i, hi, j, hj, k, hk, l, hl, rfl⟩ := h
  have hunit := StringPart.IsSpelled.unit (isHexDigit_of_hexValue? hi) (isHexDigit_of_hexValue? hj)
    (isHexDigit_of_hexValue? hk) (isHexDigit_of_hexValue? hl)
  have hnumber : ((i * 16 + j) * 16 + k) * 16 + l = i * 4096 + j * 256 + k * 16 + l := by omega
  rwa [hnumber]

lemma mem_shortEscapes {e c : Char} (h : shortEscape? e = some c) : (e, c) ∈ shortEscapes := by
  unfold shortEscape? at h
  split at h
  all_goals first
    | cases h; decide
    | cases h

lemma exists_of_stringParts {cs rest : List Char} {parts : List StringPart}
    (h : stringParts cs = some (parts, rest)) :
    ∃ texts, List.Forall₂ StringPart.IsSpelled parts texts ∧ cs = texts.flatten ++ '"' :: rest := by
  fun_induction stringParts cs generalizing parts with
  | case1 => cases h
  | case2 =>
    cases h
    exact ⟨[], .nil, rfl⟩
  | case3 => cases h
  | case4 a b c d more n hunit ih =>
    obtain ⟨⟨others, _⟩, hmore, hparts⟩ := Option.map_eq_some_iff.mp h
    obtain ⟨rfl, rfl⟩ := Prod.mk.inj hparts
    obtain ⟨texts, htexts, rfl⟩ := ih hmore
    exact ⟨_ :: texts, .cons (isSpelled_of_unit? hunit) htexts, rfl⟩
  | case5 => cases h
  | case6 e more hnot c hshort ih =>
    obtain ⟨⟨others, _⟩, hmore, hparts⟩ := Option.map_eq_some_iff.mp h
    obtain ⟨rfl, rfl⟩ := Prod.mk.inj hparts
    obtain ⟨texts, htexts, rfl⟩ := ih hmore
    exact ⟨_ :: texts, .cons (.short (mem_shortEscapes hshort)) htexts, rfl⟩
  | case7 => cases h
  | case8 c more hquote _ _ hplain ih =>
    obtain ⟨⟨others, _⟩, hmore, hparts⟩ := Option.map_eq_some_iff.mp h
    obtain ⟨rfl, rfl⟩ := Prod.mk.inj hparts
    obtain ⟨texts, htexts, rfl⟩ := ih hmore
    simp only [Bool.or_eq_true, beq_iff_eq, decide_eq_true_eq, not_or, Nat.not_lt] at hplain
    exact ⟨_ :: texts, .cons (.plain hquote hplain.1 hplain.2) htexts, rfl⟩

end Strings

section Numerals

variable {cs rest : List Char}

lemma takeWhile_append_dropWhile_digits (cs : List Char) :
    (∀ d ∈ cs.takeWhile Digits.isDigit, Digits.isDigit d = true) ∧
      cs = cs.takeWhile Digits.isDigit ++ cs.dropWhile Digits.isDigit :=
  ⟨List.all_eq_true.mp List.all_takeWhile, List.takeWhile_append_dropWhile.symm⟩

lemma isWhole_of_wholePart? {whole : List Char} (h : wholePart? cs = some (whole, rest)) :
    IsWhole whole ∧ cs = whole ++ rest := by
  obtain ⟨hdigits, hcs⟩ := takeWhile_append_dropWhile_digits cs
  unfold wholePart? at h
  dsimp only at h
  split at h
  · cases h
  · cases h
  · next hnil hzero =>
    cases h
    refine ⟨⟨hdigits, hnil, fun rest hrest => ?_⟩, hcs⟩
    cases rest with
    | nil => rfl
    | cons d more => exact absurd hrest (hzero d more)

lemma eq_of_decimals? {decimals : List Char} (h : decimals? cs = some (decimals, rest)) :
    (∀ d ∈ decimals, Digits.isDigit d = true) ∧
      cs = (if decimals = [] then [] else '.' :: decimals) ++ rest := by
  unfold decimals? at h
  split at h
  · next cs =>
    obtain ⟨hdigits, hcs⟩ := takeWhile_append_dropWhile_digits cs
    dsimp only at h
    split at h
    · cases h
    · next hsome =>
      cases h
      refine ⟨hdigits, ?_⟩
      rw [if_neg (by simpa using hsome), List.cons_append, ← hcs]
  · cases h
    exact ⟨nofun, rfl⟩

lemma eq_of_exponentDigits? {negative : Bool} {exponent : Option (Bool × List Char)}
    (h : exponentDigits? negative cs = some (exponent, rest)) :
    ∃ ds, exponent = some (negative, ds) ∧ ds ≠ [] ∧ (∀ d ∈ ds, Digits.isDigit d = true) ∧
      cs = ds ++ rest := by
  obtain ⟨hdigits, hcs⟩ := takeWhile_append_dropWhile_digits cs
  unfold exponentDigits? at h
  dsimp only at h
  split at h
  · cases h
  · next hsome =>
    cases h
    exact ⟨_, rfl, by simpa using hsome, hdigits, hcs⟩

lemma isExponent_of_exponent? {exponent : Option (Bool × List Char)}
    (h : exponent? cs = some (exponent, rest)) :
    ∃ behind, IsExponent exponent behind ∧ cs = behind ++ rest := by
  unfold exponent? at h
  split at h
  · cases h
    exact ⟨[], .absent, rfl⟩
  · next c cs =>
    split at h
    · next hmark =>
      simp only [Bool.or_eq_true, beq_iff_eq] at hmark
      split at h
      · obtain ⟨ds, rfl, hsome, hds, rfl⟩ := eq_of_exponentDigits? h
        exact ⟨_, .plus hmark hsome hds, rfl⟩
      · obtain ⟨ds, rfl, hsome, hds, rfl⟩ := eq_of_exponentDigits? h
        exact ⟨_, .minus hmark hsome hds, rfl⟩
      · obtain ⟨ds, rfl, hsome, hds, rfl⟩ := eq_of_exponentDigits? h
        exact ⟨_, .plain hmark hsome hds, rfl⟩
    · cases h
      exact ⟨[], .absent, rfl⟩

lemma eq_of_unsigned? {negative : Bool} {n : Numeral}
    (h : unsigned? negative cs = some (n, rest)) :
    ∃ front, n.IsSpelled ((if negative then ['-'] else []) ++ front) ∧ cs = front ++ rest := by
  simp only [unsigned?, Option.bind_eq_bind, Option.bind_eq_some_iff, Option.pure_def,
    Option.some.injEq, Prod.exists, Prod.mk.injEq] at h
  obtain ⟨whole, more, hwhole, decimals, more', hdecimals, exponent, _, hexponent, rfl, rfl⟩ := h
  obtain ⟨hiswhole, rfl⟩ := isWhole_of_wholePart? hwhole
  obtain ⟨hds, rfl⟩ := eq_of_decimals? hdecimals
  obtain ⟨behind, hbehind, rfl⟩ := isExponent_of_exponent? hexponent
  have hspelled : Numeral.IsSpelled ⟨negative, whole, decimals, exponent⟩ _ :=
    .mk hiswhole hds hbehind
  rw [List.append_assoc, List.append_assoc] at hspelled
  exact ⟨_, hspelled, by simp only [List.append_assoc]⟩

lemma isSpelled_of_numeral? {n : Numeral} (h : numeral? cs = some (n, rest)) :
    ∃ front, n.IsSpelled front ∧ cs = front ++ rest := by
  unfold numeral? at h
  split at h
  · obtain ⟨front, hspelled, rfl⟩ := eq_of_unsigned? h
    exact ⟨_, hspelled, rfl⟩
  · obtain ⟨front, hspelled, rfl⟩ := eq_of_unsigned? h
    exact ⟨_, hspelled, rfl⟩

end Numerals

section Tokens

lemma says_iff_of_forall₂ {parts : List StringPart} {texts : List (List Char)}
    (h : List.Forall₂ StringPart.IsSpelled parts texts) (cs : List Char) :
    (joinParts parts).map String.ofList = some (String.ofList cs) ↔ StringPart.Says parts cs := by
  rw [Option.map_eq_some_iff]
  constructor
  · rintro ⟨cs', hcs', heq⟩
    obtain rfl := String.ofList_injective heq
    exact StringPart.says_of_joinParts (StringPart.unit_lt_of_forall₂ h) hcs'
  · exact fun hmeans => ⟨cs, StringPart.joinParts_of_says hmeans, rfl⟩

lemma isSpelled_of_token? {cs rest : List Char} {t : Token} (h : token? cs = some (t, rest)) :
    ∃ front, t.IsSpelled front ∧ cs = front ++ rest := by
  unfold token? at h
  split at h
  case h_10 =>
    obtain ⟨⟨parts, _⟩, hparts, heq⟩ := Option.map_eq_some_iff.mp h
    obtain ⟨rfl, rfl⟩ := Prod.mk.inj heq
    obtain ⟨texts, htexts, rfl⟩ := exists_of_stringParts hparts
    exact ⟨_, .string htexts (says_iff_of_forall₂ htexts), by simp⟩
  case h_11 =>
    obtain ⟨⟨n, _⟩, hn, heq⟩ := Option.map_eq_some_iff.mp h
    obtain ⟨rfl, rfl⟩ := Prod.mk.inj heq
    obtain ⟨front, hfront, rfl⟩ := isSpelled_of_numeral? hn
    exact ⟨front, .number hfront, rfl⟩
  all_goals
    cases h
    exact ⟨_, by constructor, rfl⟩

lemma spells_of_tokens? {cs : List Char} {ts : List Token} (h : tokens? cs = some ts) :
    Spells ts cs := by
  fun_induction tokens? cs generalizing ts with
  | case1 =>
    cases h
    exact .nil nofun
  | case2 c cs hspace ih =>
    exact spells_blank hspace (ih h)
  | case3 => cases h
  | case4 c cs hspace t rest htoken hlength ih =>
    obtain ⟨more, hmore, rfl⟩ := Option.map_eq_some_iff.mp h
    obtain ⟨front, hfront, heq⟩ := isSpelled_of_token? htoken
    rw [heq]
    exact spells_token hfront (ih hmore)
  | case5 => cases h

end Tokens

section Machine

/-- The tokens of items with a comma behind each. -/
def itemsAhead (items : List Tree) : List Token :=
  items.flatMap fun t => t.tokens ++ [.comma]

/-- The tokens of fields with a comma behind each. -/
def fieldsAhead (fields : List (Option String × Tree)) : List Token :=
  fields.flatMap fun f => .string f.1 :: .colon :: (f.2.tokens ++ [.comma])

lemma itemTokens_append (items : List Tree) (t : Tree) :
    Tree.itemTokens (items ++ [t]) = itemsAhead items ++ t.tokens := by
  induction items with
  | nil => rfl
  | cons u items ih =>
    obtain ⟨w, more, hmore⟩ := List.exists_cons_of_ne_nil (List.concat_ne_nil t items)
    rw [List.cons_append, hmore, Tree.itemTokens, ← hmore, ih, itemsAhead, itemsAhead]
    simp

lemma fieldTokens_append (fields : List (Option String × Tree)) (name : Option String) (t : Tree) :
    Tree.fieldTokens (fields ++ [(name, t)]) =
      fieldsAhead fields ++ .string name :: .colon :: t.tokens := by
  induction fields with
  | nil => rfl
  | cons f fields ih =>
    obtain ⟨g, more, hmore⟩ := List.exists_cons_of_ne_nil (List.concat_ne_nil (name, t) fields)
    rw [List.cons_append, hmore, Tree.fieldTokens, ← hmore, ih, fieldsAhead, fieldsAhead]
    simp

/-- The tokens that were taken for an open container which waits for a value. -/
def Frame.taken : Frame → List Token
  | .items done => .openArray :: itemsAhead done.reverse
  | .fields _ => []
  | .field done name => .openObject :: (fieldsAhead done.reverse ++ [.string name, .colon])

/-- The tokens that were taken before a value is read inside these containers. -/
def takenBefore : List Frame → List Token
  | [] => []
  | frame :: stack => takenBefore stack ++ frame.taken

/-- The machine has come to a state by these tokens. -/
inductive Taken : List Token → State → Prop
  | value (stack : List Frame) : Taken (takenBefore stack) (.reading .value stack)
  | valueOrEnd (stack : List Frame) :
      Taken (takenBefore stack ++ [.openArray]) (.reading .valueOrEnd (.items [] :: stack))
  | nameOrEnd (stack : List Frame) :
      Taken (takenBefore stack ++ [.openObject]) (.reading .nameOrEnd (.fields [] :: stack))
  | name (done : List (Option String × Tree)) (stack : List Frame) :
      Taken (takenBefore stack ++ .openObject :: fieldsAhead done.reverse)
        (.reading .name (.fields done :: stack))
  | colon (done : List (Option String × Tree)) (name : Option String) (stack : List Frame) :
      Taken (takenBefore stack ++ .openObject :: (fieldsAhead done.reverse ++ [.string name]))
        (.reading .colon (.field done name :: stack))
  | item (t : Tree) (done : List Tree) (stack : List Frame) :
      Taken (takenBefore stack ++ .openArray :: Tree.itemTokens (t :: done).reverse)
        (.reading .separator (.items (t :: done) :: stack))
  | field (f : Option String × Tree) (done : List (Option String × Tree)) (stack : List Frame) :
      Taken (takenBefore stack ++ .openObject :: Tree.fieldTokens (f :: done).reverse)
        (.reading .separator (.fields (f :: done) :: stack))
  | finished (tree : Tree) : Taken tree.tokens (.finished tree)

variable {ts : List Token} {state next : State} {stack : List Frame}

lemma taken_of_put {tree : Tree} (h : put tree stack = some next) :
    Taken (takenBefore stack ++ tree.tokens) next := by
  unfold put at h
  split at h
  · cases h
    exact .finished tree
  · next done stack =>
    cases h
    have htaken := Taken.item tree done stack
    rwa [List.reverse_cons, itemTokens_append, ← List.cons_append, ← List.append_assoc] at htaken
  · next done name stack =>
    cases h
    have htaken := Taken.field (name, tree) done stack
    rw [List.reverse_cons, fieldTokens_append] at htaken
    simpa [takenBefore, Frame.taken] using htaken
  · cases h

lemma taken_of_begin {t : Token} (h : begin stack t = some next) :
    Taken (takenBefore stack ++ [t]) next := by
  unfold begin at h
  split at h
  · cases h
    exact .valueOrEnd stack
  · cases h
    exact .nameOrEnd stack
  · exact taken_of_put h
  · exact taken_of_put h
  · exact taken_of_put h
  · exact taken_of_put h
  · cases h

lemma taken_of_name {done : List (Option String × Tree)} {t : Token}
    (h : Json.name (.fields done :: stack) t = some next) :
    Taken (takenBefore stack ++ .openObject :: (fieldsAhead done.reverse ++ [t])) next := by
  cases t with
  | string s =>
    cases h
    exact .colon done s stack
  | _ => cases h

lemma taken_of_closeArray {done : List Tree}
    (h : closeArray (.items done :: stack) = some next) :
    Taken (takenBefore stack ++ .openArray :: (Tree.itemTokens done.reverse ++ [.closeArray]))
      next :=
  taken_of_put h

lemma taken_of_closeObject {done : List (Option String × Tree)}
    (h : closeObject (.fields done :: stack) = some next) :
    Taken (takenBefore stack ++ .openObject :: (Tree.fieldTokens done.reverse ++ [.closeObject]))
      next :=
  taken_of_put h

/-- Each step takes its token. -/
lemma Taken.step {t : Token} (h : Taken ts state) (hstep : step state t = some next) :
    Taken (ts ++ [t]) next := by
  cases h with
  | value stack => exact taken_of_begin hstep
  | valueOrEnd stack =>
    rw [List.append_assoc]
    by_cases ht : t = .closeArray
    · rw [Json.step, if_pos ht] at hstep
      rw [ht]
      exact taken_of_closeArray hstep
    · rw [Json.step, if_neg ht] at hstep
      have htaken := taken_of_begin hstep
      rwa [takenBefore, List.append_assoc] at htaken
  | nameOrEnd stack =>
    rw [List.append_assoc]
    by_cases ht : t = .closeObject
    · rw [Json.step, if_pos ht] at hstep
      rw [ht]
      exact taken_of_closeObject hstep
    · rw [Json.step, if_neg ht] at hstep
      exact taken_of_name hstep
  | name done stack =>
    rw [List.append_assoc]
    exact taken_of_name hstep
  | colon done name stack =>
    by_cases ht : t = .colon
    · rw [Json.step, if_pos ht] at hstep
      cases hstep
      have htaken := Taken.value (.field done name :: stack)
      simpa [takenBefore, Frame.taken, ht] using htaken
    · rw [Json.step, if_neg ht] at hstep
      cases hstep
  | item u done stack =>
    rw [List.append_assoc]
    cases t with
    | comma =>
      cases hstep
      have htaken := Taken.value (.items (u :: done) :: stack)
      rw [takenBefore, Frame.taken] at htaken
      rw [List.reverse_cons, itemTokens_append]
      simpa [itemsAhead] using htaken
    | closeArray => exact taken_of_closeArray hstep
    | _ => cases hstep
  | field f done stack =>
    rw [List.append_assoc]
    cases t with
    | comma =>
      cases hstep
      have htaken := Taken.name (f :: done) stack
      rw [List.reverse_cons, fieldTokens_append]
      simpa [fieldsAhead] using htaken
    | closeObject => exact taken_of_closeObject hstep
    | _ => cases hstep
  | finished tree => cases hstep

lemma Taken.run {us : List Token} (h : Taken ts state) (hrun : run state us = some next) :
    Taken (ts ++ us) next := by
  induction us generalizing ts state with
  | nil =>
    cases hrun
    rwa [List.append_nil]
  | cons u us ih =>
    rw [run_cons] at hrun
    obtain ⟨between, hstep, hmore⟩ := Option.bind_eq_some_iff.mp hrun
    have htaken := ih (h.step hstep) hmore
    rwa [List.append_assoc] at htaken

lemma tokens_of_run {tree : Tree} (h : run (.reading .value []) ts = some (.finished tree)) :
    ts = tree.tokens := by
  have htaken := (Taken.value []).run h
  rw [takenBefore, List.nil_append] at htaken
  cases htaken
  rfl

end Machine

/-- A text is read as a tree exactly if it is a text of the tree. -/
theorem Tree.ofText?_eq_some_iff {text : String} {tree : Tree} :
    Tree.ofText? text = some tree ↔ tree.IsText text := by
  refine ⟨fun h => ?_, Tree.ofText?_of_isText⟩
  simp only [Tree.ofText?, Option.bind_eq_bind, Option.bind_eq_some_iff] at h
  obtain ⟨ts, hts, state, hrun, htree⟩ := h
  cases state with
  | reading _ _ => cases htree
  | finished t =>
    cases htree
    rw [Tree.IsText, ← tokens_of_run hrun]
    exact spells_of_tokens? hts

end MailMerge.Json
