import MailMerge.Proofs.JsonTrees

/-!
# Printed JSON values

A value whose numbers are whole has a tree, and both of its printed forms are texts of this tree
(`isText_compact`, `isText_indented`): the compact one without any space, the indented one with
lines. So what is printed is read as the tree of the value.
-/

namespace MailMerge.Json

section Digits

lemma isDigit_of_mem_ofNat {n : Nat} {c : Char} (h : c ∈ Digits.ofNat n) :
    Digits.isDigit c = true := by
  have hdigit : c.isDigit = true := Nat.isDigit_of_mem_toDigits (by decide) (Nat.le_refl 10) h
  simpa [Digits.isDigit, Char.isDigit, Char.le_def] using hdigit

lemma toNat_ofNat (n : Nat) : Digits.toNat (Digits.ofNat n) = n := by
  have hfold (cs : List Char) (start : Nat) :
      cs.foldl (fun n c => n * 10 + Digits.value c) start = Nat.ofDigitChars 10 cs start := by
    induction cs generalizing start with
    | nil => rfl
    | cons c cs ih =>
      rw [List.foldl_cons, ih, Nat.mul_comm]
      rfl
  rw [Digits.toNat, hfold, Digits.ofNat, Nat.ofDigitChars_toDigits (by decide) (Nat.le_refl 10)]

lemma isWhole_ofNat (n : Nat) : IsWhole (Digits.ofNat n) := by
  refine ⟨fun d hd => isDigit_of_mem_ofNat hd, Nat.toDigits_ne_nil, ?_⟩
  induction n using Nat.strongRecOn with
  | _ n ih =>
    intro rest hrest
    rw [Digits.ofNat, Nat.toDigits_eq_if (by decide)] at hrest
    split at hrest
    · exact (List.cons.inj hrest).2.symm
    · next hn =>
      obtain ⟨c, more, hmore⟩ :=
        List.exists_cons_of_ne_nil (Nat.toDigits_ne_nil (n := n / 10) (b := 10))
      rw [hmore] at hrest
      obtain ⟨rfl, -⟩ := List.cons.inj hrest
      -- The quotient would be written as a single zero.
      have hsingle : more = [] := ih (n / 10) (by omega) more hmore
      have hquotient := toNat_ofNat (n / 10)
      rw [Digits.ofNat, hmore, hsingle] at hquotient
      have hzero : Digits.toNat ['0'] = 0 := rfl
      omega

end Digits

namespace Number

/-- An integer of 64 bits, signed or unsigned, or the zero that has a sign. -/
def IsWhole : Number → Prop
  | .integer n => -(wordBound / 2 : Nat) ≤ n ∧ n < wordBound
  | .real x => x = .zero true

instance (n : Number) : Decidable n.IsWhole :=
  match n with
  | .integer k => inferInstanceAs (Decidable (-(wordBound / 2 : Nat) ≤ k ∧ k < wordBound))
  | .real x => inferInstanceAs (Decidable (x = .zero true))

/-- The numeral that a whole number is printed as. -/
def numeral : Number → Numeral
  | .integer n => ⟨n < 0, Digits.ofNat n.natAbs, [], none⟩
  | .real _ => ⟨true, ['0'], ['0'], none⟩

variable {n : Number}

lemma isSpelled_text (h : n.IsWhole) : n.numeral.IsSpelled n.text := by
  cases n with
  | integer k =>
    have hspelled : Numeral.IsSpelled ⟨k < 0, Digits.ofNat k.natAbs, [], none⟩ _ :=
      .mk (isWhole_ofNat k.natAbs) nofun .absent
    have htext : (Number.integer k).text =
        (if decide (k < 0) then ['-'] else []) ++ Digits.ofNat k.natAbs ++ [] ++ [] := by
      by_cases hk : k < 0
      · simp [text, hk]
      · simp [text, hk]
    rw [htext]
    exact hspelled
  | real x =>
    cases h
    have hzero : ∀ d ∈ ['0'], Digits.isDigit d = true := List.forall_mem_singleton.mpr rfl
    have hspelled : Numeral.IsSpelled ⟨true, ['0'], ['0'], none⟩ _ :=
      .mk ⟨hzero, by simp, by simp⟩ hzero .absent
    exact hspelled

lemma number?_numeral (h : n.IsWhole) : n.numeral.number? = some n := by
  cases n with
  | integer k =>
    obtain ⟨hlow, hhigh⟩ := h
    unfold numeral Numeral.number?
    simp only [toNat_ofNat]
    by_cases hk : k < 0
    · have hnegative : -(k.natAbs : Int) = k := by omega
      have hpos : 0 < k.natAbs := by omega
      have hfits : k.natAbs ≤ wordBound / 2 := by omega
      simp only [hk, hpos, hfits, hnegative, decide_true, List.isEmpty_nil, Option.isNone_none,
        Bool.not_true, Bool.and_false, Bool.false_and, Bool.false_eq_true, if_false, Bool.and_true,
        if_true]
    · have hpositive : (k.natAbs : Int) = k := by omega
      have hfits : k.natAbs < wordBound := by omega
      simp only [hk, hfits, hpositive, decide_true, decide_false, List.isEmpty_nil,
        Option.isNone_none, Bool.not_false, Bool.and_true, if_true]
  | real x =>
    cases h
    decide +kernel

end Number

section Strings

open StringPart (Says)

lemma hexDigit_eq_digitChar {n : Nat} (h : n < 16) : hexDigit n = Nat.digitChar n := by
  have hall : ∀ m < 16, hexDigit m = Nat.digitChar m := by decide
  exact hall n h

lemma exists_isSpelled_escapedChar (c : Char) : ∃ part, StringPart.IsSpelled part (escapedChar c) ∧
    ∀ {parts cs}, Says parts cs → Says (part :: parts) (c :: cs) := by
  unfold escapedChar
  split
  case h_8 hquote hback _ _ _ _ _ =>
    by_cases hcontrol : c.toNat < 32
    · rw [if_pos hcontrol]
      have hunit := StringPart.IsSpelled.unit (i := 0) (j := 0) (a := '0') (b := '0')
        ⟨by decide, .inl rfl⟩ ⟨by decide, .inl rfl⟩
        ⟨by omega, .inl (hexDigit_eq_digitChar (n := c.toNat / 16) (by omega))⟩
        ⟨by omega, .inl (hexDigit_eq_digitChar (n := c.toNat % 16) (by omega))⟩
      have hnumber : 0 * 4096 + 0 * 256 + c.toNat / 16 * 16 + c.toNat % 16 = c.toNat := by omega
      rw [hnumber] at hunit
      exact ⟨_, hunit, .unit (by omega)⟩
    · rw [if_neg hcontrol]
      exact ⟨_, .plain hquote hback (by omega), .char c⟩
  all_goals exact ⟨_, .short (by decide), .char _⟩

lemma exists_isSpelled_flatMap (cs : List Char) : ∃ parts texts,
    List.Forall₂ StringPart.IsSpelled parts texts ∧ texts.flatten = cs.flatMap escapedChar ∧
      Says parts cs := by
  induction cs with
  | nil => exact ⟨[], [], .nil, rfl, .nil⟩
  | cons c cs ih =>
    obtain ⟨parts, texts, hparts, htexts, hmeans⟩ := ih
    obtain ⟨part, hpart, hchar⟩ := exists_isSpelled_escapedChar c
    refine ⟨part :: parts, escapedChar c :: texts, .cons hpart hparts, ?_, hchar hmeans⟩
    rw [List.flatten_cons, htexts, List.flatMap_cons]

lemma says_iff {parts : List StringPart} {s : String} (h : Says parts s.toList) (cs : List Char) :
    some s = some (String.ofList cs) ↔ Says parts cs := by
  constructor
  · intro heq
    rw [Option.some.inj heq, String.toList_ofList] at h
    exact h
  · intro hmeans
    have heq := (StringPart.joinParts_of_says h).symm.trans (StringPart.joinParts_of_says hmeans)
    rw [← Option.some.inj heq, String.ofList_toList]

lemma isSpelled_quoted (s : String) : Token.IsSpelled (.string (some s)) (quoted s) := by
  obtain ⟨parts, texts, hparts, htexts, hmeans⟩ := exists_isSpelled_flatMap s.toList
  rw [quoted, ← htexts]
  exact .string hparts (says_iff hmeans)

end Strings

section Printers

mutual

/-- The numbers in a value. -/
def Value.numbers : Value → List Number
  | .null | .bool _ | .string _ => []
  | .number n => [n]
  | .array items => Value.itemNumbers items
  | .object fields => Value.fieldNumbers fields

def Value.itemNumbers : List Value → List Number
  | [] => []
  | v :: rest => Value.numbers v ++ Value.itemNumbers rest

def Value.fieldNumbers : List (String × Value) → List Number
  | [] => []
  | (_, v) :: rest => Value.numbers v ++ Value.fieldNumbers rest

end

lemma Value.exists_of_mem_fieldNumbers {fields : List (String × Value)} {n : Number}
    (h : n ∈ fieldNumbers fields) : ∃ f ∈ fields, n ∈ f.2.numbers := by
  induction fields with
  | nil => cases h
  | cons f rest ih =>
    rcases List.mem_append.mp h with h | h
    · exact ⟨f, List.mem_cons_self, h⟩
    · obtain ⟨g, hg, hn⟩ := ih h
      exact ⟨g, List.mem_cons_of_mem _ hg, hn⟩

mutual

/-- The tree of a value whose numbers are whole. -/
def Value.toTree : Value → Tree
  | .null => .null
  | .bool b => .bool b
  | .number n => .number n.numeral
  | .string s => .string (some s)
  | .array items => .array (Value.itemTrees items)
  | .object fields => .object (Value.fieldTrees fields)

def Value.itemTrees : List Value → List Tree
  | [] => []
  | v :: rest => Value.toTree v :: Value.itemTrees rest

def Value.fieldTrees : List (String × Value) → List (Option String × Tree)
  | [] => []
  | (name, v) :: rest => (some name, Value.toTree v) :: Value.fieldTrees rest

end

lemma spells_bool (b : Bool) {ts : List Token} {rest : List Char} (hrest : Spells ts rest) :
    Spells (.bool b :: ts) ((Value.bool b).compact ++ rest) := by
  cases b with
  | false => exact spells_token .no hrest
  | true => exact spells_token .yes hrest

mutual

lemma Value.spells_compact (v : Value) (hv : ∀ n ∈ v.numbers, n.IsWhole) {ts : List Token}
    {rest : List Char} (hrest : Spells ts rest) :
    Spells (v.toTree.tokens ++ ts) (v.compact ++ rest) :=
  match v with
  | .null => spells_token .null hrest
  | .bool b => spells_bool b hrest
  | .number n => spells_token (.number (n.isSpelled_text (hv n List.mem_cons_self))) hrest
  | .string s => spells_token (isSpelled_quoted s) hrest
  | .array items => by
    have hitems := Value.spells_compactItems items hv (spells_token .closeArray hrest)
    simpa [toTree, Tree.tokens, compact] using spells_token .openArray hitems
  | .object fields => by
    have hfields := Value.spells_compactFields fields hv (spells_token .closeObject hrest)
    simpa [toTree, Tree.tokens, compact] using spells_token .openObject hfields

lemma Value.spells_compactItems (items : List Value) (hv : ∀ n ∈ itemNumbers items, n.IsWhole)
    {ts : List Token} {rest : List Char} (hrest : Spells ts rest) :
    Spells (Tree.itemTokens (itemTrees items) ++ ts) (compactItems items ++ rest) :=
  match items with
  | [] => hrest
  | [v] => Value.spells_compact v (List.forall_mem_append.mp hv).1 hrest
  | v :: w :: more => by
    have hmore := Value.spells_compactItems (w :: more) (List.forall_mem_append.mp hv).2 hrest
    have hitem := Value.spells_compact v (List.forall_mem_append.mp hv).1
      (spells_token .comma hmore)
    simpa [itemTrees, Tree.itemTokens, compactItems] using hitem

lemma Value.spells_compactFields (fields : List (String × Value))
    (hv : ∀ n ∈ fieldNumbers fields, n.IsWhole) {ts : List Token} {rest : List Char}
    (hrest : Spells ts rest) :
    Spells (Tree.fieldTokens (fieldTrees fields) ++ ts) (compactFields fields ++ rest) :=
  match fields with
  | [] => hrest
  | [(name, v)] => by
    have hvalue := Value.spells_compact v (List.forall_mem_append.mp hv).1 hrest
    simpa [fieldTrees, Tree.fieldTokens, compactFields] using
      spells_token (isSpelled_quoted name) (spells_token .colon hvalue)
  | (name, v) :: f :: more => by
    have hmore := Value.spells_compactFields (f :: more) (List.forall_mem_append.mp hv).2 hrest
    have hvalue := Value.spells_compact v (List.forall_mem_append.mp hv).1
      (spells_token .comma hmore)
    simpa [fieldTrees, Tree.fieldTokens, compactFields] using
      spells_token (isSpelled_quoted name) (spells_token .colon hvalue)

end

lemma Value.isText_compact {v : Value} (hv : ∀ n ∈ v.numbers, n.IsWhole) :
    v.toTree.IsText (String.ofList v.compact) := by
  have h := v.spells_compact hv (.nil nofun : Spells [] [])
  rw [List.append_nil, List.append_nil] at h
  rwa [Tree.IsText, String.toList_ofList]

lemma spells_colon {ts : List Token} {rest : List Char} (hrest : Spells ts rest) :
    Spells (.colon :: ts) (':' :: ' ' :: rest) :=
  spells_token .colon (spells_blank rfl hrest)

lemma spells_lineStart (depth : Nat) {ts : List Token} {rest : List Char}
    (hrest : Spells ts rest) : Spells ts (lineStart depth ++ rest) := by
  refine spells_space (fun c hc => ?_) hrest
  rcases List.mem_cons.mp hc with rfl | hc
  · rfl
  · rw [(List.mem_replicate.mp hc).2]
    rfl

mutual

lemma Value.spells_indented (v : Value) (hv : ∀ n ∈ v.numbers, n.IsWhole) (depth : Nat)
    {ts : List Token} {rest : List Char} (hrest : Spells ts rest) :
    Spells (v.toTree.tokens ++ ts) (v.indented depth ++ rest) :=
  match v with
  | .null | .bool _ | .number _ | .string _ => Value.spells_compact _ hv hrest
  | .array [] => by
    simpa [toTree, itemTrees, Tree.tokens, Tree.itemTokens, indented] using
      spells_token .openArray (spells_token .closeArray hrest)
  | .array (v :: more) => by
    have hitems := Value.spells_indentedItems (v :: more) hv (depth + 1)
      (spells_lineStart depth (spells_token .closeArray hrest))
    simpa [toTree, Tree.tokens, indented] using spells_token .openArray hitems
  | .object [] => by
    simpa [toTree, fieldTrees, Tree.tokens, Tree.fieldTokens, indented] using
      spells_token .openObject (spells_token .closeObject hrest)
  | .object (f :: more) => by
    have hfields := Value.spells_indentedFields (f :: more) hv (depth + 1)
      (spells_lineStart depth (spells_token .closeObject hrest))
    simpa [toTree, Tree.tokens, indented] using spells_token .openObject hfields

lemma Value.spells_indentedItems (items : List Value) (hv : ∀ n ∈ itemNumbers items, n.IsWhole)
    (depth : Nat) {ts : List Token} {rest : List Char} (hrest : Spells ts rest) :
    Spells (Tree.itemTokens (itemTrees items) ++ ts) (indentedItems depth items ++ rest) :=
  match items with
  | [] => hrest
  | [v] => by
    have hitem := Value.spells_indented v (List.forall_mem_append.mp hv).1 depth hrest
    simpa [itemTrees, Tree.itemTokens, indentedItems] using spells_lineStart depth hitem
  | v :: w :: more => by
    have hmore := Value.spells_indentedItems (w :: more)
      (List.forall_mem_append.mp hv).2 depth hrest
    have hitem := Value.spells_indented v (List.forall_mem_append.mp hv).1 depth
      (spells_token .comma hmore)
    simpa [itemTrees, Tree.itemTokens, indentedItems] using spells_lineStart depth hitem

lemma Value.spells_indentedFields (fields : List (String × Value))
    (hv : ∀ n ∈ fieldNumbers fields, n.IsWhole) (depth : Nat) {ts : List Token}
    {rest : List Char} (hrest : Spells ts rest) :
    Spells (Tree.fieldTokens (fieldTrees fields) ++ ts) (indentedFields depth fields ++ rest) :=
  match fields with
  | [] => hrest
  | [(name, v)] => by
    have hvalue := Value.spells_indented v (List.forall_mem_append.mp hv).1 depth hrest
    simpa [fieldTrees, Tree.fieldTokens, indentedFields] using spells_lineStart depth
      (spells_token (isSpelled_quoted name) (spells_colon hvalue))
  | (name, v) :: f :: more => by
    have hmore := Value.spells_indentedFields (f :: more)
      (List.forall_mem_append.mp hv).2 depth hrest
    have hvalue := Value.spells_indented v (List.forall_mem_append.mp hv).1 depth
      (spells_token .comma hmore)
    simpa [fieldTrees, Tree.fieldTokens, indentedFields] using spells_lineStart depth
      (spells_token (isSpelled_quoted name) (spells_colon hvalue))

end

lemma Value.isText_indented {v : Value} (hv : ∀ n ∈ v.numbers, n.IsWhole) (depth : Nat) :
    v.toTree.IsText (String.ofList (v.indented depth)) := by
  have h := v.spells_indented hv depth (.nil nofun : Spells [] [])
  rw [List.append_nil, List.append_nil] at h
  rwa [Tree.IsText, String.toList_ofList]

end Printers

end MailMerge.Json
