import MailMerge.Proofs.JsonSpellings

/-!
# Trees of JSON texts

A tree has its tokens in one order only, so a text of a tree is any spelling of these tokens. The
machine that reads tokens puts the tree together again, whatever containers are open around it
(`run_tokens`), so a text of a tree is read as the tree (`ofText?_of_isText`).
-/

namespace MailMerge.Json

mutual

/-- The tokens of a tree. -/
def Tree.tokens : Tree → List Token
  | .null => [.null]
  | .bool b => [.bool b]
  | .number n => [.number n]
  | .string s => [.string s]
  | .array items => .openArray :: (Tree.itemTokens items ++ [.closeArray])
  | .object fields => .openObject :: (Tree.fieldTokens fields ++ [.closeObject])

/-- The tokens of items with commas between them. -/
def Tree.itemTokens : List Tree → List Token
  | [] => []
  | [t] => Tree.tokens t
  | t :: u :: rest => Tree.tokens t ++ .comma :: Tree.itemTokens (u :: rest)

/-- The tokens of fields with commas between them. -/
def Tree.fieldTokens : List (Option String × Tree) → List Token
  | [] => []
  | [(name, t)] => .string name :: .colon :: Tree.tokens t
  | (name, t) :: f :: rest =>
    .string name :: .colon :: (Tree.tokens t ++ .comma :: Tree.fieldTokens (f :: rest))

end

/-- A text says a tree: its tokens are written in it, in any of their spellings. -/
def Tree.IsText (tree : Tree) (text : String) : Prop :=
  Spells tree.tokens text.toList

section Separation

lemma separated_cons {t : Token} {ts : List Token}
    (h : t.isNumber = true → ∀ u ∈ ts.head?, u.isNumber = false) (hts : Separated ts) :
    Separated (t :: ts) :=
  List.isChain_cons.mpr ⟨fun u hu ht => h ht u hu, hts⟩

lemma separated_mark {t : Token} (h : t.isNumber = false) {ts : List Token} (hts : Separated ts) :
    Separated (t :: ts) :=
  separated_cons (fun ht => by rw [h] at ht; cases ht) hts

lemma forall_head?_mark {t : Token} (h : t.isNumber = false) {ts : List Token} :
    ∀ u ∈ (t :: ts).head?, u.isNumber = false := by
  rintro u ⟨⟩
  exact h

mutual

lemma Tree.separated_append (t : Tree) {rest : List Token} (hrest : Separated rest)
    (hother : ∀ u ∈ rest.head?, u.isNumber = false) : Separated (t.tokens ++ rest) :=
  match t with
  | .null | .bool _ | .string _ => separated_mark rfl hrest
  | .number _ => separated_cons (fun _ => hother) hrest
  | .array items => by
    rw [tokens, List.cons_append, List.append_assoc]
    exact separated_mark rfl
      (Tree.separated_items items (separated_mark rfl hrest) (forall_head?_mark rfl))
  | .object fields => by
    rw [tokens, List.cons_append, List.append_assoc]
    exact separated_mark rfl
      (Tree.separated_fields fields (separated_mark rfl hrest) (forall_head?_mark rfl))

lemma Tree.separated_items (items : List Tree) {rest : List Token} (hrest : Separated rest)
    (hother : ∀ u ∈ rest.head?, u.isNumber = false) : Separated (itemTokens items ++ rest) :=
  match items with
  | [] => hrest
  | [t] => Tree.separated_append t hrest hother
  | t :: u :: more => by
    rw [itemTokens, List.append_assoc]
    exact Tree.separated_append t
      (separated_mark rfl (Tree.separated_items (u :: more) hrest hother)) (forall_head?_mark rfl)

lemma Tree.separated_fields (fields : List (Option String × Tree)) {rest : List Token}
    (hrest : Separated rest) (hother : ∀ u ∈ rest.head?, u.isNumber = false) :
    Separated (fieldTokens fields ++ rest) :=
  match fields with
  | [] => hrest
  | [(_, t)] => separated_mark rfl (separated_mark rfl (Tree.separated_append t hrest hother))
  | (_, t) :: f :: more => by
    rw [fieldTokens, List.cons_append, List.cons_append, List.append_assoc]
    have hmore := Tree.separated_fields (f :: more) hrest hother
    exact separated_mark rfl (separated_mark rfl
      (Tree.separated_append t (separated_mark rfl hmore) (forall_head?_mark rfl)))

end

lemma Tree.separated_tokens (t : Tree) : Separated t.tokens := by
  have h : Separated (t.tokens ++ []) := t.separated_append List.isChain_nil (by simp)
  rwa [List.append_nil] at h

end Separation

section Machine

lemma run_cons (state : State) (t : Token) (ts : List Token) :
    run state (t :: ts) = (step state t).bind fun next => run next ts := by
  rw [run]
  cases step state t <;> rfl

lemma Tree.exists_tokens_eq_cons (t : Tree) :
    ∃ first rest, t.tokens = first :: rest ∧ first ≠ .closeArray := by
  cases t with
  | _ => exact ⟨_, _, rfl, by simp⟩

lemma Tree.exists_itemTokens_eq_cons (t : Tree) (more : List Tree) :
    ∃ first rest, itemTokens (t :: more) = first :: rest ∧ first ≠ .closeArray := by
  obtain ⟨first, rest, htokens, hfirst⟩ := t.exists_tokens_eq_cons
  cases more with
  | nil => exact ⟨first, rest, htokens, hfirst⟩
  | cons u more =>
    refine ⟨first, rest ++ .comma :: itemTokens (u :: more), ?_, hfirst⟩
    rw [itemTokens, htokens, List.cons_append]

lemma run_valueOrEnd {first : Token} (h : first ≠ .closeArray) (stack : List Frame)
    (ts : List Token) :
    run (.reading .valueOrEnd stack) (first :: ts) = run (.reading .value stack) (first :: ts) := by
  have hstep : step (.reading .valueOrEnd stack) first = begin stack first := if_neg h
  rw [run_cons, run_cons, hstep]
  rfl

lemma run_nameOrEnd (f : Option String × Tree) (more : List (Option String × Tree))
    (stack : List Frame) (ts : List Token) :
    run (.reading .nameOrEnd stack) (Tree.fieldTokens (f :: more) ++ ts) =
      run (.reading .name stack) (Tree.fieldTokens (f :: more) ++ ts) := by
  cases more <;> rfl

mutual

/-- The tokens of a tree give it to the innermost open container. -/
theorem run_tokens (t : Tree) (stack : List Frame) (ts : List Token) :
    run (.reading .value stack) (t.tokens ++ ts) = (put t stack).bind fun next => run next ts :=
  match t with
  | .null | .bool _ | .number _ | .string _ => run_cons _ _ _
  | .array [] => by
    rw [Tree.tokens, Tree.itemTokens, List.nil_append, List.cons_append, run_cons]
    exact run_cons _ _ _
  | .array (t :: more) => by
    obtain ⟨first, rest, htokens, hfirst⟩ := Tree.exists_itemTokens_eq_cons t more
    have hitems := run_itemTokens (t :: more) (List.cons_ne_nil _ _) [] stack (.closeArray :: ts)
    rw [htokens, List.cons_append, ← run_valueOrEnd hfirst, ← List.cons_append, ← htokens] at hitems
    rw [Tree.tokens, List.cons_append, List.append_assoc, run_cons]
    refine hitems.trans ((run_cons _ _ _).trans ?_)
    simp [step, closeArray]
  | .object [] => by
    rw [Tree.tokens, Tree.fieldTokens, List.nil_append, List.cons_append, run_cons]
    exact run_cons _ _ _
  | .object (f :: more) => by
    have hfields := run_fieldTokens (f :: more) (List.cons_ne_nil _ _) [] stack (.closeObject :: ts)
    rw [← run_nameOrEnd] at hfields
    rw [Tree.tokens, List.cons_append, List.append_assoc, run_cons]
    refine hfields.trans ((run_cons _ _ _).trans ?_)
    simp [step, closeObject]

lemma run_itemTokens (items : List Tree) (hsome : items ≠ []) (done : List Tree)
    (stack : List Frame) (ts : List Token) :
    run (.reading .value (.items done :: stack)) (Tree.itemTokens items ++ ts) =
      run (.reading .separator (.items (items.reverse ++ done) :: stack)) ts :=
  match items with
  | [] => absurd rfl hsome
  | [t] => run_tokens t _ ts
  | t :: u :: more => by
    rw [Tree.itemTokens, List.append_assoc, run_tokens]
    refine (run_itemTokens (u :: more) (List.cons_ne_nil _ _) (t :: done) stack ts).trans ?_
    simp

lemma run_fieldTokens (fields : List (Option String × Tree)) (hsome : fields ≠ [])
    (done : List (Option String × Tree)) (stack : List Frame) (ts : List Token) :
    run (.reading .name (.fields done :: stack)) (Tree.fieldTokens fields ++ ts) =
      run (.reading .separator (.fields (fields.reverse ++ done) :: stack)) ts :=
  match fields with
  | [] => absurd rfl hsome
  | [(name, t)] => run_tokens t _ ts
  | (name, t) :: f :: more => by
    have hvalue := run_tokens t (.field done name :: stack)
      (.comma :: Tree.fieldTokens (f :: more) ++ ts)
    rw [Tree.fieldTokens, List.cons_append, List.cons_append, List.append_assoc]
    refine hvalue.trans ?_
    have hmore := run_fieldTokens (f :: more) (List.cons_ne_nil _ _) ((name, t) :: done) stack ts
    refine hmore.trans ?_
    simp

end

end Machine

/-- A text of a tree is read as the tree. -/
theorem Tree.ofText?_of_isText {tree : Tree} {text : String} (h : tree.IsText text) :
    Tree.ofText? text = some tree := by
  have hrun := run_tokens tree [] []
  rw [List.append_nil] at hrun
  rw [Tree.ofText?, tokens?_of_spells h tree.separated_tokens]
  simp only [Option.bind_eq_bind, Option.bind_some, hrun]
  rfl

end MailMerge.Json
