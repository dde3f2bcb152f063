import MailMerge.Proofs.FieldLookup
import MailMerge.Proofs.JsonStrings

/-!
# Records in JSON texts

A record is printed as an object of strings and read back from it, strictly or by coercion. Of the
texts that can be read strictly, coercion makes the same records (`records_survive_json`).
-/

namespace MailMerge

namespace Fields

variable {α β : Type}

lemma set_of_forall_lt {name : String} {value : α} {fields : List (String × α)}
    (h : ∀ f ∈ fields, f.1 < name) : set name value fields = fields ++ [(name, value)] := by
  induction fields with
  | nil => rfl
  | cons f rest ih =>
    obtain ⟨n, v⟩ := f
    have hlt : n < name := h (n, v) List.mem_cons_self
    have hne : name ≠ n := fun heq => String.lt_irrefl n (heq ▸ hlt)
    rw [set, if_neg (String.lt_asymm hlt), if_neg hne,
      ih fun f hf => h f (List.mem_cons_of_mem _ hf)]
    rfl

lemma setAll_append_of_sorted {front back : List (String × α)} (h : Sorted (front ++ back)) :
    setAll front back = front ++ back := by
  induction back generalizing front with
  | nil => simp [setAll]
  | cons f rest ih =>
    have hfront : ∀ g ∈ front, g.1 < f.1 := fun g hg =>
      (List.pairwise_append.mp h).2.2 g hg f List.mem_cons_self
    rw [setAll_cons, set_of_forall_lt hfront]
    have happend : front ++ [f] ++ rest = front ++ f :: rest := by simp
    rw [← happend] at h ⊢
    exact ih h

lemma setAll_nil_of_sorted {fields : List (String × α)} (h : Sorted fields) :
    setAll [] fields = fields :=
  setAll_append_of_sorted h

lemma map_set (f : α → β) (name : String) (value : α) (fields : List (String × α)) :
    (set name value fields).map (Prod.map id f) =
      set name (f value) (fields.map (Prod.map id f)) := by
  induction fields with
  | nil => rfl
  | cons field rest ih =>
    obtain ⟨n, v⟩ := field
    have hmap : ((n, v) :: rest).map (Prod.map id f) = (n, f v) :: rest.map (Prod.map id f) := rfl
    rw [set, hmap, set, ← ih]
    split
    · rfl
    · split
      · rfl
      · rfl

lemma map_setAll (f : α → β) (fields pairs : List (String × α)) :
    (setAll fields pairs).map (Prod.map id f) =
      setAll (fields.map (Prod.map id f)) (pairs.map (Prod.map id f)) := by
  induction pairs generalizing fields with
  | nil => rfl
  | cons p rest ih =>
    rw [setAll_cons, ih, map_set]
    rfl

end Fields

namespace Record

open Json (Frame Token Tree Value quoted run tokens? tokens?_quoted)

lemma ofList_fields (r : Record) : ofList r.fields = r := by
  have hfields : (ofList r.fields).fields = r.fields := Fields.setAll_nil_of_sorted r.sorted
  obtain ⟨fields, sorted⟩ := r
  simpa [ofList, setAll, empty] using hfields

section Printing

/-- The fields of a record as values. -/
def fieldValues (fields : List (String × String)) : List (String × Value) :=
  fields.map (Prod.map id Value.string)

/-- The tokens of printed fields. -/
def fieldTokens : List (String × String) → List Token
  | [] => []
  | [(name, value)] => [.string (some name), .colon, .string (some value)]
  | (name, value) :: f :: rest =>
    .string (some name) :: .colon :: .string (some value) :: .comma :: fieldTokens (f :: rest)

/-- The fields of a record as trees. -/
def fieldTrees (fields : List (String × String)) : List (Option String × Tree) :=
  fields.map (Prod.map some fun value => .string (some value))

lemma tokens?_colon (rest : List Char) : tokens? (':' :: rest) = (tokens? rest).map (.colon :: ·) :=
  Json.tokens?_mark rfl (fun _ => rfl) rest

lemma tokens?_comma (rest : List Char) : tokens? (',' :: rest) = (tokens? rest).map (.comma :: ·) :=
  Json.tokens?_mark rfl (fun _ => rfl) rest

lemma tokens?_compactFields (fields : List (String × String)) (rest : List Char) :
    tokens? (Value.compactFields (fieldValues fields) ++ rest) =
      (tokens? rest).map (fieldTokens fields ++ ·) := by
  induction fields with
  | nil => exact Option.map_id'.symm
  | cons f rest' ih =>
    obtain ⟨name, value⟩ := f
    cases rest' with
    | nil =>
      change tokens? ((quoted name ++ ':' :: quoted value) ++ rest) = _
      rw [List.append_assoc, tokens?_quoted, List.cons_append, tokens?_colon, tokens?_quoted]
      simp [Function.comp_def, fieldTokens]
    | cons g more =>
      change tokens? ((quoted name ++ ':' :: (quoted value ++
        ',' :: Value.compactFields (fieldValues (g :: more)))) ++ rest) = _
      rw [List.append_assoc, tokens?_quoted, List.cons_append, tokens?_colon, List.append_assoc,
        tokens?_quoted, List.cons_append, tokens?_comma, ih]
      simp [Function.comp_def, fieldTokens]

lemma run_fieldTokens {fields : List (String × String)} (h : fields ≠ [])
    (done : List (Option String × Tree)) (stack : List Frame) (ts : List Token) :
    run (.reading .name (.fields done :: stack)) (fieldTokens fields ++ ts) =
      run (.reading .separator (.fields ((fieldTrees fields).reverse ++ done) :: stack)) ts := by
  induction fields generalizing done with
  | nil => exact absurd rfl h
  | cons f rest ih =>
    obtain ⟨name, value⟩ := f
    cases rest with
    | nil => rfl
    | cons g more =>
      have hstep : run (.reading .name (.fields done :: stack))
          (fieldTokens ((name, value) :: g :: more) ++ ts) =
        run (.reading .name (.fields ((some name, .string (some value)) :: done) :: stack))
          (fieldTokens (g :: more) ++ ts) := rfl
      rw [hstep, ih (by simp)]
      simp [fieldTrees]

lemma tree_toText (r : Record) :
    Tree.ofText? r.toText = some (.object (fieldTrees r.fields)) := by
  have htokens : tokens? r.toText.toList =
      some (.openObject :: (fieldTokens r.fields ++ [.closeObject])) := by
    have hchars : r.toText.toList =
        '\x7b' :: (Value.compactFields (fieldValues r.fields) ++ ['\x7d']) := String.toList_ofList
    rw [hchars, Json.tokens?_mark rfl (fun _ => rfl), tokens?_compactFields,
      Json.tokens?_mark rfl (fun _ => rfl), Json.tokens?]
    rfl
  have hrun : run (.reading .value [])
      (.openObject :: (fieldTokens r.fields ++ [.closeObject])) =
        some (.finished (.object (fieldTrees r.fields))) := by
    by_cases h : r.fields = []
    · rw [h]
      rfl
    · have hopen : run (.reading .value [])
          (.openObject :: (fieldTokens r.fields ++ [.closeObject])) =
            run (.reading .name [.fields []]) (fieldTokens r.fields ++ [.closeObject]) := by
        cases hfields : r.fields with
        | nil => exact absurd hfields h
        | cons f rest => cases rest <;> rfl
      rw [hopen, run_fieldTokens h]
      simp [run, Json.step, Json.closeObject, Json.put]
  rw [Tree.ofText?, htokens]
  simp [hrun]

end Printing

section Reading

lemma strings?_fieldTrees (fields : List (String × String)) :
    strings? (fieldTrees fields) = some fields := by
  induction fields with
  | nil => rfl
  | cons f rest ih =>
    change (strings? (fieldTrees rest)).map _ = _
    rw [ih]
    rfl

lemma ofFields?_of_strings? {trees : List (Option String × Tree)}
    {pairs : List (String × String)} (h : strings? trees = some pairs) (depth : Nat)
    (done : List (String × Value)) :
    Value.ofFields? depth done trees = some (Fields.setAll done (fieldValues pairs)) := by
  induction trees generalizing pairs done with
  | nil =>
    cases h
    rfl
  | cons tree rest ih =>
    obtain ⟨name, tree⟩ := tree
    unfold strings? at h
    split at h
    · next heq => cases heq
    · next _ name value others heq =>
      cases heq
      obtain ⟨more, hmore, rfl⟩ := Option.map_eq_some_iff.mp h
      have hvalue : Value.ofTree? depth (.string (some value)) = some (.string value) := by
        rw [Value.ofTree?, Option.map_some]
      simp only [Value.ofFields?, hvalue]
      exact ih hmore _
    · cases h

lemma ofText?_eq_some_iff {text : String} {r : Record} : ofText? text = some r ↔
    ∃ trees pairs, Tree.ofText? text = some (.object trees) ∧ strings? trees = some pairs ∧
      r = ofList pairs := by
  unfold ofText?
  cases htree : Tree.ofText? text with
  | none => simp
  | some tree =>
    cases tree with
    | object trees => simp [Option.map_eq_some_iff, @eq_comm _ r]
    | _ => simp

lemma ofJson?_fieldValues (pairs : List (String × String)) :
    ofJson? (.object (Fields.setAll [] (fieldValues pairs))) = some (ofList pairs) := by
  have hcoerce : (Fields.setAll [] (fieldValues pairs)).map (Prod.map id coerce) =
      (ofList pairs).fields := by
    rw [Fields.map_setAll, fieldValues, List.map_map]
    have hid : Prod.map id coerce ∘ Prod.map (id : String → String) Value.string = id := rfl
    rw [hid, List.map_id]
    rfl
  change some (ofList ((Fields.setAll [] (fieldValues pairs)).map (Prod.map id coerce))) = _
  rw [hcoerce, ofList_fields]

/-- A record that is read strictly is read with its values made text as well. -/
lemma ofJson?_of_ofText? {text : String} {r : Record} (h : ofText? text = some r) :
    ∃ v, Value.ofText? text = some v ∧ ofJson? v = some r := by
  obtain ⟨trees, pairs, htree, hpairs, rfl⟩ := ofText?_eq_some_iff.mp h
  refine ⟨_, ?_, ofJson?_fieldValues pairs⟩
  rw [Value.ofText?, htree, Option.bind_some, Json.depthLimit, Value.ofTree?,
    ofFields?_of_strings? hpairs, Option.map_some]

lemma ofText?_toText (r : Record) : ofText? r.toText = some r :=
  ofText?_eq_some_iff.mpr ⟨_, _, tree_toText r, strings?_fieldTrees r.fields,
    (ofList_fields r).symm⟩

theorem records_survive_json :
    (∀ r : Record, ofText? r.toText = some r ∧ (Value.ofText? r.toText).bind ofJson? = some r) ∧
      ∀ text r, ofText? text = some r → (Value.ofText? text).bind ofJson? = some r := by
  have hcoerced : ∀ text r, ofText? text = some r →
      (Value.ofText? text).bind ofJson? = some r := by
    intro text r h
    obtain ⟨v, hv, hr⟩ := ofJson?_of_ofText? h
    rw [hv, Option.bind_some, hr]
  exact ⟨fun r => ⟨ofText?_toText r, hcoerced _ r (ofText?_toText r)⟩, hcoerced⟩

/-- A text in which a field is set twice, under two spellings of its name. -/
def sampleText : String := "\x7b\"k\\u0041\": \"\", \"kA\": \"\\ud83d\\ude00\\n\"\x7d"

theorem records_survive_json_repeatedName :
    ofText? sampleText = some (ofList [("kA", "😀\n")]) ∧
      (Value.ofText? sampleText).bind ofJson? = some (ofList [("kA", "😀\n")]) := by
  have h : ofText? sampleText = some (ofList [("kA", "😀\n")]) := by decide +kernel
  exact ⟨h, records_survive_json.2 _ _ h⟩

end Reading

end Record

end MailMerge
