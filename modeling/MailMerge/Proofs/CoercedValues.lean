import MailMerge.Proofs.JsonPrinting
import MailMerge.Proofs.RecordTexts
import Mathlib.Data.List.Nodup

/-!
# Values made text

A value that is neither a string nor null becomes its compact text, which is read as the value
again and has no blank characters outside its strings. Which record a JSON text gives depends only
on what it says: not on the spelling of its tokens and not on where its fields stand
(`coercion_keeps_values`).
-/

namespace MailMerge

namespace Fields

variable {α : Type} {fields others : List (String × α)}

/-- The last value that pairs have for a name. -/
def last? (name : String) (pairs : List (String × α)) : Option α :=
  (pairs.filter fun p => p.1 = name).getLast?.map Prod.snd

lemma get?_setAll_eq (name : String) (fields pairs : List (String × α)) :
    get? name (setAll fields pairs) = (last? name pairs).or (get? name fields) := by
  induction pairs generalizing fields with
  | nil => rfl
  | cons p rest ih =>
    rw [setAll_cons, ih, get?_set, last?, last?]
    by_cases hp : p.1 = name
    · rw [List.filter_cons_of_pos (by simpa using hp), List.getLast?_cons, if_pos hp]
      cases (rest.filter fun p => p.1 = name).getLast? <;> rfl
    · rw [List.filter_cons_of_neg (by simpa using hp), if_neg hp]

lemma get?_map {β : Type} (f : α → β) (name : String) (fields : List (String × α)) :
    get? name (fields.map (Prod.map id f)) = (get? name fields).map f := by
  induction fields with
  | nil => rfl
  | cons field rest ih =>
    obtain ⟨n, v⟩ := field
    rw [List.map_cons, Prod.map_apply, id, get?, get?, ih]
    split <;> rfl

lemma eq_of_get?_eq (hfields : Sorted fields) (hothers : Sorted others)
    (h : ∀ name, get? name fields = get? name others) : fields = others := by
  have hnodup := nodup_of_sorted hfields
  have hnodup' := nodup_of_sorted hothers
  have hmem : ∀ f, f ∈ fields ↔ f ∈ others := by
    rintro ⟨name, value⟩
    rw [← get?_eq_some_iff hnodup, ← get?_eq_some_iff hnodup', h]
  have hperm : fields.Perm others :=
    (List.perm_ext_iff_of_nodup (List.Nodup.of_map _ hnodup)
      (List.Nodup.of_map _ hnodup')).mpr hmem
  exact hperm.eq_of_pairwise (fun _ _ _ _ hab hba => absurd hba (String.lt_asymm hab)) hfields
    hothers

end Fields

namespace Json

section Fitting

mutual

/-- Containers are nested no deeper than this, and the fields of each object are sorted. -/
def Value.Fits (depth : Nat) : Value → Prop
  | .null | .bool _ | .number _ | .string _ => True
  | .array items => 0 < depth ∧ Value.ItemsFit (depth - 1) items
  | .object fields => 0 < depth ∧ Fields.Sorted fields ∧ Value.FieldsFit (depth - 1) fields

def Value.ItemsFit (depth : Nat) : List Value → Prop
  | [] => True
  | v :: rest => Value.Fits depth v ∧ Value.ItemsFit depth rest

def Value.FieldsFit (depth : Nat) : List (String × Value) → Prop
  | [] => True
  | (_, v) :: rest => Value.Fits depth v ∧ Value.FieldsFit depth rest

end

lemma Value.fieldsFit_iff {depth : Nat} {fields : List (String × Value)} :
    FieldsFit depth fields ↔ ∀ f ∈ fields, f.2.Fits depth := by
  induction fields with
  | nil => simp [FieldsFit]
  | cons f rest ih => rw [FieldsFit, ih, List.forall_mem_cons]

mutual

lemma Value.fits_mono {depth more : Nat} (h : depth ≤ more) (v : Value) (hv : v.Fits depth) :
    v.Fits more :=
  match v with
  | .null | .bool _ | .number _ | .string _ => trivial
  | .array items => by
    obtain ⟨hpos, hitems⟩ := hv
    exact ⟨by omega, Value.itemsFit_mono (by omega) items hitems⟩
  | .object fields => by
    obtain ⟨hpos, hsorted, hfields⟩ := hv
    exact ⟨by omega, hsorted, Value.fieldsFit_mono (by omega) fields hfields⟩

lemma Value.itemsFit_mono {depth more : Nat} (h : depth ≤ more) (items : List Value)
    (hitems : ItemsFit depth items) : ItemsFit more items :=
  match items with
  | [] => trivial
  | v :: rest => ⟨Value.fits_mono h v hitems.1, Value.itemsFit_mono h rest hitems.2⟩

lemma Value.fieldsFit_mono {depth more : Nat} (h : depth ≤ more) (fields : List (String × Value))
    (hfields : FieldsFit depth fields) : FieldsFit more fields :=
  match fields with
  | [] => trivial
  | (_, v) :: rest => ⟨Value.fits_mono h v hfields.1, Value.fieldsFit_mono h rest hfields.2⟩

end

lemma Value.ofFields?_cons_eq_some_iff {depth : Nat} {done out : List (String × Value)}
    {f : Option String × Tree} {rest : List (Option String × Tree)} :
    Value.ofFields? depth done (f :: rest) = some out ↔
      ∃ n v, f.1 = some n ∧ Value.ofTree? depth f.2 = some v ∧
        Value.ofFields? depth (Fields.set n v done) rest = some out := by
  obtain ⟨name, t⟩ := f
  cases name with
  | none => simp [ofFields?]
  | some n =>
    cases hvalue : Value.ofTree? depth t with
    | none => simp [ofFields?, hvalue]
    | some v => simp [ofFields?, hvalue]

mutual

lemma Value.fits_of_ofTree? (t : Tree) {depth : Nat} {v : Value}
    (h : Value.ofTree? depth t = some v) : v.Fits depth :=
  match t with
  | .null | .bool _ => by
    rw [ofTree?] at h
    cases h
    trivial
  | .number _ | .string _ => by
    rw [ofTree?] at h
    obtain ⟨_, -, rfl⟩ := Option.map_eq_some_iff.mp h
    trivial
  | .array items => by
    cases depth with
    | zero => cases h
    | succ d =>
      rw [ofTree?] at h
      obtain ⟨vs, hvs, rfl⟩ := Option.map_eq_some_iff.mp h
      exact ⟨Nat.succ_pos d, Value.itemsFit_of_ofItems? items hvs⟩
  | .object fields => by
    cases depth with
    | zero => cases h
    | succ d =>
      rw [ofTree?] at h
      obtain ⟨out, hout, rfl⟩ := Option.map_eq_some_iff.mp h
      obtain ⟨hsorted, hfit⟩ := Value.fieldsFit_of_ofFields? fields List.Pairwise.nil trivial hout
      exact ⟨Nat.succ_pos d, hsorted, hfit⟩

lemma Value.itemsFit_of_ofItems? (items : List Tree) {depth : Nat} {vs : List Value}
    (h : Value.ofItems? depth items = some vs) : ItemsFit depth vs :=
  match items with
  | [] => by
    cases h
    trivial
  | t :: rest => by
    rw [ofItems?] at h
    split at h
    · next v more hv hmore =>
      cases h
      exact ⟨Value.fits_of_ofTree? t hv, Value.itemsFit_of_ofItems? rest hmore⟩
    · cases h

lemma Value.fieldsFit_of_ofFields? (fields : List (Option String × Tree)) {depth : Nat}
    {done out : List (String × Value)} (hsorted : Fields.Sorted done) (hdone : FieldsFit depth done)
    (h : Value.ofFields? depth done fields = some out) :
    Fields.Sorted out ∧ FieldsFit depth out :=
  match fields with
  | [] => by
    cases h
    exact ⟨hsorted, hdone⟩
  | (name, t) :: rest => by
    obtain ⟨n, v, -, hv, hmore⟩ := ofFields?_cons_eq_some_iff.mp h
    refine Value.fieldsFit_of_ofFields? rest (Fields.sorted_set hsorted n v) ?_ hmore
    rw [fieldsFit_iff] at hdone ⊢
    intro f hf
    rcases Fields.mem_set hf with rfl | hf
    · exact Value.fits_of_ofTree? t hv
    · exact hdone f hf

end

mutual

lemma Value.ofTree?_toTree (v : Value) (hv : ∀ n ∈ v.numbers, n.IsWhole) {depth : Nat}
    (hfits : v.Fits depth) : Value.ofTree? depth v.toTree = some v :=
  match v with
  | .null | .bool _ | .string _ => by
    simp [toTree, ofTree?]
  | .number n => by
    rw [toTree, ofTree?, Number.number?_numeral (hv n List.mem_cons_self)]
    rfl
  | .array items => by
    obtain ⟨hpos, hitems⟩ := hfits
    obtain ⟨d, rfl⟩ := Nat.exists_eq_add_one_of_ne_zero (Nat.ne_of_gt hpos)
    rw [Nat.add_sub_cancel] at hitems
    rw [toTree, ofTree?, Value.ofItems?_itemTrees items hv hitems, Option.map_some]
  | .object fields => by
    obtain ⟨hpos, hsorted, hfields⟩ := hfits
    obtain ⟨d, rfl⟩ := Nat.exists_eq_add_one_of_ne_zero (Nat.ne_of_gt hpos)
    rw [Nat.add_sub_cancel] at hfields
    rw [toTree, ofTree?, Value.ofFields?_fieldTrees fields hv hfields,
      Fields.setAll_nil_of_sorted hsorted, Option.map_some]

lemma Value.ofItems?_itemTrees (items : List Value) (hv : ∀ n ∈ itemNumbers items, n.IsWhole)
    {depth : Nat} (hfits : ItemsFit depth items) :
    Value.ofItems? depth (itemTrees items) = some items :=
  match items with
  | [] => rfl
  | v :: rest => by
    rw [itemTrees, ofItems?,
      Value.ofTree?_toTree v (List.forall_mem_append.mp hv).1 hfits.1,
      Value.ofItems?_itemTrees rest (List.forall_mem_append.mp hv).2 hfits.2]

lemma Value.ofFields?_fieldTrees (fields : List (String × Value))
    (hv : ∀ n ∈ fieldNumbers fields, n.IsWhole) {depth : Nat} (hfits : FieldsFit depth fields)
    (done : List (String × Value)) :
    Value.ofFields? depth done (fieldTrees fields) = some (Fields.setAll done fields) :=
  match fields with
  | [] => rfl
  | (name, v) :: rest => by
    have hvalue := Value.ofTree?_toTree v (List.forall_mem_append.mp hv).1 hfits.1
    have hmore := Value.ofFields?_fieldTrees rest
      (List.forall_mem_append.mp hv).2 hfits.2 (Fields.set name v done)
    exact ofFields?_cons_eq_some_iff.mpr ⟨name, v, rfl, hvalue, hmore⟩

end

lemma Value.fits_of_ofText? {text : String} {v : Value} (h : Value.ofText? text = some v) :
    v.Fits depthLimit := by
  obtain ⟨tree, -, htree⟩ := Option.bind_eq_some_iff.mp h
  exact fits_of_ofTree? tree htree

lemma Value.ofText?_of_isText {tree : Tree} {text : String} (h : tree.IsText text) :
    Value.ofText? text = Value.ofTree? depthLimit tree := by
  rw [ofText?, Tree.ofText?_of_isText h, Option.bind_some]

lemma Value.ofText?_compact {v : Value} (hv : ∀ n ∈ v.numbers, n.IsWhole)
    (hfits : v.Fits depthLimit) : Value.ofText? (String.ofList v.compact) = some v := by
  rw [ofText?_of_isText (isText_compact hv), ofTree?_toTree v hv hfits]

end Fitting

section Order

/-- Trees that say the same, up to the order of fields with different names. -/
inductive Tree.Reordered : Tree → Tree → Prop
  | refl (t : Tree) : Reordered t t
  | trans {t u w : Tree} (htu : Reordered t u) (huw : Reordered u w) : Reordered t w
  | item (front : List Tree) {t u : Tree} (h : Reordered t u) (back : List Tree) :
      Reordered (.array (front ++ t :: back)) (.array (front ++ u :: back))
  | value (front : List (Option String × Tree)) (name : Option String) {t u : Tree}
      (h : Reordered t u) (back : List (Option String × Tree)) :
      Reordered (.object (front ++ (name, t) :: back)) (.object (front ++ (name, u) :: back))
  | fields {fs gs : List (Option String × Tree)}
      (h : ∀ name, fs.filter (fun f => f.1 = name) = gs.filter fun f => f.1 = name) :
      Reordered (.object fs) (.object gs)

/-- A field is read as this named value. -/
def IsField (depth : Nat) (f : Option String × Tree) (p : String × Value) : Prop :=
  f.1 = some p.1 ∧ Value.ofTree? depth f.2 = some p.2

variable {depth : Nat} {fs gs : List (Option String × Tree)}

lemma rightUnique_isField : Relator.RightUnique (IsField depth) := by
  rintro f ⟨name, v⟩ ⟨name', v'⟩ ⟨hname, hv⟩ ⟨hname', hv'⟩
  exact Prod.ext (Option.some.inj (hname.symm.trans hname')) (Option.some.inj (hv.symm.trans hv'))

lemma Value.ofFields?_eq_some_iff {done out : List (String × Value)} :
    Value.ofFields? depth done fs = some out ↔
      ∃ pairs, List.Forall₂ (IsField depth) fs pairs ∧ out = Fields.setAll done pairs := by
  induction fs generalizing done with
  | nil => simp [ofFields?, Fields.setAll, eq_comm]
  | cons f rest ih =>
    rw [ofFields?_cons_eq_some_iff]
    constructor
    · rintro ⟨n, v, hname, hvalue, hmore⟩
      obtain ⟨pairs, hpairs, rfl⟩ := ih.mp hmore
      exact ⟨(n, v) :: pairs, .cons ⟨hname, hvalue⟩ hpairs, rfl⟩
    · rintro ⟨_, hpairs, rfl⟩
      cases hpairs with
      | cons hfield hrest =>
        exact ⟨_, _, hfield.1, hfield.2, ih.mpr ⟨_, hrest, rfl⟩⟩

lemma exists_forall₂_isField (h : ∀ f ∈ fs, ∃ p, IsField depth f p) :
    ∃ pairs, List.Forall₂ (IsField depth) fs pairs := by
  induction fs with
  | nil => exact ⟨[], .nil⟩
  | cons f rest ih =>
    obtain ⟨⟨p, hp⟩, hrest⟩ := List.forall_mem_cons.mp h
    obtain ⟨pairs, hpairs⟩ := ih hrest
    exact ⟨p :: pairs, .cons hp hpairs⟩

lemma exists_isField {pairs : List (String × Value)} (h : List.Forall₂ (IsField depth) fs pairs) :
    ∀ f ∈ fs, ∃ p, IsField depth f p := by
  induction h with
  | nil => exact nofun
  | cons hp _ ih => exact List.forall_mem_cons.mpr ⟨⟨_, hp⟩, ih⟩

lemma filter_isField {pairs : List (String × Value)}
    (h : List.Forall₂ (IsField depth) fs pairs) (name : String) :
    List.Forall₂ (IsField depth) (fs.filter fun f => f.1 = some name)
      (pairs.filter fun p => p.1 = name) := by
  refine List.rel_filter (fun f p hfield => ?_) h
  simp [hfield.1]

lemma Value.ofFields?_of_filter_eq
    (h : ∀ name, fs.filter (fun f => f.1 = name) = gs.filter fun f => f.1 = name)
    {out : List (String × Value)} (hout : Value.ofFields? depth [] fs = some out) :
    Value.ofFields? depth [] gs = some out := by
  obtain ⟨pairs, hpairs, rfl⟩ := ofFields?_eq_some_iff.mp hout
  have hmem : ∀ g ∈ gs, g ∈ fs := by
    intro g hg
    have hfilter : g ∈ gs.filter fun f => f.1 = g.1 := List.mem_filter.mpr ⟨hg, by simp⟩
    rw [← h] at hfilter
    exact (List.mem_filter.mp hfilter).1
  obtain ⟨pairs', hpairs'⟩ := exists_forall₂_isField fun g hg =>
    exists_isField hpairs g (hmem g hg)
  have hlast : ∀ name, Fields.last? name pairs = Fields.last? name pairs' := by
    intro name
    have hfilter := filter_isField hpairs name
    rw [h] at hfilter
    rw [Fields.last?, Fields.last?,
      rightUnique_isField.forall₂ hfilter (filter_isField hpairs' name)]
  refine ofFields?_eq_some_iff.mpr ⟨pairs', hpairs', ?_⟩
  refine Fields.eq_of_get?_eq (Fields.sorted_setAll .nil _) (Fields.sorted_setAll .nil _) ?_
  intro name
  rw [Fields.get?_setAll_eq, Fields.get?_setAll_eq, hlast]

lemma Value.ofItems?_of_item {t u : Tree} (h : Value.ofTree? depth t = Value.ofTree? depth u)
    (front back : List Tree) :
    Value.ofItems? depth (front ++ t :: back) = Value.ofItems? depth (front ++ u :: back) := by
  induction front with
  | nil => rw [List.nil_append, List.nil_append, ofItems?.eq_2, ofItems?.eq_2, h]
  | cons w front ih => rw [List.cons_append, List.cons_append, ofItems?.eq_2, ofItems?.eq_2, ih]

lemma Value.ofFields?_of_value {t u : Tree} (h : Value.ofTree? depth t = Value.ofTree? depth u)
    (front : List (Option String × Tree)) (name : Option String)
    (back : List (Option String × Tree)) (done : List (String × Value)) :
    Value.ofFields? depth done (front ++ (name, t) :: back) =
      Value.ofFields? depth done (front ++ (name, u) :: back) := by
  apply Option.ext
  intro out
  induction front generalizing done with
  | nil =>
    rw [List.nil_append, List.nil_append, ofFields?_cons_eq_some_iff, ofFields?_cons_eq_some_iff]
    dsimp only
    rw [h]
  | cons f front ih =>
    rw [List.cons_append, List.cons_append, ofFields?_cons_eq_some_iff, ofFields?_cons_eq_some_iff]
    simp only [ih]

/-- The order of fields does not change the value. -/
lemma Tree.Reordered.ofTree?_eq {t u : Tree} (h : t.Reordered u) (depth : Nat) :
    Value.ofTree? depth t = Value.ofTree? depth u := by
  induction h generalizing depth with
  | refl => rfl
  | trans _ _ iht ihu => rw [iht, ihu]
  | item front _ back ih =>
    cases depth with
    | zero => rfl
    | succ d => rw [Value.ofTree?, Value.ofTree?, Value.ofItems?_of_item (ih d)]
  | value front name _ back ih =>
    cases depth with
    | zero => rfl
    | succ d => rw [Value.ofTree?, Value.ofTree?, Value.ofFields?_of_value (ih d)]
  | fields h =>
    cases depth with
    | zero => rfl
    | succ d =>
      rw [Value.ofTree?, Value.ofTree?]
      congr 1
      apply Option.ext
      intro out
      exact ⟨Value.ofFields?_of_filter_eq h, Value.ofFields?_of_filter_eq fun name => (h name).symm⟩

lemma Tree.Reordered.swap {f g : Option String × Tree} (h : f.1 ≠ g.1)
    (front back : List (Option String × Tree)) :
    Reordered (.object (front ++ f :: g :: back)) (.object (front ++ g :: f :: back)) := by
  refine .fields fun name => ?_
  rw [List.filter_append, List.filter_append]
  congr 1
  by_cases hf : f.1 = name
  · have hg : g.1 ≠ name := fun hg => h (hf.trans hg.symm)
    simp [hf, hg]
  · simp [List.filter_cons, hf]

end Order

section Solid

/-- The characters of a text outside its strings and the quotes that open these; `inside` is for a
text that begins in a string. -/
def beyondStrings : (inside : Bool) → List Char → List Char
  | _, [] => []
  | true, '\\' :: _ :: rest => beyondStrings true rest
  | true, c :: rest => beyondStrings (c ≠ '"') rest
  | false, c :: rest => c :: beyondStrings (c = '"') rest

/-- No character outside strings is blank. -/
def IsSolid (text : List Char) : Prop :=
  ∀ c ∈ beyondStrings false text, Text.isBlank c = false

instance (text : List Char) : Decidable (IsSolid text) :=
  inferInstanceAs (Decidable (∀ c ∈ beyondStrings false text, Text.isBlank c = false))

lemma beyondStrings_of_plain {c : Char} (hquote : c ≠ '"') (hback : c ≠ '\\') (rest : List Char) :
    beyondStrings true (c :: rest) = beyondStrings true rest := by
  rw [beyondStrings]
  · simp [hquote]
  · simp [hback]

lemma ne_of_isHexDigit {n : Nat} {c : Char} (h : IsHexDigit n c) : c ≠ '"' ∧ c ≠ '\\' := by
  have hall : ∀ m < 16, ∀ d ∈ [Nat.digitChar m, (Nat.digitChar m).toUpper], d ≠ '"' ∧ d ≠ '\\' := by
    simp only [List.mem_cons, List.not_mem_nil, or_false, forall_eq_or_imp, forall_eq]
    decide
  exact hall n h.1 c (by simpa using h.2)

lemma StringPart.IsSpelled.beyondStrings {part : StringPart} {cs : List Char}
    (h : part.IsSpelled cs) (rest : List Char) :
    beyondStrings true (cs ++ rest) = Json.beyondStrings true rest := by
  cases h with
  | plain hquote hback _ => exact beyondStrings_of_plain hquote hback rest
  | short _ => rfl
  | unit ha hb hc hd =>
    have hplain {n : Nat} {c : Char} (h : IsHexDigit n c) (rest : List Char) :
        Json.beyondStrings true (c :: rest) = Json.beyondStrings true rest :=
      beyondStrings_of_plain (ne_of_isHexDigit h).1 (ne_of_isHexDigit h).2 rest
    simp only [List.cons_append, List.nil_append, Json.beyondStrings]
    rw [hplain ha, hplain hb, hplain hc, hplain hd]

lemma beyondStrings_of_forall₂ {parts : List StringPart} {texts : List (List Char)}
    (h : List.Forall₂ StringPart.IsSpelled parts texts) (rest : List Char) :
    beyondStrings true (texts.flatten ++ rest) = beyondStrings true rest := by
  induction h with
  | nil => rfl
  | cons hpart _ ih => rw [List.flatten_cons, List.append_assoc, hpart.beyondStrings, ih]

variable {cs ds rest : List Char}

lemma isSolid_cons {c : Char} (hquote : c ≠ '"') (hblank : Text.isBlank c = false)
    (h : IsSolid rest) : IsSolid (c :: rest) := by
  rw [IsSolid, beyondStrings, decide_eq_false hquote]
  exact List.forall_mem_cons.mpr ⟨hblank, h⟩

lemma isSolid_append (hquote : '"' ∉ cs) (hblank : cs.any Text.isBlank = false)
    (h : IsSolid rest) : IsSolid (cs ++ rest) := by
  induction cs with
  | nil => exact h
  | cons c cs ih =>
    rw [List.mem_cons, not_or] at hquote
    rw [List.any_cons, Bool.or_eq_false_iff] at hblank
    obtain ⟨hc, hcs⟩ := hblank
    exact isSolid_cons (Ne.symm hquote.1) hc (ih hquote.2 hcs)

lemma isSolid_quoted (s : String) (h : IsSolid rest) : IsSolid (quoted s ++ rest) := by
  obtain ⟨parts, texts, hparts, htexts, -⟩ := exists_isSpelled_flatMap s.toList
  rw [IsSolid, quoted, ← htexts, List.cons_append, List.append_assoc, beyondStrings,
    decide_eq_true rfl, beyondStrings_of_forall₂ hparts]
  exact List.forall_mem_cons.mpr ⟨by decide, h⟩

lemma not_isBlank_of_isDigit {c : Char} (h : Digits.isDigit c = true) :
    c ≠ '"' ∧ Text.isBlank c = false := by
  have hrange : 48 ≤ c.toNat ∧ c.toNat ≤ 57 := by
    simpa [Digits.isDigit, Char.le_def, UInt32.le_iff_toNat_le] using h
  refine ⟨?_, ?_⟩
  · rintro rfl
    exact absurd h (by decide)
  · simp only [Text.isBlank, Bool.or_eq_false_iff, Bool.and_eq_false_iff, decide_eq_false_iff_not,
      beq_eq_false_iff_ne]
    omega

lemma isSolid_digits (n : Nat) (h : IsSolid rest) : IsSolid (Digits.ofNat n ++ rest) :=
  isSolid_append (fun hmem => (not_isBlank_of_isDigit (isDigit_of_mem_ofNat hmem)).1 rfl)
    (List.any_eq_false.mpr fun _ hc =>
      Bool.eq_false_iff.mp (not_isBlank_of_isDigit (isDigit_of_mem_ofNat hc)).2) h

lemma isSolid_text {n : Number} (hn : n.IsWhole) (h : IsSolid rest) : IsSolid (n.text ++ rest) := by
  cases n with
  | integer k =>
    rw [Number.text]
    split
    · exact isSolid_cons (by decide) (by decide) (isSolid_digits _ h)
    · exact isSolid_digits _ h
  | real x =>
    cases hn
    change IsSolid (['-', '0', '.', '0'] ++ rest)
    exact isSolid_append (by decide) (by decide) h

mutual

lemma Value.isSolid_compact (v : Value) (hv : ∀ n ∈ v.numbers, n.IsWhole) {rest : List Char}
    (hrest : IsSolid rest) : IsSolid (v.compact ++ rest) :=
  match v with
  | .null | .bool true | .bool false => isSolid_append (by decide) (by decide) hrest
  | .number n => isSolid_text (hv n List.mem_cons_self) hrest
  | .string s => isSolid_quoted s hrest
  | .array items => by
    have hitems := Value.isSolid_compactItems items hv
      (isSolid_cons (c := ']') (by decide) (by decide) hrest)
    rw [compact, List.cons_append, List.append_assoc]
    exact isSolid_cons (by decide) (by decide) hitems
  | .object fields => by
    have hfields := Value.isSolid_compactFields fields hv
      (isSolid_cons (c := '\x7d') (by decide) (by decide) hrest)
    rw [compact, List.cons_append, List.append_assoc]
    exact isSolid_cons (by decide) (by decide) hfields

lemma Value.isSolid_compactItems (items : List Value) (hv : ∀ n ∈ itemNumbers items, n.IsWhole)
    {rest : List Char} (hrest : IsSolid rest) : IsSolid (compactItems items ++ rest) :=
  match items with
  | [] => hrest
  | [v] => Value.isSolid_compact v (List.forall_mem_append.mp hv).1 hrest
  | v :: w :: more => by
    have hmore := Value.isSolid_compactItems (w :: more)
      (List.forall_mem_append.mp hv).2 hrest
    rw [compactItems, List.append_assoc]
    exact Value.isSolid_compact v (List.forall_mem_append.mp hv).1
      (isSolid_cons (by decide) (by decide) hmore)

lemma Value.isSolid_compactFields (fields : List (String × Value))
    (hv : ∀ n ∈ fieldNumbers fields, n.IsWhole) {rest : List Char} (hrest : IsSolid rest) :
    IsSolid (compactFields fields ++ rest) :=
  match fields with
  | [] => hrest
  | [(name, v)] => by
    have hvalue := Value.isSolid_compact v (List.forall_mem_append.mp hv).1 hrest
    rw [compactFields, List.append_assoc]
    exact isSolid_quoted name (isSolid_cons (by decide) (by decide) hvalue)
  | (name, v) :: f :: more => by
    have hmore := Value.isSolid_compactFields (f :: more)
      (List.forall_mem_append.mp hv).2 hrest
    have hvalue := Value.isSolid_compact v (List.forall_mem_append.mp hv).1
      (isSolid_cons (c := ',') (by decide) (by decide) hmore)
    rw [compactFields, List.append_assoc, List.cons_append, List.append_assoc, List.cons_append]
    exact isSolid_quoted name (isSolid_cons (by decide) (by decide) hvalue)

end

end Solid

end Json

namespace Record

open Json

/-- A value that becomes text by being printed: all but strings, which are text, and null, which is
nothing. -/
def IsPrinted : Value → Prop
  | .null | .string _ => False
  | .bool _ | .number _ | .array _ | .object _ => True

lemma coerce_of_isPrinted {v : Value} (h : IsPrinted v) : coerce v = String.ofList v.compact := by
  cases v with
  | null => exact h.elim
  | string _ => exact h.elim
  | _ => rfl

/-- The record of an object has the names of its fields, with their values made text. -/
lemma get?_ofJson? {fields : List (String × Value)} (h : Fields.Sorted fields) (name : String) :
    (ofList (fields.map (Prod.map id coerce))).get? name =
      (Fields.get? name fields).map coerce := by
  have hmap := Fields.map_setAll coerce [] fields
  rw [Fields.setAll_nil_of_sorted h] at hmap
  change Fields.get? name (Fields.setAll [] (fields.map (Prod.map id coerce))) = _
  rw [← List.map_nil (f := Prod.map id coerce), ← hmap, Fields.get?_map]

/-- A value that is printed is read from its text again, without blank characters outside strings,
and the record depends only on what the text says. -/
theorem coercion_keeps_values :
    (∀ text fields, Value.ofText? text = some (.object fields) →
      ∃ r, ofJson? (.object fields) = some r ∧
        ∀ name v, (name, v) ∈ fields → IsPrinted v → (∀ n ∈ v.numbers, n.IsWhole) →
          ∃ stored, r.get? name = some stored ∧ Value.ofText? stored = some v ∧
            IsSolid stored.toList) ∧
      ∀ tree tree' text text', Tree.Reordered tree tree' → tree.IsText text →
        tree'.IsText text' →
          (Value.ofText? text).bind ofJson? = (Value.ofText? text').bind ofJson? := by
  refine ⟨fun text fields h => ⟨_, rfl, fun name v hmem hprinted hwhole => ?_⟩,
    fun tree tree' text text' hreordered htext htext' => ?_⟩
  · obtain ⟨-, hsorted, hfit⟩ := Value.fits_of_ofText? h
    have hfits : v.Fits depthLimit :=
      Value.fits_mono (Nat.sub_le _ 1) v (Value.fieldsFit_iff.mp hfit (name, v) hmem)
    have hsolid : IsSolid (v.compact ++ []) := v.isSolid_compact hwhole nofun
    rw [List.append_nil] at hsolid
    have hfound := (Fields.get?_eq_some_iff (Fields.nodup_of_sorted hsorted)).mpr hmem
    have hstored := get?_ofJson? hsorted name
    rw [hfound] at hstored
    refine ⟨_, hstored, ?_⟩
    rw [coerce_of_isPrinted hprinted, String.toList_ofList]
    exact ⟨Value.ofText?_compact hwhole hfits, hsolid⟩
  · rw [Value.ofText?_of_isText htext, Value.ofText?_of_isText htext', hreordered.ofTree?_eq]

/-- A text with the smallest and the greatest whole number. -/
def sampleObject : String :=
  "\x7b\"list\": [-9223372036854775808, \x7b\"b\": true\x7d, \"\\n\"], " ++
    "\"high\": 18446744073709551615\x7d"

def sampleList : Value :=
  .array [.number (.integer (-9223372036854775808)), .object [("b", .bool true)], .string "\n"]

def sampleHigh : Value :=
  .number (.integer 18446744073709551615)

lemma ofText?_sampleObject :
    Value.ofText? sampleObject = some (.object [("high", sampleHigh), ("list", sampleList)]) := by
  have htokens : tokens? sampleObject.toList =
      some [.openObject, .string (some "list"), .colon, .openArray,
        .number ⟨true, "9223372036854775808".toList, [], none⟩, .comma, .openObject,
        .string (some "b"), .colon, .bool true, .closeObject, .comma, .string (some "\n"),
        .closeArray, .comma, .string (some "high"), .colon,
        .number ⟨false, "18446744073709551615".toList, [], none⟩, .closeObject] := by
    decide +kernel
  rw [Value.ofText?, Tree.ofText?, htokens]
  rfl

theorem coercion_keeps_values_nested :
    (∃ r stored, ofJson? (.object [("high", sampleHigh), ("list", sampleList)]) = some r ∧
      r.get? "list" = some stored ∧ Value.ofText? stored = some sampleList ∧
        IsSolid stored.toList) ∧
      (Value.ofText? (String.ofList (Value.object
        [("list", sampleList), ("high", sampleHigh)]).compact)).bind ofJson? =
      (Value.ofText? (String.ofList ((Value.object
        [("high", sampleHigh), ("list", sampleList)]).indented 0))).bind ofJson? := by
  constructor
  · obtain ⟨r, hr, hvalues⟩ := coercion_keeps_values.1 _ _ ofText?_sampleObject
    obtain ⟨stored, hstored, hread, hsolid⟩ := hvalues "list" sampleList
      (List.mem_cons_of_mem _ List.mem_cons_self) trivial (by decide)
    exact ⟨r, stored, hr, hstored, hread, hsolid⟩
  · have hswap : Tree.Reordered (Value.object [("list", sampleList), ("high", sampleHigh)]).toTree
        (Value.object [("high", sampleHigh), ("list", sampleList)]).toTree :=
      .swap (by decide) [] []
    exact coercion_keeps_values.2 _ _ _ _ hswap (Value.isText_compact (by decide))
      (Value.isText_indented (by decide) 0)

end Record

end MailMerge
