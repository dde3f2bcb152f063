import MailMerge.Record
import Mathlib.Tactic.Lemma

/-!
# Looking up fields

Setting a field gives its name the new value and changes no other one (`get?_set`). Where no name
occurs twice, looking up finds exactly the pairs that are there, so their order does not matter, and
setting all of them puts them over what was there before.
-/

namespace MailMerge

namespace Fields

variable {α : Type}

lemma get?_set (name other : String) (value : α) (fields : List (String × α)) :
    get? other (set name value fields) =
      if name = other then some value else get? other fields := by
  induction fields with
  | nil => rfl
  | cons f rest ih =>
    obtain ⟨n, v⟩ := f
    rw [set]
    split
    · rfl
    · split
      · next h =>
        subst h
        rw [get?, get?]
        split <;> rfl
      · next h =>
        rw [get?, get?, ih]
        by_cases hn : n = other
        · subst hn
          rw [if_pos rfl, if_neg h, if_pos rfl]
        · rw [if_neg hn, if_neg hn]

lemma get?_eq_none_iff {name : String} {fields : List (String × α)} :
    get? name fields = none ↔ name ∉ fields.map Prod.fst := by
  induction fields with
  | nil => simp [get?]
  | cons f rest ih =>
    rw [get?, List.map_cons, List.mem_cons, not_or, ← ih]
    split
    · next h => simp [h]
    · next h => simp [Ne.symm h]

lemma get?_eq_some_iff {fields : List (String × α)} (h : (fields.map Prod.fst).Nodup)
    {name : String} {value : α} : get? name fields = some value ↔ (name, value) ∈ fields := by
  induction fields with
  | nil => simp [get?]
  | cons f rest ih =>
    obtain ⟨n, v⟩ := f
    obtain ⟨hfirst, hrest⟩ := List.nodup_cons.mp h
    rw [get?, List.mem_cons, Prod.mk.injEq, ← ih hrest]
    split
    · next hn =>
      have hnone : get? name rest = none := get?_eq_none_iff.mpr (hn ▸ hfirst)
      simp [hn, hnone, eq_comm]
    · next hn => simp [Ne.symm hn]

lemma get?_of_perm {fields pairs : List (String × α)} (h : (fields.map Prod.fst).Nodup)
    (hperm : pairs.Perm fields) (name : String) : get? name pairs = get? name fields := by
  have hpairs : (pairs.map Prod.fst).Nodup := (hperm.map Prod.fst).nodup_iff.mpr h
  apply Option.ext
  intro value
  rw [get?_eq_some_iff hpairs, get?_eq_some_iff h, hperm.mem_iff]

lemma setAll_cons (fields : List (String × α)) (p : String × α) (pairs : List (String × α)) :
    setAll fields (p :: pairs) = setAll (set p.1 p.2 fields) pairs := rfl

lemma get?_setAll {pairs : List (String × α)} (h : (pairs.map Prod.fst).Nodup)
    (fields : List (String × α)) (name : String) :
    get? name (setAll fields pairs) = (get? name pairs).or (get? name fields) := by
  induction pairs generalizing fields with
  | nil => rfl
  | cons p rest ih =>
    obtain ⟨hfirst, hrest⟩ := List.nodup_cons.mp h
    rw [setAll_cons, ih hrest, get?_set, get?]
    split
    · next hn =>
      have hnone : get? name rest = none := get?_eq_none_iff.mpr (hn ▸ hfirst)
      rw [hnone, Option.none_or, Option.some_or]
    · rfl

lemma nodup_of_sorted {fields : List (String × α)} (h : Sorted fields) :
    (fields.map Prod.fst).Nodup := by
  rw [List.Nodup, List.pairwise_map]
  refine h.imp fun {a b} hlt heq => ?_
  rw [heq] at hlt
  exact String.lt_irrefl _ hlt

end Fields

namespace Record

lemma get?_eq_some_iff {r : Record} {name value : String} :
    r.get? name = some value ↔ (name, value) ∈ r.fields :=
  Fields.get?_eq_some_iff (Fields.nodup_of_sorted r.sorted)

lemma get?_ofList {pairs : List (String × String)} (h : (pairs.map Prod.fst).Nodup)
    (name : String) : (ofList pairs).get? name = Fields.get? name pairs := by
  change Fields.get? name (Fields.setAll [] pairs) = _
  rw [Fields.get?_setAll h, Fields.get?, Option.or_none]

lemma get?_extend (r other : Record) (name : String) :
    (r.extend other).get? name = (other.get? name).or (r.get? name) :=
  Fields.get?_setAll (Fields.nodup_of_sorted other.sorted) r.fields name

/-- No value of the record has this character. -/
def Lacks (r : Record) (c : Char) : Prop :=
  ∀ f ∈ r.fields, c ∉ f.2.toList

instance (r : Record) (c : Char) : Decidable (r.Lacks c) :=
  inferInstanceAs (Decidable (∀ f ∈ r.fields, c ∉ f.2.toList))

end Record

end MailMerge
