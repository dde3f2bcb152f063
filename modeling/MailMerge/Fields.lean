/-!
# Sorted fields

Lists of named values in strictly ascending order of the names. Setting a name that is there
replaces its value, so the last of several values set for a name is the one that stays.
-/

namespace MailMerge.Fields

variable {α : Type}

def Sorted (fields : List (String × α)) : Prop :=
  fields.Pairwise fun a b => a.1 < b.1

def set (name : String) (value : α) : List (String × α) → List (String × α)
  | [] => [(name, value)]
  | (n, v) :: rest =>
    if name < n then (name, value) :: (n, v) :: rest
    else if name = n then (name, value) :: rest
    else (n, v) :: set name value rest

def get? (name : String) : List (String × α) → Option α
  | [] => none
  | (n, v) :: rest => if n = name then some v else get? name rest

/-- Sets every pair of a list, from the left. -/
def setAll (fields pairs : List (String × α)) : List (String × α) :=
  pairs.foldl (fun fs p => set p.1 p.2 fs) fields

theorem mem_set {name : String} {value : α} {fields : List (String × α)} {p : String × α}
    (h : p ∈ set name value fields) : p = (name, value) ∨ p ∈ fields := by
  induction fields with
  | nil => simpa [set] using h
  | cons f rest ih =>
    obtain ⟨n, v⟩ := f
    rw [set] at h
    split at h
    · simpa using h
    · split at h
      · rcases List.mem_cons.1 h with rfl | h
        · exact .inl rfl
        · exact .inr (List.mem_cons_of_mem _ h)
      · rcases List.mem_cons.1 h with rfl | h
        · exact .inr List.mem_cons_self
        · exact (ih h).imp id (List.mem_cons_of_mem _)

theorem sorted_set {fields : List (String × α)} (h : Sorted fields) (name : String) (value : α) :
    Sorted (set name value fields) := by
  induction fields with
  | nil => simp [set, Sorted]
  | cons f rest ih =>
    obtain ⟨n, v⟩ := f
    have ⟨hn, hrest⟩ := List.pairwise_cons.1 h
    rw [set]
    split
    · next lt =>
      refine List.pairwise_cons.2 ⟨fun p hp => ?_, h⟩
      rcases List.mem_cons.1 hp with rfl | hp
      · exact lt
      · exact String.lt_trans lt (hn p hp)
    · next nlt =>
      split
      · next eq => subst eq; exact List.pairwise_cons.2 ⟨hn, hrest⟩
      · next ne =>
        refine List.pairwise_cons.2 ⟨fun p hp => ?_, ih hrest⟩
        rcases mem_set hp with rfl | hp
        · have hle : n ≤ name := String.not_lt.1 nlt
          exact String.not_le.1 fun hle' => ne (String.le_antisymm hle' hle)
        · exact hn p hp

theorem sorted_setAll {fields : List (String × α)} (h : Sorted fields)
    (pairs : List (String × α)) : Sorted (setAll fields pairs) := by
  induction pairs generalizing fields with
  | nil => exact h
  | cons p ps ih => exact ih (sorted_set h p.1 p.2)

end MailMerge.Fields
