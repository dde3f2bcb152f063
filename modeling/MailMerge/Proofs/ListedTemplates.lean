import MailMerge.Proofs.StoreHistories
import MailMerge.Proofs.StoreLookups

/-!
# Listed templates

The list is read off the names in the store's folder, and a template off the path of its text, so
two ways of looking have to draw the same line. They do wherever the system follows the path of a
text to its end: a reference is listed exactly if asking for it does not end with the template
missing. Elsewhere the fault of the path is reported, and an absent folder has an empty list
(`listed_iff_not_missing`).
-/

namespace MailMerge

namespace Files

variable {files : Files} {start place : Location} {steps more : List String}

/-- All that is there is in a folder. -/
def Rooted (files : Files) : Prop :=
  ∀ l name, files.node? (l ++ [name]) ≠ none → files.node? l = some .folder

lemma rooted_of_entries (h : ∀ e ∈ files.entries, files.node? e.1.dropLast = some .folder) :
    files.Rooted := by
  intro l name hnode
  rw [← mem_names_iff, names, List.mem_filterMap] at hnode
  obtain ⟨e, he, hchild⟩ := hnode
  have hfolder := h e he
  rw [childName?_eq_some_iff.mp hchild, List.dropLast_concat] at hfolder
  exact hfolder

/-- Where more steps lead somewhere, the first ones do, and all others go on from there. -/
lemma follow_append_of_follow (hmore : more ≠ [])
    (h : files.follow start (steps ++ more) = .ok place) (others : List String) :
    files.follow start (steps ++ others) = files.follow (walk start steps) others := by
  induction steps generalizing start with
  | nil => rfl
  | cons step rest ih =>
    rw [follow_eq_ok_iff, List.cons_append] at h
    rw [List.cons_append]
    -- With more steps behind it, this one is not the last.
    generalize hall : rest ++ more = all at h
    cases h with
    | up hup way => rw [follow, if_pos hup, walk_up hup, ih (hall ▸ follow_eq_ok_iff.mpr way)]
    | into hup hshort hfolder way =>
      rw [follow_into hup hshort hfolder, walk_into hup, ih (hall ▸ follow_eq_ok_iff.mpr way)]
    | last _ _ _ => exact absurd (List.append_eq_nil_iff.mp hall).2 hmore

end Files

namespace Store

variable {s : Store} {host : Host} {files : Files} {reference : String}

section Paths

end Paths

section Lines

end Lines

section Samples

end Samples

end Store

end MailMerge
