import MailMerge.Proofs.FileReplacing
import Mathlib.Data.List.Perm.Basic

/-!
# Files that are held

Programs that write to one tree hold the files that they have made and nobody else knows of. As
long as no two of them hold the same place, each may change what it holds as if it were alone:
the tree is always the first one with the held files in places where nothing was (`Overlay`).
-/

namespace MailMerge.Files

variable {base files : Files} {held held' : List (Location × Bytes)} {place : Location}
  {content content' : Bytes} {executable : Bool}

/-- The tree is another one with the held files in addition. -/
structure Overlay (base : Files) (held : List (Location × Bytes)) (files : Files) : Prop where
  apart : (held.map Prod.fst).Nodup
  free : ∀ e ∈ held, base.node? e.1 = none
  node : ∀ e ∈ held, files.node? e.1 = some (.file e.2 false)
  rest : ∀ l, l ∉ held.map Prod.fst → files.node? l = base.node? l

namespace Overlay

lemma nil (base : Files) : Overlay base [] base :=
  ⟨List.nodup_nil, by simp, by simp, fun _ _ => rfl⟩

lemma perm (h : Overlay base held files) (hperm : held.Perm held') : Overlay base held' files where
  apart := (hperm.map Prod.fst).nodup_iff.mp h.apart
  free e he := h.free e (hperm.mem_iff.mpr he)
  node e he := h.node e (hperm.mem_iff.mpr he)
  rest l hl := h.rest l fun hmem => hl ((hperm.map Prod.fst).mem_iff.mp hmem)

lemma congr {files' : Files} (h : Overlay base held files) (hnode : files'.node? = files.node?) :
    Overlay base held files' where
  apart := h.apart
  free := h.free
  node e he := hnode ▸ h.node e he
  rest l hl := hnode ▸ h.rest l hl

lemma sameFolders (h : Overlay base held files) : SameFolders base files := by
  intro l
  by_cases hl : l ∈ held.map Prod.fst
  · obtain ⟨e, he, rfl⟩ := List.mem_map.mp hl
    rw [h.free e he, h.node e he]
    simp
  · rw [h.rest l hl]

lemma not_mem_of_free (h : Overlay base held files) (hfree : files.node? place = none) :
    place ∉ held.map Prod.fst := by
  intro hmem
  obtain ⟨e, he, rfl⟩ := List.mem_map.mp hmem
  rw [h.node e he] at hfree
  cases hfree

lemma put (h : Overlay base held files) (hfree : files.node? place = none) (content : Bytes) :
    Overlay base ((place, content) :: held) (files.put place (.file content false)) := by
  have hplace : place ≠ [] := ne_nil_of_free hfree
  have hnew := h.not_mem_of_free hfree
  refine ⟨List.nodup_cons.mpr ⟨hnew, h.apart⟩, ?_, ?_, ?_⟩
  · rw [List.forall_mem_cons]
    exact ⟨(h.rest place hnew).symm.trans hfree, h.free⟩
  · rw [List.forall_mem_cons]
    refine ⟨by rw [node?_put files hplace, if_pos rfl], fun e he => ?_⟩
    have hother : e.1 ≠ place := fun hsame => hnew (List.mem_map.mpr ⟨e, he, hsame⟩)
    rw [node?_put files hplace, if_neg hother, h.node e he]
  · intro l hl
    rw [List.map_cons, List.mem_cons, not_or] at hl
    rw [node?_put files hplace, if_neg hl.1, h.rest l hl.2]

lemma ne_nil (h : Overlay base ((place, content) :: held) files) : place ≠ [] :=
  ne_nil_of_free (h.free _ List.mem_cons_self)

lemma erase (h : Overlay base ((place, content) :: held) files) :
    Overlay base held (files.erase place) := by
  obtain ⟨hnew, hapart⟩ := List.nodup_cons.mp h.apart
  refine ⟨hapart, fun e he => h.free e (List.mem_cons_of_mem _ he), fun e he => ?_, fun l hl => ?_⟩
  · have hother : e.1 ≠ place := fun hsame => hnew (List.mem_map.mpr ⟨e, he, hsame⟩)
    rw [node?_erase files h.ne_nil, if_neg hother, h.node e (List.mem_cons_of_mem _ he)]
  · rw [node?_erase files h.ne_nil]
    by_cases hl' : l = place
    · rw [if_pos hl', hl']
      exact (h.free _ List.mem_cons_self).symm
    · rw [if_neg hl', h.rest l]
      rw [List.map_cons, List.mem_cons, not_or]
      exact ⟨hl', hl⟩

lemma write (h : Overlay base ((place, content) :: held) files) (content' : Bytes) :
    Overlay base ((place, content') :: held) (files.put place (.file content' false)) := by
  have hfree : (files.erase place).node? place = none := by
    rw [node?_erase files h.ne_nil, if_pos rfl]
  refine (h.erase.put hfree content').congr ?_
  funext l
  rw [node?_put _ h.ne_nil, node?_put _ h.ne_nil, node?_erase files h.ne_nil]
  split
  · rfl
  · rfl

end Overlay

end MailMerge.Files
