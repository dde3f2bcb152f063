import MailMerge.Pool
import Mathlib.Tactic.Lemma

/-!
# Orders of completion

No event adds a job or loses one, so under every schedule each job finishes exactly once
(`completionOrder_perm`). The other way round, every order of the jobs is that of some schedule
(`exists_schedule`), whatever the limit.
-/

namespace MailMerge.Pool

/-- All jobs of a pool, wherever they are. -/
def all (p : Pool) : List Nat :=
  p.finished ++ (p.running ++ p.waiting)

lemma step_perm (limit : Nat) (p : Pool) (e : Event) : (step limit p e).all.Perm p.all := by
  obtain ⟨waiting, running, finished⟩ := p
  cases e with
  | start job =>
    simp only [step]
    split
    · next h =>
      rw [Bool.and_eq_true, List.contains_iff_mem] at h
      have hwaiting : waiting.Perm (job :: waiting.erase job) := List.perm_cons_erase h.2
      apply List.Perm.append_left
      exact List.perm_middle.symm.trans (List.Perm.append_left _ hwaiting.symm)
    · exact List.Perm.refl _
  | finish job =>
    simp only [step]
    split
    · next h =>
      rw [List.contains_iff_mem] at h
      have hrunning : running.Perm (job :: running.erase job) := List.perm_cons_erase h
      have hmoved : (job :: (finished ++ (running.erase job ++ waiting))).Perm
          (finished ++ (job :: running.erase job ++ waiting)) := List.perm_middle.symm
      exact hmoved.trans (List.Perm.append_left _ (List.Perm.append_right _ hrunning.symm))
    · exact List.Perm.refl _

lemma foldl_step_perm (limit : Nat) (schedule : List Event) (p : Pool) :
    (schedule.foldl (step limit) p).all.Perm p.all := by
  induction schedule generalizing p with
  | nil => exact List.Perm.refl _
  | cons e schedule ih => exact (ih (step limit p e)).trans (step_perm limit p e)

lemma drain_perm {limit : Nat} (hlimit : 0 < limit) (p : Pool) : (drain limit p).Perm p.all := by
  rw [drain, if_neg (by omega), List.append_assoc]
  exact List.Perm.append_right _ (List.reverse_perm _)

/-- Under every schedule each job finishes exactly once. -/
theorem completionOrder_perm {limit : Nat} (hlimit : 0 < limit) (schedule : List Event) (n : Nat) :
    (completionOrder limit schedule n).Perm (List.range n) :=
  (drain_perm hlimit _).trans (foldl_step_perm limit schedule ⟨List.range n, [], []⟩)

/-- The schedule that starts and finishes one job after another. -/
def oneByOne (order : List Nat) : List Event :=
  order.flatMap fun job => [.start job, .finish job]

lemma foldl_oneByOne {limit : Nat} (hlimit : 0 < limit) {order waiting : List Nat}
    (horder : order.Perm waiting) (finished : List Nat) :
    (oneByOne order).foldl (step limit) ⟨waiting, [], finished⟩ =
      ⟨[], [], order.reverse ++ finished⟩ := by
  induction order generalizing waiting finished with
  | nil =>
    rw [List.nil_perm.mp horder]
    rfl
  | cons job order ih =>
    have hmem : job ∈ waiting := horder.subset (by simp)
    have hrest : order.Perm (waiting.erase job) := by
      have h := horder.erase job
      rwa [List.erase_cons_head] at h
    have hstart : step limit ⟨waiting, [], finished⟩ (.start job) =
        ⟨waiting.erase job, [job], finished⟩ := by
      simp [step, hlimit, hmem]
    have hfinish : step limit ⟨waiting.erase job, [job], finished⟩ (.finish job) =
        ⟨waiting.erase job, [], job :: finished⟩ := by
      simp [step]
    change (oneByOne order).foldl (step limit)
      (step limit (step limit ⟨waiting, [], finished⟩ (.start job)) (.finish job)) = _
    rw [hstart, hfinish, ih hrest]
    simp

/-- Every order of the jobs is the one in which they finish under some schedule. -/
theorem exists_schedule {limit : Nat} (hlimit : 0 < limit) {n : Nat} {order : List Nat}
    (horder : order.Perm (List.range n)) :
    ∃ schedule, completionOrder limit schedule n = order := by
  refine ⟨oneByOne order, ?_⟩
  rw [completionOrder, foldl_oneByOne hlimit horder]
  simp [drain]

end MailMerge.Pool
