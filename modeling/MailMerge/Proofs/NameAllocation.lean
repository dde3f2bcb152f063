import MailMerge.Naming
import Mathlib.Tactic.Lemma

/-!
# Allocating names

Of different candidates, one more than there are taken names, one is free. So the search for a name
always ends at a free one (`not_mem_firstFree`), and the names of a batch are all different
(`nodup_allocateAll`).
-/

namespace MailMerge.Naming

lemma search_bounds (taken : List String) (candidate : Nat → String) (fuel n : Nat) :
    n ≤ search taken candidate fuel n ∧ search taken candidate fuel n ≤ n + fuel := by
  induction fuel generalizing n with
  | zero => simp [search]
  | succ fuel ih =>
    rw [search]
    split
    · have h := ih (n + 1)
      omega
    · omega

lemma taken_of_lt_search {taken : List String} {candidate : Nat → String} {fuel n k : Nat}
    (hn : n ≤ k) (hk : k < search taken candidate fuel n) : candidate k ∈ taken := by
  induction fuel generalizing n with
  | zero =>
    rw [search] at hk
    omega
  | succ fuel ih =>
    rw [search] at hk
    split at hk
    · next h =>
      by_cases hkn : k = n
      · rw [hkn]
        exact List.contains_iff_mem.mp h
      · exact ih (by omega) hk
    · omega

lemma not_mem_of_search_lt {taken : List String} {candidate : Nat → String} {fuel n : Nat}
    (h : search taken candidate fuel n < n + fuel) :
    candidate (search taken candidate fuel n) ∉ taken := by
  induction fuel generalizing n with
  | zero =>
    rw [search] at h
    omega
  | succ fuel ih =>
    rw [search] at h ⊢
    split
    · next hn =>
      rw [if_pos hn] at h
      exact ih (by omega)
    · next hn =>
      intro hmem
      exact hn (List.contains_iff_mem.mpr hmem)

/-- Where the search gives up it has seen as many candidates as there are taken names, and all of
them taken, so the next one is free. -/
theorem not_mem_firstFree {taken : List String} {candidate : Nat → String} {n : Nat}
    (hdifferent : ∀ i j, n ≤ i → n ≤ j → candidate i = candidate j → i = j) :
    candidate (firstFree taken candidate n) ∉ taken := by
  have hbounds := search_bounds taken candidate taken.length n
  by_cases hearly : search taken candidate taken.length n < n + taken.length
  · exact not_mem_of_search_lt hearly
  · intro hmem
    have hlast : search taken candidate taken.length n = n + taken.length := by omega
    have hnodup : ((List.range' n (taken.length + 1)).map candidate).Nodup := by
      have hrange : (List.range' n (taken.length + 1)).Pairwise (· ≠ ·) := List.nodup_range'
      apply List.pairwise_map.mpr
      apply hrange.imp_of_mem
      intro i j hi hj hne hsame
      rw [List.mem_range'_1] at hi hj
      exact hne (hdifferent i j hi.1 hj.1 hsame)
    have htaken : (List.range' n (taken.length + 1)).map candidate ⊆ taken := by
      intro name hname
      obtain ⟨k, hk, rfl⟩ := List.mem_map.mp hname
      rw [List.mem_range'_1] at hk
      by_cases hkl : k < n + taken.length
      · have hlt : k < search taken candidate taken.length n := by omega
        exact taken_of_lt_search hk.1 hlt
      · rw [firstFree, hlast] at hmem
        rwa [show k = n + taken.length by omega]
    have hlength := hnodup.length_le_of_subset htaken
    rw [List.length_map, List.length_range'] at hlength
    omega

lemma firstFree_congr {taken taken' : List String} {candidate : Nat → String} {n : Nat}
    (hdifferent : ∀ i j, n ≤ i → n ≤ j → candidate i = candidate j → i = j)
    (h : ∀ k, candidate k ∈ taken ↔ candidate k ∈ taken') :
    firstFree taken candidate n = firstFree taken' candidate n := by
  have hfree : candidate (firstFree taken candidate n) ∉ taken := not_mem_firstFree hdifferent
  have hfree' : candidate (firstFree taken' candidate n) ∉ taken' := not_mem_firstFree hdifferent
  have hbound := (search_bounds taken candidate taken.length n).1
  have hbound' := (search_bounds taken' candidate taken'.length n).1
  rcases Nat.lt_trichotomy (firstFree taken candidate n) (firstFree taken' candidate n) with
    hlt | heq | hgt
  · exact absurd ((h _).mpr (taken_of_lt_search hbound hlt)) hfree
  · exact heq
  · exact absurd ((h _).mp (taken_of_lt_search hbound' hgt)) hfree'

lemma toString_inj {i j : Nat} (h : toString i = toString j) : i = j := by
  have hdigits : Nat.toDigits 10 i = Nat.toDigits 10 j := by
    rw [← Nat.toList_repr, ← Nat.toList_repr]
    exact congrArg String.toList h
  rw [← Nat.ofDigitChars_toDigits (n := i) (by decide) (Nat.le_refl 10), hdigits,
    Nat.ofDigitChars_toDigits (by decide) (Nat.le_refl 10)]

lemma toList_numbered {n : Nat} (h : 2 ≤ n) (base extension : String) :
    (numbered base extension n).toList =
      base.toList ++ ('_' :: ((toString n).toList ++ '.' :: extension.toList)) := by
  rw [numbered, if_neg (by omega)]
  simp [String.toList_append]

lemma numbered_inj (base extension : String) (i j : Nat) (hi : 1 ≤ i) (hj : 1 ≤ j)
    (h : numbered base extension i = numbered base extension j) : i = j := by
  have hlists := congrArg String.toList h
  have hfirst : (numbered base extension 1).toList = base.toList ++ '.' :: extension.toList := by
    simp [numbered, String.toList_append]
  by_cases hi1 : i = 1
  · by_cases hj1 : j = 1
    · omega
    · rw [hi1, hfirst, toList_numbered (by omega)] at hlists
      have hheads := List.append_cancel_left hlists
      simp at hheads
  · by_cases hj1 : j = 1
    · rw [hj1, hfirst, toList_numbered (by omega)] at hlists
      have hheads := List.append_cancel_left hlists
      simp at hheads
    · rw [toList_numbered (by omega), toList_numbered (by omega)] at hlists
      have hnumbers := (List.cons.inj (List.append_cancel_left hlists)).2
      exact toString_inj (String.toList_inj.mp (List.append_cancel_right hnumbers))

/-- An allocated name is free. -/
theorem not_mem_allocate (taken : List String) (base extension : String) :
    allocate taken base extension ∉ taken :=
  not_mem_firstFree fun i j hi hj h => numbered_inj base extension i j hi hj h

lemma length_allocateAll (taken : List String) (extension : String) (bases : List String) :
    (allocateAll taken extension bases).length = bases.length := by
  induction bases generalizing taken with
  | nil => rfl
  | cons base bases ih => rw [allocateAll, List.length_cons, ih, List.length_cons]

lemma not_mem_of_mem_allocateAll {taken : List String} {extension : String} {bases : List String}
    {name : String} (h : name ∈ allocateAll taken extension bases) : name ∉ taken := by
  induction bases generalizing taken with
  | nil => cases h
  | cons base bases ih =>
    rw [allocateAll] at h
    rcases List.mem_cons.mp h with rfl | h
    · exact not_mem_allocate taken base extension
    · intro hmem
      exact ih h (List.mem_cons_of_mem _ hmem)

/-- No two names of a batch are equal. -/
theorem nodup_allocateAll (taken : List String) (extension : String) (bases : List String) :
    (allocateAll taken extension bases).Nodup := by
  induction bases generalizing taken with
  | nil => exact List.nodup_nil
  | cons base bases ih =>
    rw [allocateAll]
    refine List.nodup_cons.mpr ⟨?_, ih _⟩
    intro hmem
    exact not_mem_of_mem_allocateAll hmem List.mem_cons_self

end MailMerge.Naming
