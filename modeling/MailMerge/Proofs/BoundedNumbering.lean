import MailMerge.Proofs.BatchNames
import Mathlib.Data.Finset.Card
import Mathlib.Order.Interval.Finset.Nat

/-!
# Bounded numbering

A name is allocated by a loop: while the name at hand is taken, the next one gets the number of a
counter, which is counted on. The names for one base are different, so each turn of the loop uses
up one of the taken names, and there are no more turns than these (`numbering_is_bounded`). In a
batch only the names of earlier rows are taken, so a counter of 32 bits is large enough for every
batch with fewer rows than it has numbers.
-/

namespace MailMerge.Naming

variable {last : Option Nat} {taken : Finset String} {base extension : String}

/-- The loop between two turns: the name at hand, and the counter with the number of the next. -/
structure Attempt where
  name : String
  next : Nat
  deriving DecidableEq, Repr

namespace Attempt

/-- The name without a number is tried first, and the first number is 2. -/
def first (base extension : String) : Attempt :=
  ⟨base ++ "." ++ extension, 2⟩

/-- A turn of the loop. The counter cannot be counted on behind its last number, if it has one. -/
def turn? (last : Option Nat) (base extension : String) (a : Attempt) : Option Attempt :=
  if last = some a.next then none
  else some ⟨base ++ "_" ++ toString a.next ++ "." ++ extension, a.next + 1⟩

/-- The loop after so many turns. -/
def after (base extension : String) (turns : Nat) : Attempt :=
  ⟨numbered base extension (turns + 1), turns + 2⟩

lemma after_zero (base extension : String) : after base extension 0 = first base extension := rfl

lemma turn?_after {turns : Nat} (hlast : ∀ m ∈ last, turns + 2 < m) :
    (after base extension turns).turn? last base extension =
      some (after base extension (turns + 1)) := by
  have hcounts : last ≠ some (after base extension turns).next :=
    fun h => Nat.lt_irrefl _ (hlast _ h)
  have hnext : 2 ≤ turns + 1 + 1 := Nat.le_add_left 2 turns
  rw [turn?, if_neg hcounts, after, after, numbered_of_two_le hnext]

/-- The loop goes on while the name at hand is taken, and stops after so many turns. -/
inductive StopsAt (last : Option Nat) (taken : Finset String) (base extension : String) :
    Attempt → Nat → Attempt → Prop
  | free {a : Attempt} (hfree : a.name ∉ taken) : StopsAt last taken base extension a 0 a
  | turn {a b c : Attempt} {turns : Nat} (htaken : a.name ∈ taken)
      (hturn : a.turn? last base extension = some b)
      (hrest : StopsAt last taken base extension b turns c) :
      StopsAt last taken base extension a (turns + 1) c

lemma StopsAt.unique {a b c : Attempt} {m n : Nat} (hb : StopsAt last taken base extension a m b)
    (hc : StopsAt last taken base extension a n c) : n = m ∧ c = b := by
  induction hb generalizing n with
  | free hfree =>
    cases hc with
    | free => exact ⟨rfl, rfl⟩
    | turn htaken => exact absurd htaken hfree
  | turn htaken hturn _ ih =>
    cases hc with
    | free hfree => exact absurd htaken hfree
    | turn _ hturn' hrest =>
      rw [hturn, Option.some.injEq] at hturn'
      obtain ⟨rfl, rfl⟩ := ih (hturn' ▸ hrest)
      exact ⟨rfl, rfl⟩

/-- Over taken names the loop goes on, and stops at the first that is free. -/
lemma stopsAt_after {k turns : Nat}
    (htaken : ∀ i, i < turns → numbered base extension (k + i + 1) ∈ taken)
    (hfree : numbered base extension (k + turns + 1) ∉ taken)
    (hlast : ∀ m ∈ last, k + turns + 2 ≤ m) :
    StopsAt last taken base extension (after base extension k) turns
      (after base extension (k + turns)) := by
  induction turns generalizing k with
  | zero => exact .free hfree
  | succ turns ih =>
    -- The first turn is made at `k`, and the rest of the loop begins at `k + 1`.
    have hshift (i : Nat) : k + (i + 1) = k + 1 + i := by omega
    rw [hshift] at hfree hlast ⊢
    refine .turn (htaken 0 (Nat.zero_lt_succ _)) (turn?_after fun m hm => ?_) (ih ?_ hfree hlast)
    · have hm := hlast m hm
      omega
    · intro i hi
      rw [← hshift]
      exact htaken (i + 1) (Nat.succ_lt_succ hi)

end Attempt

/-- All names before the least free one are taken, and they are different. -/
lemma IsLeastFree.le_card {names : List String} {n : Nat}
    (h : IsLeastFree names base extension n) : n ≤ names.toFinset.card + 1 := by
  have hinto : ∀ k ∈ Finset.Ico 1 n, numbered base extension k ∈ names.toFinset := by
    intro k hk
    obtain ⟨hone, hlt⟩ := Finset.mem_Ico.mp hk
    exact List.mem_toFinset.mpr (h.least k hone hlt)
  have hdifferent : Set.InjOn (numbered base extension) (Finset.Ico 1 n) := by
    intro i hi j hj hsame
    exact numbered_inj base extension i j (Finset.mem_Ico.mp hi).1 (Finset.mem_Ico.mp hj).1 hsame
  have hcard := Finset.card_le_card_of_injOn _ hinto hdifferent
  rw [Nat.card_Ico] at hcard
  omega

section Sets

variable {names names' : List String}

lemma allocate_congr (h : names.toFinset = names'.toFinset) (base extension : String) :
    allocate names base extension = allocate names' base extension := by
  have hsame (k : Nat) :
      numbered base extension k ∈ names ↔ numbered base extension k ∈ names' := by
    rw [← List.mem_toFinset, h, List.mem_toFinset]
  rw [allocate, allocate, firstFree_congr (numbered_inj base extension) hsame]

lemma allocateAll_congr (h : names.toFinset = names'.toFinset) (extension : String)
    (bases : List String) :
    allocateAll names extension bases = allocateAll names' extension bases := by
  induction bases generalizing names names' with
  | nil => rfl
  | cons base bases ih =>
    rw [allocateAll, allocateAll, allocate_congr h]
    exact congrArg _ (ih (by rw [List.toFinset_cons, List.toFinset_cons, h]))

lemma allocateAll_cons {name : String} (hname : allocate names base extension = name)
    (h : names'.toFinset = insert name names.toFinset) (bases : List String) :
    allocateAll names extension (base :: bases) = name :: allocateAll names' extension bases := by
  rw [allocateAll, hname]
  exact congrArg _ (allocateAll_congr (by rw [List.toFinset_cons, h]) extension bases)

end Sets

lemma exists_stopsAt (names : List String) (base extension : String)
    (hlast : ∀ m ∈ last, names.toFinset.card + 2 ≤ m) :
    ∃ turns, turns ≤ names.toFinset.card ∧
      allocate names base extension = numbered base extension (turns + 1) ∧
      Attempt.StopsAt last names.toFinset base extension (.first base extension) turns
        (.after base extension turns) := by
  obtain ⟨n, hname, hleast⟩ := exists_isLeastFree names base extension
  have hbound := hleast.le_card
  obtain ⟨turns, rfl⟩ : ∃ turns, n = turns + 1 := ⟨n - 1, (Nat.sub_add_cancel hleast.pos).symm⟩
  refine ⟨turns, Nat.le_of_succ_le_succ hbound, hname, ?_⟩
  have htaken (i : Nat) (hi : i < turns) :
      numbered base extension (0 + i + 1) ∈ names.toFinset := by
    rw [Nat.zero_add]
    exact List.mem_toFinset.mpr (hleast.least (i + 1) (by omega) (by omega))
  have hfree : numbered base extension (0 + turns + 1) ∉ names.toFinset := by
    rw [Nat.zero_add]
    exact fun hmem => hleast.free (List.mem_toFinset.mp hmem)
  have hcounts (m : Nat) (hm : m ∈ last) : 0 + turns + 2 ≤ m := by
    have hroom := hlast m hm
    omega
  have hstops := Attempt.stopsAt_after htaken hfree hcounts
  rwa [Nat.zero_add, Attempt.after_zero] at hstops

/-- Bases get their names one after the other, each by a loop that stops, and every name is taken
from then on. -/
inductive Allocates (last : Option Nat) (extension : String) :
    Finset String → List String → List String → Finset String → Prop
  | done {taken : Finset String} : Allocates last extension taken [] [] taken
  | call {taken taken' : Finset String} {base : String} {bases names : List String} {turns : Nat}
      {a : Attempt}
      (hstops : Attempt.StopsAt last taken base extension (.first base extension) turns a)
      (hrest : Allocates last extension (insert a.name taken) bases names taken') :
      Allocates last extension taken (base :: bases) (a.name :: names) taken'

/-- The names that are allocated to bases in a row are those that the loops stop at, if the counter
can hold one number for each taken name and each base and one more. -/
lemma allocates_allocateAll (names : List String) (extension : String) (bases : List String)
    (hlast : ∀ m ∈ last, names.toFinset.card + bases.length + 1 ≤ m) :
    Allocates last extension names.toFinset bases (allocateAll names extension bases)
      (names.toFinset ∪ (allocateAll names extension bases).toFinset) := by
  induction bases generalizing names with
  | nil =>
    rw [allocateAll, List.toFinset_nil, Finset.union_empty]
    exact .done
  | cons base bases ih =>
    have hroom : ∀ m ∈ last, names.toFinset.card + 2 ≤ m := by
      intro m hm
      have hcounts := hlast m hm
      rw [List.length_cons] at hcounts
      omega
    obtain ⟨turns, -, hname, hstops⟩ := exists_stopsAt names base extension hroom
    have hrest := ih (allocate names base extension :: names) fun m hm => by
      have hcounts := hlast m hm
      have hcard := Finset.card_insert_le (allocate names base extension) names.toFinset
      rw [List.length_cons] at hcounts
      rw [List.toFinset_cons]
      omega
    rw [List.toFinset_cons, Finset.insert_union, ← Finset.union_insert, hname] at hrest
    rw [allocateAll, hname, List.toFinset_cons]
    exact .call hstops hrest

/-- The last number of a counter with a sign and 32 bits. -/
def lastOf32Bits : Option Nat :=
  some (2 ^ 31 - 1)

/-- Whatever names are taken, the loop stops after no more turns than there are taken names, if its
counter has no last number or one that is greater than theirs by two. It stops at the name that is
allocated, which is free and numbered at most one above them, and just this name is taken from
then on. In a batch with fewer than `2 ^ 31 - 2` rows every loop stops with a counter of 32 bits. -/
theorem numbering_is_bounded (extension : String) :
    (∀ (last : Option Nat) (taken : Finset String) (base : String),
      (∀ m ∈ last, taken.card + 2 ≤ m) →
      ∃ turns a, Attempt.StopsAt last taken base extension (.first base extension) turns a ∧
        (∀ turns' b, Attempt.StopsAt last taken base extension (.first base extension) turns' b →
          turns' = turns ∧ b = a) ∧
        turns ≤ taken.card ∧
        a.name ∉ taken ∧
        a.name = numbered base extension (turns + 1) ∧
        ∀ names names' bases : List String, names.toFinset = taken →
          names'.toFinset = insert a.name taken →
          allocateAll names extension (base :: bases) =
            a.name :: allocateAll names' extension bases) ∧
    ∀ (namingField : String) (rows : List Record), rows.length < 2 ^ 31 - 2 →
      Allocates lastOf32Bits extension ∅ (Batch.bases namingField rows)
        ((Batch.jobs namingField extension rows).map Batch.Job.name)
        ((Batch.jobs namingField extension rows).map Batch.Job.name).toFinset := by
  constructor
  · intro last taken base hlast
    have hset : taken.toList.toFinset = taken := Finset.toList_toFinset taken
    obtain ⟨turns, hturns, hname, hstops⟩ :=
      exists_stopsAt taken.toList base extension (hset.symm ▸ hlast)
    rw [hset] at hturns hstops
    refine ⟨turns, _, hstops, fun _ _ h => hstops.unique h, hturns, ?_, rfl, ?_⟩
    · have hfree := not_mem_allocate taken.toList base extension
      rwa [hname, Finset.mem_toList] at hfree
    · intro names names' bases hnames hnames'
      have hsame := allocate_congr (hnames.trans hset.symm) base extension
      exact allocateAll_cons (hsame.trans hname) (hnames ▸ hnames') bases
  · intro namingField rows hrows
    have hlength : (Batch.bases namingField rows).length ≤ rows.length := by
      rw [Batch.bases, List.length_map]
      exact List.length_filter_le _ _
    have hcounts : ∀ m ∈ lastOf32Bits, ([] : List String).toFinset.card +
        (Batch.bases namingField rows).length + 1 ≤ m := by
      intro m hm
      cases hm
      rw [List.toFinset_nil, Finset.card_empty]
      omega
    have hallocates := allocates_allocateAll [] extension _ hcounts
    rw [List.toFinset_nil, Finset.empty_union] at hallocates
    rw [Batch.map_name_jobs]
    exact hallocates

/-- Two rows with the same value; the row between them has the name that the later one would get. -/
def crossedValues : List Record :=
  [.ofList [("name", "Ann")], .ofList [("name", "Ann_2")], .ofList [("name", "Ann")]]

theorem numbering_is_bounded_crossedValues :
    (∀ m ∈ lastOf32Bits, ({"a.txt", "a_2.txt"} : Finset String).card + 2 ≤ m) ∧
    Attempt.StopsAt lastOf32Bits {"a.txt", "a_2.txt"} "a" "txt" (.first "a" "txt") 2
      ⟨"a_3.txt", 4⟩ ∧
    2 ≤ ({"a.txt", "a_2.txt"} : Finset String).card ∧
    allocateAll ["a_2.txt", "a.txt"] "txt" ["a", "a"] =
      "a_3.txt" :: allocateAll ["a.txt", "a_2.txt", "a_3.txt"] "txt" ["a"] ∧
    crossedValues.length < 2 ^ 31 - 2 ∧
    Allocates lastOf32Bits "txt" ∅ ["Ann", "Ann_2", "Ann"] ["Ann.txt", "Ann_2.txt", "Ann_3.txt"]
      {"Ann.txt", "Ann_2.txt", "Ann_3.txt"} := by
  have hroom : ∀ m ∈ lastOf32Bits, ({"a.txt", "a_2.txt"} : Finset String).card + 2 ≤ m := by
    intro m hm
    cases hm
    decide
  have hstops : Attempt.StopsAt lastOf32Bits {"a.txt", "a_2.txt"} "a" "txt" (.first "a" "txt") 2
      ⟨"a_3.txt", 4⟩ :=
    .turn (b := ⟨"a_2.txt", 3⟩) (by decide) (by decide)
      (.turn (by decide) (by decide) (.free (by decide)))
  have hrows : crossedValues.length < 2 ^ 31 - 2 := by decide
  have hbases : Batch.bases "name" crossedValues = ["Ann", "Ann_2", "Ann"] := by decide
  have hnames : (Batch.jobs "name" "txt" crossedValues).map Batch.Job.name =
      ["Ann.txt", "Ann_2.txt", "Ann_3.txt"] := by
    decide
  obtain ⟨hloop, hbatch⟩ := numbering_is_bounded "txt"
  obtain ⟨turns, a, -, hunique, hturns, -, -, hnext⟩ := hloop lastOf32Bits _ "a" hroom
  obtain ⟨rfl, rfl⟩ := hunique 2 _ hstops
  have hallocates := hbatch "name" crossedValues hrows
  rw [hbases, hnames] at hallocates
  exact ⟨hroom, hstops, hturns, hnext _ _ ["a"] (by decide) (by decide), hrows,
    hallocates⟩

end MailMerge.Naming
