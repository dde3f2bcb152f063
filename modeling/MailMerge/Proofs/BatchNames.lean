import MailMerge.Proofs.BatchDelivery
import MailMerge.Proofs.FileNames
import Mathlib.Data.List.Nodup

/-!
# Names of a batch

The document of a row is named after its value: with the least number from one on whose name no
earlier document has, where one is not written. So the names of a batch are different, also without
their extension, and every batch can be bundled (`names_are_unique_and_safe`).
-/

namespace MailMerge

namespace Naming

variable {taken : List String} {base extension : String}

/-- The least number from one on whose name is not taken. -/
structure IsLeastFree (taken : List String) (base extension : String) (n : Nat) : Prop where
  pos : 1 ≤ n
  free : numbered base extension n ∉ taken
  least : ∀ k, 1 ≤ k → k < n → numbered base extension k ∈ taken

lemma exists_isLeastFree (taken : List String) (base extension : String) :
    ∃ n, allocate taken base extension = numbered base extension n ∧
      IsLeastFree taken base extension n := by
  have hbounds := search_bounds taken (numbered base extension) taken.length 1
  exact ⟨_, rfl, hbounds.1, not_mem_allocate taken base extension,
    fun _ hk hlt => taken_of_lt_search hk hlt⟩

lemma IsLeastFree.of_mem_iff {taken' : List String} {n : Nat}
    (h : IsLeastFree taken base extension n) (hsame : ∀ name, name ∈ taken ↔ name ∈ taken') :
    IsLeastFree taken' base extension n where
  pos := h.pos
  free := fun hmem => h.free ((hsame _).mpr hmem)
  least := fun k hk hlt => (hsame _).mp (h.least k hk hlt)

lemma IsLeastFree.one_lt {n : Nat} (h : IsLeastFree taken base extension n)
    (hfirst : numbered base extension 1 ∈ taken) : 1 < n := by
  have hpos := h.pos
  by_contra hle
  have hone : n = 1 := by omega
  exact h.free (hone ▸ hfirst)

lemma IsLeastFree.eq_one {n : Nat} (h : IsLeastFree taken base extension n)
    (hfirst : numbered base extension 1 ∉ taken) : n = 1 := by
  have hpos := h.pos
  by_contra hne
  exact hfirst (h.least 1 (Nat.le_refl 1) (by omega))

lemma getElem?_allocateAll {bases : List String} {i : Nat} (hbase : bases[i]? = some base)
    (taken : List String) (extension : String) :
    ∃ n, (allocateAll taken extension bases)[i]? = some (numbered base extension n) ∧
      IsLeastFree ((allocateAll taken extension bases).take i ++ taken) base extension n := by
  induction bases generalizing taken i with
  | nil => cases hbase
  | cons first bases ih =>
    rw [allocateAll]
    cases i with
    | zero =>
      cases hbase
      obtain ⟨n, hname, hleast⟩ := exists_isLeastFree taken base extension
      exact ⟨n, congrArg some hname, by simpa using hleast⟩
    | succ i =>
      obtain ⟨n, hname, hleast⟩ := ih hbase (allocate taken first extension :: taken)
      refine ⟨n, hname, hleast.of_mem_iff fun name => ?_⟩
      simp only [List.take_succ_cons, List.cons_append, List.mem_append, List.mem_cons]
      tauto

lemma numbered_one (base extension : String) :
    numbered base extension 1 = base ++ "." ++ extension := rfl

lemma numbered_of_two_le {n : Nat} (h : 2 ≤ n) (base extension : String) :
    numbered base extension n = base ++ "_" ++ toString n ++ "." ++ extension := by
  rw [numbered, if_neg (by omega)]

/-- The name behind earlier ones: the extension alone if none of them is that, and otherwise with
the least number from two on with which none of them is written. -/
def IsNextName (earlier : List String) (base extension name : String) : Prop :=
  (base ++ "." ++ extension ∉ earlier ∧ name = base ++ "." ++ extension) ∨
    (base ++ "." ++ extension ∈ earlier ∧ ∃ m : Nat, 2 ≤ m ∧
      name = base ++ "_" ++ toString m ++ "." ++ extension ∧ name ∉ earlier ∧
      ∀ k : Nat, 2 ≤ k → k < m → base ++ "_" ++ toString k ++ "." ++ extension ∈ earlier)

lemma IsLeastFree.isNextName {earlier : List String} {n : Nat}
    (h : IsLeastFree earlier base extension n) :
    IsNextName earlier base extension (numbered base extension n) := by
  by_cases hplain : base ++ "." ++ extension ∈ earlier
  · have htwo := h.one_lt hplain
    refine .inr ⟨hplain, n, htwo, numbered_of_two_le htwo base extension, h.free, ?_⟩
    intro k hk hlt
    rw [← numbered_of_two_le hk]
    exact h.least k (by omega) hlt
  · rw [h.eq_one hplain]
    exact .inl ⟨hplain, numbered_one base extension⟩

/-- The part of a numbered name in front of its extension. -/
def numberedStem (base : String) (n : Nat) : String :=
  if n ≤ 1 then base else base ++ "_" ++ toString n

lemma numbered_eq (base extension : String) (n : Nat) :
    numbered base extension n = numberedStem base n ++ "." ++ extension := by
  unfold numbered numberedStem
  split <;> rfl

lemma isSafe_of_isDigit {c : Char} (h : c.isDigit = true) : isSafe c = true := by
  have hbounds : 48 ≤ c.val ∧ c.val ≤ 57 := by simpa [Char.isDigit] using h
  have hlow : '0' ≤ c := hbounds.1
  have hhigh : c ≤ '9' := hbounds.2
  simp [isSafe, hlow, hhigh]

lemma isSafe_of_mem_safe {raw : String} {c : Char} (h : c ∈ (safe raw).toList) :
    isSafe c = true := by
  rw [safe, String.toList_ofList] at h
  obtain ⟨d, -, rfl⟩ := List.mem_map.mp h
  by_cases hd : isSafe d = true
  · rw [if_pos hd, hd]
  · rw [if_neg hd]
    rfl

lemma safe_ne_empty {raw : String} (h : raw ≠ "") : safe raw ≠ "" := by
  intro hempty
  have hchars := congrArg String.toList hempty
  rw [safe, String.toList_ofList, String.toList_empty, List.map_eq_nil_iff] at hchars
  exact h (String.toList_inj.mp hchars)

lemma isSafe_numberedStem (hsafe : ∀ c ∈ base.toList, isSafe c = true) (n : Nat) :
    ∀ c ∈ (numberedStem base n).toList, isSafe c = true := by
  intro c hc
  unfold numberedStem at hc
  split at hc
  · exact hsafe c hc
  · rw [String.toList_append, String.toList_append, List.mem_append, List.mem_append] at hc
    rcases hc with (hc | hc) | hc
    · exact hsafe c hc
    · have hunderscore : c = '_' := by simpa using hc
      rw [hunderscore]
      rfl
    · rw [Nat.toString_eq_ofList_toDigits, String.toList_ofList] at hc
      exact isSafe_of_isDigit (Nat.isDigit_of_mem_toDigits (by decide) (by decide) hc)

lemma numberedStem_ne_empty (h : base ≠ "") (n : Nat) : numberedStem base n ≠ "" := by
  unfold numberedStem
  split
  · exact h
  · intro hempty
    have hchars := congrArg String.toList hempty
    simp at hchars

end Naming

lemma Artifact.stem_eq {a : Artifact} {stem extension : String} (h : '.' ∉ extension.toList)
    (hname : a.name = stem ++ "." ++ extension) : a.stem = stem := by
  have hcut : Text.cutLast '.' a.name.toList = some (stem.toList, extension.toList) := by
    rw [hname]
    exact Text.cutLast_eq_some_iff.mpr ⟨h, toList_dotted stem extension⟩
  rw [Artifact.stem, hcut]
  exact String.ofList_toList

namespace Batch

variable {settings : Settings} {renderer : Renderer} {schedule : List Pool.Event}
  {template : Template} {rows : List Record} {artifacts : List Artifact}

lemma names_of_expand (h : expand settings renderer schedule template rows = .ok artifacts) :
    artifacts ≠ [] ∧
      artifacts.map Artifact.name = names settings.namingField renderer.extension rows := by
  have hsome : usable settings.namingField rows ≠ [] := by
    intro hnone
    rw [expand_of_usable_eq_nil hnone] at h
    cases h
  by_cases hrender : ∀ r ∈ usable settings.namingField rows,
      ∃ content, renderer.render (fill template.text r) = .ok content
  · obtain ⟨found, hfound, hnames, hforall⟩ := exists_artifacts hsome hrender schedule
    rw [h] at hfound
    cases hfound
    refine ⟨?_, hnames⟩
    rintro rfl
    exact hsome (List.forall₂_nil_right_iff.mp hforall)
  · push Not at hrender
    obtain ⟨r, hr, hfails⟩ := hrender
    cases hrendered : renderer.render (fill template.text r) with
    | ok content => exact absurd hrendered (hfails content)
    | error e =>
      obtain ⟨-, -, e', -, hexpand⟩ := expand_of_render_error schedule hr hrendered
      rw [h] at hexpand
      cases hexpand

/-- The words that the documents of usable rows are named after. -/
def bases (namingField : String) (rows : List Record) : List String :=
  (usable namingField rows).map (baseName namingField)

lemma safe_of_mem_bases {namingField base : String} (h : base ∈ bases namingField rows) :
    base ≠ "" ∧ ∀ c ∈ base.toList, Naming.isSafe c = true := by
  obtain ⟨r, hr, rfl⟩ := List.mem_map.mp h
  have hblank : r.isBlank namingField = false := by
    simpa using (List.mem_filter.mp hr).2
  refine ⟨Naming.safe_ne_empty ?_, fun c => Naming.isSafe_of_mem_safe⟩
  intro hempty
  unfold Record.isBlank at hblank
  split at hblank
  · cases hblank
  · next value hvalue =>
    rw [hvalue, Option.getD_some] at hempty
    rw [hempty] at hblank
    cases hblank

/-- Every name is the numbered name of its row, with the least number that is free. -/
lemma exists_number {namingField base : String} {i : Nat}
    (hbase : (bases namingField rows)[i]? = some base) (extension : String) :
    ∃ n, (names namingField extension rows)[i]? = some (Naming.numbered base extension n) ∧
      Naming.IsLeastFree ((names namingField extension rows).take i) base extension n := by
  obtain ⟨n, hname, hleast⟩ := Naming.getElem?_allocateAll hbase [] extension
  rw [List.append_nil] at hleast
  exact ⟨n, hname, hleast⟩

/-- Of two rows with the same word the later one has the greater number. -/
lemma number_lt {namingField extension base : String} {i j m n : Nat} (hij : i < j)
    (hi : (bases namingField rows)[i]? = some base)
    (hj : (bases namingField rows)[j]? = some base) (hm : 1 ≤ m) (hn : 1 ≤ n)
    (hnamei : (names namingField extension rows)[i]? = some (Naming.numbered base extension m))
    (hnamej : (names namingField extension rows)[j]? = some (Naming.numbered base extension n)) :
    m < n := by
  obtain ⟨m', hm', hleasti⟩ := exists_number hi extension
  obtain ⟨n', hn', hleastj⟩ := exists_number hj extension
  rw [hnamei, Option.some.injEq] at hm'
  rw [hnamej, Option.some.injEq] at hn'
  obtain rfl := Naming.numbered_inj base extension m m' hm hleasti.pos hm'
  obtain rfl := Naming.numbered_inj base extension n n' hn hleastj.pos hn'
  have htaken : Naming.numbered base extension m ∈
      (names namingField extension rows).take j := by
    apply List.mem_iff_getElem?.mpr
    exact ⟨i, by rw [List.getElem?_take, if_pos hij, hnamei]⟩
  have hsubset : (names namingField extension rows).take i ⊆
      (names namingField extension rows).take j :=
    (List.take_prefix_take_left (Nat.le_of_lt hij)).subset
  by_contra hle
  rcases Nat.lt_or_eq_of_le (Nat.le_of_not_lt hle) with hlt | heq
  · exact hleastj.free (hsubset (hleasti.least n hn hlt))
  · exact hleastj.free (heq ▸ htaken)

/-- The documents of a batch are named after the safe words of the usable rows, in their order:
with the extension alone if no earlier document has that name, and otherwise with the least number
from two on whose name none has. The names differ, and so do their stems, which are safe words; of
two rows with the same word the later one has the greater number. So every batch can be bundled. -/
theorem names_are_unique_and_safe (settings : Settings) (renderer : Renderer)
    (schedule : List Pool.Event) (template : Template) (rows : List Record)
    (artifacts : List Artifact) (hextension : '.' ∉ renderer.extension.toList)
    (hexpand : expand settings renderer schedule template rows = .ok artifacts) :
    artifacts.length = (bases settings.namingField rows).length ∧
    (∀ (i : Nat) (base : String), (bases settings.namingField rows)[i]? = some base →
      ∃ name, artifacts[i]?.map Artifact.name = some name ∧
        Naming.IsNextName ((artifacts.take i).map Artifact.name) base renderer.extension name) ∧
    (artifacts.map Artifact.name).Nodup ∧
    (artifacts.map Artifact.stem).Nodup ∧
    (∀ a ∈ artifacts, a.stem ≠ "" ∧ ∀ c ∈ a.stem.toList, Naming.isSafe c = true) ∧
    (∀ (i j : Nat) (base : String) (m n : Nat), i < j →
      (bases settings.namingField rows)[i]? = some base →
      (bases settings.namingField rows)[j]? = some base → 1 ≤ m → 1 ≤ n →
      artifacts[i]?.map Artifact.name = some (Naming.numbered base renderer.extension m) →
      artifacts[j]?.map Artifact.name = some (Naming.numbered base renderer.extension n) →
      m < n) ∧
    ∀ method, ∃ bundle, Bundle.pack method artifacts = .ok bundle := by
  obtain ⟨hsome, hnames⟩ := names_of_expand hexpand
  have hget (i : Nat) : artifacts[i]?.map Artifact.name =
      (names settings.namingField renderer.extension rows)[i]? := by
    rw [← hnames, List.getElem?_map]
  have hdistinct : (artifacts.map Artifact.name).Nodup := by
    rw [hnames]
    exact Naming.nodup_allocateAll ..
  have hlength : artifacts.length = (bases settings.namingField rows).length := by
    rw [← List.length_map Artifact.name, hnames, length_names, bases, List.length_map]
  have hstem (a : Artifact) (ha : a ∈ artifacts) : a.name = a.stem ++ "." ++ renderer.extension ∧
      a.stem ≠ "" ∧ ∀ c ∈ a.stem.toList, Naming.isSafe c = true := by
    obtain ⟨i, hi⟩ := List.mem_iff_getElem?.mp ha
    have hbound : i < (bases settings.namingField rows).length := by
      rw [← hlength]
      exact (List.getElem?_eq_some_iff.mp hi).1
    have hbase := List.getElem?_eq_getElem hbound
    obtain ⟨n, hn, -⟩ := exists_number hbase renderer.extension
    rw [← hget, hi, Option.map_some, Option.some.injEq, Naming.numbered_eq] at hn
    obtain ⟨hne, hsafe⟩ := safe_of_mem_bases (List.mem_of_getElem? hbase)
    rw [Artifact.stem_eq hextension hn]
    exact ⟨hn, Naming.numberedStem_ne_empty hne n, Naming.isSafe_numberedStem hsafe n⟩
  refine ⟨hlength, ?_, hdistinct, ?_, fun a ha => (hstem a ha).2, ?_, ?_⟩
  · intro i base hbase
    obtain ⟨n, hn, hleast⟩ := exists_number hbase renderer.extension
    rw [← hget] at hn
    rw [← hnames, ← List.map_take] at hleast
    exact ⟨_, hn, hleast.isNextName⟩
  · apply List.Nodup.of_map (fun stem => stem ++ "." ++ renderer.extension)
    rw [List.map_map]
    rwa [List.map_congr_left fun a ha => (hstem a ha).1] at hdistinct
  · intro i j base m n hij hi hj hm hn hnamei hnamej
    rw [hget] at hnamei hnamej
    exact number_lt hij hi hj hm hn hnamei hnamej
  · intro method
    exact ⟨_, Bundle.pack_of_nodup method hsome hdistinct⟩

theorem names_are_unique_and_safe_numberInValue :
    ∃ artifacts, expand (.standard "/tmp") .plain [] ⟨"", "x"⟩
        [.ofList [("name", "Ann")], .ofList [("name", "Ann_2")], .ofList [("name", "Ann")]] =
          .ok artifacts ∧
      '.' ∉ Renderer.plain.extension.toList ∧
      artifacts.map Artifact.name = ["Ann.txt", "Ann_2.txt", "Ann_3.txt"] ∧
      (artifacts.map Artifact.stem).Nodup ∧
      ∀ method, ∃ bundle, Bundle.pack method artifacts = .ok bundle := by
  have hexpand : expand (.standard "/tmp") .plain [] ⟨"", "x"⟩
      [.ofList [("name", "Ann")], .ofList [("name", "Ann_2")], .ofList [("name", "Ann")]] =
        .ok [⟨"Ann.txt", [0x78]⟩, ⟨"Ann_2.txt", [0x78]⟩, ⟨"Ann_3.txt", [0x78]⟩] := by
    decide +kernel
  have hextension : '.' ∉ Renderer.plain.extension.toList := by decide
  obtain ⟨-, -, -, hstems, -, -, hpack⟩ := names_are_unique_and_safe (.standard "/tmp") .plain []
    ⟨"", "x"⟩ [.ofList [("name", "Ann")], .ofList [("name", "Ann_2")], .ofList [("name", "Ann")]]
    _ hextension hexpand
  exact ⟨_, hexpand, hextension, rfl, hstems, hpack⟩

end Batch

end MailMerge
