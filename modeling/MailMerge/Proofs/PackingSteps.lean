import MailMerge.Proofs.BundleRoundTrip
import Mathlib.Data.List.Induction
import Mathlib.Data.List.Nodup

/-!
# Packing in steps

Before anything is written, the names of all artifacts are looked through, so a writer that takes
the entries one by one never meets a name twice. Within the limits of the format it has nothing to
refuse: packing fails for want of artifacts or for a repeated name only, and then nothing has been
written (`packing_fails_iff`).
-/

namespace MailMerge

namespace Archive

/-- A way to write archives entry by entry. It may refuse a step, and then tells why. -/
structure EntryWriter where
  State : Type
  start : State
  /-- Begins an entry behind the earlier ones. -/
  beginEntry : Method → String → State → Except String State
  /-- Adds to the content of the entry that was begun last. -/
  append : Bytes → State → Except String State
  finish : State → Except String Bytes

namespace EntryWriter

/-- The writer has begun entries with these names, the last one first, and has been given `size`
bytes for that one. -/
inductive Reached (w : EntryWriter) : List String → Nat → w.State → Prop
  | start : w.Reached [] 0 w.start
  | beginEntry {names : List String} {size : Nat} {state next : w.State} {method : Method}
      {name : String} : w.Reached names size state → w.beginEntry method name state = .ok next →
      w.Reached (name :: names) 0 next
  | append {names : List String} {size : Nat} {state next : w.State} {content : Bytes} :
      w.Reached names size state → w.append content state = .ok next →
      w.Reached names (size + content.length) next

/-- The writer takes every new name below 64 KiB and every entry below 4 GiB. -/
structure Accepts (w : EntryWriter) : Prop where
  beginEntry {names : List String} {size : Nat} {state : w.State} {name : String} :
    w.Reached names size state → name ∉ names → (Utf8.encode name).length < 65536 →
    ∀ method, ∃ next, w.beginEntry method name state = .ok next
  append {names : List String} {size : Nat} {state : w.State} {content : Bytes} :
    w.Reached names size state → names ≠ [] → size + content.length < 4294967296 →
    ∃ next, w.append content state = .ok next
  finish {names : List String} {size : Nat} {state : w.State} :
    w.Reached names size state → ∃ bytes, w.finish state = .ok bytes

/-- The writer that keeps the entries, the last one first, until all are there. -/
def inMemory : EntryWriter where
  State := List Entry
  start := []
  beginEntry method name entries :=
    if (entries.map Entry.name).contains name then .error s!"Duplicate filename: {name}"
    else if (Utf8.encode name).length < 65536 then .ok (⟨name, method, []⟩ :: entries)
    else .error "File name too long"
  append content
    | [] => .error "No file has been started"
    | e :: rest =>
      if e.content.length + content.length < 4294967296 then
        .ok ({ e with content := e.content ++ content } :: rest)
      else .error "Large file option has not been set"
  finish entries := .ok (write entries.reverse)

lemma inMemory_entries {names : List String} {size : Nat} {state : inMemory.State}
    (h : inMemory.Reached names size state) :
    List.map Entry.name state = names ∧ ∀ e ∈ List.head? state, e.content.length = size := by
  induction h with
  | start => exact ⟨rfl, fun _ he => absurd he (Option.some_ne_none _).symm⟩
  | @beginEntry names size state next method name _ hnext ih =>
    simp only [inMemory] at hnext
    split_ifs at hnext
    cases hnext
    refine ⟨congrArg (name :: ·) ih.1, ?_⟩
    rintro _ ⟨⟩
    rfl
  | @append names size state next content _ hnext ih =>
    match state, hnext with
    | e :: rest, hnext =>
      simp only [inMemory] at hnext
      split_ifs at hnext
      cases hnext
      refine ⟨ih.1, ?_⟩
      rintro _ ⟨⟩
      rw [List.length_append, ih.2 e rfl]

/-- The writer in memory takes all that an archive can hold. -/
theorem inMemory_accepts : inMemory.Accepts where
  beginEntry := by
    intro names size entries name hreached hnew hshort method
    refine ⟨⟨name, method, []⟩ :: entries, ?_⟩
    simp only [inMemory]
    rw [if_neg (by simpa [(inMemory_entries hreached).1] using hnew), if_pos hshort]
  append := by
    intro names size entries content hreached hsome hsmall
    obtain ⟨hnames, hsize⟩ := inMemory_entries hreached
    match entries, hnames with
    | [], hnames => exact absurd hnames.symm hsome
    | e :: rest, _ =>
      refine ⟨{ e with content := e.content ++ content } :: rest, ?_⟩
      simp only [inMemory]
      rw [if_pos (by rw [hsize e rfl]; exact hsmall)]
  finish _ := ⟨_, rfl⟩

end EntryWriter

end Archive

namespace Bundle

open Archive (EntryWriter Method)

/-- Writes artifacts one after another. A refusal is told with the name of the artifact. -/
def addAll (w : EntryWriter) (method : Method) : List Artifact → w.State → Except Error w.State
  | [], state => .ok state
  | a :: rest, state => do
    let begun ← (w.beginEntry method a.name state).mapError (Error.bundle a.name)
    let added ← (w.append a.content begun).mapError (Error.bundle a.name)
    addAll w method rest added

/-- Packs artifacts with a writer that is given them one by one. -/
def packInSteps (w : EntryWriter) (method : Method) (artifacts : List Artifact) :
    Except Error Bundle :=
  if artifacts.isEmpty then .error .emptyBundle
  else
    match firstRepeated [] artifacts with
    | some name => .error (.bundle name "duplicate entry name")
    | none => do
      let added ← addAll w method artifacts w.start
      let bytes ← (w.finish added).mapError (Error.bundle "<central directory>")
      return ⟨artifacts.map Artifact.name, bytes⟩

section Repetitions

variable {seen : List String} {front behind artifacts : List Artifact} {name : String}

lemma new_behind {a : Artifact} (hdistinct : ((a :: artifacts).map Artifact.name).Nodup)
    (hnew : ∀ b ∈ a :: artifacts, b.name ∉ seen) : ∀ b ∈ artifacts, b.name ∉ a.name :: seen := by
  intro b hb hmem
  rcases List.mem_cons.mp hmem with hsame | hmem
  · exact (List.nodup_cons.mp hdistinct).1 (hsame ▸ List.mem_map_of_mem hb)
  · exact hnew b (List.mem_cons_of_mem _ hb) hmem

lemma firstRepeated_append (hdistinct : (front.map Artifact.name).Nodup)
    (hnew : ∀ a ∈ front, a.name ∉ seen) :
    firstRepeated seen (front ++ behind) =
      firstRepeated ((front.map Artifact.name).reverse ++ seen) behind := by
  induction front generalizing seen with
  | nil => rfl
  | cons a front ih =>
    have ha : seen.contains a.name = false := by simpa using hnew a List.mem_cons_self
    rw [List.cons_append, firstRepeated, ha, if_neg Bool.false_ne_true,
      ih hdistinct.of_cons (new_behind hdistinct hnew)]
    simp

lemma exists_repetition (h : ¬(artifacts.map Artifact.name).Nodup) :
    ∃ front a behind, artifacts = front ++ a :: behind ∧ a.name ∈ front.map Artifact.name ∧
      (front.map Artifact.name).Nodup := by
  induction artifacts using List.reverseRecOn with
  | nil => exact absurd List.nodup_nil h
  | append_singleton front last ih =>
    by_cases hfront : (front.map Artifact.name).Nodup
    · refine ⟨front, last, [], rfl, ?_, hfront⟩
      apply Classical.byContradiction
      intro hnew
      rw [List.map_append, List.map_singleton] at h
      exact h (hfront.append (List.nodup_singleton _) (by simpa using hnew))
    · obtain ⟨start, a, rest, hsplit, hmem, hdistinct⟩ := ih hfront
      exact ⟨start, a, rest ++ [last], by simp [hsplit], hmem, hdistinct⟩

lemma firstRepeated_of_split {a : Artifact} (hmem : a.name ∈ front.map Artifact.name)
    (hdistinct : (front.map Artifact.name).Nodup) :
    firstRepeated [] (front ++ a :: behind) = some a.name := by
  have hseen : ((front.map Artifact.name).reverse ++ []).contains a.name = true := by
    simpa using hmem
  rw [firstRepeated_append hdistinct (by simp), firstRepeated, hseen, if_pos rfl]

lemma exists_firstRepeated_iff :
    (∃ name, firstRepeated [] artifacts = some name) ↔ ¬(artifacts.map Artifact.name).Nodup := by
  constructor
  · rintro ⟨name, h⟩ hdistinct
    rw [firstRepeated_eq_none hdistinct (by simp)] at h
    cases h
  · intro h
    obtain ⟨front, a, behind, rfl, hmem, hdistinct⟩ := exists_repetition h
    exact ⟨a.name, firstRepeated_of_split hmem hdistinct⟩

lemma artifacts_cases (artifacts : List Artifact) :
    artifacts = [] ∨ (∃ name, firstRepeated [] artifacts = some name) ∨
      (artifacts ≠ [] ∧ (artifacts.map Artifact.name).Nodup) := by
  by_cases hsome : artifacts = []
  · exact .inl hsome
  · by_cases hdistinct : (artifacts.map Artifact.name).Nodup
    · exact .inr (.inr ⟨hsome, hdistinct⟩)
    · exact .inr (.inl (exists_firstRepeated_iff.mpr hdistinct))

lemma firstRepeated_eq_some_iff : firstRepeated [] artifacts = some name ↔
    ∃ front a behind, artifacts = front ++ a :: behind ∧ a.name = name ∧
      name ∈ front.map Artifact.name ∧ (front.map Artifact.name).Nodup := by
  constructor
  · intro h
    obtain ⟨front, a, behind, rfl, hmem, hdistinct⟩ :=
      exists_repetition (exists_firstRepeated_iff.mp ⟨name, h⟩)
    rw [firstRepeated_of_split hmem hdistinct] at h
    cases h
    exact ⟨front, a, behind, rfl, rfl, hmem, hdistinct⟩
  · rintro ⟨front, a, behind, rfl, rfl, hmem, hdistinct⟩
    exact firstRepeated_of_split hmem hdistinct

lemma ne_nil_of_firstRepeated (h : firstRepeated [] artifacts = some name) :
    artifacts ≠ [] := by
  rintro rfl
  cases h

end Repetitions

section Steps

variable {w : EntryWriter} {method : Method} {artifacts : List Artifact}

lemma addAll_cons {a : Artifact} {state begun added : w.State}
    (hbegun : w.beginEntry method a.name state = .ok begun)
    (hadded : w.append a.content begun = .ok added) (rest : List Artifact) :
    addAll w method (a :: rest) state = addAll w method rest added := by
  rw [addAll, hbegun]
  change ((w.append a.content begun).mapError _).bind _ = _
  rw [hadded]
  rfl

/-- A writer that takes all an archive can hold takes artifacts with new names. -/
lemma exists_addAll (method : Method) (hw : w.Accepts) {names : List String} {size : Nat}
    {state : w.State} (hreached : w.Reached names size state)
    (hdistinct : (artifacts.map Artifact.name).Nodup) (hnew : ∀ a ∈ artifacts, a.name ∉ names)
    (hshort : ∀ a ∈ artifacts, (Utf8.encode a.name).length < 65536)
    (hsmall : ∀ a ∈ artifacts, a.content.length < 4294967296) :
    ∃ names size added, addAll w method artifacts state = .ok added ∧
      w.Reached names size added := by
  induction artifacts generalizing names size state with
  | nil => exact ⟨names, size, state, rfl, hreached⟩
  | cons a rest ih =>
    rw [List.forall_mem_cons] at hshort hsmall
    obtain ⟨begun, hbegun⟩ := hw.beginEntry hreached (hnew a List.mem_cons_self) hshort.1 method
    obtain ⟨added, hadded⟩ := hw.append (hreached.beginEntry hbegun) (List.cons_ne_nil _ _)
      ((Nat.zero_add a.content.length).symm ▸ hsmall.1)
    rw [addAll_cons hbegun hadded]
    exact ih ((hreached.beginEntry hbegun).append hadded) hdistinct.of_cons
      (new_behind hdistinct hnew) hshort.2 hsmall.2

/-- The writer in memory has the entries of artifacts with new names. -/
lemma addAll_inMemory (method : Method) (entries : List Archive.Entry)
    (hdistinct : (artifacts.map Artifact.name).Nodup)
    (hnew : ∀ a ∈ artifacts, a.name ∉ entries.map Archive.Entry.name)
    (hshort : ∀ a ∈ artifacts, (Utf8.encode a.name).length < 65536)
    (hsmall : ∀ a ∈ artifacts, a.content.length < 4294967296) :
    addAll .inMemory method artifacts entries =
      .ok ((artifacts.map (entryOf method)).reverse ++ entries) := by
  induction artifacts generalizing entries with
  | nil => rfl
  | cons a rest ih =>
    rw [List.forall_mem_cons] at hshort hsmall
    have hbegun : EntryWriter.inMemory.beginEntry method a.name entries =
        .ok (⟨a.name, method, []⟩ :: entries) := by
      simp only [EntryWriter.inMemory]
      rw [if_neg (by simpa using hnew a List.mem_cons_self), if_pos hshort.1]
    have hadded : EntryWriter.inMemory.append a.content (⟨a.name, method, []⟩ :: entries) =
        .ok (entryOf method a :: entries) := by
      simp only [EntryWriter.inMemory]
      rw [if_pos (by simpa using hsmall.1)]
      rfl
    rw [addAll_cons hbegun hadded,
      ih (entryOf method a :: entries) hdistinct.of_cons (new_behind hdistinct hnew)
        hshort.2 hsmall.2]
    simp

lemma pack_of_firstRepeated {name : String} (h : firstRepeated [] artifacts = some name) :
    pack method artifacts = .error (.bundle name "duplicate entry name") := by
  have hempty := List.isEmpty_eq_false_iff.mpr (ne_nil_of_firstRepeated h)
  rw [pack, hempty, if_neg Bool.false_ne_true, h]

lemma packInSteps_of_firstRepeated {name : String}
    (h : firstRepeated [] artifacts = some name) :
    packInSteps w method artifacts = .error (.bundle name "duplicate entry name") := by
  have hempty := List.isEmpty_eq_false_iff.mpr (ne_nil_of_firstRepeated h)
  rw [packInSteps, hempty, if_neg Bool.false_ne_true, h]

lemma packInSteps_of_nodup {added : w.State} {bytes : Bytes} (hsome : artifacts ≠ [])
    (hdistinct : (artifacts.map Artifact.name).Nodup)
    (hadded : addAll w method artifacts w.start = .ok added) (hbytes : w.finish added = .ok bytes) :
    packInSteps w method artifacts = .ok ⟨artifacts.map Artifact.name, bytes⟩ := by
  rw [packInSteps, List.isEmpty_eq_false_iff.mpr hsome, if_neg Bool.false_ne_true,
    firstRepeated_eq_none hdistinct (by simp)]
  change (addAll w method artifacts w.start).bind _ = _
  rw [hadded]
  change ((w.finish added).mapError _).bind _ = _
  rw [hbytes]
  rfl

lemma pack_eq_repeated_iff {name : String} :
    pack method artifacts = .error (.bundle name "duplicate entry name") ↔
      firstRepeated [] artifacts = some name := by
  refine ⟨fun h => ?_, pack_of_firstRepeated⟩
  rcases artifacts_cases artifacts with rfl | ⟨other, hother⟩ | ⟨hsome, hdistinct⟩
  · cases h
  · rw [pack_of_firstRepeated hother] at h
    cases h
    exact hother
  · rw [pack_of_nodup method hsome hdistinct] at h
    cases h

lemma pack_eq_emptyBundle_iff : pack method artifacts = .error .emptyBundle ↔ artifacts = [] := by
  constructor
  · intro h
    rcases artifacts_cases artifacts with hnil | ⟨name, hname⟩ | ⟨hsome, hdistinct⟩
    · exact hnil
    · rw [pack_of_firstRepeated hname] at h
      cases h
    · rw [pack_of_nodup method hsome hdistinct] at h
      cases h
  · rintro rfl
    rfl

end Steps

/-- Packing fails if there are no artifacts, or with the first name that an earlier artifact has
too, and in no other way. The writer in memory comes to the same bundle step by step, and every
writer that takes all an archive can hold to the same failure or the same entries. -/
theorem packing_fails_iff (method : Method) (artifacts : List Artifact)
    (hshort : ∀ a ∈ artifacts, (Utf8.encode a.name).length < 65536)
    (hsmall : ∀ a ∈ artifacts, a.content.length < 4294967296) :
    (pack method artifacts = .error .emptyBundle ↔ artifacts = []) ∧
    ((∃ entry, pack method artifacts = .error (.bundle entry "duplicate entry name")) ↔
      ¬(artifacts.map Artifact.name).Nodup) ∧
    (∀ entry, pack method artifacts = .error (.bundle entry "duplicate entry name") ↔
      ∃ front a behind, artifacts = front ++ a :: behind ∧ a.name = entry ∧
        entry ∈ front.map Artifact.name ∧ (front.map Artifact.name).Nodup) ∧
    (artifacts ≠ [] → (artifacts.map Artifact.name).Nodup →
      ∃ bundle, pack method artifacts = .ok bundle ∧
        bundle.entries = artifacts.map Artifact.name) ∧
    EntryWriter.inMemory.Accepts ∧
    packInSteps .inMemory method artifacts = pack method artifacts ∧
    ∀ w : EntryWriter, w.Accepts →
      (packInSteps w method artifacts).map Bundle.entries =
        (pack method artifacts).map Bundle.entries := by
  refine ⟨pack_eq_emptyBundle_iff, ?_, ?_, ?_, EntryWriter.inMemory_accepts, ?_, ?_⟩
  · simp only [pack_eq_repeated_iff, exists_firstRepeated_iff]
  · intro entry
    rw [pack_eq_repeated_iff, firstRepeated_eq_some_iff]
  · intro hsome hdistinct
    exact ⟨_, pack_of_nodup method hsome hdistinct, rfl⟩
  · rcases artifacts_cases artifacts with rfl | ⟨name, hname⟩ | ⟨hsome, hdistinct⟩
    · rfl
    · rw [packInSteps_of_firstRepeated hname, pack_of_firstRepeated hname]
    · have hadded := addAll_inMemory method [] hdistinct (by simp) hshort hsmall
      rw [packInSteps_of_nodup hsome hdistinct hadded rfl, pack_of_nodup method hsome hdistinct,
        List.append_nil, List.reverse_reverse]
  · intro w hw
    rcases artifacts_cases artifacts with rfl | ⟨name, hname⟩ | ⟨hsome, hdistinct⟩
    · rfl
    · rw [packInSteps_of_firstRepeated hname, pack_of_firstRepeated hname]
    · obtain ⟨names, size, added, hadded, hreached⟩ :=
        exists_addAll method hw .start hdistinct (by simp) hshort hsmall
      obtain ⟨bytes, hbytes⟩ := hw.finish hreached
      rw [packInSteps_of_nodup hsome hdistinct hadded hbytes, pack_of_nodup method hsome hdistinct]
      rfl

/-- The name of the third artifact is the first that is repeated, and that of the second is
repeated by it. -/
def sampleRepetitions : List Artifact :=
  [⟨"b.txt", []⟩, ⟨"a.txt", [1]⟩, ⟨"a.txt", []⟩, ⟨"b.txt", [2]⟩]

theorem packing_fails_iff_sampleRepetitions :
    pack .stored sampleRepetitions = .error (.bundle "a.txt" "duplicate entry name") ∧
      packInSteps .inMemory .stored sampleRepetitions =
        .error (.bundle "a.txt" "duplicate entry name") := by
  obtain ⟨-, -, hfirst, -, -, hsteps, -⟩ :=
    packing_fails_iff .stored sampleRepetitions (by decide) (by decide)
  have hpack := (hfirst "a.txt").mpr
    ⟨sampleRepetitions.take 2, ⟨"a.txt", []⟩, [⟨"b.txt", [2]⟩], by decide, rfl, by decide,
      by decide⟩
  exact ⟨hpack, hsteps.trans hpack⟩

end Bundle

end MailMerge
