import MailMerge.Batch
import MailMerge.Proofs.CompletionOrder
import MailMerge.Proofs.NameAllocation

/-!
# Batches and the order of completion

Every job writes into its own slot, and every job finishes once. So a batch whose jobs all succeed
comes out as if its rows were worked on one after another, and a batch with a failing job fails with
the error of such a job (`expand_independent_of_order`).
-/

namespace MailMerge.Batch

/-- The artifacts of a template's rows, worked on one after another up to the first one that
fails; `taken` holds the names of earlier artifacts. -/
def sequential (namingField : String) (renderer : Renderer) (text : String) (taken : List String) :
    List Record → Except Error (List Artifact)
  | [] => .ok []
  | r :: rest =>
    if r.isBlank namingField then sequential namingField renderer text taken rest
    else
      let name := Naming.allocate taken (baseName namingField r) renderer.extension
      match renderer.render (fill text r) with
      | .error e => .error e
      | .ok content =>
        (sequential namingField renderer text (name :: taken) rest).map (⟨name, content⟩ :: ·)

section Collecting

/-- Where all outcomes are artifacts, the slots of the finished jobs hold theirs. -/
lemma collect_ok (artifacts : List Artifact) (order : List Nat)
    {slots : List (Option Artifact)} (hlength : slots.length = artifacts.length) :
    ∃ filled, collect (artifacts.map .ok) order slots = .ok filled ∧
      ∀ i, filled[i]? = if i ∈ order then artifacts[i]?.map some else slots[i]? := by
  induction order generalizing slots with
  | nil => exact ⟨slots, rfl, by simp⟩
  | cons job order ih =>
    rw [collect, List.getElem?_map]
    cases hjob : artifacts[job]? with
    | none =>
      obtain ⟨filled, hfilled, hget⟩ := ih hlength
      refine ⟨filled, hfilled, ?_⟩
      intro i
      rw [hget]
      by_cases hi : i = job
      · have hslot : slots[job]? = none := by
          rw [List.getElem?_eq_none_iff] at hjob ⊢
          omega
        simp [hi, hjob, hslot]
      · simp [hi]
    | some a =>
      have hset : (slots.set job (some a)).length = artifacts.length := by
        rw [List.length_set, hlength]
      obtain ⟨filled, hfilled, hget⟩ := ih hset
      refine ⟨filled, hfilled, ?_⟩
      intro i
      rw [hget]
      by_cases hi : i = job
      · have hbound : job < slots.length := by
          rw [hlength]
          exact (List.getElem?_eq_some_iff.mp hjob).1
        simp [hi, hjob, List.getElem?_set_self hbound]
      · simp [hi, List.getElem?_set_ne (Ne.symm hi)]

/-- After every job has finished, the slots hold the artifacts in the order of the jobs. -/
lemma collect_perm {artifacts : List Artifact} {order : List Nat}
    (horder : order.Perm (List.range artifacts.length)) :
    (collect (artifacts.map .ok) order (List.replicate artifacts.length none)).map
      (List.filterMap id) = .ok artifacts := by
  obtain ⟨filled, hfilled, hget⟩ :=
    collect_ok artifacts order (List.length_replicate (n := artifacts.length) (a := none))
  have hall : filled = artifacts.map some := by
    apply List.ext_getElem?
    intro i
    rw [hget, List.getElem?_map]
    by_cases hi : i < artifacts.length
    · rw [if_pos (horder.mem_iff.mpr (List.mem_range.mpr hi))]
    · simp [hi]
  rw [hfilled, hall, Except.map]
  simp

lemma exists_of_collect_error {outcomes : List (Except Error Artifact)} {order : List Nat}
    {slots : List (Option Artifact)} {e : Error} (h : collect outcomes order slots = .error e) :
    .error e ∈ outcomes := by
  induction order generalizing slots with
  | nil => cases h
  | cons job order ih =>
    rw [collect] at h
    split at h
    · exact ih h
    · next e' hjob =>
      cases h
      exact List.mem_of_getElem? hjob
    · exact ih h

lemma collect_error {outcomes : List (Except Error Artifact)} {order : List Nat} {job : Nat}
    (hjob : job ∈ order) {e : Error} (he : outcomes[job]? = some (.error e))
    (slots : List (Option Artifact)) : ∃ e', collect outcomes order slots = .error e' := by
  induction order generalizing slots with
  | nil => cases hjob
  | cons first order ih =>
    rw [collect]
    by_cases hfirst : job = first
    · rw [← hfirst, he]
      exact ⟨e, rfl⟩
    · have hrest : job ∈ order := (List.mem_cons.mp hjob).resolve_left hfirst
      split
      · exact ih hrest _
      · next e' _ => exact ⟨e', rfl⟩
      · exact ih hrest _

end Collecting

section Jobs

variable (namingField extension : String)

/-- The jobs of rows behind artifacts with the names `taken`. -/
def jobsFrom (taken : List String) (rows : List Record) : List Job :=
  List.zipWith Job.mk (Naming.allocateAll taken extension
    ((usable namingField rows).map (baseName namingField))) (usable namingField rows)

lemma jobs_eq (rows : List Record) :
    jobs namingField extension rows = jobsFrom namingField extension [] rows := rfl

/-- The names that are allocated to the usable rows, in their order. -/
def names (rows : List Record) : List String :=
  Naming.allocateAll [] extension ((usable namingField rows).map (baseName namingField))

lemma length_names (rows : List Record) :
    (names namingField extension rows).length = (usable namingField rows).length := by
  rw [names, Naming.length_allocateAll, List.length_map]

lemma jobs_eq_zipWith (rows : List Record) : jobs namingField extension rows =
    List.zipWith Job.mk (names namingField extension rows) (usable namingField rows) := rfl

lemma length_jobs (rows : List Record) :
    (jobs namingField extension rows).length = (usable namingField rows).length := by
  rw [jobs_eq_zipWith, List.length_zipWith, length_names, Nat.min_self]

lemma map_name_jobs (rows : List Record) :
    (jobs namingField extension rows).map Job.name = names namingField extension rows := by
  rw [jobs_eq_zipWith, ← List.map_uncurry_zip_eq_zipWith, List.map_map]
  exact List.map_fst_zip (Nat.le_of_eq (length_names ..))

lemma map_row_jobs (rows : List Record) :
    (jobs namingField extension rows).map Job.row = usable namingField rows := by
  rw [jobs_eq_zipWith, ← List.map_uncurry_zip_eq_zipWith, List.map_map]
  exact List.map_snd_zip (Nat.le_of_eq (length_names ..).symm)

variable {namingField}

lemma usable_cons_of_isBlank {r : Record} (h : r.isBlank namingField = true) (rows : List Record) :
    usable namingField (r :: rows) = usable namingField rows := by
  simp [usable, h]

lemma usable_cons {r : Record} (h : r.isBlank namingField = false) (rows : List Record) :
    usable namingField (r :: rows) = r :: usable namingField rows := by
  simp [usable, h]

end Jobs

section Work

variable {renderer : Renderer} {text : String} {job : Job}

lemma work_eq_ok_iff {a : Artifact} : work renderer (Layout.ofText text) job = .ok a ↔
    renderer.render (fill text job.row) = .ok a.content ∧ a.name = job.name := by
  change (renderer.render (fill text job.row)).map _ = _ ↔ _
  cases renderer.render (fill text job.row) with
  | error e => simp [Except.map]
  | ok content =>
    constructor
    · intro h
      cases h
      exact ⟨rfl, rfl⟩
    · rintro ⟨hcontent, hname⟩
      cases hcontent
      rw [Except.map, ← hname]

lemma work_eq_error_iff {e : Error} : work renderer (Layout.ofText text) job = .error e ↔
    renderer.render (fill text job.row) = .error e := by
  change (renderer.render (fill text job.row)).map _ = _ ↔ _
  cases renderer.render (fill text job.row) with
  | error e' => simp [Except.map]
  | ok content => simp [Except.map]

end Work

lemma exists_sequential {namingField : String} {renderer : Renderer} {text : String}
    {rows : List Record} (h : ∀ r ∈ usable namingField rows,
      ∃ content, renderer.render (fill text r) = .ok content) (taken : List String) :
    ∃ artifacts, sequential namingField renderer text taken rows = .ok artifacts ∧
      (jobsFrom namingField renderer.extension taken rows).map
        (work renderer (Layout.ofText text)) = artifacts.map .ok := by
  induction rows generalizing taken with
  | nil => exact ⟨[], rfl, rfl⟩
  | cons r rows ih =>
    rw [sequential]
    cases hblank : r.isBlank namingField with
    | true =>
      rw [usable_cons_of_isBlank hblank] at h
      rw [jobsFrom, usable_cons_of_isBlank hblank]
      exact ih h taken
    | false =>
      rw [usable_cons hblank] at h
      obtain ⟨content, hcontent⟩ := h r (by simp)
      obtain ⟨artifacts, hartifacts, hmap⟩ := ih (fun d hd => h d (by simp [hd]))
        (Naming.allocate taken (baseName namingField r) renderer.extension :: taken)
      rw [jobsFrom] at hmap
      refine ⟨⟨Naming.allocate taken (baseName namingField r) renderer.extension, content⟩ ::
        artifacts, ?_, ?_⟩
      · simp [hcontent, hartifacts, Except.map]
      · rw [jobsFrom, usable_cons hblank, List.map_cons, Naming.allocateAll]
        have hwork : work renderer (Layout.ofText text)
            ⟨Naming.allocate taken (baseName namingField r) renderer.extension, r⟩ =
            .ok ⟨Naming.allocate taken (baseName namingField r) renderer.extension, content⟩ :=
          work_eq_ok_iff.mpr ⟨hcontent, rfl⟩
        simp only [List.zipWith_cons_cons, List.map_cons, hmap, hwork]

lemma expand_of_usable_eq_nil {settings : Settings} {renderer : Renderer}
    {schedule : List Pool.Event} {template : Template} {rows : List Record}
    (h : usable settings.namingField rows = []) :
    expand settings renderer schedule template rows =
      .error (.noUsableRow rows.length settings.namingField) := by
  have hjobs : jobs settings.namingField renderer.extension rows = [] := by
    rw [← List.length_eq_zero_iff, length_jobs, h, List.length_nil]
  simp [expand, hjobs]

section Expanding

variable {settings : Settings} {renderer : Renderer} {template : Template} {rows : List Record}

lemma one_le_concurrency (settings : Settings) : 0 < settings.concurrency :=
  Nat.lt_of_lt_of_le Nat.zero_lt_one (Nat.le_max_right ..)

lemma expand_eq (schedule : List Pool.Event) (h : usable settings.namingField rows ≠ []) :
    expand settings renderer schedule template rows =
      (collect ((jobs settings.namingField renderer.extension rows).map
          (work renderer (Layout.ofText template.text)))
        (Pool.completionOrder settings.concurrency schedule
          (jobs settings.namingField renderer.extension rows).length)
        (List.replicate (jobs settings.namingField renderer.extension rows).length none)).map
        (List.filterMap id) := by
  have hjobs : (jobs settings.namingField renderer.extension rows).isEmpty = false := by
    rw [List.isEmpty_eq_false_iff, ← List.length_pos_iff, length_jobs, List.length_pos_iff]
    exact h
  rw [expand]
  simp only [hjobs, Bool.false_eq_true, if_false]

/-- A batch whose jobs all succeed gives their artifacts, under every schedule. -/
lemma expand_of_outcomes {artifacts : List Artifact} (schedule : List Pool.Event)
    (h : usable settings.namingField rows ≠ [])
    (houtcomes : (jobs settings.namingField renderer.extension rows).map
      (work renderer (Layout.ofText template.text)) = artifacts.map .ok) :
    expand settings renderer schedule template rows = .ok artifacts := by
  have hlength := congrArg List.length houtcomes
  rw [List.length_map, List.length_map] at hlength
  rw [expand_eq schedule h, houtcomes, hlength]
  exact collect_perm (Pool.completionOrder_perm (one_le_concurrency settings) schedule _)

/-- A batch with a row that fails ends with the error of such a row, under every schedule. -/
lemma expand_of_render_error (schedule : List Pool.Event) {r : Record}
    (hr : r ∈ usable settings.namingField rows) {e : Error}
    (he : renderer.render (fill template.text r) = .error e) :
    ∃ d ∈ usable settings.namingField rows, ∃ e',
      renderer.render (fill template.text d) = .error e' ∧
      expand settings renderer schedule template rows = .error e' := by
  have hrows : (jobs settings.namingField renderer.extension rows).map Job.row =
      usable settings.namingField rows := map_row_jobs _ renderer.extension rows
  rw [← hrows] at hr
  obtain ⟨job, hjob, rfl⟩ := List.mem_map.mp hr
  obtain ⟨k, hk⟩ := List.mem_iff_getElem?.mp hjob
  have houtcome : ((jobs settings.namingField renderer.extension rows).map
      (work renderer (Layout.ofText template.text)))[k]? = some (.error e) := by
    rw [List.getElem?_map, hk, Option.map_some, work_eq_error_iff.mpr he]
  have hfinished : k ∈ Pool.completionOrder settings.concurrency schedule
      (jobs settings.namingField renderer.extension rows).length := by
    have horder := Pool.completionOrder_perm (one_le_concurrency settings) schedule
      (jobs settings.namingField renderer.extension rows).length
    exact horder.mem_iff.mpr (List.mem_range.mpr (List.getElem?_eq_some_iff.mp hk).1)
  obtain ⟨e', he'⟩ := collect_error hfinished houtcome
    (List.replicate (jobs settings.namingField renderer.extension rows).length none)
  obtain ⟨failed, hfailed, hwork⟩ := List.mem_map.mp (exists_of_collect_error he')
  refine ⟨failed.row, ?_, e', work_eq_error_iff.mp hwork, ?_⟩
  · rw [← hrows]
    exact List.mem_map_of_mem hfailed
  · rw [expand_eq schedule, he']
    · rfl
    · rw [← hrows]
      exact List.ne_nil_of_mem (List.mem_map_of_mem hjob)

end Expanding

end MailMerge.Batch
