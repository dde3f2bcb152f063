import MailMerge.Proofs.BatchOrder
import Mathlib.Data.List.Basic

/-!
# Independent rows

A name is allocated beside those of the rows in front of it only, and a row without a usable name
takes none. So rows that are added behind a batch, or rows without a name anywhere in it, change
none of its artifacts, and the other values of a row show in its own artifact only
(`rows_are_independent`).
-/

namespace MailMerge.Batch

variable {namingField text : String} {renderer : Renderer} {taken : List String} {r r' : Record}

/-- The naming field alone decides whether a row is used, and what its artifact is named after. -/
lemma isBlank_congr (h : r.get? namingField = r'.get? namingField) :
    r.isBlank namingField = r'.isBlank namingField := by
  rw [Record.isBlank, Record.isBlank, h]

lemma baseName_congr (h : r.get? namingField = r'.get? namingField) :
    baseName namingField r = baseName namingField r' := by
  rw [baseName, baseName, h]

lemma usable_append (front behind : List Record) :
    usable namingField (front ++ behind) =
      usable namingField front ++ usable namingField behind :=
  List.filter_append ..

lemma usable_of_isBlank {rows : List Record} (h : ∀ r ∈ rows, r.isBlank namingField = true) :
    usable namingField rows = [] :=
  List.filter_eq_nil_iff.mpr fun r hr => by simp [h r hr]

lemma usable_ne_nil_of_get? (h : r.get? namingField = r'.get? namingField)
    {front behind : List Record} (hused : usable namingField (front ++ r :: behind) ≠ []) :
    usable namingField (front ++ r' :: behind) ≠ [] := by
  cases hblank : r.isBlank namingField with
  | true =>
    rw [usable_append, usable_cons_of_isBlank hblank] at hused
    rwa [usable_append, usable_cons_of_isBlank (isBlank_congr h ▸ hblank)]
  | false =>
    rw [usable_append, usable_cons (isBlank_congr h ▸ hblank)]
    simp

section Sequences

/-- Rows behind others are worked on beside the names that those have taken. -/
lemma sequential_append (front behind : List Record) (taken : List String) :
    sequential namingField renderer text taken (front ++ behind) =
      (sequential namingField renderer text taken front).bind fun artifacts =>
        (sequential namingField renderer text ((artifacts.map Artifact.name).reverse ++ taken)
          behind).map (artifacts ++ ·) := by
  induction front generalizing taken with
  | nil =>
    rw [List.nil_append, sequential, Except.bind, List.map_nil, List.reverse_nil, List.nil_append]
    cases sequential namingField renderer text taken behind <;> rfl
  | cons r front ih =>
    rw [List.cons_append, sequential, sequential]
    split
    · exact ih taken
    · cases renderer.render (fill text r) with
      | error e => rfl
      | ok content =>
        dsimp only
        rw [ih]
        generalize Naming.allocate taken (baseName namingField r) renderer.extension = name
        cases sequential namingField renderer text (name :: taken) front with
        | error e => rfl
        | ok artifacts =>
          simp only [Except.bind, Except.map, List.map_cons, List.reverse_cons, List.append_assoc,
            List.singleton_append]
          cases sequential namingField renderer text
            ((artifacts.map Artifact.name).reverse ++ name :: taken) behind <;> rfl

lemma sequential_append_of_isBlank {nameless : List Record}
    (h : ∀ r ∈ nameless, r.isBlank namingField = true) (behind : List Record)
    (taken : List String) :
    sequential namingField renderer text taken (nameless ++ behind) =
      sequential namingField renderer text taken behind := by
  induction nameless with
  | nil => rfl
  | cons r nameless ih =>
    rw [List.cons_append, sequential, if_pos (h r List.mem_cons_self)]
    exact ih fun d hd => h d (List.mem_cons_of_mem _ hd)

end Sequences

/-- Two lists have the same names, and the same artifacts but for one place. -/
def DifferOnlyAt (place : Nat) (artifacts artifacts' : List Artifact) : Prop :=
  artifacts'.map Artifact.name = artifacts.map Artifact.name ∧
    ∀ i, i ≠ place → artifacts'[i]? = artifacts[i]?

lemma differOnlyAt_append {a b : Artifact} (h : b.name = a.name) (front behind : List Artifact) :
    DifferOnlyAt front.length (front ++ a :: behind) (front ++ b :: behind) := by
  refine ⟨by simp [h], fun i hi => ?_⟩
  have hset : front ++ b :: behind = (front ++ a :: behind).set front.length b := by simp
  rw [hset, List.getElem?_set_ne (Ne.symm hi)]

section Rendering

variable {settings : Settings} {template : Template} {rows : List Record}
  (hrender : ∀ text, ∃ content, renderer.render text = .ok content)

include hrender

lemma exists_sequential_of_render (namingField text : String) (rows : List Record)
    (taken : List String) :
    ∃ artifacts, sequential namingField renderer text taken rows = .ok artifacts ∧
      artifacts.length = (usable namingField rows).length := by
  obtain ⟨artifacts, hsequential, houtcomes⟩ :=
    exists_sequential (fun r _ => hrender (fill text r)) taken
  refine ⟨artifacts, hsequential, ?_⟩
  have hlength := congrArg List.length houtcomes
  rw [List.length_map, List.length_map, jobsFrom, List.length_zipWith, Naming.length_allocateAll,
    List.length_map, Nat.min_self] at hlength
  exact hlength.symm

lemma expand_eq_sequential (schedule : List Pool.Event)
    (h : usable settings.namingField rows ≠ []) :
    expand settings renderer schedule template rows =
      sequential settings.namingField renderer template.text [] rows := by
  obtain ⟨artifacts, hsequential, houtcomes⟩ :=
    exists_sequential (fun r _ => hrender (fill template.text r)) []
  rw [hsequential]
  exact expand_of_outcomes schedule h houtcomes

lemma expand_eq_ok_iff {schedule : List Pool.Event} {artifacts : List Artifact} :
    expand settings renderer schedule template rows = .ok artifacts ↔
      usable settings.namingField rows ≠ [] ∧
        sequential settings.namingField renderer template.text [] rows = .ok artifacts := by
  by_cases h : usable settings.namingField rows = []
  · rw [expand_of_usable_eq_nil h]
    simp [h]
  · rw [expand_eq_sequential hrender schedule h, and_iff_right h]

/-- A row that keeps its value in the naming field keeps the name of its artifact, and so the names
of all that follow. -/
lemma exists_sequential_of_get? (text : String) (h : r.get? namingField = r'.get? namingField)
    (front behind : List Record) :
    ∃ artifacts artifacts',
      sequential namingField renderer text [] (front ++ r :: behind) = .ok artifacts ∧
      sequential namingField renderer text [] (front ++ r' :: behind) = .ok artifacts' ∧
      (r.isBlank namingField = true → artifacts' = artifacts) ∧
      (r.isBlank namingField = false →
        DifferOnlyAt (usable namingField front).length artifacts artifacts' ∧
        ∃ own, artifacts'[(usable namingField front).length]? = some own ∧
          renderer.render (fill text r') = .ok own.content) := by
  obtain ⟨first, hfirst, hlength⟩ :=
    exists_sequential_of_render hrender namingField text front []
  rw [sequential_append, sequential_append, hfirst, ← hlength]
  simp only [Except.bind, List.append_nil]
  generalize (first.map Artifact.name).reverse = taken
  rw [sequential, sequential, ← isBlank_congr h, ← baseName_congr h]
  cases hblank : r.isBlank namingField with
  | true =>
    obtain ⟨rest, hrest, -⟩ :=
      exists_sequential_of_render hrender namingField text behind taken
    refine ⟨first ++ rest, first ++ rest, ?_, ?_, fun _ => rfl,
      fun hused => absurd hused.symm Bool.false_ne_true⟩
    · simp [hrest, Except.map]
    · simp [hrest, Except.map]
  | false =>
    obtain ⟨content, hcontent⟩ := hrender (fill text r)
    obtain ⟨content', hcontent'⟩ := hrender (fill text r')
    generalize Naming.allocate taken (baseName namingField r) renderer.extension = name
    obtain ⟨rest, hrest, -⟩ :=
      exists_sequential_of_render hrender namingField text behind (name :: taken)
    have hname : (Artifact.mk name content').name = (Artifact.mk name content).name := rfl
    refine ⟨first ++ ⟨name, content⟩ :: rest, first ++ ⟨name, content'⟩ :: rest, ?_, ?_,
      fun hblank => absurd hblank Bool.false_ne_true,
      fun _ => ⟨differOnlyAt_append hname first rest, ?_⟩⟩
    · simp [hcontent, hrest, Except.map]
    · simp [hcontent', hrest, Except.map]
    · exact ⟨⟨name, content'⟩, by simp, hcontent'⟩

end Rendering

/-- With a renderer that never fails, rows that are added behind a batch leave its artifacts as they
are, rows without a name can be left out, and a row whose value in the naming field stays changes
no artifact but its own, and no name. -/
theorem rows_are_independent (settings : Settings) (renderer : Renderer) (template : Template)
    (hrender : ∀ text, ∃ content, renderer.render text = .ok content) :
    (∀ rows added schedule schedule' artifacts,
      expand settings renderer schedule template rows = .ok artifacts →
        ∃ more, expand settings renderer schedule' template (rows ++ added) =
          .ok (artifacts ++ more)) ∧
    (∀ front nameless behind schedule schedule' artifacts,
      (∀ r ∈ nameless, r.isBlank settings.namingField = true) →
      expand settings renderer schedule template (front ++ behind) = .ok artifacts →
        expand settings renderer schedule' template (front ++ nameless ++ behind) =
          .ok artifacts) ∧
    (∀ front r r' behind schedule schedule' artifacts,
      r.get? settings.namingField = r'.get? settings.namingField →
      expand settings renderer schedule template (front ++ r :: behind) = .ok artifacts →
        ∃ artifacts',
          expand settings renderer schedule' template (front ++ r' :: behind) = .ok artifacts' ∧
          (r.isBlank settings.namingField = true → artifacts' = artifacts) ∧
          (r.isBlank settings.namingField = false →
            DifferOnlyAt (usable settings.namingField front).length artifacts artifacts' ∧
            ∃ own, artifacts'[(usable settings.namingField front).length]? = some own ∧
              renderer.render (fill template.text r') = .ok own.content)) := by
  refine ⟨?_, ?_, ?_⟩
  · intro rows added schedule schedule' artifacts hexpand
    obtain ⟨hused, hsequential⟩ := (expand_eq_ok_iff hrender).mp hexpand
    obtain ⟨more, hmore, -⟩ := exists_sequential_of_render hrender settings.namingField
      template.text added ((artifacts.map Artifact.name).reverse ++ [])
    refine ⟨more, (expand_eq_ok_iff hrender).mpr ⟨?_, ?_⟩⟩
    · rw [usable_append]
      exact List.append_ne_nil_of_left_ne_nil hused _
    · rw [sequential_append, hsequential, Except.bind, hmore]
      rfl
  · intro front nameless behind schedule schedule' artifacts hblank hexpand
    obtain ⟨hused, hsequential⟩ := (expand_eq_ok_iff hrender).mp hexpand
    refine (expand_eq_ok_iff hrender).mpr ⟨?_, ?_⟩
    · rwa [usable_append, usable_append, usable_of_isBlank hblank, List.append_nil,
        ← usable_append]
    · rw [List.append_assoc, sequential_append]
      simp only [sequential_append_of_isBlank hblank]
      rw [← sequential_append, hsequential]
  · intro front r r' behind schedule schedule' artifacts hname hexpand
    obtain ⟨hused, hsequential⟩ := (expand_eq_ok_iff hrender).mp hexpand
    obtain ⟨before, after, hbefore, hafter, hcases⟩ :=
      exists_sequential_of_get? hrender template.text hname front behind
    rw [hsequential] at hbefore
    cases hbefore
    exact ⟨after, (expand_eq_ok_iff hrender).mpr ⟨usable_ne_nil_of_get? hname hused, hafter⟩,
      hcases⟩

/-- Rows with one name twice. -/
def sampleRows : List Record :=
  [.ofList [("name", "Ann"), ("x", "1")], .ofList [("name", "Ann"), ("x", "2")]]

theorem rows_are_independent_sampleRows :
    (∃ artifacts more,
      expand (.standard "/tmp") .plain [] ⟨"", "\x7b\x7bx\x7d\x7d"⟩ sampleRows = .ok artifacts ∧
      expand (.standard "/tmp") .plain [.start 2] ⟨"", "\x7b\x7bx\x7d\x7d"⟩
        (sampleRows ++ sampleRows) = .ok (artifacts ++ more) ∧
      expand (.standard "/tmp") .plain [.start 1] ⟨"", "\x7b\x7bx\x7d\x7d"⟩
        ([.ofList [("name", "Ann"), ("x", "1")]] ++ [.ofList [("x", "3")]] ++
          [.ofList [("name", "Ann"), ("x", "2")]]) = .ok artifacts) ∧
    ∃ artifacts', expand (.standard "/tmp") .plain [] ⟨"", "\x7b\x7bx\x7d\x7d"⟩
        [.ofList [("name", "Ann"), ("x", "4")], .ofList [("name", "Ann"), ("x", "2")]] =
          .ok artifacts' ∧
      DifferOnlyAt 0 [⟨"Ann.txt", [49]⟩, ⟨"Ann_2.txt", [50]⟩] artifacts' := by
  have hsample : expand (.standard "/tmp") .plain [] ⟨"", "\x7b\x7bx\x7d\x7d"⟩ sampleRows =
      .ok [⟨"Ann.txt", [49]⟩, ⟨"Ann_2.txt", [50]⟩] := by decide +kernel
  obtain ⟨hadded, hnameless, hchanged⟩ := rows_are_independent (.standard "/tmp") .plain
    ⟨"", "\x7b\x7bx\x7d\x7d"⟩ fun text => ⟨Utf8.encode text, rfl⟩
  constructor
  · obtain ⟨more, hmore⟩ := hadded sampleRows sampleRows [] [.start 2] _ hsample
    exact ⟨_, more, hsample, hmore, hnameless _ [.ofList [("x", "3")]] _ [] [.start 1] _
      (by decide) hsample⟩
  · obtain ⟨artifacts', hexpand, -, hdiffer⟩ := hchanged [] (.ofList [("name", "Ann"), ("x", "1")])
      (.ofList [("name", "Ann"), ("x", "4")]) [.ofList [("name", "Ann"), ("x", "2")]] [] [] _
      (by decide) hsample
    exact ⟨artifacts', hexpand, (hdiffer (by decide)).1⟩

end MailMerge.Batch
