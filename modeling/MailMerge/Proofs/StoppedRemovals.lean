import MailMerge.Proofs.StoreLookups

/-!
# Removals that stop

The files of a template are removed one after the other, in the order in which its folder is
listed, up to the first that cannot be removed. So a removal that fails has taken away those listed
before that one, and nothing else (`failed_removal_stops`).
-/

namespace MailMerge

namespace Files

variable {files files' : Files} {working : Location} {p : Path}

/-- All files are still there with what is in them. -/
def Unharmed (files files' : Files) : Prop :=
  ∀ l content executable, files.node? l = some (.file content executable) →
    files'.node? l = some (.file content executable)

lemma removeFile_eq_ok (h : files.removeFile working p = .ok files') :
    (∃ content executable,
      files.node? (placeOf working p) = some (.file content executable)) ∧
      files' = files.erase (placeOf working p) := by
  unfold removeFile at h
  cases hlocate : files.locate working p with
  | error fault =>
    rw [hlocate] at h
    cases h
  | ok place =>
    rw [hlocate] at h
    dsimp only at h
    rw [← eq_placeOf_of_locate hlocate]
    cases hnode : files.node? place with
    | none =>
      rw [hnode] at h
      cases h
    | some node =>
      rw [hnode] at h
      cases node with
      | folder => cases h
      | file content executable =>
        cases h
        exact ⟨⟨content, executable, rfl⟩, rfl⟩

end Files

namespace Store

variable {s : Store} {host : Host} {files after : Files} {reference : String} {e : Error}

section Stopping

/-- The place of a name in the store's folder, seen along its path. -/
def nameOf (s : Store) (host : Host) (name : String) : Location :=
  Files.placeOf host.working (s.root.join name)

/-- Names are removed up to one that cannot be: those before it were files and are gone, and nothing
else has changed. -/
structure StopsAt (s : Store) (host : Host) (files : Files) (removed : List String)
    (stuck : String) (fault : FileFault) (after : Files) : Prop where
  refused : after.removeFile host.working (s.root.join stuck) = .error fault
  file : ∀ n ∈ removed, ∃ content executable,
    files.node? (s.nameOf host n) = some (.file content executable)
  node? : ∀ l, after.node? l = if l ∈ removed.map (s.nameOf host) then none else files.node? l

lemma StopsAt.cons {name stuck : String} {removed : List String} {fault : FileFault}
    {content : Bytes} {executable : Bool}
    (hfile : files.node? (s.nameOf host name) = some (.file content executable))
    (h : s.StopsAt host (files.erase (s.nameOf host name)) removed stuck fault after) :
    s.StopsAt host files (name :: removed) stuck fault after := by
  have hnone : files.node? (s.nameOf host name) ≠ some .folder := by simp [hfile]
  have herased := Files.node?_erase files (Files.ne_nil_of_node? hnone)
  refine ⟨h.refused, List.forall_mem_cons.mpr ⟨⟨_, _, hfile⟩, fun n hn => ?_⟩, fun l => ?_⟩
  · obtain ⟨content', executable', hnode⟩ := h.file n hn
    rw [herased] at hnode
    split at hnode
    · cases hnode
    · exact ⟨content', executable', hnode⟩
  · rw [h.node?, herased]
    by_cases hl : l = s.nameOf host name
    · simp [hl]
    · simp [hl]

/-- Files are removed up to the first that cannot be. -/
lemma removeAll_cases (s : Store) (host : Host) (names : List String) (files : Files) :
    (∃ after, (s.removeAll names).on host files = (.ok (), after)) ∨
      ∃ removed stuck rest fault after, names = removed ++ stuck :: rest ∧
        (s.removeAll names).on host files = (.error (.file fault), after) ∧
        s.StopsAt host files removed stuck fault after := by
  induction names generalizing files with
  | nil => exact .inl ⟨files, rfl⟩
  | cons name rest ih =>
    have hremove : (Action.removeFile (s.root.join name)).on host files =
        ((files.change (files.removeFile host.working (s.root.join name))).1.mapError Error.file,
          (files.change (files.removeFile host.working (s.root.join name))).2) := rfl
    cases hfirst : files.removeFile host.working (s.root.join name) with
    | error fault =>
      rw [hfirst] at hremove
      exact .inr ⟨[], name, rest, fault, files, rfl, Action.on_bind_error hremove,
        hfirst, by simp, by simp⟩
    | ok between =>
      rw [hfirst] at hremove
      obtain ⟨⟨content, executable, hfile⟩, rfl⟩ := Files.removeFile_eq_ok hfirst
      rcases ih (files.erase (s.nameOf host name)) with
        ⟨after, hrest⟩ | ⟨removed, stuck, others, fault, after, hnames, hrest, hstops⟩
      · exact .inl ⟨after, (Action.on_bind_ok hremove).trans hrest⟩
      · exact .inr ⟨name :: removed, stuck, others, fault, after, by rw [hnames, List.cons_append],
          (Action.on_bind_ok hremove).trans hrest, hstops.cons hfile⟩

lemma StopsAt.unharmed_iff {removed : List String} {stuck : String} {fault : FileFault}
    (h : s.StopsAt host files removed stuck fault after) :
    files.Unharmed after ↔ removed = [] := by
  constructor
  · intro hunharmed
    cases removed with
    | nil => rfl
    | cons name removed =>
      obtain ⟨content, executable, hfile⟩ := h.file name List.mem_cons_self
      have hgone := hunharmed _ content executable hfile
      rw [h.node?, if_pos (by simp)] at hgone
      cases hgone
  · rintro rfl l content executable hfile
    rw [h.node?, if_neg (by simp), hfile]

end Stopping

/-- A removal that fails changes nothing where the template is missing or its folder cannot be
listed. Otherwise it stops at a file of the template that cannot be removed: of the template's
files those listed before are gone, and all else is as it was. -/
theorem failed_removal_stops (h : (s.remove reference).on host files = (.error e, after)) :
    (after = files ∧
        (e = .templateMissing reference ∨ s.names.on host files = (.error e, files))) ∨
      ∃ names removed stuck rest fault, s.names.on host files = (.ok names, files) ∧
        filesOf reference names = removed ++ stuck :: rest ∧ e = .file fault ∧
        s.StopsAt host files removed stuck fault after ∧
        (files.Unharmed after ↔ removed = []) := by
  by_cases href : isReference reference = true
  · rw [remove, Action.on_bind_ok (on_checkReference href)] at h
    obtain ⟨listed, hnames⟩ : ∃ listed, s.names.on host files = (listed, files) :=
      ⟨_, names_eq s host files⟩
    cases listed with
    | error fault =>
      rw [Action.on_bind_error hnames] at h
      cases h
      exact .inl ⟨rfl, .inr hnames⟩
    | ok names =>
      rw [Action.on_bind_ok hnames] at h
      dsimp only at h
      rcases removeAll_cases s host (filesOf reference names) files with
        ⟨gone, hall⟩ | ⟨removed, stuck, rest, fault, stopped, hfiles, hall, hstops⟩
      · rw [Action.on_bind_ok hall] at h
        split at h
        · next hnone =>
          rw [List.isEmpty_iff.mp hnone] at hall
          cases hall
          cases h
          exact .inl ⟨rfl, .inl rfl⟩
        · cases h
      · rw [Action.on_bind_error hall] at h
        cases h
        exact .inr ⟨names, removed, stuck, rest, fault, hnames, hfiles, rfl, hstops,
          hstops.unharmed_iff⟩
  · rw [on_remove_of_malformed (by simpa using href)] at h
    cases h
    exact .inl ⟨rfl, .inl rfl⟩

section Samples

/-- A template whose source and text are listed before and behind a folder with its reference. -/
def sampleBlocked : Files where
  entries := [(["templates"], .folder),
    (["templates", "0123456789abcdef0123456789abcdef.txt"], .file [120] false),
    (["templates", "0123456789abcdef0123456789abcdef.d"], .folder),
    (["templates", "0123456789abcdef0123456789abcdef.extracted"], .file [116] false)]
  distinct := by decide

/-- What is left of it when the template is removed. -/
def sampleRemoval : Except Error Unit × Files :=
  (Store.remove ⟨⟨"templates"⟩⟩ "0123456789abcdef0123456789abcdef").on sampleHost sampleBlocked

lemma sampleRemoval_eq : (Store.remove ⟨⟨"templates"⟩⟩ "0123456789abcdef0123456789abcdef").on
    sampleHost sampleBlocked = (.error (.file .isFolder), sampleRemoval.2) :=
  Prod.ext (by decide +kernel) rfl

lemma sampleRemoval_source :
    sampleRemoval.2.node? ["templates", "0123456789abcdef0123456789abcdef.txt"] = none := by
  decide +kernel

theorem failed_removal_stops_at_folder :
    (Store.remove ⟨⟨"templates"⟩⟩ "0123456789abcdef0123456789abcdef").on sampleHost sampleBlocked =
        (.error (.file .isFolder), sampleRemoval.2) ∧
      ∃ removed stuck rest,
        ["0123456789abcdef0123456789abcdef.txt", "0123456789abcdef0123456789abcdef.d",
          "0123456789abcdef0123456789abcdef.extracted"] = removed ++ stuck :: rest ∧
        Store.StopsAt ⟨⟨"templates"⟩⟩ sampleHost sampleBlocked removed stuck .isFolder
          sampleRemoval.2 := by
  refine ⟨sampleRemoval_eq, ?_⟩
  rcases failed_removal_stops sampleRemoval_eq with
    ⟨hsame, -⟩ | ⟨names, removed, stuck, rest, fault, hnames, hfiles, hfault, hstops, -⟩
  · have hsource := sampleRemoval_source
    rw [hsame] at hsource
    cases hsource
  · cases hfault
    have hlisted : ((Store.names ⟨⟨"templates"⟩⟩).on sampleHost sampleBlocked).1 =
        .ok ["0123456789abcdef0123456789abcdef.txt", "0123456789abcdef0123456789abcdef.d",
          "0123456789abcdef0123456789abcdef.extracted"] := by decide +kernel
    rw [hnames] at hlisted
    cases hlisted
    exact ⟨removed, stuck, rest, .trans (by decide +kernel) hfiles, hstops⟩

/-- The source that is listed before the folder is lost. -/
theorem not_unharmed_of_failed_removal :
    (Store.remove ⟨⟨"templates"⟩⟩ "0123456789abcdef0123456789abcdef").on sampleHost sampleBlocked =
        (.error (.file .isFolder), sampleRemoval.2) ∧
      ¬sampleBlocked.Unharmed sampleRemoval.2 := by
  refine ⟨sampleRemoval_eq, fun hunharmed => ?_⟩
  have hkept := hunharmed ["templates", "0123456789abcdef0123456789abcdef.txt"] [120] false rfl
  rw [sampleRemoval_source] at hkept
  cases hkept

end Samples

end Store

end MailMerge
