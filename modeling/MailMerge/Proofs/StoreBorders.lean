import MailMerge.Proofs.ListedTemplates
import MailMerge.Proofs.RequestHistories
import MailMerge.Proofs.StoppedRemovals

/-!
# The borders of the store

A reference is looked at before it becomes part of a path, so no reference leads out of the store's
folder. What a request for a template comes to depends on that folder and on what is right in it,
and of the rest of the system only on why the folder cannot be reached, if it cannot
(`references_stay_inside`).
-/

namespace MailMerge

namespace Files

variable {files files' : Files} {working start place : Location} {p : Path} {name : String}
  {steps : List String}

/-- The folder that steps lead to, or why they lead to none. -/
def reach (files : Files) (start : Location) (steps : List String) :
    Except FileFault Location :=
  match files.follow start steps with
  | .error fault => .error fault
  | .ok place =>
    match files.node? place with
    | some .folder => .ok place
    | some (.file ..) => .error .notFolder
    | none => .error .missing

/-- A tree that a system can have: all is in folders and under names that are steps of paths, and
the working folder is there. -/
structure Sound (files : Files) (working : Location) : Prop where
  rooted : files.Rooted
  named : ∀ l name, files.node? (l ++ [name]) ≠ none → Path.IsStep name
  working : files.node? working = some .folder

/-- Two trees agree on a folder: on whether something is at the end of its path, on the folder that
the path leads to or why it leads to none, and on what is right in the folder. -/
structure SameFolderAt (working : Location) (p : Path) (files files' : Files) : Prop where
  present : (files'.kind? working p).isSome = (files.kind? working p).isSome
  reach : files'.reach (origin working p) p.steps = files.reach (origin working p) p.steps
  child : ∀ place, files.reach (origin working p) p.steps = .ok place →
    ∀ name, files'.node? (place ++ [name]) = files.node? (place ++ [name])

lemma sound_of_entries (hrooted : ∀ e ∈ files.entries, files.node? e.1.dropLast = some .folder)
    (hnamed : ∀ e ∈ files.entries, ∀ name ∈ e.1.getLast?,
      '/' ∉ name.toList ∧ Path.isIdle name.toList = false ∧ name ≠ "..")
    (hworking : files.node? working = some .folder) : files.Sound working := by
  refine ⟨rooted_of_entries hrooted, fun l name hnode => ?_, hworking⟩
  rw [← mem_names_iff, names, List.mem_filterMap] at hnode
  obtain ⟨e, he, hchild⟩ := hnode
  obtain ⟨hslash, hidle, hup⟩ := hnamed e he name (by simp [childName?_eq_some_iff.mp hchild])
  exact ⟨hslash, hidle, hup⟩

lemma SameFolderAt.refl (files : Files) : SameFolderAt working p files files :=
  ⟨rfl, rfl, fun _ _ _ => rfl⟩

section Reaching

lemma reach_eq_ok_iff : files.reach start steps = .ok place ↔
    files.follow start steps = .ok place ∧ files.node? place = some .folder := by
  unfold reach
  cases files.follow start steps with
  | error fault => simp
  | ok found =>
    dsimp only
    cases hnode : files.node? found with
    | none => grind
    | some node => cases node <;> grind

lemma Stands.reach_eq (h : files.Stands working p) :
    files.reach (origin working p) p.steps = .ok (placeOf working p) :=
  reach_eq_ok_iff.mpr ⟨h.follow, h.folder⟩

lemma stands_of_reach (h : files.reach (origin working p) p.steps = .ok place) :
    files.Stands working p ∧ place = placeOf working p := by
  obtain ⟨hfollow, hfolder⟩ := reach_eq_ok_iff.mp h
  exact ⟨stands_of_follow hfollow hfolder, eq_walk_of_follow hfollow⟩

lemma Rooted.folder_dropLast (h : files.Rooted) (hplace : files.node? place = some .folder) :
    files.node? place.dropLast = some .folder := by
  cases place using List.reverseRecOn with
  | nil => rfl
  | append_singleton front last =>
    rw [List.dropLast_concat]
    exact h front last (by simp [hplace])

/-- Where steps lead to no folder, one more step does not help. -/
lemma Rooted.follow_concat (h : files.Rooted) (hstart : files.node? start = some .folder)
    {fault : FileFault} (hreach : files.reach start steps = .error fault) (name : String) :
    files.follow start (steps ++ [name]) = .error fault := by
  induction steps generalizing start with
  | nil =>
    rw [reach_eq_ok_iff.mpr ⟨rfl, hstart⟩] at hreach
    cases hreach
  | cons step rest ih =>
    rw [List.cons_append, follow]
    rw [reach, follow] at hreach
    by_cases hstep : step = ".."
    · rw [if_pos hstep] at hreach ⊢
      exact ih (h.folder_dropLast hstart) hreach
    · rw [if_neg hstep] at hreach ⊢
      by_cases hlong : nameLimit < step.utf8ByteSize
      · rw [if_pos hlong] at hreach ⊢
        exact hreach
      · rw [if_neg hlong] at hreach ⊢
        cases hnode : files.node? (start ++ [step]) with
        | none =>
          rw [hnode] at hreach
          by_cases hrest : rest = []
          · simpa [hrest, hnode] using hreach
          · simpa [hrest] using hreach
        | some node =>
          rw [hnode] at hreach
          cases node with
          | folder => exact ih hnode hreach
          | file content executable =>
            by_cases hrest : rest = []
            · simpa [hrest, hnode] using hreach
            · simpa [hrest] using hreach

lemma Sound.origin (h : files.Sound working) (p : Path) :
    files.node? (Files.origin working p) = some .folder := by
  rw [Files.origin]
  split
  · rfl
  · exact h.working

lemma locate_join_of_stands (h : files.Stands working p) (hname : Path.IsStep name) :
    files.locate working (p.join name) =
      match badPath? (p.join name) with
      | some fault => .error fault
      | none =>
        if nameLimit < name.utf8ByteSize then .error .nameTooLong
        else .ok (placeOf working p ++ [name]) := by
  cases hbad : badPath? (p.join name) with
  | some fault => rw [locate, hbad]
  | none =>
    dsimp only
    by_cases hlong : nameLimit < name.utf8ByteSize
    · rw [if_pos hlong, locate, hbad, origin_join working p hname, steps_join_step p hname,
        follow_append h.follow h.folder, follow, if_neg hname.notUp, if_pos hlong]
    · rw [if_neg hlong, locate_join h hname (Nat.not_lt.mp hlong) hbad]

lemma locate_join_congr (h : files.Stands working p) (h' : files'.Stands working p)
    (hname : Path.IsStep name) :
    files'.locate working (p.join name) = files.locate working (p.join name) := by
  rw [locate_join_of_stands h hname, locate_join_of_stands h' hname]

lemma short_of_locate_join (hname : Path.IsStep name)
    (h : files.locate working (p.join name) = .ok place) : name.utf8ByteSize ≤ nameLimit := by
  have hfollow := (locate_eq_ok_iff.mp h).2.1
  rw [origin_join working p hname, steps_join_step p hname] at hfollow
  rw [follow_append_of_follow (by simp) hfollow] at hfollow
  by_contra hlong
  rw [follow, if_neg hname.notUp, if_pos (Nat.not_le.mp hlong)] at hfollow
  cases hfollow

lemma Sound.locate_join_of_error (h : files.Sound working) (hname : Path.IsStep name)
    {fault : FileFault} (hreach : files.reach (Files.origin working p) p.steps = .error fault) :
    files.locate working (p.join name) =
      match badPath? (p.join name) with
      | some fault => .error fault
      | none => .error fault := by
  rw [locate]
  cases badPath? (p.join name) with
  | some fault => rfl
  | none =>
    dsimp only
    rw [origin_join working p hname, steps_join_step p hname,
      h.rooted.follow_concat (h.origin p) hreach]

lemma SameFolderAt.read_join (h : SameFolderAt working p files files')
    (hsound : files.Sound working) (hsound' : files'.Sound working) (hname : Path.IsStep name) :
    files'.read working (p.join name) = files.read working (p.join name) := by
  have hsame := h.reach
  rw [read, read]
  cases hreach : files.reach (Files.origin working p) p.steps with
  | error fault =>
    rw [hreach] at hsame
    rw [hsound.locate_join_of_error hname hreach, hsound'.locate_join_of_error hname hsame]
    cases badPath? (p.join name) <;> rfl
  | ok place =>
    rw [hreach] at hsame
    obtain ⟨hstands, rfl⟩ := stands_of_reach hreach
    rw [locate_join_congr hstands (stands_of_reach hsame).1 hname]
    cases hlocate : files.locate working (p.join name) with
    | error fault => rfl
    | ok found =>
      dsimp only
      rw [eq_of_locate_join hname hlocate, h.child _ hreach]

lemma list_of_present (h : (files.kind? working p).isSome = true) :
    files.list working p = (files.reach (Files.origin working p) p.steps).map files.names := by
  unfold kind? at h
  cases hlocate : files.locate working p with
  | error fault =>
    rw [hlocate] at h
    cases h
  | ok place =>
    rw [hlocate] at h
    dsimp only at h
    rw [list, hlocate, reach, (locate_eq_ok_iff.mp hlocate).2.1]
    dsimp only
    cases hnode : files.node? place with
    | none =>
      rw [hnode] at h
      cases h
    | some node => cases node <;> rfl

end Reaching

end Files

namespace Store

variable {s : Store} {host : Host} {files files' : Files} {reference : String}
  {names : List String}

section Refusals

/-- The fault of an outcome, if it is one. -/
def faultOf? {α : Type} : Except FileFault α → Option FileFault
  | .ok _ => none
  | .error fault => some fault

/-- Why the file of a name in the store's folder cannot be removed, if it cannot. -/
def refusal (s : Store) (host : Host) (files : Files) (name : String) : Option FileFault :=
  faultOf? (files.removeFile host.working (s.root.join name))

lemma refusal_congr {name : String} (hstands : files.Stands host.working s.root)
    (hstands' : files'.Stands host.working s.root) (hname : Path.IsStep name)
    (hnode : files'.node? (Files.placeOf host.working s.root ++ [name]) =
      files.node? (Files.placeOf host.working s.root ++ [name])) :
    s.refusal host files' name = s.refusal host files name := by
  rw [refusal, refusal, Files.removeFile, Files.removeFile,
    Files.locate_join_congr hstands hstands' hname]
  cases hlocate : files.locate host.working (s.root.join name) with
  | error fault => rfl
  | ok found =>
    dsimp only
    rw [Files.eq_of_locate_join hname hlocate, hnode]
    cases files.node? (Files.placeOf host.working s.root ++ [name]) with
    | none => rfl
    | some node => cases node <;> rfl

lemma on_removeFile_cases (s : Store) (host : Host) (files : Files) (name : String) :
    (∃ fault, s.refusal host files name = some fault ∧
        (Action.removeFile (s.root.join name)).on host files = (.error (.file fault), files)) ∨
      (s.refusal host files name = none ∧
        files.node? (s.nameOf host name) ≠ some .folder ∧
        (Action.removeFile (s.root.join name)).on host files =
          (.ok (), files.erase (s.nameOf host name))) := by
  have hremove : (Action.removeFile (s.root.join name)).on host files =
      ((files.change (files.removeFile host.working (s.root.join name))).1.mapError Error.file,
        (files.change (files.removeFile host.working (s.root.join name))).2) := rfl
  rw [refusal]
  cases hfirst : files.removeFile host.working (s.root.join name) with
  | error fault =>
    rw [hfirst] at hremove
    exact .inl ⟨fault, rfl, hremove⟩
  | ok between =>
    rw [hfirst] at hremove
    obtain ⟨⟨content, executable, hfile⟩, rfl⟩ := Files.removeFile_eq_ok hfirst
    refine .inr ⟨rfl, ?_, hremove⟩
    rw [nameOf, hfile]
    simp

/-- Removing files fails with the first refusal. -/
lemma fst_on_removeAll (hstands : files.Stands host.working s.root) (hnodup : names.Nodup)
    (hsteps : ∀ n ∈ names, Path.IsStep n) :
    ((s.removeAll names).on host files).1 =
      match names.filterMap (s.refusal host files) with
      | fault :: _ => .error (.file fault)
      | [] => .ok () := by
  induction names generalizing files with
  | nil => rfl
  | cons name rest ih =>
    obtain ⟨hname, hrest⟩ := List.nodup_cons.mp hnodup
    obtain ⟨hstep, hsteps⟩ := List.forall_mem_cons.mp hsteps
    rcases on_removeFile_cases s host files name with
      ⟨fault, hrefusal, hremove⟩ | ⟨hrefusal, hother, hremove⟩
    · rw [removeAll, Action.on_bind_error hremove, List.filterMap_cons_some hrefusal]
    · have hstands' := hstands.of_sameFolders (Files.sameFolders_erase hother)
      -- The file that is gone has another name than those that are left.
      have hrefusals : rest.filterMap (s.refusal host (files.erase (s.nameOf host name))) =
          rest.filterMap (s.refusal host files) := by
        refine List.filterMap_congr fun n hn => refusal_congr hstands hstands' (hsteps n hn) ?_
        rw [Files.node?_erase files (Files.ne_nil_of_node? hother), if_neg]
        rw [nameOf, Files.placeOf_join _ _ hstep]
        intro hsame
        cases List.singleton_inj.mp (List.append_cancel_left hsame)
        exact hname hn
      rw [removeAll, Action.on_bind_ok hremove, List.filterMap_cons_none hrefusal,
        ih hstands' hrest hsteps, hrefusals]

lemma node?_on_removeAll (hsteps : ∀ n ∈ names, Path.IsStep n) (files : Files) (l : Location) :
    ((s.removeAll names).on host files).2.node? l = files.node? l ∨
      ((s.removeAll names).on host files).2.node? l = none ∧
        ∃ n ∈ names, l = Files.placeOf host.working s.root ++ [n] := by
  induction names generalizing files with
  | nil => exact .inl rfl
  | cons name rest ih =>
    obtain ⟨hstep, hsteps⟩ := List.forall_mem_cons.mp hsteps
    rcases on_removeFile_cases s host files name with
      ⟨fault, -, hremove⟩ | ⟨-, hother, hremove⟩
    · rw [removeAll, Action.on_bind_error hremove]
      exact .inl rfl
    · rw [removeAll, Action.on_bind_ok hremove]
      rcases ih hsteps (files.erase (s.nameOf host name)) with hsame | ⟨hnone, n, hn, hl⟩
      · rw [Files.node?_erase files (Files.ne_nil_of_node? hother)] at hsame
        by_cases hl : l = s.nameOf host name
        · rw [if_pos hl] at hsame
          exact .inr ⟨hsame, name, List.mem_cons_self, hl.trans (Files.placeOf_join _ _ hstep)⟩
        · rw [if_neg hl] at hsame
          exact .inl hsame
      · exact .inr ⟨hnone, n, List.mem_cons_of_mem _ hn, hl⟩

end Refusals

section Removing

lemma names_of_sameFolder (h : Files.SameFolderAt host.working s.root files files') :
    (∃ e, s.names.on host files = (.error e, files) ∧ s.names.on host files' = (.error e, files')) ∨
      (s.names.on host files = (.ok [], files) ∧ s.names.on host files' = (.ok [], files')) ∨
      (files.Stands host.working s.root ∧ files'.Stands host.working s.root ∧
        s.names.on host files = (.ok (files.names (Files.placeOf host.working s.root)), files) ∧
        s.names.on host files' =
          (.ok (files'.names (Files.placeOf host.working s.root)), files')) := by
  have hpresent := h.present
  have hreach' := h.reach
  rw [names_eq, names_eq]
  cases hkind : files.kind? host.working s.root with
  | none =>
    rw [hkind, Option.isSome_none, Option.isSome_eq_false_iff, Option.isNone_iff_eq_none]
      at hpresent
    rw [hpresent]
    exact .inr (.inl ⟨rfl, rfl⟩)
  | some kind =>
    have hsome : (files.kind? host.working s.root).isSome = true := by rw [hkind]; rfl
    rw [hsome] at hpresent
    obtain ⟨kind', hkind'⟩ := Option.isSome_iff_exists.mp hpresent
    rw [hkind']
    dsimp only
    rw [Files.list_of_present hsome, Files.list_of_present hpresent, hreach']
    cases hreach : files.reach (Files.origin host.working s.root) s.root.steps with
    | error fault => exact .inl ⟨.file fault, rfl, rfl⟩
    | ok place =>
      rw [hreach] at hreach'
      obtain ⟨hstands, rfl⟩ := Files.stands_of_reach hreach
      exact .inr (.inr ⟨hstands, (Files.stands_of_reach hreach').1, rfl, rfl⟩)

lemma on_remove_eq (href : isReference reference = true)
    (hnames : s.names.on host files = (.ok names, files)) :
    (s.remove reference).on host files =
      (((s.removeAll (filesOf reference names)).on host files).1.bind fun _ =>
          if (filesOf reference names).isEmpty then .error (.templateMissing reference) else .ok (),
        ((s.removeAll (filesOf reference names)).on host files).2) := by
  rw [remove, Action.on_bind_ok (on_checkReference href), Action.on_bind_ok hnames]
  dsimp only
  rcases hall : (s.removeAll (filesOf reference names)).on host files with ⟨result, after⟩
  cases result with
  | error e => rw [Action.on_bind_error hall]; rfl
  | ok _ =>
    rw [Action.on_bind_ok hall]
    cases (filesOf reference names).isEmpty <;> rfl

lemma on_remove_of_error (href : isReference reference = true) {e : Error}
    (hnames : s.names.on host files = (.error e, files)) :
    (s.remove reference).on host files = (.error e, files) := by
  rw [remove, Action.on_bind_ok (on_checkReference href), Action.on_bind_error hnames]

/-- The names of a template's files at the place of the store's folder. -/
def namesFor (s : Store) (host : Host) (files : Files) (reference : String) : List String :=
  filesOf reference (files.names (Files.placeOf host.working s.root))

/-- Why files of a template cannot be removed, in the order of the folder's list. -/
def refusals (s : Store) (host : Host) (files : Files) (reference : String) : List FileFault :=
  (s.namesFor host files reference).filterMap (s.refusal host files)

lemma isStep_of_mem_namesFor (s : Store) (hsound : files.Sound host.working) (reference : String) :
    ∀ n ∈ s.namesFor host files reference, Path.IsStep n :=
  fun n hn => hsound.named _ n (Files.mem_names_iff.mp (mem_filesOf.mp hn).1)

lemma nodup_namesFor : (s.namesFor host files reference).Nodup :=
  (files.nodup_names _).filter _

lemma fst_on_remove (hsound : files.Sound host.working)
    (hstands : files.Stands host.working s.root) (href : isReference reference = true)
    (hnames : s.names.on host files =
      (.ok (files.names (Files.placeOf host.working s.root)), files)) :
    ((s.remove reference).on host files).1 =
      match s.refusals host files reference with
      | fault :: _ => .error (.file fault)
      | [] =>
        if (s.namesFor host files reference).isEmpty then .error (.templateMissing reference)
        else .ok () := by
  have hall := fst_on_removeAll hstands nodup_namesFor (s.isStep_of_mem_namesFor hsound reference)
  rw [on_remove_eq href hnames]
  change (((s.removeAll (s.namesFor host files reference)).on host files).1.bind _) = _
  rw [hall, refusals]
  split <;> rfl

lemma node?_on_remove (hsound : files.Sound host.working) (reference : String) (l : Location) :
    ((s.remove reference).on host files).2.node? l = files.node? l ∨
      ((s.remove reference).on host files).2.node? l = none ∧
        ∃ n, (splitExtension n).1 = reference ∧
          l = Files.placeOf host.working s.root ++ [n] := by
  by_cases href : isReference reference = true
  · rcases names_of_sameFolder (.refl files) with
      ⟨e, hnames, -⟩ | ⟨hnames, -⟩ | ⟨-, -, hnames, -⟩
    · rw [on_remove_of_error href hnames]
      exact .inl rfl
    · rw [on_remove_eq href hnames]
      exact .inl rfl
    · rw [on_remove_eq href hnames]
      rcases node?_on_removeAll (s.isStep_of_mem_namesFor hsound reference) files l with
        hsame | ⟨hnone, n, hn, hl⟩
      · exact .inl hsame
      · exact .inr ⟨hnone, n, (mem_filesOf.mp hn).2, hl⟩
  · rw [on_remove_of_malformed (by simpa using href)]
    exact .inl rfl

lemma perm_namesFor (hstands : files.Stands host.working s.root)
    (h : Files.SameFolderAt host.working s.root files files') (reference : String) :
    (s.namesFor host files' reference).Perm (s.namesFor host files reference) := by
  refine (List.perm_ext_iff_of_nodup nodup_namesFor nodup_namesFor).mpr fun n => ?_
  rw [namesFor, namesFor, mem_filesOf, mem_filesOf, Files.mem_names_iff, Files.mem_names_iff,
    h.child _ hstands.reach_eq]

lemma refusals_of_sameFolder (hsound' : files'.Sound host.working)
    (hstands : files.Stands host.working s.root) (hstands' : files'.Stands host.working s.root)
    (h : Files.SameFolderAt host.working s.root files files') (reference : String) :
    s.refusals host files' reference =
      (s.namesFor host files' reference).filterMap (s.refusal host files) := by
  refine List.filterMap_congr fun n hn => refusal_congr hstands hstands' ?_ ?_
  · exact s.isStep_of_mem_namesFor hsound' reference n hn
  · exact h.child _ hstands.reach_eq n

/-- What is removed depends on the store's folder. Of several refusals the one is reported that
comes first in the folder's list. -/
lemma remove_of_sameFolder (hsound : files.Sound host.working) (hsound' : files'.Sound host.working)
    (h : Files.SameFolderAt host.working s.root files files') (reference : String) :
    (s.namesFor host files' reference = s.namesFor host files reference →
      ((s.remove reference).on host files').1 = ((s.remove reference).on host files).1) ∧
    (((s.remove reference).on host files').1 = ((s.remove reference).on host files).1 ∨
      (s.refusals host files' reference).Perm (s.refusals host files reference) ∧
        ∃ fault fault', (s.refusals host files reference).head? = some fault ∧
          (s.refusals host files' reference).head? = some fault' ∧
          ((s.remove reference).on host files).1 = .error (.file fault) ∧
          ((s.remove reference).on host files').1 = .error (.file fault')) := by
  by_cases href : isReference reference = true
  · rcases names_of_sameFolder h with
      ⟨e, hnames, hnames'⟩ | ⟨hnames, hnames'⟩ | ⟨hstands, hstands', hnames, hnames'⟩
    · rw [on_remove_of_error href hnames, on_remove_of_error href hnames']
      exact ⟨fun _ => rfl, .inl rfl⟩
    · rw [on_remove_eq href hnames, on_remove_eq href hnames']
      exact ⟨fun _ => rfl, .inl rfl⟩
    · have hperm := perm_namesFor hstands h reference
      have hrefusals := refusals_of_sameFolder hsound' hstands hstands' h reference
      rw [fst_on_remove hsound hstands href hnames, fst_on_remove hsound' hstands' href hnames']
      refine ⟨fun hsame => by rw [hrefusals, hsame, refusals], ?_⟩
      have hsame : (s.refusals host files' reference).Perm (s.refusals host files reference) :=
        hrefusals ▸ hperm.filterMap _
      cases hfirst : s.refusals host files reference with
      | nil =>
        rw [hfirst] at hsame
        rw [hsame.eq_nil, hperm.isEmpty_eq]
        exact .inl rfl
      | cons fault rest =>
        cases hfirst' : s.refusals host files' reference with
        | nil =>
          rw [hfirst, hfirst'] at hsame
          cases hsame.symm.eq_nil
        | cons fault' rest' =>
          rw [hfirst, hfirst'] at hsame
          exact .inr ⟨hsame, fault, fault', rfl, rfl, rfl, rfl⟩
  · rw [on_remove_of_malformed (by simpa using href), on_remove_of_malformed (by simpa using href)]
    exact ⟨fun _ => rfl, .inl rfl⟩

end Removing

lemma on_get_of_malformed (href : isReference reference = false) :
    (s.get reference).on host files = (.error (.templateMissing reference), files) :=
  on_get_of_missing fun h => absurd h (by simp [href])

lemma get_of_sameFolder (hsound : files.Sound host.working) (hsound' : files'.Sound host.working)
    (h : Files.SameFolderAt host.working s.root files files') (reference : String) :
    ((s.get reference).on host files').1 = ((s.get reference).on host files).1 := by
  by_cases href : isReference reference = true
  · rw [on_get, on_get, textPath, filePath,
      h.read_join hsound hsound' (isStep_textName href)]
  · rw [on_get_of_malformed (by simpa using href), on_get_of_malformed (by simpa using href)]

end Store

/-- A delivery without the identifier of its request. -/
def Delivery.anonymous (d : Delivery) : Delivery :=
  { d with requestId := "" }

namespace Engine

variable {e : Engine} {host : Host} {files files' : Files} {reference : String}

/-- The template that a request is given for a reference. -/
def lookup (e : Engine) (host : Host) (files : Files) (reference : String) :
    Except Error Template :=
  (checkReference reference).bind fun _ => ((e.store.get reference).on host files).1

/-- The document of a template, delivered as it is rendered. -/
def rendered (e : Engine) (requestId : String) (r : Record) (template : Template) :
    Except Error Delivery :=
  (e.renderer.render (fill template.text r)).map fun content =>
    ⟨requestId, e.singleName, e.converter.contentType, content⟩

lemma snd_on_get (e : Engine) (host : Host) (files : Files) (reference : String) :
    ((e.store.get reference).on host files).2 = files := by
  rw [Store.on_get]

lemma on_placeholders_eq (e : Engine) (host : Host) (files : Files) (reference : String) :
    (e.placeholders reference).on host files =
      ((e.lookup host files reference).map fun t => distinctPlaceholders t.text, files) := by
  rw [placeholders, lookup]
  cases checkReference reference with
  | error fault => rw [Action.on_bind_error (Action.on_mk _)]; rfl
  | ok _ =>
    rw [Action.on_bind_ok (Action.on_mk (.ok ()))]
    cases hget : ((e.store.get reference).on host files).1 with
    | error fault =>
      rw [Action.on_bind_error (Prod.ext hget (e.snd_on_get host files reference))]
      rfl
    | ok template =>
      rw [Action.on_bind_ok (Prod.ext hget (e.snd_on_get host files reference))]
      rfl

lemma deliver_eq {renderer : Renderer} (hpass : e.converter = .passthrough renderer)
    (requestId : String) (r : Record) (template : Template) :
    e.deliver host files requestId (fill template.text r) =
      ((e.rendered requestId r template,
        ⟨.single, if (e.rendered requestId r template).isOk then .delivered else .failed⟩),
        files) := by
  rw [deliver, rendered]
  cases e.renderer.render (fill template.text r) with
  | error fault => rfl
  | ok content =>
    dsimp only
    rw [hpass]
    rfl

lemma run_generate_eq {renderer : Renderer} (hpass : e.converter = .passthrough renderer)
    (host : Host) (files : Files) (requestId reference : String) (r : Record) :
    ((e.generate requestId reference r).run .single).run host files =
      (((e.lookup host files reference).bind (e.rendered requestId r),
        ⟨.single, if ((e.lookup host files reference).bind (e.rendered requestId r)).isOk
          then .delivered else .failed⟩), files) := by
  cases hreference : checkReference reference with
  | error fault =>
    rw [Request.run_run, generate, Request.on_bind_error (Request.on_ofExcept_eq hreference),
      lookup, hreference]
    rfl
  | ok _ =>
    cases hget : ((e.store.get reference).on host files).1 with
    | error fault =>
      rw [Request.run_run, generate, Request.on_bind_ok (Request.on_ofExcept_eq hreference),
        Request.on_bind_error
          (Request.on_ofAction_eq (Prod.ext hget (e.snd_on_get host files reference))),
        lookup, hreference, hget]
      rfl
    | ok template =>
      have hsame := Store.reference_of_on_get hget
      subst hsame
      rw [run_generate_eq_deliver hget, deliver_eq hpass, lookup, hreference, hget]
      rfl

lemma anonymous_rendered (requestId requestId' : String) (r : Record)
    (found : Except Error Template) :
    (found.bind (e.rendered requestId' r)).map Delivery.anonymous =
        (found.bind (e.rendered requestId r)).map Delivery.anonymous ∧
      (found.bind (e.rendered requestId' r)).isOk = (found.bind (e.rendered requestId r)).isOk := by
  cases found with
  | error fault => exact ⟨rfl, rfl⟩
  | ok template =>
    dsimp only [Except.bind]
    rw [rendered, rendered]
    cases e.renderer.render (fill template.text r) <;> exact ⟨rfl, rfl⟩

/-- How a text that is no reference is refused. -/
def refusal (reference : String) : Error :=
  if Text.isBlankText reference then .invalidInput "missing template reference"
  else .templateMissing reference

lemma lookup_of_malformed (href : Store.isReference reference = false) :
    e.lookup host files reference = .error (refusal reference) := by
  rw [lookup, Store.on_get_of_malformed href, checkReference, refusal]
  split <;> rfl

/-- No text leads out of the store's folder, whether it is a reference or not. In two systems that
agree on that folder all requests for a template come to the same, but for the identifier of a
request and, where several files cannot be removed, for the one that is reported. They change
nothing, and a removal takes away files of the template right in the folder only. A text that is no
reference is refused, and the system is not looked at. -/
theorem references_stay_inside (e : Engine) {renderer : Renderer}
    (hpass : e.converter = .passthrough renderer) (host : Host) (reference : String) :
    (∀ files files', files.Sound host.working → files'.Sound host.working →
      Files.SameFolderAt host.working e.store.root files files' →
      ((e.store.get reference).on host files').1 = ((e.store.get reference).on host files).1 ∧
      ((e.placeholders reference).on host files').1 =
        ((e.placeholders reference).on host files).1 ∧
      (∀ requestId requestId' r,
        let outcome := (((e.generate requestId reference r).run .single).run host files).1
        let outcome' := (((e.generate requestId' reference r).run .single).run host files').1
        outcome'.1.map Delivery.anonymous = outcome.1.map Delivery.anonymous ∧
          outcome'.2 = outcome.2) ∧
      (e.store.namesFor host files' reference = e.store.namesFor host files reference →
        ((e.store.remove reference).on host files').1 =
          ((e.store.remove reference).on host files).1) ∧
      (((e.store.remove reference).on host files').1 =
          ((e.store.remove reference).on host files).1 ∨
        (e.store.refusals host files' reference).Perm (e.store.refusals host files reference) ∧
        ∃ fault fault', (e.store.refusals host files reference).head? = some fault ∧
          (e.store.refusals host files' reference).head? = some fault' ∧
          ((e.store.remove reference).on host files).1 = .error (.file fault) ∧
          ((e.store.remove reference).on host files').1 = .error (.file fault'))) ∧
    (∀ files, files.Sound host.working →
      ((e.store.get reference).on host files).2 = files ∧
      ((e.placeholders reference).on host files).2 = files ∧
      (∀ requestId r,
        (((e.generate requestId reference r).run .single).run host files).2 = files) ∧
      ∀ l, ((e.store.remove reference).on host files).2.node? l = files.node? l ∨
        ((e.store.remove reference).on host files).2.node? l = none ∧
          ∃ n, (splitExtension n).1 = reference ∧
            l = Files.placeOf host.working e.store.root ++ [n]) ∧
    (Store.isReference reference = false → ∀ files,
      (e.store.get reference).on host files = (.error (.templateMissing reference), files) ∧
      (e.store.remove reference).on host files = (.error (.templateMissing reference), files) ∧
      (e.placeholders reference).on host files = (.error (refusal reference), files) ∧
      ∀ requestId r, ((e.generate requestId reference r).run .single).run host files =
        ((.error (refusal reference), ⟨.single, .failed⟩), files)) := by
  refine ⟨fun files files' hsound hsound' h => ?_, fun files hsound => ?_, fun href files => ?_⟩
  · have hget := Store.get_of_sameFolder hsound hsound' h reference
    have hlookup : e.lookup host files' reference = e.lookup host files reference := by
      rw [lookup, lookup, hget]
    obtain ⟨hsame, hremove⟩ := Store.remove_of_sameFolder hsound hsound' h reference
    refine ⟨hget, ?_, fun requestId requestId' r => ?_, hsame, hremove⟩
    · rw [on_placeholders_eq, on_placeholders_eq, hlookup]
    · obtain ⟨hdelivery, hok⟩ :=
        anonymous_rendered (e := e) requestId requestId' r (e.lookup host files reference)
      rw [run_generate_eq hpass, run_generate_eq hpass, hlookup]
      exact ⟨hdelivery, by rw [hok]⟩
  · refine ⟨e.snd_on_get host files reference, snd_on_placeholders e reference files,
      fun requestId r => ?_, Store.node?_on_remove hsound reference⟩
    rw [run_generate_eq hpass]
  · refine ⟨Store.on_get_of_malformed href, Store.on_remove_of_malformed href, ?_,
      fun requestId r => ?_⟩
    · rw [on_placeholders_eq, lookup_of_malformed href]
      rfl
    · rw [run_generate_eq hpass, lookup_of_malformed href]
      rfl

section Samples

/-- The sample store beside a file that is not the store's. -/
def sampleNeighbour : Files :=
  sampleFiles.put ["secret"] (.file [120] false)

theorem references_stay_inside_sampleNeighbour :
    (samplePlain.store.get sampleTemplate.reference).on sampleHost sampleNeighbour =
        (.ok sampleTemplate, sampleNeighbour) ∧
      ((samplePlain.store.remove sampleTemplate.reference).on sampleHost sampleNeighbour).1 =
        .ok () ∧
      (samplePlain.placeholders "../secret").on sampleHost sampleNeighbour =
        (.error (.templateMissing "../secret"), sampleNeighbour) := by
  have hsound : sampleFiles.Sound [] :=
    Files.sound_of_entries (by decide) (by decide) rfl
  have hsound' : sampleNeighbour.Sound [] :=
    Files.sound_of_entries (by decide) (by decide) rfl
  have hsame : Files.SameFolderAt [] ⟨"templates"⟩ sampleFiles sampleNeighbour := by
    refine ⟨by decide, by decide, fun place hplace name => ?_⟩
    have hreach : sampleFiles.reach (Files.origin [] ⟨"templates"⟩) (Path.steps ⟨"templates"⟩) =
        .ok ["templates"] := by decide
    rw [hreach] at hplace
    cases hplace
    rw [sampleNeighbour, Files.node?_put _ (by simp), if_neg (by simp)]
  obtain ⟨hagree, hkeep, -⟩ :=
    references_stay_inside samplePlain rfl sampleHost sampleTemplate.reference
  obtain ⟨hget, -, -, hremove, -⟩ := hagree sampleFiles sampleNeighbour hsound hsound' hsame
  obtain ⟨-, -, hrefused⟩ := references_stay_inside samplePlain rfl sampleHost "../secret"
  refine ⟨Prod.ext (hget.trans holds_sample) (hkeep sampleNeighbour hsound').1, ?_,
    (hrefused (by decide) sampleNeighbour).2.2.1⟩
  exact (hremove (by decide)).trans (by decide)

/-- A folder's path, made longer without leading elsewhere. -/
def dottedPath : Nat → Path
  | 0 => ⟨"templates"⟩
  | n + 1 => ⟨(dottedPath n).text ++ "/."⟩

lemma dottedPath_facts (n : Nat) :
    (dottedPath n).steps = ["templates"] ∧ (dottedPath n).text.utf8ByteSize = 9 + 2 * n ∧
      '\x00' ∉ (dottedPath n).text.toList := by
  induction n with
  | zero => decide
  | succ n ih =>
    obtain ⟨hsteps, hsize, hnul⟩ := ih
    have hchars : (dottedPath (n + 1)).text.toList = (dottedPath n).text.toList ++ ['/', '.'] := by
      rw [dottedPath, String.toList_append]
      rfl
    refine ⟨?_, ?_, ?_⟩
    · rw [Path.steps, Path.pieces, hchars, Text.pieces_append, List.filter_append, List.map_append]
      change Path.steps _ ++ [] = _
      rw [hsteps, List.append_nil]
    · rw [dottedPath, String.utf8ByteSize_append, hsize]
      change _ + 2 = _
      omega
    · rw [hchars]
      simp [hnul]

/-- The names of a folder and of a file that belong to the sample template. -/
def refusedFolder : String := "0123456789abcdef0123456789abcdef.d"

def refusedFile : String := "0123456789abcdef0123456789abcdef.second-extension"

lemma isStep_refusedFolder : Path.IsStep refusedFolder :=
  ⟨by decide, by decide, by decide⟩

lemma isStep_refusedFile : Path.IsStep refusedFile :=
  ⟨by decide, by decide, by decide⟩

/-- The store's folder with these two in it, in this order or the other. -/
def sampleRefused (folderFirst : Bool) : Files where
  entries := (["templates"], .folder) ::
    if folderFirst then
      [(["templates", refusedFolder], .folder), (["templates", refusedFile], .file [] false)]
    else
      [(["templates", refusedFile], .file [] false), (["templates", refusedFolder], .folder)]
  distinct := by cases folderFirst <;> decide

lemma sound_sampleRefused (folderFirst : Bool) : (sampleRefused folderFirst).Sound [] := by
  cases folderFirst <;>
    exact Files.sound_of_entries (by decide) (by decide) rfl

lemma stands_dottedPath (folderFirst : Bool) (n : Nat) :
    (sampleRefused folderFirst).Stands [] (dottedPath n) ∧
      Files.placeOf [] (dottedPath n) = ["templates"] := by
  obtain ⟨hsteps, -⟩ := dottedPath_facts n
  have horigin : Files.origin [] (dottedPath n) = [] := by
    rw [Files.origin, ite_self]
  have hfollow : (sampleRefused folderFirst).follow (Files.origin [] (dottedPath n))
      (dottedPath n).steps = .ok ["templates"] := by
    rw [horigin, hsteps]
    cases folderFirst <;> rfl
  refine ⟨Files.stands_of_follow hfollow ?_, (Files.eq_walk_of_follow hfollow).symm⟩
  cases folderFirst <;> rfl

lemma badPath?_join_dottedPath (n : Nat) {name : String} (hname : Path.IsStep name)
    (hnul : '\x00' ∉ name.toList) :
    Files.badPath? ((dottedPath (n + 1)).join name) =
      if Files.pathLimit < 12 + 2 * n + name.utf8ByteSize then some .nameTooLong else none := by
  obtain ⟨-, hsize, hrootNul⟩ := dottedPath_facts (n + 1)
  have hlast : (dottedPath (n + 1)).text.toList.getLast?.getD '/' = '.' := by
    rw [dottedPath, String.toList_append, List.getLast?_append]
    rfl
  have htext : ((dottedPath (n + 1)).join name).text =
      (dottedPath (n + 1)).text ++ "/" ++ name := by
    rw [Path.join, if_neg (by simp [Path.isAbsolute_of_isStep hname]), hlast, if_neg (by decide)]
  have hbytes : ((dottedPath (n + 1)).join name).text.utf8ByteSize =
      12 + 2 * n + name.utf8ByteSize := by
    rw [htext, String.utf8ByteSize_append, String.utf8ByteSize_append, hsize]
    change 9 + 2 * (n + 1) + 1 + _ = _
    omega
  have hempty : ((dottedPath (n + 1)).join name).text ≠ "" := by
    intro hnone
    rw [hnone] at hbytes
    change 0 = _ at hbytes
    omega
  have hno : ((dottedPath (n + 1)).join name).text.toList.contains '\x00' = false := by
    rw [htext, String.toList_append, String.toList_append]
    simp [hrootNul, hnul]
  rw [Files.badPath?, if_neg hempty, hno, if_neg Bool.false_ne_true, hbytes]

section Refused

variable {n : Nat}

lemma refusal_refusedFolder (hshort : 12 + 2 * n + 34 ≤ Files.pathLimit) (folderFirst : Bool) :
    Store.refusal ⟨dottedPath (n + 1)⟩ sampleHost (sampleRefused folderFirst) refusedFolder =
      some .isFolder := by
  obtain ⟨hstands, hplace⟩ := stands_dottedPath folderFirst (n + 1)
  have hgood : Files.badPath? ((dottedPath (n + 1)).join refusedFolder) = none := by
    rw [badPath?_join_dottedPath n isStep_refusedFolder (by decide), if_neg]
    exact Nat.not_lt.mpr hshort
  have hnode : (sampleRefused folderFirst).node? ["templates", refusedFolder] = some .folder := by
    cases folderFirst <;> decide
  have hlocate := Files.locate_join_of_stands hstands isStep_refusedFolder
  rw [hgood, hplace] at hlocate
  have hremove : (sampleRefused folderFirst).removeFile sampleHost.working
      ((dottedPath (n + 1)).join refusedFolder) = .error .isFolder := by
    change (sampleRefused folderFirst).removeFile [] _ = _
    rw [Files.removeFile, hlocate, if_neg (by decide)]
    dsimp only
    rw [List.singleton_append, hnode]
  rw [Store.refusal, hremove]
  rfl

lemma refusal_refusedFile (hlong : Files.pathLimit < 12 + 2 * n + 49) (folderFirst : Bool) :
    Store.refusal ⟨dottedPath (n + 1)⟩ sampleHost (sampleRefused folderFirst) refusedFile =
      some .nameTooLong := by
  have hbad : Files.badPath? ((dottedPath (n + 1)).join refusedFile) = some .nameTooLong := by
    rw [badPath?_join_dottedPath n isStep_refusedFile (by decide), if_pos]
    exact hlong
  rw [Store.refusal, Files.removeFile, Files.locate, hbad]
  rfl

lemma badPath?_dottedPath (hshort : 12 + 2 * n + 34 ≤ Files.pathLimit) :
    Files.badPath? (dottedPath (n + 1)) = none := by
  obtain ⟨-, hsize, hnul⟩ := dottedPath_facts (n + 1)
  refine Files.badPath?_eq_none_iff.mpr ⟨fun hempty => ?_, hnul, by omega⟩
  rw [hempty] at hsize
  change 0 = _ at hsize
  omega

lemma namesFor_sampleRefused (folderFirst : Bool) :
    Store.namesFor ⟨dottedPath (n + 1)⟩ sampleHost (sampleRefused folderFirst)
        sampleTemplate.reference =
      if folderFirst then [refusedFolder, refusedFile] else [refusedFile, refusedFolder] := by
  change Store.filesOf _ ((sampleRefused folderFirst).names (Files.placeOf [] _)) = _
  rw [(stands_dottedPath folderFirst (n + 1)).2]
  cases folderFirst <;> decide

lemma remove_sampleRefused (hshort : 12 + 2 * n + 34 ≤ Files.pathLimit)
    (hlong : Files.pathLimit < 12 + 2 * n + 49) (folderFirst : Bool) :
    ((Store.remove ⟨dottedPath (n + 1)⟩ sampleTemplate.reference).on sampleHost
        (sampleRefused folderFirst)).1 =
      .error (.file (if folderFirst then .isFolder else .nameTooLong)) := by
  have hstands := (stands_dottedPath folderFirst (n + 1)).1
  have hfolder := refusal_refusedFolder hshort folderFirst
  have hfile := refusal_refusedFile hlong folderFirst
  have hnoFile (content : Bytes) (executable : Bool) : (sampleRefused folderFirst).node?
      (Files.placeOf sampleHost.working (dottedPath (n + 1))) ≠
        some (.file content executable) := by
    change (sampleRefused folderFirst).node? (Files.placeOf [] _) ≠ _
    rw [hstands.folder]
    simp
  obtain ⟨names, hnames, rfl | ⟨-, hnot⟩⟩ :=
    @Store.on_names ⟨dottedPath (n + 1)⟩ sampleHost (sampleRefused folderFirst) hnoFile
  · rw [Store.fst_on_remove (sound_sampleRefused folderFirst) hstands (by decide) hnames,
      Store.refusals, namesFor_sampleRefused]
    cases folderFirst with
    | true => rw [if_pos rfl, List.filterMap_cons_some hfolder]; rfl
    | false => rw [if_neg Bool.false_ne_true, List.filterMap_cons_some hfile]; rfl
  · exact absurd ⟨hstands, badPath?_dottedPath hshort⟩ hnot

lemma sameFolderAt_sampleRefused (hshort : 12 + 2 * n + 34 ≤ Files.pathLimit) :
    Files.SameFolderAt [] (dottedPath (n + 1)) (sampleRefused true) (sampleRefused false) := by
  have hkind (folderFirst : Bool) :
      (sampleRefused folderFirst).kind? [] (dottedPath (n + 1)) = some .folder := by
    have hstands := (stands_dottedPath folderFirst (n + 1)).1
    rw [Files.kind?, Files.locate_of_stands hstands, badPath?_dottedPath hshort]
    dsimp only
    rw [hstands.folder]
    rfl
  refine ⟨by rw [hkind, hkind], ?_, fun place hplace name => ?_⟩
  · rw [(stands_dottedPath true (n + 1)).1.reach_eq, (stands_dottedPath false (n + 1)).1.reach_eq]
  · rw [(Files.stands_of_reach hplace).2, (stands_dottedPath true (n + 1)).2]
    by_cases hfolder : name = refusedFolder
    · rw [hfolder]
      rfl
    · by_cases hfile : name = refusedFile
      · rw [hfile]
        rfl
      · simp [Files.node?, Files.lookup, sampleRefused, Ne.symm hfolder, Ne.symm hfile]

end Refused

/-- Two systems do not have the store's folder, but one of them has a file on the way to it, and
that is reported. Two others have the same folder, but list it in different orders, and a removal
is refused for different reasons. -/
theorem not_same_of_same_entries :
    ((Files.Sound .empty [] ∧ Store.sampleFile.Sound [] ∧
        Files.empty.kind? [] ⟨"f/templates"⟩ = none ∧
        Store.sampleFile.kind? [] ⟨"f/templates"⟩ = none ∧
        (∀ name, Files.empty.node? ["f", "templates", name] = none ∧
          Store.sampleFile.node? ["f", "templates", name] = none)) ∧
      ((Store.get ⟨⟨"f/templates"⟩⟩ sampleTemplate.reference).on sampleHost .empty).1 ≠
        ((Store.get ⟨⟨"f/templates"⟩⟩ sampleTemplate.reference).on sampleHost
          Store.sampleFile).1) ∧
    ((sampleRefused true).Sound [] ∧ (sampleRefused false).Sound [] ∧
      Files.SameFolderAt [] (dottedPath 2020) (sampleRefused true) (sampleRefused false) ∧
      ((Store.remove ⟨dottedPath 2020⟩ sampleTemplate.reference).on sampleHost
          (sampleRefused true)).1 ≠
        ((Store.remove ⟨dottedPath 2020⟩ sampleTemplate.reference).on sampleHost
          (sampleRefused false)).1) := by
  constructor
  · refine ⟨⟨?_, ?_, rfl, by decide, fun name => ⟨rfl, ?_⟩⟩, by decide⟩
    · exact Files.sound_of_entries nofun nofun rfl
    · exact Files.sound_of_entries (by decide) (by decide) rfl
    · simp [Store.sampleFile, Files.node?, Files.lookup]
  · have hshort : 12 + 2 * 2019 + 34 ≤ Files.pathLimit := by decide
    have hlong : Files.pathLimit < 12 + 2 * 2019 + 49 := by decide
    refine ⟨sound_sampleRefused true, sound_sampleRefused false,
      sameFolderAt_sampleRefused hshort, ?_⟩
    rw [remove_sampleRefused hshort hlong true, remove_sampleRefused hshort hlong false]
    decide

end Samples

end Engine

end MailMerge
