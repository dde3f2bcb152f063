import MailMerge.Proofs.StoreLookups
import MailMerge.Proofs.StoreWrites
import Mathlib.Logic.Function.Basic

/-!
# Histories of the store

The store is a map from references to texts: whatever calls are made on it, one after the other
from an absent folder, its answers are those of the map that their results describe
(`calls_answer_as_map`). What carries this is that a file with a reference in front of its first
point belongs to that template only, and that it is its text exactly if `extracted` stands behind
that point (`Shelf`).
-/

namespace MailMerge.Store

variable {s : Store} {host : Host} {start base files files' : Files} {reference : String}
  {kept : String → Option String} {used : List String}

section Histories

/-- A call of the store, with the reference that storing a template draws. -/
inductive Command where
  | put (reference : String) (source : Bytes) (format text : String)
  | get (reference : String)
  | remove (reference : String)
  | list

/-- The reference that a call is about. -/
def Command.reference? : Command → Option String
  | put reference .. | get reference | remove reference => some reference
  | list => none

/-- The reference that a call draws. -/
def Command.drawn? : Command → Option String
  | put reference .. => some reference
  | get _ | remove _ | list => none

/-- What calls have come to: the texts that were put and not removed since, by their references,
and the files. -/
structure History where
  kept : String → Option String
  files : Files

/-- A call that succeeds changes what is kept; every call may change the files. -/
def History.next (s : Store) (host : Host) (h : History) : Command → History
  | .put reference source format text =>
    match (s.put reference source format text).on host h.files with
    | (.ok template, files) => ⟨Function.update h.kept template.reference (some text), files⟩
    | (.error _, files) => ⟨h.kept, files⟩
  | .get reference => ⟨h.kept, ((s.get reference).on host h.files).2⟩
  | .remove reference =>
    match (s.remove reference).on host h.files with
    | (.ok _, files) => ⟨Function.update h.kept reference none, files⟩
    | (.error _, files) => ⟨h.kept, files⟩
  | .list => ⟨h.kept, (s.list.on host h.files).2⟩

lemma next_get (s : Store) (host : Host) (h : History) (reference : String) :
    h.next s host (.get reference) = h := by
  rw [History.next, on_get]

lemma next_list (s : Store) (host : Host) (h : History) : h.next s host .list = h := by
  rw [History.next, list]
  rcases hnames : s.names.on host h.files with ⟨listed, after⟩
  have hafter : after = h.files := by
    rw [names_eq] at hnames
    exact (Prod.mk.inj hnames).2.symm
  subst hafter
  cases listed with
  | error e => rw [Action.on_bind_error hnames]
  | ok names =>
    rw [Action.on_bind_ok hnames]
    rfl

/-- Calls from a tree on, with nothing put before. -/
def history (s : Store) (host : Host) (start : Files) (commands : List Command) : History :=
  commands.foldl (History.next s host) ⟨fun _ => none, start⟩

/-- The store answers as the map of what is kept. -/
structure Answers (s : Store) (host : Host) (h : History) : Prop where
  get : ∀ reference, ((s.get reference).on host h.files).1 =
    match h.kept reference with
    | some text => .ok ⟨reference, text⟩
    | none => .error (.templateMissing reference)
  list : ∃ references, (s.list.on host h.files).1 = .ok references ∧
    references.Pairwise (· < ·) ∧
    ∀ reference, reference ∈ references ↔ (h.kept reference).isSome = true
  remove : ∀ reference, ((s.remove reference).on host h.files).1 =
    if (h.kept reference).isSome then .ok () else .error (.templateMissing reference)

/-- The store takes no template and has none; a well-formed reference may also be refused with the
fault of reading below its folder. -/
structure Refuses (s : Store) (host : Host) (files : Files) : Prop where
  put : ∀ reference source format text, isReference reference = true →
    ∃ e, ((s.put reference source format text).on host files).1 = .error e
  get : ∀ reference, ∃ e, ((s.get reference).on host files).1 = .error e ∧
    (e = .templateMissing reference ∨ isReference reference = true ∧ ∃ fault, e = .file fault)
  list : (s.list.on host files).1 = .ok []
  remove : ∀ reference, ((s.remove reference).on host files).1 =
    .error (.templateMissing reference)

end Histories

section Folders

/-- Nothing is named as a template's files are. -/
structure Bare (s : Store) (host : Host) (files : Files) : Prop where
  folder : ∀ content executable,
    files.node? (Files.placeOf host.working s.root) ≠ some (.file content executable)
  stem : ∀ reference, isReference reference = true →
    files.node? (Files.placeOf host.working s.root ++ [reference]) = none
  free : ∀ reference extension, isReference reference = true →
    files.node? (s.place host reference extension) = none

/-- Nothing is at the store's place. Its path may lead into the folder and up again; then making it
makes folders in it as well, but none that is named as a template's files are. -/
structure Absent (s : Store) (host : Host) (files : Files) : Prop where
  folder : files.node? (Files.placeOf host.working s.root) = none
  stem : ∀ reference, isReference reference = true →
    (s.made host files).node? (Files.placeOf host.working s.root ++ [reference]) = none
  free : ∀ reference extension, isReference reference = true →
    (s.made host files).node? (s.place host reference extension) = none

/-- The store's folder can be made, and the paths of texts in it are good ones. -/
structure CanStore (s : Store) (host : Host) (files : Files) : Prop where
  created : (files.createFolders host.working s.root).1 = .ok ()
  folder : (s.made host files).node? (Files.placeOf host.working s.root) = some .folder
  textGood : ∀ reference, isReference reference = true →
    Files.badPath? (s.textPath reference) = none

lemma Absent.bare_made (h : s.Absent host files) : s.Bare host (s.made host files) := by
  refine ⟨?_, h.stem, h.free⟩
  rcases Files.grows_createFolders files host.working s.root
    (Files.placeOf host.working s.root) with hsame | ⟨-, hfolder⟩
  · rw [made, hsame, h.folder]
    simp
  · rw [made, hfolder]
    simp

/-- Nothing is named as a template's files are, also when the store's folder is made, and that
folder is not the working folder by an empty path. -/
structure Unused (s : Store) (host : Host) (files : Files) : Prop where
  made : s.Bare host (s.made host files)
  named : s.CanStore host files → s.root.text ≠ ""

lemma Unused.bare (h : s.Unused host files) : s.Bare host files := by
  have hgrows := Files.grows_createFolders files host.working s.root
  refine ⟨fun content executable hfile => h.made.folder content executable ?_,
    fun r hr => hgrows.eq_none (h.made.stem r hr),
    fun r e hr => hgrows.eq_none (h.made.free r e hr)⟩
  rw [Store.made, hgrows.keeps (by simp [hfile]), hfile]

lemma CanStore.stands (h : s.CanStore host start) (hunused : s.Unused host start) :
    (s.made host start).Stands host.working s.root ∧ Files.badPath? s.root = none := by
  obtain ⟨hstands, hgood⟩ := Files.stands_of_createFolders h.created h.folder
  exact ⟨hstands, hgood.resolve_left (hunused.named h)⟩

lemma Absent.unused (h : s.Absent host files) : s.Unused host files := by
  refine ⟨h.bare_made, fun hcan hempty => ?_⟩
  have hfolder := hcan.folder
  rw [made, Files.createFolders, if_pos hempty, h.folder] at hfolder
  cases hfolder

lemma Absent.bare (h : s.Absent host files) : s.Bare host files :=
  h.unused.bare

end Folders

section Shelves

/-- The files of a template without further points in their extensions are gone, and all else is as
it was. -/
structure Drops (s : Store) (host : Host) (reference : String) (files files' : Files) : Prop where
  gone : ∀ extension, '.' ∉ extension.toList →
    files'.node? (s.place host reference extension) = none
  rest : ∀ l, (∀ extension, '.' ∉ extension.toList → l ≠ s.place host reference extension) →
    files'.node? l = files.node? l

lemma Drops.cases (h : s.Drops host reference files files') (l : Location) :
    (∃ extension, '.' ∉ extension.toList ∧ l = s.place host reference extension) ∧
        files'.node? l = none ∨
      (∀ extension, '.' ∉ extension.toList → l ≠ s.place host reference extension) ∧
        files'.node? l = files.node? l := by
  by_cases hl : ∃ extension, '.' ∉ extension.toList ∧ l = s.place host reference extension
  · obtain ⟨extension, hpoint, rfl⟩ := hl
    exact .inl ⟨⟨extension, hpoint, rfl⟩, h.gone extension hpoint⟩
  · push Not at hl
    exact .inr ⟨hl, h.rest l hl⟩

/-- The files of stored templates beside those of a tree: a file belongs to the reference in front
of its first point, and what is left of a template that is not kept has a point in its format. -/
structure Shelf (s : Store) (host : Host) (start base : Files) (used : List String)
    (kept : String → Option String) (files : Files) : Prop where
  others : ∀ l, (∀ reference extension, isReference reference = true →
    l ≠ s.place host reference extension) → files.node? l = base.node? l
  own : ∀ reference extension, isReference reference = true →
    files.node? (s.place host reference extension) ≠ none →
    s.CanStore host start ∧ files.Stands host.working s.root ∧ Files.badPath? s.root = none ∧
      reference ∈ used ∧ s.HasFile host files (reference ++ "." ++ extension) ∧
      (kept reference = none → '.' ∈ extension.toList)
  text : ∀ reference text, kept reference = some text → isReference reference = true ∧
    ∃ executable, files.node? (s.place host reference textExtension) =
      some (.file (Utf8.encode text) executable)

lemma shelf_of_bare (h : s.Bare host base) :
    s.Shelf host start base used (fun _ => none) base := by
  refine ⟨fun _ _ => rfl, fun r e hr hnode => absurd (h.free r e hr) hnode, fun r t hkept => ?_⟩
  cases hkept

variable (hbare : s.Bare host base) (h : s.Shelf host start base used kept files)

include h in
lemma Shelf.isSome_of_node? (href : isReference reference = true)
    (hnode : files.node? (s.place host reference textExtension) ≠ none) :
    (kept reference).isSome = true := by
  obtain ⟨-, -, -, -, -, hpoint⟩ := h.own reference textExtension href hnode
  cases hkept : kept reference with
  | some text => rfl
  | none => exact absurd (hpoint hkept) (by decide)

include h in
lemma Shelf.holds {text : String} (hkept : kept reference = some text) :
    s.Holds host files ⟨reference, text⟩ := by
  obtain ⟨href, executable, hnode⟩ := h.text reference text hkept
  obtain ⟨-, -, -, -, hfile, -⟩ := h.own reference textExtension href (by simp [hnode])
  exact holds_of_read href (Files.read_eq_ok_iff.mpr ⟨_, executable, hfile.locate, hnode⟩)

include hbare h in
lemma Shelf.on_names : ∃ names, s.names.on host files = (.ok names, files) ∧ names.Nodup ∧
    (∀ n ∈ names, files.node? (Files.placeOf host.working s.root ++ [n]) ≠ none) ∧
    ∀ reference extension, isReference reference = true →
      files.node? (s.place host reference extension) ≠ none →
      reference ++ "." ++ extension ∈ names := by
  have hroot : files.node? (Files.placeOf host.working s.root) =
      base.node? (Files.placeOf host.working s.root) := by
    apply h.others
    intro r e _ hplace
    simpa [place] using congrArg List.length hplace
  have hfolder : ∀ content executable, files.node? (Files.placeOf host.working s.root) ≠
      some (.file content executable) := by
    rw [hroot]
    exact hbare.folder
  obtain ⟨names, hnames, hcases⟩ := Store.on_names hfolder
  refine ⟨names, hnames, ?_, ?_, ?_⟩
  · rcases hcases with rfl | ⟨rfl, -⟩
    · exact files.nodup_names _
    · exact List.nodup_nil
  · rcases hcases with rfl | ⟨rfl, -⟩
    · exact fun n hn => Files.mem_names_iff.mp hn
    · simp
  · intro r e hr hnode
    obtain ⟨-, hstands, hgood, -⟩ := h.own r e hr hnode
    rcases hcases with rfl | ⟨-, hclosed⟩
    · exact Files.mem_names_iff.mpr hnode
    · exact absurd ⟨hstands, hgood⟩ hclosed

include hbare h in
lemma Shelf.on_list : ∃ references, s.list.on host files = (.ok references, files) ∧
    references.Pairwise (· < ·) ∧
    ∀ reference, reference ∈ references ↔ (kept reference).isSome = true := by
  obtain ⟨names, hnames, hnodup, hsound, hcomplete⟩ := h.on_names hbare
  obtain ⟨references, hlist, hascending, hmem⟩ := Store.on_list hnames hnodup
  refine ⟨references, hlist, hascending, fun r => ?_⟩
  rw [hmem]
  constructor
  · rintro ⟨href, hname⟩
    exact h.isSome_of_node? href (hsound _ hname)
  · intro hsome
    obtain ⟨text, hkept⟩ := Option.isSome_iff_exists.mp hsome
    obtain ⟨href, executable, hnode⟩ := h.text r text hkept
    exact ⟨href, hcomplete r textExtension href (by simp [hnode])⟩

include hbare h in
lemma Shelf.mem_filesOf {names : List String} (href : isReference reference = true)
    (hsound : ∀ n ∈ names, files.node? (Files.placeOf host.working s.root ++ [n]) ≠ none)
    {name : String} (hname : name ∈ filesOf reference names) :
    ∃ extension, name = reference ++ "." ++ extension ∧ '.' ∉ extension.toList := by
  rw [Store.mem_filesOf] at hname
  obtain ⟨hname, hstem⟩ := hname
  obtain ⟨stem, extension?, hsplit⟩ : ∃ stem extension?, splitExtension name = (stem, extension?) :=
    ⟨_, _, rfl⟩
  rw [hsplit] at hstem
  dsimp only at hstem
  subst hstem
  cases extension? with
  | some extension => exact ⟨extension, eq_append_of_splitExtension hsplit⟩
  | none =>
    -- A name without a point is the name of no file on the shelf.
    have hwhole : name = stem := by
      unfold splitExtension at hsplit
      split at hsplit <;> cases hsplit <;> rfl
    subst hwhole
    have hother : files.node? (Files.placeOf host.working s.root ++ [name]) =
        base.node? (Files.placeOf host.working s.root ++ [name]) := by
      apply h.others
      intro r e _ hplace
      have hdotted := List.singleton_inj.mp (List.append_cancel_left hplace)
      refine not_mem_of_isReference href (c := '.') rfl ?_
      rw [hdotted, toList_dotted]
      simp
    exact absurd (hother.trans (hbare.stem name href)) (hsound name hname)

include hbare h in
lemma Shelf.filesOf_eq_nil_iff {names : List String} (href : isReference reference = true)
    (hsound : ∀ n ∈ names, files.node? (Files.placeOf host.working s.root ++ [n]) ≠ none)
    (hcomplete : ∀ reference extension, isReference reference = true →
      files.node? (s.place host reference extension) ≠ none →
      reference ++ "." ++ extension ∈ names) :
    filesOf reference names = [] ↔ kept reference = none := by
  constructor
  · intro hnil
    cases hkept : kept reference with
    | none => rfl
    | some text =>
      obtain ⟨-, executable, hnode⟩ := h.text reference text hkept
      have hfile : reference ++ "." ++ textExtension ∈ filesOf reference names := by
        rw [Store.mem_filesOf, splitExtension_append (ne_empty_of_isReference href) (by decide)]
        exact ⟨hcomplete reference textExtension href (by simp [hnode]), rfl⟩
      rw [hnil] at hfile
      cases hfile
  · intro hnone
    rw [List.eq_nil_iff_forall_not_mem]
    intro n hn
    obtain ⟨extension, rfl, hpoint⟩ := h.mem_filesOf hbare href hsound hn
    obtain ⟨-, -, -, -, -, hpoint'⟩ :=
      h.own reference extension href (hsound _ (Store.mem_filesOf.mp hn).1)
    exact hpoint (hpoint' hnone)

include hbare h in
lemma Shelf.on_remove_of_none (hkept : kept reference = none) :
    (s.remove reference).on host files = (.error (.templateMissing reference), files) := by
  by_cases href : isReference reference = true
  · obtain ⟨names, hnames, -, hsound, hcomplete⟩ := h.on_names hbare
    exact on_remove_of_nil hnames href
      ((h.filesOf_eq_nil_iff hbare href hsound hcomplete).mpr hkept)
  · exact on_remove_of_malformed (by simpa using href)

include hbare h in
lemma Shelf.on_remove_of_some {text : String} (hkept : kept reference = some text) :
    ∃ after, (s.remove reference).on host files = (.ok (), after) ∧
      s.Drops host reference files after := by
  obtain ⟨href, -⟩ := h.text reference text hkept
  obtain ⟨names, hnames, hnodup, hsound, hcomplete⟩ := h.on_names hbare
  have hsome : filesOf reference names ≠ [] := by
    rw [Ne, h.filesOf_eq_nil_iff hbare href hsound hcomplete, hkept]
    simp
  have hdotted : ∀ n ∈ filesOf reference names,
      ∃ extension, n = reference ++ "." ++ extension ∧ '.' ∉ extension.toList :=
    fun n hn => h.mem_filesOf hbare href hsound hn
  have hfiles : ∀ n ∈ filesOf reference names, s.HasFile host files n := by
    intro n hn
    obtain ⟨extension, rfl, -⟩ := hdotted n hn
    obtain ⟨-, -, -, -, hfile, -⟩ :=
      h.own reference extension href (hsound _ (Store.mem_filesOf.mp hn).1)
    exact hfile
  obtain ⟨after, hremove, hafter⟩ := on_remove hnames hnodup href hsome hfiles
  refine ⟨after, hremove, fun extension hpoint => ?_, fun l hl => ?_⟩
  · rw [hafter]
    by_cases hnode : files.node? (s.place host reference extension) = none
    · simp [hnode]
    · rw [if_pos]
      refine ⟨_, Store.mem_filesOf.mpr ⟨hcomplete reference extension href hnode, ?_⟩, rfl⟩
      rw [splitExtension_append (ne_empty_of_isReference href) hpoint]
  · rw [hafter, if_neg]
    rintro ⟨n, hn, rfl⟩
    obtain ⟨extension, rfl, hpoint⟩ := hdotted n hn
    exact hl extension hpoint rfl

end Shelves

section Steps

variable (h : s.Shelf host start base used kept files)

include h in
lemma Shelf.own_of_sameFolders (hfolders : Files.SameFolders files files') {extension : String}
    (href : isReference reference = true)
    (hsame : files'.node? (s.place host reference extension) =
      files.node? (s.place host reference extension))
    (hnode : files'.node? (s.place host reference extension) ≠ none) :
    s.CanStore host start ∧ files'.Stands host.working s.root ∧ Files.badPath? s.root = none ∧
      reference ∈ used ∧ s.HasFile host files' (reference ++ "." ++ extension) ∧
      (kept reference = none → '.' ∈ extension.toList) := by
  obtain ⟨hcan, hstands, hgood, hused, hfile, hpoint⟩ :=
    h.own reference extension href (hsame ▸ hnode)
  exact ⟨hcan, hstands.of_sameFolders hfolders, hgood, hused,
    hfile.of_sameFolders hfolders hsame, hpoint⟩

include h in
lemma Shelf.congr (hsame : files'.node? = files.node?) {used' : List String}
    (hused : ∀ r ∈ used, r ∈ used') : s.Shelf host start base used' kept files' := by
  have hfolders : Files.SameFolders files files' := fun l => by rw [hsame]
  refine ⟨fun l hl => hsame ▸ h.others l hl, fun r e hr hnode => ?_, hsame ▸ h.text⟩
  obtain ⟨hcan, hstands, hgood, hmem, hrest⟩ :=
    h.own_of_sameFolders hfolders hr (congrFun hsame _) hnode
  exact ⟨hcan, hstands, hgood, hused r hmem, hrest⟩

include h in
lemma Shelf.eq_none_of_new (href : isReference reference = true) (hnew : reference ∉ used)
    (extension : String) : files.node? (s.place host reference extension) = none := by
  by_contra hnode
  exact hnew (h.own reference extension href hnode).2.2.2.1

include h in
/-- A template that is put with a new reference is kept beside the others. -/
lemma Shelf.put {source : Bytes} {format text : String} (hcan : s.CanStore host start)
    (hgood : Files.badPath? s.root = none) (href : isReference reference = true)
    (hnew : reference ∉ used) (hadds : s.Adds host files files' reference source format text) :
    s.Shelf host start base (reference :: used) (Function.update kept reference (some text))
      files' := by
  have hfree := h.eq_none_of_new href hnew
  have hfolders := hadds.sameFolders hfree
  -- The files of other templates have other places.
  have hother : ∀ r e, isReference r = true → r ≠ reference →
      files'.node? (s.place host r e) = files.node? (s.place host r e) :=
    fun r e hr hne => hadds.node?_rest (place_ne hr href hne e)
  refine ⟨fun l hl => ?_, fun r e hr hnode => ?_, fun r t hkept => ?_⟩
  · rw [hadds.node?_rest fun e => hl reference e href]
    exact h.others l hl
  · by_cases hr' : r = reference
    · subst hr'
      refine ⟨hcan, hadds.stands.of_sameFolders hfolders, hgood, List.mem_cons_self,
        hadds.hasFile hr hfree hnode, fun hnone => ?_⟩
      rw [Function.update_self] at hnone
      cases hnone
    · obtain ⟨hcan, hstands, hgood, hused, hrest⟩ :=
        h.own_of_sameFolders hfolders hr (hother r e hr hr') hnode
      rw [Function.update_of_ne hr']
      exact ⟨hcan, hstands, hgood, List.mem_cons_of_mem _ hused, hrest⟩
  · by_cases hr' : r = reference
    · subst hr'
      rw [Function.update_self] at hkept
      cases hkept
      exact ⟨href, false, hadds.node?_text⟩
    · rw [Function.update_of_ne hr'] at hkept
      obtain ⟨hr, executable, hnode⟩ := h.text r t hkept
      exact ⟨hr, executable, (hother r _ hr hr').trans hnode⟩

include h in
/-- A removed template leaves the others as they are. -/
lemma Shelf.remove (href : isReference reference = true)
    (hdrops : s.Drops host reference files files') :
    s.Shelf host start base used (Function.update kept reference none) files' := by
  -- What is taken away are files, so all folders stay.
  have hfolders : Files.SameFolders files files' := by
    intro l
    rcases hdrops.cases l with ⟨⟨e, -, rfl⟩, hgone⟩ | ⟨-, hsame⟩
    · rw [hgone]
      refine ⟨fun hfolder => ?_, fun hfolder => by cases hfolder⟩
      obtain ⟨content, executable, hfile⟩ :=
        (h.own reference e href (by simp [hfolder])).2.2.2.2.1.node?
      rw [← place, hfolder] at hfile
      cases hfile
    · rw [hsame]
  have hother : ∀ r e, isReference r = true → r ≠ reference →
      files'.node? (s.place host r e) = files.node? (s.place host r e) :=
    fun r e hr hne => hdrops.rest _ fun _ _ => place_ne hr href hne _ _
  refine ⟨fun l hl => ?_, fun r e hr hnode => ?_, fun r t hkept => ?_⟩
  · rw [hdrops.rest l fun e _ => hl reference e href]
    exact h.others l hl
  · by_cases hr' : r = reference
    · subst hr'
      by_cases he : '.' ∈ e.toList
      · have hsame := hdrops.rest (s.place host r e) fun e' he' hplace => by
          rw [(place_inj hr hr hplace).2] at he
          exact he' he
        obtain ⟨hcan, hstands, hgood, hused, hfile, -⟩ :=
          h.own_of_sameFolders hfolders hr hsame hnode
        exact ⟨hcan, hstands, hgood, hused, hfile, fun _ => he⟩
      · exact absurd (hdrops.gone e he) hnode
    · rw [Function.update_of_ne hr']
      exact h.own_of_sameFolders hfolders hr (hother r e hr hr') hnode
  · by_cases hr' : r = reference
    · subst hr'
      rw [Function.update_self] at hkept
      cases hkept
    · rw [Function.update_of_ne hr'] at hkept
      obtain ⟨hr, executable, hnode⟩ := h.text r t hkept
      exact ⟨hr, executable, (hother r _ hr hr').trans hnode⟩

end Steps

section Runs

/-- What every history comes to: the tree is still the first one, or it is a shelf in the made
folder. -/
def Tracks (s : Store) (host : Host) (start : Files) (used : List String) (h : History) : Prop :=
  h.files = start ∧ h.kept = (fun _ => none) ∨
    s.Shelf host start (s.made host start) used h.kept h.files

lemma drawn_cons (command : Command) (rest : List Command) :
    (command :: rest).filterMap Command.drawn? =
      command.drawn?.toList ++ rest.filterMap Command.drawn? := by
  cases hdrawn : command.drawn? with
  | none => rw [List.filterMap_cons_none hdrawn]; rfl
  | some r => rw [List.filterMap_cons_some hdrawn]; rfl

lemma Shelf.createFolders_again (h : s.Shelf host start (s.made host start) used kept files)
    (hunused : s.Unused host start) : files.createFolders host.working s.root =
      ((start.createFolders host.working s.root).1, files) := by
  refine Files.createFolders_again fun l hl => h.others l ?_
  rintro r e hr rfl
  exact hl (hunused.made.free r e hr)

lemma Shelf.made_eq (h : s.Shelf host start (s.made host start) used kept files)
    (hunused : s.Unused host start) : s.made host files = files :=
  congrArg Prod.snd (h.createFolders_again hunused)

lemma Tracks.shelf {h : History} (htracks : s.Tracks host start used h) {text : String}
    (hkept : h.kept reference = some text) :
    s.Shelf host start (s.made host start) used h.kept h.files := by
  rcases htracks with ⟨-, hnone⟩ | hshelf
  · rw [hnone] at hkept
    cases hkept
  · exact hshelf

variable {h : History} (hunused : s.Unused host start) (htracks : s.Tracks host start used h)

include hunused htracks in
lemma Tracks.exists_shelf :
    ∃ base, s.Bare host base ∧ s.Shelf host start base used h.kept h.files := by
  rcases htracks with ⟨hfiles, hkept⟩ | hshelf
  · rw [hfiles, hkept]
    exact ⟨start, hunused.bare, shelf_of_bare hunused.bare⟩
  · exact ⟨_, hunused.made, hshelf⟩

include hunused htracks in
/-- Whether the folder is made for the first time or again, the outcome is the same. -/
lemma Tracks.made :
    (h.files.createFolders host.working s.root).1 = (start.createFolders host.working s.root).1 ∧
      s.Shelf host start (s.made host start) used h.kept (s.made host h.files) := by
  rcases htracks with ⟨hfiles, hkept⟩ | hshelf
  · rw [hfiles, hkept]
    exact ⟨rfl, shelf_of_bare hunused.made⟩
  · rw [hshelf.createFolders_again hunused, hshelf.made_eq hunused]
    exact ⟨rfl, hshelf⟩

include hunused htracks in
lemma Tracks.canStore_of_adds {source : Bytes} {format text : String}
    (href : isReference reference = true)
    (hcreated : (h.files.createFolders host.working s.root).1 = .ok ())
    (hadds : s.Adds host (s.made host h.files) files' reference source format text) :
    s.CanStore host start := by
  obtain ⟨hsame, hshelf⟩ := htracks.made hunused
  refine ⟨hsame ▸ hcreated, ?_, fun r hr => badPath?_textPath href hr hadds.textGood⟩
  rw [← hshelf.others _ fun r e _ hplace => by simpa [place] using congrArg List.length hplace]
  exact hadds.stands.folder

include hunused htracks in
lemma Tracks.put_cases (href : isReference reference = true) (hnew : reference ∉ used)
    (source : Bytes) (format text : String) :
    (∃ e after, (s.put reference source format text).on host h.files = (.error e, after) ∧
        after.node? = (s.made host h.files).node? ∧
        s.Shelf host start (s.made host start) (reference :: used) h.kept after) ∨
      ∃ after, (s.put reference source format text).on host h.files =
          (.ok ⟨reference, text⟩, after) ∧
        s.Adds host (s.made host h.files) after reference source format text ∧
        s.Shelf host start (s.made host start) (reference :: used)
          (Function.update h.kept reference (some text)) after := by
  obtain ⟨-, hshelf⟩ := htracks.made hunused
  have hfresh : s.Fresh host h.files reference := ⟨href, hshelf.eq_none_of_new href hnew⟩
  rcases Store.put_cases hfresh source format text with
    ⟨e, after, hput, hafter⟩ | ⟨after, hput, hmade, hadds⟩
  · exact .inl ⟨e, after, hput, hafter, hshelf.congr hafter fun r hr => List.mem_cons_of_mem _ hr⟩
  · have hcan := htracks.canStore_of_adds hunused href hmade hadds
    exact .inr ⟨after, hput, hadds, hshelf.put hcan (hcan.stands hunused).2 href hnew hadds⟩

include hunused htracks in
/-- Every call goes on from a shelf to a shelf. -/
lemma Tracks.next (command : Command)
    (hdrawn : ∀ r, command.drawn? = some r → isReference r = true ∧ r ∉ used) :
    s.Tracks host start (command.drawn?.toList ++ used) (h.next s host command) := by
  cases command with
  | put reference source format text =>
    obtain ⟨href, hnew⟩ := hdrawn reference rfl
    rcases htracks.put_cases hunused href hnew source format text with
      ⟨e, after, hput, -, hshelf⟩ | ⟨after, hput, -, hshelf⟩
    · rw [History.next, hput]
      exact .inr hshelf
    · rw [History.next, hput]
      exact .inr hshelf
  | get reference =>
    rw [next_get]
    exact htracks
  | remove reference =>
    obtain ⟨base, hbare, hshelf⟩ := htracks.exists_shelf hunused
    cases hkept : h.kept reference with
    | none =>
      rw [History.next, hshelf.on_remove_of_none hbare hkept]
      exact htracks
    | some text =>
      have hshelf := htracks.shelf hkept
      obtain ⟨href, -⟩ := hshelf.text reference text hkept
      obtain ⟨after, hremove, hdrops⟩ := hshelf.on_remove_of_some hunused.made hkept
      rw [History.next, hremove]
      exact .inr (hshelf.remove href hdrops)
  | list =>
    rw [next_list]
    exact htracks

include hunused htracks in
lemma Tracks.foldl {commands : List Command}
    (hdrawn : ∀ r ∈ commands.filterMap Command.drawn?, isReference r = true ∧ r ∉ used)
    (hdistinct : (commands.filterMap Command.drawn?).Nodup) :
    s.Tracks host start ((commands.filterMap Command.drawn?).reverse ++ used)
      (commands.foldl (History.next s host) h) := by
  -- The invariant speaks of the references drawn so far, so it is carried on with one more.
  induction commands generalizing h used with
  | nil => exact htracks
  | cons command rest ih =>
    rw [drawn_cons] at hdrawn hdistinct
    obtain ⟨-, hrest, hapart⟩ := List.nodup_append.mp hdistinct
    have hnext := htracks.next hunused command fun r hr =>
      hdrawn r (List.mem_append_left _ (by simp [hr]))
    have hused : ((command :: rest).filterMap Command.drawn?).reverse ++ used =
        (rest.filterMap Command.drawn?).reverse ++ (command.drawn?.toList ++ used) := by
      rw [drawn_cons, List.reverse_append, List.append_assoc]
      cases command.drawn? <;> rfl
    rw [hused]
    refine ih hnext (fun r hr => ?_) hrest
    obtain ⟨href, hunseen⟩ := hdrawn r (List.mem_append_right _ hr)
    have hother : r ∉ command.drawn?.toList := fun hmem => hapart r hmem r hr rfl
    exact ⟨href, by simp [hother, hunseen]⟩

include hunused htracks in
/-- Where templates can be stored, the store answers as the map. -/
lemma Tracks.answers (hcan : s.CanStore host start) : s.Answers host h := by
  obtain ⟨base, hbare, hshelf⟩ := htracks.exists_shelf hunused
  refine ⟨fun r => ?_, ?_, fun r => ?_⟩
  · cases hkept : h.kept r with
    | some text => exact hshelf.holds hkept
    | none =>
      obtain ⟨hcreated, hmade⟩ := htracks.made hunused
      rw [on_get_of_missing fun href => ?_]
      refine Files.read_join_of_createFolders (hcreated.trans hcan.created) (isStep_textName href)
        (short_textName href) (hcan.textGood r href) ?_
      by_contra hnode
      have hsome := hmade.isSome_of_node? href hnode
      rw [hkept] at hsome
      cases hsome
  · obtain ⟨references, hlist, hascending, hmem⟩ := hshelf.on_list hbare
    exact ⟨references, by rw [hlist], hascending, hmem⟩
  · cases hkept : h.kept r with
    | none =>
      rw [hshelf.on_remove_of_none hbare hkept]
      rfl
    | some text =>
      obtain ⟨after, hremove, -⟩ := hshelf.on_remove_of_some hbare hkept
      rw [hremove]
      rfl

include hunused htracks in
/-- Where no template can be stored, none is kept, and the store has none. -/
lemma Tracks.refuses (hcannot : ¬s.CanStore host start) :
    h.kept = (fun _ => none) ∧ s.Refuses host h.files := by
  obtain ⟨base, hbare, hshelf⟩ := htracks.exists_shelf hunused
  have hkept : h.kept = fun _ => none := by
    funext r
    cases hkept : h.kept r with
    | none => rfl
    | some text =>
      obtain ⟨href, executable, hnode⟩ := hshelf.text r text hkept
      exact absurd (hshelf.own r textExtension href (by simp [hnode])).1 hcannot
  refine ⟨hkept, fun r source format text href => ?_, fun r => ?_, ?_, fun r => ?_⟩
  · obtain ⟨-, hmade⟩ := htracks.made hunused
    have hfresh : s.Fresh host h.files r := by
      refine ⟨href, fun extension => ?_⟩
      by_contra hnode
      exact hcannot (hmade.own r extension href hnode).1
    rcases Store.put_cases hfresh source format text with
      ⟨e, after, hput, -⟩ | ⟨after, -, hcreated, hadds⟩
    · exact ⟨e, by rw [hput]⟩
    · exact absurd (htracks.canStore_of_adds hunused href hcreated hadds) hcannot
  · rcases hget : (s.get r).on host h.files with ⟨result, after⟩
    cases result with
    | error e => exact ⟨e, rfl, error_of_on_get hget⟩
    | ok template =>
      obtain ⟨href, hnode⟩ := node?_of_on_get hget
      exact absurd (hshelf.own r textExtension href hnode).1 hcannot
  · obtain ⟨references, hlist, -, hmem⟩ := hshelf.on_list hbare
    rw [hlist]
    cases references with
    | nil => rfl
    | cons r rest =>
      have hsome := (hmem r).mp List.mem_cons_self
      rw [hkept] at hsome
      cases hsome
  · rw [hshelf.on_remove_of_none hbare (congrFun hkept r)]

lemma next_kept (h : History) {command : Command} (hother : command.reference? ≠ some reference) :
    (h.next s host command).kept reference = h.kept reference := by
  cases command with
  | put drawn source format text =>
    rcases hput : (s.put drawn source format text).on host h.files with ⟨result, after⟩
    rw [History.next, hput]
    cases result with
    | error e => rfl
    | ok template =>
      rw [(read_of_put hput).1]
      exact Function.update_of_ne (fun hsame => hother (congrArg some hsame.symm)) _ _
  | get => rfl
  | remove removed =>
    rcases hremove : (s.remove removed).on host h.files with ⟨result, after⟩
    rw [History.next, hremove]
    cases result with
    | error e => rfl
    | ok _ => exact Function.update_of_ne (fun hsame => hother (congrArg some hsame.symm)) _ _
  | list => rfl

/-- Where templates can be stored, the store answers every call as the map of the texts that were
put and not removed since, and no call changes the answer for a reference that it is not about.
Otherwise the store takes and has no template. -/
theorem calls_answer_as_map (s : Store) (host : Host) (start : Files) (commands : List Command)
    (habsent : s.Absent host start)
    (hdrawn : ∀ r ∈ commands.filterMap Command.drawn?, isReference r = true)
    (hdistinct : (commands.filterMap Command.drawn?).Nodup) :
    (s.CanStore host start → s.Answers host (s.history host start commands) ∧
      ∀ before command rest, commands = before ++ command :: rest →
        ∀ reference, command.reference? ≠ some reference →
          ((s.get reference).on host (s.history host start (before ++ [command])).files).1 =
            ((s.get reference).on host (s.history host start before).files).1) ∧
    (¬s.CanStore host start → (s.history host start commands).kept = (fun _ => none) ∧
      s.Refuses host (s.history host start commands).files) := by
  have hunused := habsent.unused
  have htracks : ∀ before, before <+: commands →
      ∃ used, s.Tracks host start used (s.history host start before) := by
    intro before hbefore
    have hsublist := hbefore.sublist.filterMap Command.drawn?
    have hfirst : s.Tracks host start [] ⟨fun _ => none, start⟩ := .inl ⟨rfl, rfl⟩
    refine ⟨_, hfirst.foldl hunused (fun r hr => ⟨hdrawn r (hsublist.mem hr), ?_⟩) ?_⟩
    · exact List.not_mem_nil
    · exact hdistinct.sublist hsublist
  refine ⟨fun hcan => ⟨?_, ?_⟩, fun hcannot => ?_⟩
  · obtain ⟨used, h⟩ := htracks commands (List.prefix_refl _)
    exact h.answers hunused hcan
  · intro before command rest hcommands reference hother
    obtain ⟨used, h⟩ := htracks before ⟨command :: rest, hcommands.symm⟩
    obtain ⟨used', h'⟩ := htracks (before ++ [command]) ⟨rest, by simp [hcommands]⟩
    have hkept : (s.history host start (before ++ [command])).kept reference =
        (s.history host start before).kept reference := by
      rw [history, List.foldl_append]
      exact next_kept _ hother
    rw [(h'.answers hunused hcan).get, (h.answers hunused hcan).get, hkept]
  · obtain ⟨used, h⟩ := htracks commands (List.prefix_refl _)
    exact h.refuses hunused hcannot

end Runs

section Samples

def sampleCommands : List Command :=
  [.put "0123456789abcdef0123456789abcdef" [1, 2] "tar.gz" "first",
    .put "fedcba9876543210fedcba9876543210" [] "extracted" "second",
    .put "00000000000000000000000000000000" [3] "a/b" "third",
    .remove "0123456789abcdef0123456789abcdef"]

lemma absent_sample : Store.Absent ⟨⟨"templates"⟩⟩ sampleHost .empty := by
  have hbelow : ∀ name, (Store.made ⟨⟨"templates"⟩⟩ sampleHost .empty).node?
      (["templates"] ++ [name]) = none := by
    intro name
    change (Files.empty.put ["templates"] .folder).node? _ = none
    rw [Files.node?_put _ (by simp), if_neg (by simp)]
    rfl
  exact ⟨rfl, fun _ _ => hbelow _, fun _ _ _ => hbelow _⟩

lemma canStore_sample : Store.CanStore ⟨⟨"templates"⟩⟩ sampleHost .empty :=
  ⟨rfl, rfl, fun _ hr => badPath?_textPath
    (show isReference "0123456789abcdef0123456789abcdef" = true by decide +kernel) hr
    (by decide +kernel)⟩

theorem calls_answer_as_map_dottedFormats :
    Store.Answers ⟨⟨"templates"⟩⟩ sampleHost
        (history ⟨⟨"templates"⟩⟩ sampleHost .empty sampleCommands) ∧
      ["0123456789abcdef0123456789abcdef", "fedcba9876543210fedcba9876543210",
        "00000000000000000000000000000000"].map
        (history ⟨⟨"templates"⟩⟩ sampleHost .empty sampleCommands).kept =
          [none, some "second", none] :=
  ⟨((calls_answer_as_map _ sampleHost .empty sampleCommands absent_sample (by decide +kernel)
    (by decide +kernel)).1 canStore_sample).1, by decide +kernel⟩

/-- A file, and nothing else. -/
def sampleFile : Files where
  entries := [(["f"], .file [120] false)]
  distinct := by decide

/-- Below a file nothing can be looked up, and a folder that is made on the way may look like a
template. -/
theorem not_answers_for_every_absent_folder :
    (sampleFile.node? (Files.placeOf [] ⟨"f/templates"⟩) = none ∧
      ¬Store.Answers ⟨⟨"f/templates"⟩⟩ sampleHost
        (history ⟨⟨"f/templates"⟩⟩ sampleHost sampleFile [])) ∧
    (Files.empty.node? (Files.placeOf [] ⟨"b/0123456789abcdef0123456789abcdef.extracted/.."⟩) =
        none ∧
      ¬Store.Answers ⟨⟨"b/0123456789abcdef0123456789abcdef.extracted/.."⟩⟩ sampleHost
        (history ⟨⟨"b/0123456789abcdef0123456789abcdef.extracted/.."⟩⟩ sampleHost .empty
          [.put "fedcba9876543210fedcba9876543210" [] "txt" "text"])) := by
  refine ⟨⟨rfl, fun h => ?_⟩, rfl, fun h => ?_⟩
  · have hget := h.get "0123456789abcdef0123456789abcdef"
    revert hget
    decide +kernel
  · have hget := h.get "0123456789abcdef0123456789abcdef"
    revert hget
    decide +kernel

end Samples

end MailMerge.Store
