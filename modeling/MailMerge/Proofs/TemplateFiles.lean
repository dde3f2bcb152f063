import MailMerge.Proofs.FileReplacing
import MailMerge.Proofs.StoredTemplates
import Mathlib.Data.String.Basic

/-!
# Files of templates

What the store's calls do to the tree. Storing a template adds two files right below the store's
folder, or leaves nothing (`put_cases`); removing one takes away the files whose stem is its
reference (`on_remove`).
-/

namespace MailMerge.Store

variable {s : Store} {host : Host} {files files' : Files} {reference extension format text : String}
  {source : Bytes}

section References

lemma isReference_iff : isReference reference = true ↔
    reference.toList.length = 32 ∧ ∀ c ∈ reference.toList, isReferenceChar c = true := by
  rw [isReference, Bool.and_eq_true, beq_iff_eq, List.all_eq_true]

lemma ne_empty_of_isReference (h : isReference reference = true) : reference ≠ "" := by
  rintro rfl
  cases (isReference_iff.mp h).1

lemma not_mem_of_isReference (h : isReference reference = true) {c : Char}
    (hc : isReferenceChar c = false) : c ∉ reference.toList := by
  intro hmem
  rw [(isReference_iff.mp h).2 c hmem] at hc
  cases hc

lemma utf8Size_of_isReferenceChar {c : Char} (h : isReferenceChar c = true) : c.utf8Size = 1 := by
  rw [Char.utf8Size_eq_one_iff]
  simp only [isReferenceChar, Bool.or_eq_true, Bool.and_eq_true, decide_eq_true_eq] at h
  rcases h with ⟨-, h⟩ | ⟨-, h⟩
  · exact UInt32.le_trans h (by decide)
  · exact UInt32.le_trans h (by decide)

lemma utf8ByteSize_of_isReference (h : isReference reference = true) :
    reference.utf8ByteSize = 32 := by
  obtain ⟨hlength, hchars⟩ := isReference_iff.mp h
  rw [← hlength, ← String.utf8Len_toList]
  generalize reference.toList = chars at hchars
  induction chars with
  | nil => rfl
  | cons c cs ih =>
    rw [String.utf8Len_cons, ih fun d hd => hchars d (List.mem_cons_of_mem _ hd),
      utf8Size_of_isReferenceChar (hchars c List.mem_cons_self), List.length_cons]

lemma isStep_textName (h : isReference reference = true) :
    Path.IsStep (reference ++ "." ++ textExtension) :=
  isStep_dotted (ne_empty_of_isReference h) (not_mem_of_isReference h rfl)
    (not_mem_of_isReference h rfl) (by decide)

lemma short_textName (h : isReference reference = true) :
    (reference ++ "." ++ textExtension).utf8ByteSize ≤ Files.nameLimit := by
  rw [String.utf8ByteSize_append, String.utf8ByteSize_append, utf8ByteSize_of_isReference h]
  decide

lemma badPath?_textPath {reference' : String} (h : isReference reference = true)
    (h' : isReference reference' = true) (hbad : Files.badPath? (s.textPath reference) = none) :
    Files.badPath? (s.textPath reference') = none := by
  obtain ⟨front, hfront⟩ := s.root.exists_text_join
  rw [textPath, filePath, Files.badPath?_eq_none_iff,
    hfront _ (Path.isAbsolute_of_isStep (isStep_textName h))] at hbad
  rw [textPath, filePath, Files.badPath?_eq_none_iff,
    hfront _ (Path.isAbsolute_of_isStep (isStep_textName h'))]
  obtain ⟨-, hnul, hsize⟩ := hbad
  simp only [String.toList_append, List.mem_append, not_or, String.utf8ByteSize_append]
    at hnul hsize ⊢
  refine ⟨?_, ⟨hnul.1, ⟨not_mem_of_isReference h' rfl, hnul.2.1.2⟩, hnul.2.2⟩, ?_⟩
  · intro hempty
    have hchars := congrArg String.toList hempty
    simp [String.toList_append, textExtension] at hchars
  · rw [utf8ByteSize_of_isReference h] at hsize
    rw [utf8ByteSize_of_isReference h']
    exact hsize

end References

section Reading

/-- The place of a template's file right below the store's folder. -/
def place (s : Store) (host : Host) (reference extension : String) : Location :=
  Files.placeOf host.working s.root ++ [reference ++ "." ++ extension]

lemma place_inj {reference' extension' : String} (h : isReference reference = true)
    (h' : isReference reference' = true)
    (hplace : s.place host reference extension = s.place host reference' extension') :
    reference = reference' ∧ extension = extension' :=
  dotted_inj (not_mem_of_isReference h rfl) (not_mem_of_isReference h' rfl)
    (List.singleton_inj.mp (List.append_cancel_left hplace))

lemma place_ne {reference' : String} (h : isReference reference = true)
    (h' : isReference reference' = true) (hne : reference ≠ reference')
    (extension extension' : String) :
    s.place host reference extension ≠ s.place host reference' extension' :=
  fun hplace => hne (place_inj h h' hplace).1

lemma eq_place_of_locate (href : isReference reference = true) {found : Location}
    (hlocate : files.locate host.working (s.textPath reference) = .ok found) :
    found = s.place host reference textExtension :=
  Files.eq_of_locate_join (isStep_textName href) hlocate

lemma locate_textPath (hstands : files.Stands host.working s.root)
    (href : isReference reference = true) (hbad : Files.badPath? (s.textPath reference) = none) :
    files.locate host.working (s.textPath reference) =
      .ok (s.place host reference textExtension) :=
  Files.locate_join hstands (isStep_textName href) (short_textName href) hbad

lemma holds_of_node? {executable : Bool} (hstands : files.Stands host.working s.root)
    (href : isReference reference = true) (hbad : Files.badPath? (s.textPath reference) = none)
    (hnode : files.node? (s.place host reference textExtension) =
      some (.file (Utf8.encode text) executable)) : s.Holds host files ⟨reference, text⟩ :=
  holds_of_read href
    (Files.read_eq_ok_iff.mpr ⟨_, executable, locate_textPath hstands href hbad, hnode⟩)

lemma on_get_of_missing
    (h : isReference reference = true →
      files.read host.working (s.textPath reference) = .error .missing) :
    (s.get reference).on host files = (.error (.templateMissing reference), files) := by
  rw [on_get, checkReference]
  by_cases href : isReference reference = true
  · rw [if_pos href, h href]
    rfl
  · rw [if_neg href]
    rfl

/-- A template that cannot be given is missing, or its text file cannot be read. -/
lemma error_of_on_get {e : Error} (h : (s.get reference).on host files = (.error e, files')) :
    e = .templateMissing reference ∨ isReference reference = true ∧ ∃ fault, e = .file fault := by
  rw [on_get, checkReference] at h
  by_cases href : isReference reference = true
  · rw [if_pos href] at h
    change (templateOf reference _, files) = _ at h
    unfold templateOf at h
    split at h
    · cases h
      exact .inl rfl
    · next fault _ _ =>
      cases h
      exact .inr ⟨href, fault, rfl⟩
    · split at h
      · cases h
      · cases h
        exact .inr ⟨href, .notText, rfl⟩
  · rw [if_neg href] at h
    cases h
    exact .inl rfl

lemma node?_of_on_get {template : Template}
    (h : (s.get reference).on host files = (.ok template, files')) :
    isReference reference = true ∧
      files.node? (s.place host reference textExtension) ≠ none := by
  rw [on_get, checkReference] at h
  by_cases href : isReference reference = true
  · rw [if_pos href] at h
    refine ⟨href, ?_⟩
    cases hread : files.read host.working (s.textPath reference) with
    | error fault =>
      rw [hread] at h
      cases fault <;> cases h
    | ok content =>
      obtain ⟨found, executable, hlocate, hnode⟩ := Files.read_eq_ok_iff.mp hread
      rw [← eq_place_of_locate href hlocate, hnode]
      simp
  · rw [if_neg href] at h
    cases h

end Reading

section Putting

/-- The tree with the store's folder made, as far as it can be. -/
def made (s : Store) (host : Host) (files : Files) : Files :=
  (files.createFolders host.working s.root).2

/-- No file of a template is there, also once the store's folder is made. -/
structure Fresh (s : Store) (host : Host) (files : Files) (reference : String) : Prop where
  isReference : isReference reference = true
  free : ∀ extension, (s.made host files).node? (s.place host reference extension) = none

lemma fresh_of_names (href : isReference reference = true)
    (hnames : ∀ n ∈ (s.made host files).names (Files.placeOf host.working s.root),
      ¬(reference ++ ".").toList <+: n.toList) : s.Fresh host files reference := by
  refine ⟨href, fun extension => ?_⟩
  by_contra hnode
  exact hnames _ (Files.mem_names_iff.mpr hnode) ⟨extension.toList, String.toList_append.symm⟩

/-- What a stored template adds to a tree. -/
structure Adds (s : Store) (host : Host) (files files' : Files) (reference : String)
    (source : Bytes) (format text : String) : Prop where
  stands : files.Stands host.working s.root
  textGood : Files.badPath? (s.textPath reference) = none
  sourceGood : Files.badPath? (s.filePath reference format) = none
  sourceStep : Path.IsStep (reference ++ "." ++ format)
  sourceShort : (reference ++ "." ++ format).utf8ByteSize ≤ Files.nameLimit
  node? : ∀ l, files'.node? l =
    if l = s.place host reference textExtension then some (.file (Utf8.encode text) false)
    else if l = s.place host reference format then some (.file source false)
    else files.node? l

lemma Adds.node?_text (h : s.Adds host files files' reference source format text) :
    files'.node? (s.place host reference textExtension) =
      some (.file (Utf8.encode text) false) := by
  rw [h.node?, if_pos rfl]

lemma Adds.node?_rest (h : s.Adds host files files' reference source format text) {l : Location}
    (hl : ∀ extension, l ≠ s.place host reference extension) : files'.node? l = files.node? l := by
  rw [h.node?, if_neg (hl _), if_neg (hl _)]

lemma Adds.sameFolders (h : s.Adds host files files' reference source format text)
    (hfree : ∀ extension, files.node? (s.place host reference extension) = none) :
    Files.SameFolders files files' := by
  intro l
  rw [h.node?]
  split
  · next hl => simp [hl, hfree]
  · split
    · next hl => simp [hl, hfree]
    · rfl

/-- Both files of a template are written, or none. -/
lemma writeFiles_cases (href : isReference reference = true)
    (hfree : ∀ extension, files.node? (s.place host reference extension) = none)
    (source : Bytes) (format text : String) :
    (∃ e after, (s.writeFiles reference source format text).on host files = (.error e, after) ∧
        after.node? = files.node?) ∨
      ∃ after, (s.writeFiles reference source format text).on host files = (.ok (), after) ∧
        s.Adds host files after reference source format text := by
  have hstem := ne_empty_of_isReference href
  have hpoint := not_mem_of_isReference href (c := '.') rfl
  have hslash := not_mem_of_isReference href (c := '/') rfl
  rcases Action.replace_cases host files s.root (s.filePath reference format) source with
    ⟨e, after, hsource, hafter⟩ | ⟨sourcePlace, sourced, hsource, hstands, hlocate, hfile, hother,
      hsourced⟩
  · exact .inl ⟨e, after, Action.on_bind_error hsource, hafter⟩
  · obtain ⟨hstep, hshort, rfl⟩ := Files.locate_dotted hstands hstem hpoint hslash
      (fun extension => by rw [← place, hfree]; simp) hlocate hfile
    have hfolders := Files.sameFolders_of_node? hother hsourced
    rw [writeFiles, Action.on_bind_ok hsource]
    have hlocate' := Files.locate_of_sameFolders hfolders hlocate hfile
    rcases Action.replace_cases host sourced s.root (s.textPath reference) (Utf8.encode text) with
      ⟨e, after, htext, hafter⟩ | ⟨textPlace, stored, htext, hstands', htarget, hname, -, hstored⟩
    · -- The source is found in its place and taken away again.
      refine .inl ⟨e, _, Action.on_orElseDo_error htext, ?_⟩
      rw [← Files.locate_congr hafter] at hlocate'
      have hnode : after.node? (s.place host reference format) = some (.file source false) := by
        rw [hafter, hsourced, place, if_pos rfl]
      rw [Action.run_discard hlocate' hnode]
      funext l
      rw [Files.node?_erase after (by simp), hafter, hsourced]
      by_cases hl : l = Files.placeOf host.working s.root ++ [reference ++ "." ++ format]
      · rw [if_pos hl, hl, ← place, hfree]
      · rw [if_neg hl, if_neg hl]
    · obtain ⟨-, -, rfl⟩ := Files.locate_dotted hstands' hstem hpoint hslash
        (fun extension hfolder => by
          rw [← hfolders, ← place, hfree] at hfolder
          cases hfolder) htarget hname
      refine .inr ⟨stored, Action.on_orElseDo_ok htext, hstands,
        (Files.locate_eq_ok_iff.mp htarget).1, (Files.locate_eq_ok_iff.mp hlocate).1, hstep, hshort,
        fun l => ?_⟩
      rw [hstored, hsourced]
      rfl

/-- A template is stored with both its files, or nothing but the store's folder is made. -/
theorem put_cases (hfresh : s.Fresh host files reference) (source : Bytes) (format text : String) :
    (∃ e after, (s.put reference source format text).on host files = (.error e, after) ∧
        after.node? = (s.made host files).node?) ∨
      ∃ after, (s.put reference source format text).on host files =
          (.ok ⟨reference, text⟩, after) ∧
        (files.createFolders host.working s.root).1 = .ok () ∧
        s.Adds host (s.made host files) after reference source format text := by
  have hmake : (Action.createFolders s.root).on host files =
      ((files.createFolders host.working s.root).1.mapError Error.file, s.made host files) := rfl
  cases hcreated : (files.createFolders host.working s.root).1 with
  | error fault =>
    rw [hcreated] at hmake
    exact .inl ⟨_, _, Action.on_bind_error hmake, rfl⟩
  | ok _ =>
    rw [hcreated] at hmake
    rw [put, Action.on_bind_ok hmake]
    rcases writeFiles_cases hfresh.isReference hfresh.free source format text with
      ⟨e, after, hwrite, hafter⟩ | ⟨after, hwrite, hadds⟩
    · exact .inl ⟨e, after, Action.on_bind_error hwrite, hafter⟩
    · refine .inr ⟨after, ?_, rfl, hadds⟩
      rw [Action.on_bind_ok hwrite]
      rfl

lemma adds_of_put (hfresh : s.Fresh host files reference) {template : Template}
    (hput : (s.put reference source format text).on host files = (.ok template, files')) :
    template = ⟨reference, text⟩ ∧
      s.Adds host (s.made host files) files' reference source format text := by
  rcases put_cases hfresh source format text with ⟨e, after, hcase, -⟩ | ⟨after, hcase, -, hadds⟩
  · rw [hput] at hcase
    cases hcase
  · rw [hput] at hcase
    cases hcase
    exact ⟨rfl, hadds⟩

end Putting

section Names

lemma names_eq (s : Store) (host : Host) (files : Files) :
    s.names.on host files =
      (match files.kind? host.working s.root with
        | none => .ok []
        | some _ => (files.list host.working s.root).mapError Error.file, files) := by
  have hkind : (Action.kind s.root).on host files =
      (.ok (files.kind? host.working s.root), files) := rfl
  rw [names, Action.on_bind_ok hkind]
  cases files.kind? host.working s.root <;> rfl

lemma names_eq_locate (s : Store) (host : Host) (files : Files) :
    s.names.on host files =
      (match files.locate host.working s.root with
        | .error _ => .ok []
        | .ok place =>
          match files.node? place with
          | none => .ok []
          | some .folder => .ok (files.names place)
          | some (.file ..) => .error (.file .notFolder), files) := by
  rw [names_eq, Files.kind?, Files.list]
  cases files.locate host.working s.root with
  | error fault => rfl
  | ok place =>
    dsimp only
    cases files.node? place with
    | none => rfl
    | some node => cases node <;> rfl

/-- The names in the store's folder are read off the tree, and there are none where no folder is
found. -/
lemma on_names (hfile : ∀ content executable,
    files.node? (Files.placeOf host.working s.root) ≠ some (.file content executable)) :
    ∃ names, s.names.on host files = (.ok names, files) ∧
      (names = files.names (Files.placeOf host.working s.root) ∨
        names = [] ∧ ¬(files.Stands host.working s.root ∧ Files.badPath? s.root = none)) := by
  rw [names_eq_locate]
  cases hlocate : files.locate host.working s.root with
  | error fault =>
    refine ⟨[], rfl, .inr ⟨rfl, ?_⟩⟩
    rintro ⟨hstands, hbad⟩
    have hok := Files.locate_eq_ok_iff.mpr ⟨hbad, hstands.follow, fun _ _ h => absurd h (hfile _ _)⟩
    rw [hok] at hlocate
    cases hlocate
  | ok found =>
    have hplace := Files.eq_placeOf_of_locate hlocate
    subst hplace
    dsimp only
    cases hnode : files.node? (Files.placeOf host.working s.root) with
    | none =>
      refine ⟨[], rfl, .inr ⟨rfl, ?_⟩⟩
      rintro ⟨hstands, -⟩
      rw [hstands.folder] at hnode
      cases hnode
    | some node =>
      cases node with
      | file content executable => exact absurd hnode (hfile content executable)
      | folder => exact ⟨_, rfl, .inl rfl⟩

lemma referenceOf?_eq_some_iff {name : String} : referenceOf? name = some reference ↔
    isReference reference = true ∧ name = reference ++ "." ++ textExtension := by
  constructor
  · intro h
    unfold referenceOf? at h
    split at h
    · next stem extension hsplit =>
      split at h
      · next htext =>
        cases h
        rw [Bool.and_eq_true, decide_eq_true_eq] at htext
        exact ⟨htext.2, htext.1 ▸ (eq_append_of_splitExtension hsplit).1⟩
      · cases h
    · cases h
  · rintro ⟨href, rfl⟩
    rw [referenceOf?, splitExtension_append (ne_empty_of_isReference href) (by decide)]
    simp [href]

/-- The list of references is ascending and has those whose text file has its name there. -/
lemma on_list {names : List String} (hnames : s.names.on host files = (.ok names, files))
    (hnodup : names.Nodup) :
    ∃ references, s.list.on host files = (.ok references, files) ∧
      references.Pairwise (· < ·) ∧ ∀ reference, reference ∈ references ↔
        isReference reference = true ∧ reference ++ "." ++ textExtension ∈ names := by
  have hdistinct : (names.filterMap referenceOf?).Nodup := by
    apply hnodup.filterMap
    intro name name' reference h h'
    rw [Option.mem_def, referenceOf?_eq_some_iff] at h h'
    rw [h.2, h'.2]
  refine ⟨_, Action.on_bind_ok hnames, ?_, fun reference => ?_⟩
  · have htrans : ∀ a b c : String, decide (a ≤ b) = true → decide (b ≤ c) = true →
        decide (a ≤ c) = true :=
      fun a b c hab hbc => decide_eq_true
        (String.le_trans (of_decide_eq_true hab) (of_decide_eq_true hbc))
    have htotal : ∀ a b : String, (decide (a ≤ b) || decide (b ≤ a)) = true :=
      fun a b => by simpa using String.le_total a b
    have hsorted := List.pairwise_mergeSort htrans htotal (names.filterMap referenceOf?)
    have hnodup' := (List.mergeSort_perm (names.filterMap referenceOf?)
      fun a b => decide (a ≤ b)).nodup_iff.mpr hdistinct
    refine (hsorted.and hnodup').imp fun {a b} h => ?_
    rw [← String.not_le]
    exact fun hle => h.2 (String.le_antisymm (of_decide_eq_true h.1) hle)
  · rw [List.mem_mergeSort, List.mem_filterMap]
    simp only [referenceOf?_eq_some_iff]
    constructor
    · rintro ⟨name, hname, href, rfl⟩
      exact ⟨href, hname⟩
    · rintro ⟨href, hname⟩
      exact ⟨_, hname, href, rfl⟩

end Names

section Removing

lemma mem_filesOf {names : List String} {name : String} :
    name ∈ filesOf reference names ↔ name ∈ names ∧ (splitExtension name).1 = reference := by
  rw [filesOf, List.mem_filter, beq_iff_eq]

/-- A file right below the store's folder that its path leads to. -/
structure HasFile (s : Store) (host : Host) (files : Files) (name : String) : Prop where
  locate : files.locate host.working (s.root.join name) =
    .ok (Files.placeOf host.working s.root ++ [name])
  namesFolder : (s.root.join name).namesFolder = false
  node? : ∃ content executable, files.node? (Files.placeOf host.working s.root ++ [name]) =
    some (.file content executable)

lemma Adds.hasFile (h : s.Adds host files files' reference source format text)
    (href : isReference reference = true)
    (hfree : ∀ extension, files.node? (s.place host reference extension) = none)
    {extension : String} (hnode : files'.node? (s.place host reference extension) ≠ none) :
    s.HasFile host files' (reference ++ "." ++ extension) := by
  have hstands : files'.Stands host.working s.root := h.stands.of_sameFolders (h.sameFolders hfree)
  by_cases htext : extension = textExtension
  · subst htext
    exact ⟨locate_textPath hstands href h.textGood,
      Path.namesFolder_join s.root (isStep_textName href), _, _, h.node?_text⟩
  · have hsource := h.node? (s.place host reference extension)
    rw [if_neg fun hplace => htext (place_inj href href hplace).2] at hsource
    by_cases hformat : extension = format
    · subst hformat
      rw [if_pos rfl] at hsource
      exact ⟨Files.locate_join hstands h.sourceStep h.sourceShort h.sourceGood,
        Path.namesFolder_join s.root h.sourceStep, _, _, hsource⟩
    · rw [if_neg fun hplace => hformat (place_inj href href hplace).2, hfree] at hsource
      exact absurd hsource hnode

lemma on_removeFile {name : String} (h : s.HasFile host files name) :
    (Action.removeFile (s.root.join name)).on host files =
      (.ok (), files.erase (Files.placeOf host.working s.root ++ [name])) := by
  obtain ⟨content, executable, hnode⟩ := h.node?
  change ((files.change _).1.mapError Error.file, (files.change _).2) = _
  rw [Files.removeFile_of_locate h.locate hnode]
  rfl

lemma HasFile.of_sameFolders {name : String} (h : s.HasFile host files name)
    (hfolders : Files.SameFolders files files')
    (hnode : files'.node? (Files.placeOf host.working s.root ++ [name]) =
      files.node? (Files.placeOf host.working s.root ++ [name])) : s.HasFile host files' name :=
  ⟨Files.locate_of_sameFolders hfolders h.locate h.namesFolder, h.namesFolder, hnode ▸ h.node?⟩

lemma HasFile.erase {name other : String} (h : s.HasFile host files name)
    (hother : s.HasFile host files other) (hne : name ≠ other) :
    s.HasFile host (files.erase (Files.placeOf host.working s.root ++ [other])) name := by
  obtain ⟨content, executable, hnode⟩ := hother.node?
  refine h.of_sameFolders (Files.sameFolders_erase (by simp [hnode])) ?_
  rw [Files.node?_erase files (by simp), if_neg (by simpa using hne)]

lemma on_removeAll {names : List String} (hnodup : names.Nodup)
    (hfiles : ∀ n ∈ names, s.HasFile host files n) :
    ∃ after, (s.removeAll names).on host files = (.ok (), after) ∧
      ∀ l, after.node? l =
        if ∃ n ∈ names, l = Files.placeOf host.working s.root ++ [n] then none
        else files.node? l := by
  induction names generalizing files with
  | nil => exact ⟨files, rfl, by simp⟩
  | cons name rest ih =>
    obtain ⟨hname, hrest⟩ := List.nodup_cons.mp hnodup
    have hfirst := hfiles name List.mem_cons_self
    obtain ⟨after, hremove, hafter⟩ := ih hrest fun n hn =>
      (hfiles n (List.mem_cons_of_mem _ hn)).erase hfirst (by rintro rfl; exact hname hn)
    refine ⟨after, (Action.on_bind_ok (on_removeFile hfirst)).trans hremove, fun l => ?_⟩
    rw [hafter, Files.node?_erase files (by simp)]
    by_cases hl : l = Files.placeOf host.working s.root ++ [name]
    · simp [hl]
    · simp [hl]

lemma on_checkReference (href : isReference reference = true) :
    Action.on host (ExceptT.mk (pure (checkReference reference))) files = (.ok (), files) := by
  rw [Action.on_mk, checkReference, if_pos href]

lemma on_remove_of_nil {names : List String} (hnames : s.names.on host files = (.ok names, files))
    (href : isReference reference = true) (hnil : filesOf reference names = []) :
    (s.remove reference).on host files = (.error (.templateMissing reference), files) := by
  rw [remove, Action.on_bind_ok (on_checkReference href), Action.on_bind_ok hnames, hnil]
  rfl

/-- A template is removed with all files whose stem is its reference. -/
lemma on_remove {names : List String} (hnames : s.names.on host files = (.ok names, files))
    (hnodup : names.Nodup) (href : isReference reference = true)
    (hsome : filesOf reference names ≠ [])
    (hfiles : ∀ n ∈ filesOf reference names, s.HasFile host files n) :
    ∃ after, (s.remove reference).on host files = (.ok (), after) ∧
      ∀ l, after.node? l =
        if ∃ n ∈ filesOf reference names, l = Files.placeOf host.working s.root ++ [n] then none
        else files.node? l := by
  have hdistinct : (filesOf reference names).Nodup := hnodup.filter _
  obtain ⟨after, hremove, hafter⟩ := on_removeAll hdistinct hfiles
  refine ⟨after, ?_, hafter⟩
  rw [remove, Action.on_bind_ok (on_checkReference href), Action.on_bind_ok hnames]
  dsimp only
  rw [Action.on_bind_ok hremove, if_neg (by simpa using hsome)]
  rfl

lemma on_remove_of_malformed (href : isReference reference = false) :
    (s.remove reference).on host files = (.error (.templateMissing reference), files) := by
  have hcheck : Action.on host (ExceptT.mk (pure (checkReference reference))) files =
      (.error (.templateMissing reference), files) := by
    rw [Action.on_mk, checkReference, if_neg (by simp [href])]
  rw [remove, Action.on_bind_error hcheck]

end Removing

end MailMerge.Store
