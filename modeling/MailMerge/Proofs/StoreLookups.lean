import MailMerge.Proofs.HeldFiles
import MailMerge.Proofs.TemplateFiles
import Mathlib.Data.List.Sort

/-!
# Lookups beside held files

What the store answers depends on a few nodes only: the list on those of text files, and one
template on that of its own. Files that others hold do not change these answers (`on_get_overlay`,
`on_list_overlay`).
-/

namespace MailMerge

namespace Files

variable {base files : Files} {working : Location} {p : Path} {held : List (Location × Bytes)}

lemma locate_of_stands (h : files.Stands working p) :
    files.locate working p =
      match badPath? p with
      | some fault => .error fault
      | none => .ok (placeOf working p) := by
  unfold locate
  cases badPath? p with
  | some fault => rfl
  | none =>
    dsimp only
    rw [h.follow]
    dsimp only
    rw [h.folder]

lemma makeFolders_of_follow {start place : Location} {steps : List String}
    (h : files.follow start steps = .ok place) (hfolder : files.node? place = some .folder) :
    (files.makeFolders start steps).2 = files := by
  rw [follow_eq_ok_iff] at h
  induction h with
  | here => rfl
  | up hup _ ih => rw [makeFolders_cons, if_pos hup, ih hfolder]
  | into hup hshort hstep _ ih =>
    rw [makeFolders_cons, if_neg hup, if_neg (Nat.not_lt.mpr hshort), hstep]
    exact ih hfolder
  | last _ _ hother => exact absurd hfolder hother

lemma createFolders_of_stands (h : files.Stands working p) :
    (files.createFolders working p).2 = files := by
  rcases createFolders_cases working p with ⟨fault, hmake⟩ | ⟨-, hmake⟩
  · rw [hmake]
  · rw [hmake]
    exact makeFolders_of_follow h.follow h.folder

lemma locate_overlay (h : Overlay base held files) (hstands : held ≠ [] → base.Stands working p) :
    files.locate working p = base.locate working p := by
  by_cases hnone : held = []
  · subst hnone
    exact locate_congr (funext fun l => h.rest l (by simp)) working p
  · have hbase := hstands hnone
    have hfiles := hbase.of_sameFolders h.sameFolders
    rw [locate_of_stands hbase, locate_of_stands hfiles]

end Files

namespace Store

variable {s : Store} {host : Host} {base files : Files} {held : List (Location × Bytes)}
  {reference reference' extension extension' : String}

lemma filePath_inj (h : isReference reference = true) (h' : isReference reference' = true)
    (hstep : Path.IsStep (reference ++ "." ++ extension))
    (hstep' : Path.IsStep (reference' ++ "." ++ extension'))
    (hpath : s.filePath reference extension = s.filePath reference' extension') :
    reference = reference' ∧ extension = extension' := by
  obtain ⟨front, hfront⟩ := s.root.exists_text_join
  have htext := congrArg Path.text hpath
  rw [filePath, filePath, hfront _ (Path.isAbsolute_of_isStep hstep),
    hfront _ (Path.isAbsolute_of_isStep hstep'), String.append_right_inj] at htext
  exact dotted_inj (not_mem_of_isReference h rfl) (not_mem_of_isReference h' rfl) htext

section Lists

/-- In two trees that have the same at the store's place, both lists are read from that folder, or
neither is. -/
lemma names_cases (hlocate : files.locate host.working s.root = base.locate host.working s.root)
    (hnode : files.node? (Files.placeOf host.working s.root) =
      base.node? (Files.placeOf host.working s.root)) :
    (∃ e, s.names.on host files = (.error e, files) ∧ s.names.on host base = (.error e, base)) ∨
      (s.names.on host files = (.ok [], files) ∧ s.names.on host base = (.ok [], base)) ∨
      (s.names.on host files = (.ok (files.names (Files.placeOf host.working s.root)), files) ∧
        s.names.on host base = (.ok (base.names (Files.placeOf host.working s.root)), base)) := by
  rw [names_eq_locate, names_eq_locate, hlocate]
  cases hfound : base.locate host.working s.root with
  | error fault => exact .inr (.inl ⟨rfl, rfl⟩)
  | ok found =>
    have hplace := Files.eq_placeOf_of_locate hfound
    subst hplace
    dsimp only
    rw [hnode]
    cases base.node? (Files.placeOf host.working s.root) with
    | none => exact .inr (.inl ⟨rfl, rfl⟩)
    | some node =>
      cases node with
      | file content executable => exact .inl ⟨_, rfl, rfl⟩
      | folder => exact .inr (.inr ⟨rfl, rfl⟩)

lemma list_same (hlocate : files.locate host.working s.root = base.locate host.working s.root)
    (hnode : files.node? (Files.placeOf host.working s.root) =
      base.node? (Files.placeOf host.working s.root)) {seen : String → Bool}
    (hseen : ∀ r, isReference r = true → seen r = true →
      files.node? (s.place host r textExtension) = base.node? (s.place host r textExtension)) :
    (s.list.on host files).1.map (List.filter seen) =
      (s.list.on host base).1.map (List.filter seen) := by
  rcases names_cases hlocate hnode with ⟨e, hfiles, hbase⟩ | ⟨hfiles, hbase⟩ | ⟨hfiles, hbase⟩
  · rw [list, Action.on_bind_error hfiles, Action.on_bind_error hbase]
  · rw [list, Action.on_bind_ok hfiles, Action.on_bind_ok hbase]
    rfl
  · obtain ⟨refs, hlist, hascending, hmem⟩ := on_list hfiles (files.nodup_names _)
    obtain ⟨refs', hlist', hascending', hmem'⟩ := on_list hbase (base.nodup_names _)
    have hsame : refs.filter seen = refs'.filter seen := by
      refine (hascending.filter seen).eq_of_mem_iff (hascending'.filter seen) fun r => ?_
      rw [List.mem_filter, List.mem_filter, hmem, hmem', Files.mem_names_iff, Files.mem_names_iff]
      constructor
      · rintro ⟨⟨href, hname⟩, hr⟩
        exact ⟨⟨href, hseen r href hr ▸ hname⟩, hr⟩
      · rintro ⟨⟨href, hname⟩, hr⟩
        exact ⟨⟨href, (hseen r href hr).symm ▸ hname⟩, hr⟩
    rw [hlist, hlist']
    exact congrArg Except.ok hsame

lemma node?_of_mem_list {references : List String} (hlist : (s.list.on host files).1 = .ok references)
    (hmem : reference ∈ references) : isReference reference = true ∧
      files.node? (s.place host reference textExtension) ≠ none := by
  have hlocate : files.locate host.working s.root = files.locate host.working s.root := rfl
  rcases names_cases hlocate rfl with ⟨e, hnames, -⟩ | ⟨hnames, -⟩ | ⟨hnames, -⟩
  · rw [list, Action.on_bind_error hnames] at hlist
    cases hlist
  · rw [list, Action.on_bind_ok hnames] at hlist
    cases hlist
    rw [List.mem_mergeSort] at hmem
    cases hmem
  · obtain ⟨refs, hlist', -, hmem'⟩ := on_list hnames (files.nodup_names _)
    rw [hlist'] at hlist
    cases hlist
    rw [hmem', Files.mem_names_iff] at hmem
    exact hmem

end Lists

section Overlays

variable (h : Files.Overlay base held files)
  (hstands : held ≠ [] → base.Stands host.working s.root)

include h hstands in
lemma locate_textPath_overlay (href : isReference reference = true) :
    files.locate host.working (s.textPath reference) =
      base.locate host.working (s.textPath reference) := by
  by_cases hnone : held = []
  · exact Files.locate_overlay h (absurd hnone)
  · have hbase := hstands hnone
    have hfiles := hbase.of_sameFolders h.sameFolders
    cases hbad : Files.badPath? (s.textPath reference) with
    | some fault => rw [Files.locate, Files.locate, hbad]
    | none => rw [locate_textPath hbase href hbad, locate_textPath hfiles href hbad]

include h hstands in
lemma read_textPath_overlay (href : isReference reference = true)
    (hother : s.place host reference textExtension ∉ held.map Prod.fst) :
    files.read host.working (s.textPath reference) =
      base.read host.working (s.textPath reference) := by
  rw [Files.read, Files.read, locate_textPath_overlay h hstands href]
  cases hfound : base.locate host.working (s.textPath reference) with
  | error fault => rfl
  | ok found =>
    have hplace := eq_place_of_locate href hfound
    subst hplace
    dsimp only
    rw [h.rest _ hother]

include h hstands in
/-- Held files do not change what is given for a reference that has no part in them. -/
lemma on_get_overlay (hother : isReference reference = true →
    s.place host reference textExtension ∉ held.map Prod.fst) :
    ((s.get reference).on host files).1 = ((s.get reference).on host base).1 := by
  rw [on_get, on_get, checkReference]
  by_cases href : isReference reference = true
  · rw [if_pos href, read_textPath_overlay h hstands href (hother href)]
  · rw [if_neg href]
    rfl

include h hstands in
lemma on_list_overlay {seen : String → Bool} (hother : ∀ r, isReference r = true → seen r = true →
    s.place host r textExtension ∉ held.map Prod.fst) :
    (s.list.on host files).1.map (List.filter seen) =
      (s.list.on host base).1.map (List.filter seen) := by
  have hroot : files.node? (Files.placeOf host.working s.root) =
      base.node? (Files.placeOf host.working s.root) := by
    refine h.rest _ fun hmem => ?_
    -- What is held is in the folder, which is therefore no held file.
    have hne : held ≠ [] := by
      rintro rfl
      cases hmem
    obtain ⟨e, he, hplace⟩ := List.mem_map.mp hmem
    have hfree := h.free e he
    rw [hplace, (hstands hne).folder] at hfree
    cases hfree
  exact list_same (Files.locate_overlay h hstands) hroot fun r href hr =>
    h.rest _ (hother r href hr)

end Overlays

end Store

end MailMerge
