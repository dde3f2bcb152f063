import MailMerge.Proofs.StoreHistories
import MailMerge.Proofs.StoreLookups
import MailMerge.Proofs.UploadPhases

/-!
# Uploads side by side

Templates that are stored at the same time come into the store one by one and as a whole, whatever
the order of their operations: a reference is there from the moment when its text is moved into
place, and by then its source is in place as well (`uploads_are_all_or_nothing`). What carries this
is that the tree is always the one with the store's folder made and the files that the uploads hold
in their phases (`Sharing`).
-/

namespace MailMerge.Store

variable {s : Store} {host : Host} {start base files : Files} {uploads : List Upload}
  {m : Machine (Except Error Template)}

section Observations

/-- What can be seen of a store while uploads go on beside what the tree `base` has. -/
structure Observed (s : Store) (host : Host) (base : Files) (uploads : List Upload)
    (m : Machine (Except Error Template)) : Prop where
  stored : ∀ u ∈ uploads, m.Moved (s.textPath u.reference) →
    ((s.get u.reference).on host m.files).1 = .ok ⟨u.reference, u.text⟩
  listed : ∀ references, (s.list.on host m.files).1 = .ok references → ∀ u ∈ uploads,
    u.reference ∈ references → m.Moved (s.textPath u.reference) ∧
      m.files.read host.working (s.filePath u.reference u.format) = .ok u.source
  temporary : ∀ references, (s.list.on host m.files).1 = .ok references → ∀ r ∈ references,
    ¬m.Made (s.textPath r)
  get : ∀ r, r ∉ uploads.map Upload.reference →
    ((s.get r).on host m.files).1 = ((s.get r).on host base).1
  list : (s.list.on host m.files).1.map (List.filter (· ∉ uploads.map Upload.reference)) =
    (s.list.on host base).1.map (List.filter (· ∉ uploads.map Upload.reference))

/-- A template is not there before its text is moved into place. -/
structure AllOrNothing (s : Store) (host : Host) (base : Files) (uploads : List Upload)
    (m : Machine (Except Error Template)) : Prop extends s.Observed host base uploads m where
  missing : ∀ u ∈ uploads, ¬m.Moved (s.textPath u.reference) →
    ((s.get u.reference).on host m.files).1 = .error (.templateMissing u.reference)

lemma Observed.of_same (h : s.Observed host base uploads m)
    (hget : ∀ r, ((s.get r).on host base).1 = ((s.get r).on host files).1)
    (hlist : (s.list.on host base).1 = (s.list.on host files).1) :
    s.Observed host files uploads m where
  stored := h.stored
  listed := h.listed
  temporary := h.temporary
  get r hr := (h.get r hr).trans (hget r)
  list := h.list.trans (hlist ▸ rfl)

end Observations

section Sharing

/-- The uploads' references are new to a tree and to each other. -/
structure Separate (s : Store) (host : Host) (base : Files) (uploads : List Upload) : Prop where
  distinct : (uploads.map Upload.reference).Nodup
  isReference : ∀ u ∈ uploads, isReference u.reference = true
  free : ∀ u ∈ uploads, ∀ extension, base.node? (s.place host u.reference extension) = none
  format : ∀ u ∈ uploads, '/' ∉ u.format.toList ∧ u.format ≠ textExtension

/-- The files that all uploads hold in their phases. -/
def heldBy (s : Store) (host : Host) (row : List (Upload × Phase)) : List (Location × Bytes) :=
  row.flatMap fun x => x.2.held s host x.1

/-- The uploads have come to their phases, each by its own operations. -/
structure Sharing (s : Store) (host : Host) (base : Files) (row : List (Upload × Phase))
    (m : Machine (Except Error Template)) : Prop where
  programs : m.programs = row.map fun x => x.2.program s x.1
  overlay : Files.Overlay base (s.heldBy host row) m.files
  sound : ∀ x ∈ row, x.2.Sound s host base x.1
  moved : ∀ x ∈ row, m.Moved (s.textPath x.1.reference) ↔ x.2 = .stored
  made : ∀ p, m.Made p → ∃ n : Nat, p = s.root.join (".tmp" ++ toString n)

variable {row before rest : List (Upload × Phase)} {u : Upload} {phase : Phase}

lemma heldBy_perm : (s.heldBy host (before ++ (u, phase) :: rest)).Perm
    (phase.held s host u ++ s.heldBy host (before ++ rest)) := by
  simp only [heldBy, List.flatMap_append, List.flatMap_cons]
  exact List.perm_append_comm_assoc _ _ _

/-- An upload holds new files and its own template's, the text only once it is stored. -/
lemma mem_held_cases (hsound : phase.Sound s host base u) {l : Location}
    (hl : l ∈ (phase.held s host u).map Prod.fst) :
    (∃ p, s.Temporary host base p ∧ l = Files.placeOf host.working p) ∨
      l = u.sourcePlace s host ∨ phase = .stored ∧ l = u.textPlace s host := by
  cases phase <;> simp only [Phase.held, List.map_cons, List.map_nil, List.mem_cons,
    List.not_mem_nil, or_false] at hl
  case sourceOpened p => exact .inl ⟨p, hsound, hl⟩
  case sourceWritten p => exact .inl ⟨p, hsound, hl⟩
  case sourcePlaced => exact .inr (.inl hl)
  case textOpened p => exact hl.imp (fun h => ⟨p, hsound.1, h⟩) .inl
  case textWritten p => exact hl.imp (fun h => ⟨p, hsound.1, h⟩) .inl
  case stored => exact .inr (hl.elim (fun h => .inr ⟨rfl, h⟩) .inl)
  case droppingSource p e => exact .inl ⟨p, hsound, hl⟩
  case droppingText p e => exact hl.imp (fun h => ⟨p, hsound.1, h⟩) .inl
  case withdrawing e => exact .inr (.inl hl)

lemma reference_of_mem_held {v : Upload} {reference extension : String}
    (hv : isReference v.reference = true) (href : isReference reference = true)
    (hsound : phase.Sound s host base v)
    (hmem : s.place host reference extension ∈ (phase.held s host v).map Prod.fst) :
    v.reference = reference ∧ (extension = v.format ∨ phase = .stored) := by
  rcases mem_held_cases hsound hmem with ⟨p, hp, hplace⟩ | hplace | ⟨hstored, hplace⟩
  · exact absurd hplace (place_ne_temporary href hp)
  · obtain ⟨hr, he⟩ := place_inj href hv hplace
    exact ⟨hr.symm, .inl he⟩
  · exact ⟨(place_inj href hv hplace).1.symm, .inr hstored⟩

lemma eq_stored_of_arrival {reference : String} (hu : isReference u.reference = true)
    (hslash : '/' ∉ u.format.toList) (hformat : u.format ≠ textExtension)
    (href : isReference reference = true)
    (harrival : phase.arrival? s u = some (s.textPath reference)) :
    u.reference = reference ∧ phase = .stored := by
  cases phase <;> simp only [Phase.arrival?, Option.some.injEq, reduceCtorEq] at harrival
  case sourcePlaced =>
    have hstep := isStep_dotted (ne_empty_of_isReference hu) (not_mem_of_isReference hu rfl)
      (not_mem_of_isReference hu rfl) hslash
    exact absurd (filePath_inj hu href hstep (isStep_textName href) harrival).2 hformat
  case stored =>
    exact ⟨(filePath_inj hu href (isStep_textName hu) (isStep_textName href) harrival).1, rfl⟩

lemma named_of_opened (hsound : phase.Sound s host base u) {p : Path}
    (hopened : phase.opened? = some p) : ∃ n : Nat, p = s.root.join (".tmp" ++ toString n) := by
  cases phase <;> simp only [Phase.opened?, Option.some.injEq, reduceCtorEq] at hopened
  case sourceOpened => exact hopened ▸ hsound.named
  case textOpened => exact hopened ▸ hsound.1.named

lemma map_fst_ready (uploads : List Upload) :
    (uploads.map fun u => (u, Phase.ready)).map Prod.fst = uploads := by
  rw [List.map_map]
  exact List.map_id uploads

lemma sharing_first (s : Store) (host : Host) (base : Files) (uploads : List Upload) :
    s.Sharing host base (uploads.map fun u => (u, .ready))
      (.start base (uploads.map (Upload.program s))) where
  programs := by
    rw [List.map_map]
    rfl
  overlay := by
    have hnone : s.heldBy host (uploads.map fun u => (u, Phase.ready)) = [] := by
      simp [heldBy, Phase.held]
    rw [hnone]
    exact .nil base
  sound := by
    intro x hx
    obtain ⟨u, -, rfl⟩ := List.mem_map.mp hx
    trivial
  moved := by
    intro x hx
    obtain ⟨u, -, rfl⟩ := List.mem_map.mp hx
    simp [Machine.Moved, Machine.start]
  made := by
    rintro p ⟨deed, hdeed, -⟩
    cases hdeed

variable (hseparate : s.Separate host base uploads) (hrow : row.map Prod.fst = uploads)
  (h : s.Sharing host base row m)

include hrow in
lemma fst_mem_uploads {x : Upload × Phase} (hx : x ∈ row) : x.1 ∈ uploads :=
  hrow ▸ List.mem_map_of_mem hx

include hseparate in
lemma Separate.reference_ne (hrow : (before ++ (u, phase) :: rest).map Prod.fst = uploads)
    {x : Upload × Phase} (hx : x ∈ before ++ rest) : x.1.reference ≠ u.reference := by
  have hdistinct := hseparate.distinct
  rw [← hrow, List.map_map, List.map_append, List.map_cons, List.nodup_middle,
    ← List.map_append] at hdistinct
  intro hsame
  exact (List.nodup_cons.mp hdistinct).1 (List.mem_map.mpr ⟨x, hx, hsame⟩)

include hseparate in
lemma Separate.apart (hrow : (before ++ (u, phase) :: rest).map Prod.fst = uploads)
    (hsound : ∀ x ∈ before ++ (u, phase) :: rest, x.2.Sound s host base x.1) :
    s.Apart host base u (s.heldBy host (before ++ rest)) := by
  have hu : u ∈ uploads :=
    fst_mem_uploads hrow (x := (u, phase)) (List.mem_append_right _ List.mem_cons_self)
  have href := hseparate.isReference u hu
  refine ⟨href, hseparate.free u hu, (hseparate.format u hu).1, (hseparate.format u hu).2, ?_⟩
  intro extension hmem
  obtain ⟨e, he, hplace⟩ := List.mem_map.mp hmem
  obtain ⟨x, hx, hheld⟩ := List.mem_flatMap.mp he
  have hrest : x ∈ before ++ (u, phase) :: rest :=
    List.perm_middle.mem_iff.mpr (List.mem_cons_of_mem _ hx)
  have hsame := reference_of_mem_held (hseparate.isReference _ (fst_mem_uploads hrow hrest)) href
    (hsound x hrest) (List.mem_map.mpr ⟨e, hheld, hplace⟩)
  exact hseparate.reference_ne hrow hx hsame.1

include hseparate in
lemma Separate.moved_next {phase' : Phase} {deed : Deed}
    (hrow : (before ++ (u, phase) :: rest).map Prod.fst = uploads)
    (h : ∀ x ∈ before ++ (u, phase) :: rest,
      m.Moved (s.textPath x.1.reference) ↔ x.2 = .stored)
    (hbefore : phase ≠ .stored) (hdeed : deed.moved? = phase'.arrival? s u)
    {x : Upload × Phase} (hx : x ∈ before ++ (u, phase') :: rest)
    (files : Files) (programs : List (Program (Except Error Template))) :
    (Machine.mk files programs (deed :: m.deeds)).Moved (s.textPath x.1.reference) ↔
      x.2 = .stored := by
  have hmem : (u, phase) ∈ before ++ (u, phase) :: rest :=
    List.mem_append_right _ List.mem_cons_self
  have hu := fst_mem_uploads hrow hmem
  have hformat := hseparate.format u hu
  have harrives {reference : String} (href : Store.isReference reference = true)
      (harrival : phase'.arrival? s u = some (s.textPath reference)) :
      u.reference = reference ∧ phase' = .stored :=
    eq_stored_of_arrival (hseparate.isReference u hu) hformat.1 hformat.2 href harrival
  rw [Machine.moved_cons, hdeed]
  rcases List.mem_cons.mp (List.perm_middle.mem_iff.mp hx) with rfl | hx
  · constructor
    · rintro (harrival | hmoved)
      · exact (harrives (hseparate.isReference u hu) harrival).2
      · exact absurd ((h _ hmem).mp hmoved) hbefore
    · rintro rfl
      exact .inl rfl
  · have hx' : x ∈ before ++ (u, phase) :: rest :=
      List.perm_middle.mem_iff.mpr (List.mem_cons_of_mem _ hx)
    rw [h x hx']
    refine or_iff_right fun harrival => hseparate.reference_ne hrow hx ?_
    exact (harrives (hseparate.isReference _ (fst_mem_uploads hrow hx')) harrival).1.symm

include hseparate hrow h in
/-- A turn takes one upload to its next phase. -/
lemma Sharing.turn (hagain : ∀ later, Files.Overlay base (s.heldBy host row) later →
      (later.createFolders host.working s.root).2 = later) (i : Nat) :
    ∃ row', row'.map Prod.fst = uploads ∧ s.Sharing host base row' (m.turn host i) := by
  rcases m.turn_cases host i with hsame | ⟨bs, p, rs, p', files', deed, hprograms, hturn, hnext⟩
  · rw [hsame]
    exact ⟨row, hrow, h⟩
  · rw [h.programs] at hprograms
    obtain ⟨before, tail, rfl, rfl, htail⟩ := List.map_eq_append_iff.mp hprograms
    obtain ⟨⟨u, phase⟩, rest, rfl, rfl, rfl⟩ := List.map_eq_cons_iff.mp htail
    have hmem : (u, phase) ∈ before ++ (u, phase) :: rest :=
      List.mem_append_right _ List.mem_cons_self
    have hbefore : phase ≠ .stored := by
      rintro rfl
      cases hturn
    obtain ⟨phase', rfl, hreached⟩ := Phase.turn_cases (hseparate.apart hrow h.sound)
      (h.sound _ hmem) (h.overlay.perm heldBy_perm) (hagain _ h.overlay) hturn
    have hrow' : (before ++ (u, phase') :: rest).map Prod.fst = uploads := by
      rw [← hrow]
      simp
    refine ⟨before ++ (u, phase') :: rest, hrow', ?_⟩
    rw [hnext]
    refine ⟨by simp, hreached.overlay.perm heldBy_perm.symm, ?_, fun x hx =>
      hseparate.moved_next hrow h.moved hbefore hreached.moved hx _ _, ?_⟩
    · have hsound := h.sound
      rw [List.forall_mem_append, List.forall_mem_cons] at hsound ⊢
      exact ⟨hsound.1, hreached.sound, hsound.2.2⟩
    · intro p hp
      rw [Machine.made_cons, hreached.made] at hp
      rcases hp with hp | hp
      · exact named_of_opened hreached.sound hp
      · exact h.made p hp

end Sharing

section Seeing

variable {row : List (Upload × Phase)} {u : Upload} {phase : Phase}

lemma stands_of_held (hsound : phase.Sound s host base u) (hheld : phase.held s host u ≠ []) :
    base.Stands host.working s.root := by
  cases phase with
  | ready => exact absurd rfl hheld
  | folderMade => exact absurd rfl hheld
  | sourceOpened => exact hsound.stands
  | sourceWritten => exact hsound.stands
  | sourcePlaced => exact hsound.stands
  | textOpened => exact hsound.1.stands
  | textWritten => exact hsound.1.stands
  | stored => exact hsound.1.stands
  | droppingSource => exact hsound.stands
  | droppingText => exact hsound.1.stands
  | withdrawing => exact hsound.stands
  | failed => exact absurd rfl hheld

variable (hseparate : s.Separate host base uploads) (hrow : row.map Prod.fst = uploads)
  (h : s.Sharing host base row m)

include h in
lemma Sharing.stands (hheld : s.heldBy host row ≠ []) : base.Stands host.working s.root := by
  obtain ⟨e, he⟩ := List.exists_mem_of_ne_nil _ hheld
  obtain ⟨x, hx, hmem⟩ := List.mem_flatMap.mp he
  exact stands_of_held (h.sound x hx) (List.ne_nil_of_mem hmem)

include hseparate hrow h in
lemma Sharing.text_not_held {r : String} (href : isReference r = true)
    (hnot : ∀ x ∈ row, x.1.reference = r → x.2 ≠ .stored) :
    s.place host r textExtension ∉ (s.heldBy host row).map Prod.fst := by
  intro hmem
  obtain ⟨e, he, hplace⟩ := List.mem_map.mp hmem
  obtain ⟨x, hx, hheld⟩ := List.mem_flatMap.mp he
  have hu := fst_mem_uploads hrow hx
  obtain ⟨hr, hformat | hstored⟩ := reference_of_mem_held (hseparate.isReference _ hu) href
    (h.sound x hx) (List.mem_map.mpr ⟨e, hheld, hplace⟩)
  · exact (hseparate.format _ hu).2 hformat.symm
  · exact hnot x hx hr hstored

include hseparate hrow in
lemma Separate.row_inj {x y : Upload × Phase} (hx : x ∈ row) (hy : y ∈ row)
    (hsame : x.1.reference = y.1.reference) : x = y := by
  have hdistinct := hseparate.distinct
  rw [← hrow, List.map_map] at hdistinct
  exact List.inj_on_of_nodup_map hdistinct hx hy hsame

include hseparate hrow h in
lemma Sharing.text_not_held_of_unmoved {x : Upload × Phase} (hx : x ∈ row)
    (hunmoved : ¬m.Moved (s.textPath x.1.reference)) :
    s.place host x.1.reference textExtension ∉ (s.heldBy host row).map Prod.fst := by
  refine h.text_not_held hseparate hrow (hseparate.isReference _ (fst_mem_uploads hrow hx)) ?_
  intro y hy hsame hstored
  obtain rfl := hseparate.row_inj hrow hy hx hsame
  exact hunmoved ((h.moved y hy).mpr hstored)

include hseparate hrow h in
lemma Sharing.on_get_of_unmoved {x : Upload × Phase} (hx : x ∈ row)
    (hunmoved : ¬m.Moved (s.textPath x.1.reference)) :
    ((s.get x.1.reference).on host m.files).1 = ((s.get x.1.reference).on host base).1 :=
  on_get_overlay h.overlay h.stands fun _ => h.text_not_held_of_unmoved hseparate hrow hx hunmoved

include h in
lemma Sharing.on_get_of_moved {x : Upload × Phase} (hx : x ∈ row)
    (href : isReference x.1.reference = true) (hmoved : m.Moved (s.textPath x.1.reference)) :
    ((s.get x.1.reference).on host m.files).1 = .ok ⟨x.1.reference, x.1.text⟩ := by
  obtain ⟨u, phase⟩ := x
  obtain rfl : phase = .stored := (h.moved _ hx).mp hmoved
  obtain ⟨htext, -⟩ := h.sound _ hx
  have hstands := htext.stands.of_sameFolders h.overlay.sameFolders
  have hheld : (u.textPlace s host, Utf8.encode u.text) ∈ s.heldBy host row :=
    List.mem_flatMap.mpr ⟨_, hx, List.mem_cons_self⟩
  exact holds_of_node? hstands href (Files.locate_eq_ok_iff.mp htext.locate).1
    (h.overlay.node _ hheld)

include h in
lemma Sharing.read_source {x : Upload × Phase} (hx : x ∈ row)
    (hmoved : m.Moved (s.textPath x.1.reference)) :
    m.files.read host.working (s.filePath x.1.reference x.1.format) = .ok x.1.source := by
  obtain ⟨u, phase⟩ := x
  obtain rfl : phase = .stored := (h.moved _ hx).mp hmoved
  obtain ⟨-, hsource⟩ := h.sound _ hx
  have hheld : (u.sourcePlace s host, u.source) ∈ s.heldBy host row :=
    List.mem_flatMap.mpr ⟨_, hx, List.mem_cons_of_mem _ List.mem_cons_self⟩
  exact Files.read_eq_ok_iff.mpr ⟨_, false,
    Files.locate_of_sameFolders h.overlay.sameFolders hsource.locate hsource.namesFolder,
    h.overlay.node _ hheld⟩

include hseparate hrow h in
/-- Uploads are seen only by the references of which the text is in place. -/
lemma Sharing.observed : s.Observed host base uploads m := by
  have hexists : ∀ u ∈ uploads, ∃ x ∈ row, x.1 = u := by
    intro u hu
    rw [← hrow] at hu
    exact List.mem_map.mp hu
  have hother : ∀ r, r ∉ uploads.map Upload.reference → isReference r = true →
      s.place host r textExtension ∉ (s.heldBy host row).map Prod.fst := by
    intro r hr href
    refine h.text_not_held hseparate hrow href fun x hx hsame => absurd ?_ hr
    exact hsame ▸ List.mem_map_of_mem (fst_mem_uploads hrow hx)
  refine ⟨?_, ?_, ?_, ?_, ?_⟩
  · intro u hu hmoved
    obtain ⟨x, hx, rfl⟩ := hexists u hu
    exact h.on_get_of_moved hx (hseparate.isReference _ hu) hmoved
  · intro references hlist u hu hmem
    obtain ⟨x, hx, rfl⟩ := hexists u hu
    have hnode := (node?_of_mem_list hlist hmem).2
    have hmoved : m.Moved (s.textPath x.1.reference) := by
      by_contra hunmoved
      rw [h.overlay.rest _ (h.text_not_held_of_unmoved hseparate hrow hx hunmoved),
        hseparate.free _ hu] at hnode
      exact hnode rfl
    exact ⟨hmoved, h.read_source hx hmoved⟩
  · intro references hlist r hr hmade
    obtain ⟨href, -⟩ := node?_of_mem_list hlist hr
    obtain ⟨n, hname⟩ := h.made _ hmade
    have hplace : s.place host r textExtension = Files.placeOf host.working (s.textPath r) := by
      rw [textPath, filePath, Files.placeOf_join _ _ (isStep_textName href), place]
    exact place_ne_new s host href n (hname ▸ hplace)
  · intro r hr
    exact on_get_overlay h.overlay h.stands (hother r hr)
  · exact on_list_overlay h.overlay h.stands fun r href hr =>
      hother r (of_decide_eq_true hr) href

end Seeing

section Folder

variable {reference : String}

lemma read_of_stands (hstands : files.Stands host.working s.root)
    (href : isReference reference = true) (hbad : Files.badPath? (s.textPath reference) = none)
    (hnode : files.node? (s.place host reference textExtension) = none) :
    files.read host.working (s.textPath reference) = .error .missing := by
  rw [Files.read, locate_textPath hstands href hbad]
  dsimp only
  rw [hnode]

lemma on_list_of_bare (h : s.Bare host files) : (s.list.on host files).1 = .ok [] := by
  rcases hlist : (s.list.on host files).1 with e | references
  · obtain ⟨names, hnames, -⟩ := on_names h.folder
    rw [list, Action.on_bind_ok hnames] at hlist
    cases hlist
  · refine congrArg Except.ok (List.eq_nil_iff_forall_not_mem.mpr fun r hr => ?_)
    obtain ⟨href, hnode⟩ := node?_of_mem_list hlist hr
    exact hnode (h.free r textExtension href)

variable (hcan : s.CanStore host start)
  (hfolder : start.Stands host.working s.root ∨ s.Absent host start)

include hcan hfolder in
lemma on_get_start (href : isReference reference = true)
    (hfree : (s.made host start).node? (s.place host reference textExtension) = none) :
    ((s.get reference).on host start).1 = .error (.templateMissing reference) := by
  rw [on_get_of_missing fun _ => ?_]
  rcases hfolder with hstands | -
  · rw [made, Files.createFolders_of_stands hstands] at hfree
    exact read_of_stands hstands href (hcan.textGood _ href) hfree
  · exact Files.read_join_of_createFolders hcan.created (isStep_textName href)
      (short_textName href) (hcan.textGood _ href) hfree

include hcan hfolder in
/-- Making the folder changes no answer if it was there, or nothing was. -/
lemma on_get_made (reference : String) :
    ((s.get reference).on host (s.made host start)).1 = ((s.get reference).on host start).1 := by
  rcases hfolder with hstands | habsent
  · rw [made, Files.createFolders_of_stands hstands]
  · by_cases href : isReference reference = true
    · have hfree := habsent.free reference textExtension href
      rw [on_get_start hcan (.inr habsent) href hfree, on_get_of_missing fun _ =>
        read_of_stands (hcan.stands habsent.unused).1 href (hcan.textGood _ href) hfree]
    · rw [on_get_of_missing (absurd · href), on_get_of_missing (absurd · href)]

include hfolder in
lemma on_list_made : (s.list.on host (s.made host start)).1 = (s.list.on host start).1 := by
  rcases hfolder with hstands | habsent
  · rw [made, Files.createFolders_of_stands hstands]
  · rw [on_list_of_bare habsent.bare, on_list_of_bare habsent.bare_made]

end Folder

section Runs

/-- The uploads, none of which has begun. -/
def beginning (s : Store) (start : Files) (uploads : List Upload) :
    Machine (Except Error Template) :=
  .start start (uploads.map (Upload.program s))

/-- What the tree is without the uploads' files: the store's folder is made by the first turn. -/
def ground (s : Store) (host : Host) (start : Files) (m : Machine (Except Error Template)) :
    Files :=
  if m.deeds.isEmpty then start else s.made host start

lemma ground_cases (s : Store) (host : Host) (start : Files)
    (m : Machine (Except Error Template)) :
    s.ground host start m = start ∨ s.ground host start m = s.made host start :=
  ite_eq_or_eq _ _ _

lemma ground_same (hcan : s.CanStore host start)
    (hfolder : start.Stands host.working s.root ∨ s.Absent host start)
    (m : Machine (Except Error Template)) :
    (∀ r, ((s.get r).on host (s.ground host start m)).1 = ((s.get r).on host start).1) ∧
      (s.list.on host (s.ground host start m)).1 = (s.list.on host start).1 := by
  rcases ground_cases s host start m with h | h
  · rw [h]
    exact ⟨fun _ => rfl, rfl⟩
  · rw [h]
    exact ⟨on_get_made hcan hfolder, on_list_made hfolder⟩

/-- The uploads have not begun, or they share the tree with the store's folder made. -/
def Underway (s : Store) (host : Host) (start : Files) (uploads : List Upload)
    (m : Machine (Except Error Template)) : Prop :=
  m = s.beginning start uploads ∨ m.deeds.isEmpty = false ∧
    ∃ row, row.map Prod.fst = uploads ∧ s.Sharing host (s.made host start) row m

lemma createFolders_overlay {held : List (Location × Bytes)}
    (h : Files.Overlay (s.made host start) held files) :
    files.createFolders host.working s.root =
      ((start.createFolders host.working s.root).1, files) := by
  refine Files.createFolders_again fun l hl => h.rest l fun hmem => ?_
  obtain ⟨e, he, rfl⟩ := List.mem_map.mp hmem
  exact hl (h.free e he)

/-- The first turn makes the store's folder, so it is as if it had been there. -/
lemma turn_beginning (s : Store) (host : Host) (start : Files) (uploads : List Upload) (i : Nat) :
    (s.beginning start uploads).turn host i = s.beginning start uploads ∨
      (s.beginning start uploads).turn host i =
        (s.beginning (s.made host start) uploads).turn host i := by
  cases hp : (uploads.map (Upload.program s))[i]? with
  | none =>
    refine .inl ?_
    rw [Machine.turn, beginning, Machine.start, hp]
    rfl
  | some p =>
    refine .inr ?_
    obtain ⟨u, -, rfl⟩ := List.mem_map.mp (List.mem_of_getElem? hp)
    have hmake : (Operation.createFolders s.root).apply host (s.made host start) =
        (Operation.createFolders s.root).apply host start :=
      createFolders_overlay (.nil (s.made host start))
    have hturn : (u.program s).turn host (s.made host start) = (u.program s).turn host start := by
      change (Program.step (.createFolders s.root) _).turn host _ =
        (Program.step (.createFolders s.root) _).turn host _
      rw [Program.turn, Program.turn, hmake]
    obtain ⟨next, hnext⟩ : ∃ next, (u.program s).turn host start = some next := ⟨_, rfl⟩
    simp only [Machine.turn, beginning, Machine.start, hp, Option.bind_some, hturn, hnext]

lemma Underway.turn (hseparate : s.Separate host (s.made host start) uploads)
    (h : s.Underway host start uploads m) (i : Nat) :
    s.Underway host start uploads (m.turn host i) := by
  rcases m.deeds_turn host i with hsame | hbegun
  · rw [hsame]
    exact h
  · rcases h with rfl | ⟨-, row, hrow, hsharing⟩
    · rcases turn_beginning s host start uploads i with hsame | hmade
      · exact .inl hsame
      · have hnext := (sharing_first s host (s.made host start) uploads).turn hseparate
          (map_fst_ready uploads) (fun later hlater => congrArg Prod.snd (createFolders_overlay hlater)) i
        exact .inr ⟨hbegun, hmade ▸ hnext⟩
    · exact .inr ⟨hbegun, hsharing.turn hseparate hrow
        (fun later hlater => congrArg Prod.snd (createFolders_overlay hlater)) i⟩

lemma Underway.exists_row (h : s.Underway host start uploads m) :
    ∃ row, row.map Prod.fst = uploads ∧ s.Sharing host (s.ground host start m) row m := by
  rcases h with rfl | ⟨hbegun, row, hrow, hsharing⟩
  · exact ⟨_, map_fst_ready uploads, sharing_first s host start uploads⟩
  · refine ⟨row, hrow, ?_⟩
    rw [ground, hbegun]
    exact hsharing

/-- Whatever the order of their operations, templates that are stored at the same time are seen as a
whole or not at all, and nothing else is seen to change. Only making the store's folder may be seen
otherwise, if its path leads through folders that are missing, and where it cannot be made, or the
paths of texts are not accepted, a template that is not there may also be refused as a file. -/
theorem uploads_are_all_or_nothing (s : Store) (host : Host) (start : Files)
    (uploads : List Upload) (turns : List Nat)
    (hdistinct : (uploads.map Upload.reference).Nodup)
    (hfresh : ∀ u ∈ uploads, s.Fresh host start u.reference)
    (hformat : ∀ u ∈ uploads, '/' ∉ u.format.toList ∧ u.format ≠ textExtension) :
    let m := (s.beginning start uploads).after host turns
    (s.CanStore host start ∧ (start.Stands host.working s.root ∨ s.Absent host start) →
        s.AllOrNothing host start uploads m) ∧
      s.Observed host (s.ground host start m) uploads m ∧
      ∀ u ∈ uploads, ¬m.Moved (s.textPath u.reference) →
        ∃ e, ((s.get u.reference).on host m.files).1 = .error e ∧
          (e = .templateMissing u.reference ∨ ∃ fault, e = .file fault) := by
  intro m
  have hmade : s.Separate host (s.made host start) uploads :=
    ⟨hdistinct, fun u hu => (hfresh u hu).isReference, fun u hu => (hfresh u hu).free, hformat⟩
  have hgrows := Files.grows_createFolders start host.working s.root
  have hstart : s.Separate host start uploads :=
    ⟨hdistinct, hmade.isReference, fun u hu e => hgrows.eq_none (hmade.free u hu e), hformat⟩
  have hunderway : s.Underway host start uploads m :=
    Machine.after_of_turn (.inl rfl) (fun _ i h => h.turn hmade i) turns
  obtain ⟨row, hrow, hsharing⟩ := hunderway.exists_row
  -- What the uploads are compared with is the first tree, or that with the store's folder made.
  have hseparate : s.Separate host (s.ground host start m) uploads := by
    rcases ground_cases s host start m with h | h
    · rw [h]
      exact hstart
    · rw [h]
      exact hmade
  have hobserved := hsharing.observed hseparate hrow
  have hunmoved : ∀ u ∈ uploads, ¬m.Moved (s.textPath u.reference) →
      ((s.get u.reference).on host m.files).1 =
        ((s.get u.reference).on host (s.ground host start m)).1 := by
    intro u hu hnot
    rw [← hrow] at hu
    obtain ⟨x, hx, rfl⟩ := List.mem_map.mp hu
    exact hsharing.on_get_of_unmoved hseparate hrow hx hnot
  refine ⟨?_, hobserved, ?_⟩
  · rintro ⟨hcan, hfolder⟩
    obtain ⟨hget, hlist⟩ := ground_same hcan hfolder m
    refine ⟨hobserved.of_same hget hlist, ?_⟩
    intro u hu hnot
    rw [hunmoved u hu hnot, hget]
    exact on_get_start hcan hfolder (hmade.isReference u hu) (hmade.free u hu _)
  · intro u hu hnot
    rw [hunmoved u hu hnot]
    rcases hget : (s.get u.reference).on host (s.ground host start m) with ⟨result, after⟩
    cases result with
    | ok template => exact absurd (hseparate.free u hu _) (node?_of_on_get hget).2
    | error e => exact ⟨e, rfl, (error_of_on_get hget).imp_right And.right⟩

end Runs

section Samples

def sampleUploads : List Upload :=
  [⟨"0123456789abcdef0123456789abcdef", [1, 2], "tar.gz", "first"⟩,
    ⟨"fedcba9876543210fedcba9876543210", [3], "txt", "second"⟩]

/-- The second upload has written its text, but not yet moved it, when the first one is done. -/
theorem uploads_are_all_or_nothing_midway :
    let s : Store := ⟨⟨"templates"⟩⟩
    let m := (s.beginning .empty sampleUploads).after sampleHost [0, 1, 1, 0, 0, 1, 0, 1, 0, 1, 0, 1, 0]
    s.AllOrNothing sampleHost .empty sampleUploads m ∧
      ((s.get "0123456789abcdef0123456789abcdef").on sampleHost m.files).1 =
        .ok ⟨"0123456789abcdef0123456789abcdef", "first"⟩ ∧
      ((s.get "fedcba9876543210fedcba9876543210").on sampleHost m.files).1 =
        .error (.templateMissing "fedcba9876543210fedcba9876543210") ∧
      (s.list.on sampleHost m.files).1 = .ok ["0123456789abcdef0123456789abcdef"] := by
  intro s m
  have hreference : ∀ u ∈ sampleUploads, isReference u.reference = true := by decide +kernel
  have hfresh : ∀ u ∈ sampleUploads, s.Fresh sampleHost .empty u.reference := fun u hu =>
    ⟨hreference u hu, fun e => absent_sample.free u.reference e (hreference u hu)⟩
  exact ⟨(uploads_are_all_or_nothing s sampleHost .empty sampleUploads _ (by decide +kernel) hfresh
    (by decide +kernel)).1 ⟨canStore_sample, .inr absent_sample⟩, by decide +kernel⟩

/-- A folder with the text of a template, which a path through a missing folder does not reach. -/
def hiddenFiles : Files where
  entries := [(["b"], .folder),
    (["b", "0123456789abcdef0123456789abcdef.extracted"], .file [120] false)]
  distinct := by decide

def sampleUpload : Upload :=
  ⟨"fedcba9876543210fedcba9876543210", [3], "txt", "text"⟩

/-- Below a file a template is refused and not missing, and the folder that an upload makes on the
way lets another template be seen. -/
theorem not_all_or_nothing_for_every_state :
    (Store.Fresh ⟨⟨"f/templates"⟩⟩ sampleHost sampleFile sampleUpload.reference ∧
      ¬Store.AllOrNothing ⟨⟨"f/templates"⟩⟩ sampleHost sampleFile [sampleUpload]
        ((beginning ⟨⟨"f/templates"⟩⟩ sampleFile [sampleUpload]).after sampleHost [])) ∧
    (Store.Fresh ⟨⟨"a/../b"⟩⟩ sampleHost hiddenFiles sampleUpload.reference ∧
      ¬Store.AllOrNothing ⟨⟨"a/../b"⟩⟩ sampleHost hiddenFiles [sampleUpload]
        ((beginning ⟨⟨"a/../b"⟩⟩ hiddenFiles [sampleUpload]).after sampleHost [0])) := by
  refine ⟨⟨fresh_of_names (by decide +kernel) (by decide +kernel), fun h => ?_⟩,
    fresh_of_names (by decide +kernel) (by decide +kernel), fun h => ?_⟩
  · have hget := h.missing sampleUpload List.mem_cons_self (by
      rintro ⟨deed, hdeed, -⟩
      cases hdeed)
    revert hget
    decide +kernel
  · have hget := h.get "0123456789abcdef0123456789abcdef" (by decide +kernel)
    revert hget
    decide +kernel

end Samples

end MailMerge.Store
