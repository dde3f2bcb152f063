import MailMerge.Proofs.StoreHistories
import MailMerge.Proofs.UploadPhases

/-!
# Storing undone

Removing a template undoes its storing. Two histories are followed that differ in one template only:
whatever else is stored or removed goes the same way in both (`Exceeds.next`), so in the end they
differ in that template's files. Of these removing leaves the source if there is a point in its
format (`removal_leaves_dotted_sources`).
-/

namespace MailMerge.Store

variable {s : Store} {host : Host} {start files files' after : Files} {reference : String}

section Trees

/-- Two trees have the same in all places but those of a template's files, where no folders are. -/
structure Alike (s : Store) (host : Host) (reference : String) (files files' : Files) : Prop where
  others : ∀ l, (∀ extension, l ≠ s.place host reference extension) →
    files.node? l = files'.node? l
  noFolder : ∀ extension, files.node? (s.place host reference extension) ≠ some .folder
  noFolder' : ∀ extension, files'.node? (s.place host reference extension) ≠ some .folder

namespace Alike

lemma symm (h : s.Alike host reference files files') : s.Alike host reference files' files :=
  ⟨fun l hl => (h.others l hl).symm, h.noFolder', h.noFolder⟩

lemma congr {after' : Files} (h : s.Alike host reference files files')
    (hnode : after.node? = files.node?) (hnode' : after'.node? = files'.node?) :
    s.Alike host reference after after' := by
  refine ⟨fun l hl => ?_, fun extension => ?_, fun extension => ?_⟩
  · rw [hnode, hnode']
    exact h.others l hl
  · rw [hnode]
    exact h.noFolder extension
  · rw [hnode']
    exact h.noFolder' extension

lemma sameFolders (h : s.Alike host reference files files') : Files.SameFolders files files' := by
  intro l
  by_cases hl : ∃ extension, l = s.place host reference extension
  · obtain ⟨extension, rfl⟩ := hl
    exact iff_of_false (h.noFolder extension) (h.noFolder' extension)
  · push Not at hl
    rw [h.others l hl]

lemma of_write {after' : Files} {place : Location} {content : Bytes}
    (h : s.Alike host reference files files')
    (hafter : ∀ l, after.node? l = if l = place then some (.file content false) else files.node? l)
    (hafter' : ∀ l, after'.node? l =
      if l = place then some (.file content false) else files'.node? l) :
    s.Alike host reference after after' := by
  refine ⟨fun l hl => ?_, fun extension => ?_, fun extension => ?_⟩
  · rw [hafter, hafter', h.others l hl]
  · rw [hafter]
    split
    · simp
    · exact h.noFolder extension
  · rw [hafter']
    split
    · simp
    · exact h.noFolder' extension

lemma replace (h : s.Alike host reference files files') (href : isReference reference = true)
    {target : Path} {content : Bytes}
    (hreplace : (Action.replace s.root target content).on host files = (.ok (), after)) :
    ∃ after', (Action.replace s.root target content).on host files' = (.ok (), after') ∧
      s.Alike host reference after after' := by
  have hnames : ∀ n : Nat,
      files.node? (Files.placeOf host.working s.root ++ [".tmp" ++ toString n]) =
        files'.node? (Files.placeOf host.working s.root ++ [".tmp" ++ toString n]) := by
    intro n
    rw [← Files.placeOf_join _ _ (Files.isStep_temporary n)]
    exact h.others _ fun extension hplace => place_ne_new s host href n hplace.symm
  obtain ⟨after', hreplace'⟩ := Action.replace_of_sameFolders h.sameFolders hnames hreplace
  refine ⟨after', hreplace', ?_⟩
  rcases Action.replace_cases host files s.root target content with
    ⟨e, _, hcase, -⟩ | ⟨place, _, hcase, -, hlocate, -, -, hafter⟩
  · rw [hreplace] at hcase
    cases hcase
  · rw [hreplace] at hcase
    cases hcase
    rcases Action.replace_cases host files' s.root target content with
      ⟨e, _, hcase, -⟩ | ⟨place', _, hcase, -, hlocate', -, -, hafter'⟩
    · rw [hreplace'] at hcase
      cases hcase
    · rw [hreplace'] at hcase
      cases hcase
      have hplace := Files.eq_placeOf_of_locate hlocate
      have hplace' := Files.eq_placeOf_of_locate hlocate'
      subst hplace hplace'
      exact h.of_write hafter hafter'

lemma put (h : s.Alike host reference (s.made host files) (s.made host files'))
    (href : isReference reference = true)
    (hcreated : (files'.createFolders host.working s.root).1 = .ok ()) {drawn : String}
    {source : Bytes} {format text : String} {template : Template}
    (hput : (s.put drawn source format text).on host files = (.ok template, after)) :
    ∃ after', (s.put drawn source format text).on host files' = (.ok template, after') ∧
      s.Alike host reference after after' := by
  have hmake : ∀ tree : Files, (Action.createFolders s.root).on host tree =
      ((tree.createFolders host.working s.root).1.mapError Error.file, s.made host tree) :=
    fun _ => rfl
  have hmake' := hmake files'
  rw [hcreated] at hmake'
  obtain ⟨_, made, hmade, hwrite⟩ := Action.on_bind_eq_ok hput
  rw [hmake files] at hmade
  obtain ⟨-, rfl⟩ := Prod.mk.inj hmade
  obtain ⟨_, stored, hwrite, hstored⟩ := Action.on_bind_eq_ok hwrite
  obtain ⟨_, sourced, hsource, htext⟩ := Action.on_bind_eq_ok hwrite
  obtain ⟨sourced', hsource', hsourced⟩ := h.replace href hsource
  obtain ⟨stored', htext', hstored'⟩ := hsourced.replace href (Action.on_orElseDo_eq_ok htext)
  cases hstored
  refine ⟨stored', ?_, hstored'⟩
  rw [Store.put, Action.on_bind_ok hmake', writeFiles,
    Action.on_bind_ok ((Action.on_bind_ok hsource').trans (Action.on_orElseDo_ok htext'))]
  rfl

lemma of_drops {after' : Files} {removed : String} (h : s.Alike host reference files files')
    (hdrops : s.Drops host removed files after) (hdrops' : s.Drops host removed files' after') :
    s.Alike host reference after after' := by
  refine ⟨fun l hl => ?_, fun extension => ?_, fun extension => ?_⟩
  · rcases hdrops.cases l with ⟨⟨extension, hpoint, rfl⟩, hgone⟩ | ⟨hother, hsame⟩
    · rw [hgone, hdrops'.gone extension hpoint]
    · rw [hsame, hdrops'.rest l hother]
      exact h.others l hl
  · rcases hdrops.cases (s.place host reference extension) with ⟨-, hgone⟩ | ⟨-, hsame⟩
    · simp [hgone]
    · rw [hsame]
      exact h.noFolder extension
  · rcases hdrops'.cases (s.place host reference extension) with ⟨-, hgone⟩ | ⟨-, hsame⟩
    · simp [hgone]
    · rw [hsame]
      exact h.noFolder' extension

end Alike

end Trees

section Steps

/-- What a history has in addition to another one: a template that is kept, with its files. -/
structure Surplus (s : Store) (host : Host) (reference text : String)
    (own : String → Option Node) (h h' : History) : Prop where
  alike : s.Alike host reference (s.made host h.files) (s.made host h'.files)
  own : ∀ extension, h.files.node? (s.place host reference extension) = own extension
  kept : h.kept = Function.update h'.kept reference (some text)

variable {used used' : List String} {text : String} {own : String → Option Node} {h h' : History}
  (hunused : s.Unused host start) (htracks : s.Tracks host start used h)
  (htracks' : s.Tracks host start used' h') (hsurplus : s.Surplus host reference text own h h')

include hsurplus in
lemma Surplus.kept_self : h.kept reference = some text := by
  rw [hsurplus.kept, Function.update_self]

include htracks in
lemma Tracks.canStore (hkept : h.kept reference = some text) : s.CanStore host start := by
  have hshelf := htracks.shelf hkept
  obtain ⟨href, executable, hnode⟩ := hshelf.text reference text hkept
  exact (hshelf.own reference textExtension href (by simp [hnode])).1

include hunused htracks htracks' hsurplus in
/-- A template that is put is stored in both histories, or in none of them. -/
lemma Surplus.put (href : isReference reference = true) {drawn : String}
    (hdrawn : isReference drawn = true) (hne : drawn ≠ reference) (hnew : drawn ∉ used)
    (hnew' : drawn ∉ used') (source : Bytes) (format text' : String) :
    s.Surplus host reference text own (h.next s host (.put drawn source format text'))
      (h'.next s host (.put drawn source format text')) := by
  have hcan := htracks.canStore hsurplus.kept_self
  have hcreated := (htracks.made hunused).1.trans hcan.created
  have hcreated' := (htracks'.made hunused).1.trans hcan.created
  have hmade := (htracks.shelf hsurplus.kept_self).made_eq hunused
  rcases htracks.put_cases hunused hdrawn hnew source format text' with
    ⟨e, after, hput, hafter, hshelf⟩ | ⟨after, hput, hadds, hshelf⟩
  · rcases htracks'.put_cases hunused hdrawn hnew' source format text' with
      ⟨e', after', hput', hafter', hshelf'⟩ | ⟨after', hput', -, -⟩
    · rw [History.next, History.next, hput, hput']
      refine ⟨?_, fun extension => ?_, hsurplus.kept⟩
      · rw [hshelf.made_eq hunused, hshelf'.made_eq hunused]
        exact hsurplus.alike.congr hafter hafter'
      · rw [hafter, hmade]
        exact hsurplus.own extension
    · obtain ⟨_, hother, -⟩ := hsurplus.alike.symm.put href hcreated hput'
      rw [hput] at hother
      cases hother
  · obtain ⟨after', hput', halike⟩ := hsurplus.alike.put href hcreated' hput
    rcases htracks'.put_cases hunused hdrawn hnew' source format text' with
      ⟨e', _, hcase, -, -⟩ | ⟨_, hcase, -, hshelf'⟩
    · rw [hput'] at hcase
      cases hcase
    · rw [hput'] at hcase
      cases hcase
      rw [History.next, History.next, hput, hput']
      refine ⟨?_, fun extension => ?_, ?_⟩
      · rw [hshelf.made_eq hunused, hshelf'.made_eq hunused]
        exact halike
      · rw [hadds.node?_rest (place_ne href hdrawn hne.symm _), hmade]
        exact hsurplus.own extension
      · dsimp only
        rw [hsurplus.kept, Function.update_comm hne]

include hunused htracks htracks' hsurplus in
lemma Surplus.remove (href : isReference reference = true) {removed : String}
    (hne : removed ≠ reference) :
    s.Surplus host reference text own (h.next s host (.remove removed))
      (h'.next s host (.remove removed)) := by
  have hkept : h.kept removed = h'.kept removed := by
    rw [hsurplus.kept, Function.update_of_ne hne]
  cases hremoved : h'.kept removed with
  | none =>
    obtain ⟨base, hbare, hshelf⟩ := htracks.exists_shelf hunused
    obtain ⟨base', hbare', hshelf'⟩ := htracks'.exists_shelf hunused
    rw [History.next, History.next, hshelf.on_remove_of_none hbare (hkept.trans hremoved),
      hshelf'.on_remove_of_none hbare' hremoved]
    exact hsurplus
  | some text' =>
    have hshelf := htracks.shelf (hkept.trans hremoved)
    have hshelf' := htracks'.shelf hremoved
    obtain ⟨hr, -⟩ := hshelf'.text removed text' hremoved
    obtain ⟨after, hremove, hdrops⟩ :=
      hshelf.on_remove_of_some hunused.made (hkept.trans hremoved)
    obtain ⟨after', hremove', hdrops'⟩ := hshelf'.on_remove_of_some hunused.made hremoved
    have halike := hsurplus.alike
    rw [hshelf.made_eq hunused, hshelf'.made_eq hunused] at halike
    rw [History.next, History.next, hremove, hremove']
    refine ⟨?_, fun extension => ?_, ?_⟩
    · rw [(hshelf.remove hr hdrops).made_eq hunused, (hshelf'.remove hr hdrops').made_eq hunused]
      exact halike.of_drops hdrops hdrops'
    · have hother := hdrops.rest (s.place host reference extension) fun _ _ =>
        place_ne href hr hne.symm _ _
      exact hother.trans (hsurplus.own extension)
    · dsimp only
      rw [hsurplus.kept, Function.update_comm hne]

end Steps

section Runs

variable {used used' : List String} {text : String} {own : String → Option Node} {h h' : History}
  (hunused : s.Unused host start) (htracks : s.Tracks host start used h)
  (htracks' : s.Tracks host start used' h') (hsurplus : s.Surplus host reference text own h h')

include hunused htracks htracks' hsurplus in
/-- A call that does not remove the template goes the same way in both histories. -/
lemma Surplus.next (href : isReference reference = true) (hmem : reference ∈ used)
    {command : Command} (hdrawn : ∀ r, command.drawn? = some r →
      isReference r = true ∧ r ∉ used ∧ r ∉ used') (hother : command ≠ .remove reference) :
    s.Surplus host reference text own (h.next s host command) (h'.next s host command) := by
  cases command with
  | put drawn source format text' =>
    obtain ⟨hr, hnew, hnew'⟩ := hdrawn drawn rfl
    have hne : drawn ≠ reference := fun hsame => hnew (hsame ▸ hmem)
    exact hsurplus.put hunused htracks htracks' href hr hne hnew hnew' source format text'
  | get r =>
    rw [next_get, next_get]
    exact hsurplus
  | remove removed =>
    exact hsurplus.remove hunused htracks htracks' href fun hsame => hother (hsame ▸ rfl)
  | list =>
    rw [next_list, next_list]
    exact hsurplus

include hunused htracks htracks' hsurplus in
lemma Surplus.foldl (href : isReference reference = true) (hmem : reference ∈ used)
    {commands : List Command} (hdrawn : ∀ r ∈ commands.filterMap Command.drawn?,
      isReference r = true ∧ r ∉ used ∧ r ∉ used')
    (hdistinct : (commands.filterMap Command.drawn?).Nodup)
    (hother : Command.remove reference ∉ commands) :
    s.Surplus host reference text own (commands.foldl (History.next s host) h)
      (commands.foldl (History.next s host) h') := by
  induction commands generalizing h h' used used' with
  | nil => exact hsurplus
  | cons command rest ih =>
    rw [drawn_cons] at hdrawn hdistinct
    obtain ⟨-, hrest, hapart⟩ := List.nodup_append.mp hdistinct
    have hfirst : ∀ r, command.drawn? = some r → isReference r = true ∧ r ∉ used ∧ r ∉ used' :=
      fun r hr => hdrawn r (List.mem_append_left _ (by simp [hr]))
    have hnext := htracks.next hunused command fun r hr => ⟨(hfirst r hr).1, (hfirst r hr).2.1⟩
    have hnext' := htracks'.next hunused command fun r hr => ⟨(hfirst r hr).1, (hfirst r hr).2.2⟩
    refine ih hnext hnext' (hsurplus.next hunused htracks htracks' href hmem hfirst ?_)
      (List.mem_append_right _ hmem) (fun r hr => ?_) hrest ?_
    · exact fun hsame => hother (hsame ▸ List.mem_cons_self)
    · obtain ⟨hr', hnew, hnew'⟩ := hdrawn r (List.mem_append_right _ hr)
      have hr'' : r ∉ command.drawn?.toList := fun hmem' => hapart r hmem' r hr rfl
      exact ⟨hr', by simp [hr'', hnew], by simp [hr'', hnew']⟩
    · exact fun hmem' => hother (List.mem_cons_of_mem _ hmem')

include hunused htracks htracks' hsurplus in
/-- When the template is removed, the files with a point in their extension are left of it, and else
there are the files of the other history. -/
lemma Surplus.remove_self (href : isReference reference = true) (hnew : reference ∉ used') :
    ∃ after, (s.remove reference).on host h.files = (.ok (), after) ∧
      ∀ l content executable, after.node? l = some (.file content executable) ↔
        h'.files.node? l = some (.file content executable) ∨
        ∃ extension, '.' ∈ extension.toList ∧ l = s.place host reference extension ∧
          own extension = some (.file content executable) := by
  have hshelf := htracks.shelf hsurplus.kept_self
  obtain ⟨after, hremove, hdrops⟩ := hshelf.on_remove_of_some hunused.made hsurplus.kept_self
  refine ⟨after, hremove, fun l content executable => ?_⟩
  have hgrows : Files.Grows h'.files (s.made host h'.files) :=
    Files.grows_createFolders h'.files host.working s.root
  by_cases hl : ∃ extension, l = s.place host reference extension
  · obtain ⟨extension, rfl⟩ := hl
    have hfree := (htracks'.made hunused).2.eq_none_of_new href hnew extension
    rw [hgrows.eq_none hfree]
    by_cases hpoint : '.' ∈ extension.toList
    · rw [hdrops.rest _ fun e he hsame => he ((place_inj href href hsame).2 ▸ hpoint), hsurplus.own]
      constructor
      · exact fun hown => .inr ⟨extension, hpoint, rfl, hown⟩
      · rintro (hnone | ⟨e, -, hsame, hown⟩)
        · cases hnone
        · rw [(place_inj href href hsame).2]
          exact hown
    · rw [hdrops.gone extension hpoint]
      refine iff_of_false (by simp) ?_
      rintro (hnone | ⟨e, he, hsame, -⟩)
      · cases hnone
      · exact hpoint ((place_inj href href hsame).2 ▸ he)
  · push Not at hl
    have hsame := hsurplus.alike.others l hl
    rw [hshelf.made_eq hunused] at hsame
    rw [hdrops.rest l fun e _ => hl e, hsame, hgrows.file_iff]
    refine (or_iff_left ?_).symm
    rintro ⟨e, -, hplace, -⟩
    exact hl e hplace

end Runs

section Undoing

variable {format text : String} {source : Bytes}

/-- The files that are stored for a template, by their extensions. -/
def parts (source : Bytes) (format text extension : String) : Option Node :=
  if extension = textExtension then some (.file (Utf8.encode text) false)
  else if extension = format then some (.file source false)
  else none

lemma Adds.node?_place (h : s.Adds host files files' reference source format text)
    (href : isReference reference = true)
    (hfree : ∀ extension, files.node? (s.place host reference extension) = none)
    (extension : String) :
    files'.node? (s.place host reference extension) = parts source format text extension := by
  have hplace : ∀ extension', s.place host reference extension = s.place host reference extension' ↔
      extension = extension' := fun extension' =>
    ⟨fun hsame => (place_inj href href hsame).2, fun hsame => hsame ▸ rfl⟩
  rw [h.node?, hfree]
  simp only [hplace]
  rfl

lemma surplus_of_put (hunused : s.Unused host start) {used : List String} {h : History}
    (htracks : s.Tracks host start used h) (href : isReference reference = true)
    (hnew : reference ∉ used) {template : Template}
    (hput : ((s.put reference source format text).on host h.files).1 = .ok template) :
    s.Surplus host reference text (parts source format text)
      (h.next s host (.put reference source format text)) h := by
  rcases htracks.put_cases hunused href hnew source format text with
    ⟨e, after, hcase, -, -⟩ | ⟨after, hcase, hadds, hshelf⟩
  · rw [hcase] at hput
    cases hput
  · have hfree := (htracks.made hunused).2.eq_none_of_new href hnew
    rw [History.next, hcase]
    refine ⟨?_, hadds.node?_place href hfree, rfl⟩
    rw [hshelf.made_eq hunused]
    refine ⟨fun l hl => ?_, fun extension => ?_, fun extension => ?_⟩
    · rw [hadds.node?_rest hl]
    · rw [(hadds.sameFolders hfree _).symm.ne, hfree]
      simp
    · simp [hfree]

lemma on_remove_of_empty (hempty : s.root.text = "") (href : isReference reference = true)
    (files : Files) :
    (s.remove reference).on host files = (.error (.templateMissing reference), files) := by
  have hnames : s.names.on host files = (.ok [], files) := by
    rw [names_eq_locate, Files.locate, Files.badPath?, if_pos hempty]
  exact on_remove_of_nil hnames href rfl

lemma parts_of_point {extension : String} (hpoint : '.' ∈ extension.toList) :
    parts source format text extension =
      if extension = format then some (.file source false) else none := by
  rw [parts, if_neg]
  rintro rfl
  exact absurd hpoint (by decide)

lemma exists_surplus (hunused : s.Unused host start) {before rest : List Command}
    (hdrawn : ∀ r ∈ (before ++ .put reference source format text :: rest).filterMap
      Command.drawn?, isReference r = true)
    (hdistinct : ((before ++ .put reference source format text :: rest).filterMap
      Command.drawn?).Nodup)
    (hother : Command.remove reference ∉ rest) {template : Template}
    (hput : ((s.put reference source format text).on host
      (s.history host start before).files).1 = .ok template) :
    ∃ used used',
      s.Tracks host start used
        (s.history host start (before ++ .put reference source format text :: rest)) ∧
      s.Tracks host start used' (s.history host start (before ++ rest)) ∧ reference ∉ used' ∧
      s.Surplus host reference text (parts source format text)
        (s.history host start (before ++ .put reference source format text :: rest))
        (s.history host start (before ++ rest)) := by
  rw [List.filterMap_append, drawn_cons] at hdrawn hdistinct
  obtain ⟨hbefore, hlater, hapart⟩ := List.nodup_append.mp hdistinct
  obtain ⟨hreference, hrest⟩ := List.nodup_cons.mp hlater
  have href : isReference reference = true := hdrawn reference (by simp [Command.drawn?])
  have hfirst : s.Tracks host start [] ⟨fun _ => none, start⟩ := .inl ⟨rfl, rfl⟩
  have htracks := hfirst.foldl hunused
    (fun r hr => ⟨hdrawn r (List.mem_append_left _ hr), List.not_mem_nil⟩) hbefore
  rw [List.append_nil] at htracks
  have hnew : reference ∉ (before.filterMap Command.drawn?).reverse := fun hmem =>
    hapart reference (List.mem_reverse.mp hmem) reference List.mem_cons_self rfl
  have hnext := htracks.next hunused (.put reference source format text) fun r hr => by
    cases hr
    exact ⟨href, hnew⟩
  have hrestDrawn : ∀ r ∈ rest.filterMap Command.drawn?, isReference r = true ∧
      r ∉ reference :: (before.filterMap Command.drawn?).reverse ∧
      r ∉ (before.filterMap Command.drawn?).reverse := by
    intro r hr
    have hunseen : r ∉ (before.filterMap Command.drawn?).reverse := fun hmem =>
      hapart r (List.mem_reverse.mp hmem) r (List.mem_cons_of_mem _ hr) rfl
    refine ⟨hdrawn r (by simp [hr]), ?_, hunseen⟩
    exact List.not_mem_cons_of_ne_of_not_mem (fun hsame => hreference (hsame ▸ hr)) hunseen
  have hsurplus := (surplus_of_put hunused htracks href hnew hput).foldl hunused hnext htracks href
    List.mem_cons_self hrestDrawn hrest hother
  have hwith := hnext.foldl hunused
    (fun r hr => ⟨(hrestDrawn r hr).1, (hrestDrawn r hr).2.1⟩) hrest
  have hwithout := htracks.foldl hunused
    (fun r hr => ⟨(hrestDrawn r hr).1, (hrestDrawn r hr).2.2⟩) hrest
  simp only [history, List.foldl_append, List.foldl_cons]
  refine ⟨_, _, hwith, hwithout, ?_, hsurplus⟩
  rw [List.mem_append, List.mem_reverse, not_or]
  exact ⟨hreference, hnew⟩

/-- A template that is stored between other calls, none of which removes it, can be removed after
them, unless the store's path is empty. Then there are the files that there would be had it never
been stored, and no others but its source if there is a point in the format. -/
theorem removal_leaves_dotted_sources (s : Store) (host : Host) (start : Files)
    (before rest : List Command) (reference : String) (source : Bytes) (format text : String)
    (hbare : s.Bare host (s.made host start))
    (hdrawn : ∀ r ∈ (before ++ .put reference source format text :: rest).filterMap
      Command.drawn?, isReference r = true)
    (hdistinct : ((before ++ .put reference source format text :: rest).filterMap
      Command.drawn?).Nodup)
    (hother : Command.remove reference ∉ rest) {template : Template}
    (hput : ((s.put reference source format text).on host
      (s.history host start before).files).1 = .ok template) :
    let stored := (s.history host start (before ++ .put reference source format text :: rest)).files
    (s.root.text = "" →
      (s.remove reference).on host stored = (.error (.templateMissing reference), stored)) ∧
    (s.root.text ≠ "" → ∃ after, (s.remove reference).on host stored = (.ok (), after) ∧
      ∀ l content executable, after.node? l = some (.file content executable) ↔
        (s.history host start (before ++ rest)).files.node? l =
            some (.file content executable) ∨
          '.' ∈ format.toList ∧ l = s.place host reference format ∧ content = source ∧
            executable = false) := by
  have href : isReference reference = true := hdrawn reference (by simp [Command.drawn?])
  refine ⟨fun hempty => on_remove_of_empty hempty href _, fun hnamed => ?_⟩
  have hunused : s.Unused host start := ⟨hbare, fun _ => hnamed⟩
  obtain ⟨used, used', hwith, hwithout, hnew, hsurplus⟩ :=
    exists_surplus hunused hdrawn hdistinct hother hput
  obtain ⟨after, hremove, hnode⟩ := hsurplus.remove_self hunused hwith hwithout href hnew
  refine ⟨after, hremove, fun l content executable => (hnode l content executable).trans ?_⟩
  refine or_congr_right ⟨?_, ?_⟩
  · rintro ⟨extension, hpoint, rfl, hpart⟩
    rw [parts_of_point hpoint] at hpart
    split at hpart
    · next hformat =>
      cases hpart
      exact ⟨hformat ▸ hpoint, hformat ▸ rfl, rfl, rfl⟩
    · cases hpart
  · rintro ⟨hpoint, rfl, rfl, rfl⟩
    exact ⟨format, hpoint, rfl, by rw [parts_of_point hpoint, if_pos rfl]⟩

end Undoing

section Samples

theorem removal_leaves_dotted_sources_archive :
    ∃ after, (Store.remove ⟨⟨"templates"⟩⟩ "fedcba9876543210fedcba9876543210").on sampleHost
        (history ⟨⟨"templates"⟩⟩ sampleHost .empty
          [.put "0123456789abcdef0123456789abcdef" [1] "docx" "first",
            .put "fedcba9876543210fedcba9876543210" [2] "tar.gz" "second",
            .remove "0123456789abcdef0123456789abcdef"]).files = (.ok (), after) ∧
      after.node? ["templates", "fedcba9876543210fedcba9876543210.tar.gz"] =
        some (.file [2] false) ∧
      ∀ content executable,
        after.node? ["templates", "fedcba9876543210fedcba9876543210.extracted"] ≠
          some (.file content executable) := by
  have hput : ((Store.put ⟨⟨"templates"⟩⟩ "fedcba9876543210fedcba9876543210" [2] "tar.gz"
      "second").on sampleHost (history ⟨⟨"templates"⟩⟩ sampleHost .empty
        [.put "0123456789abcdef0123456789abcdef" [1] "docx" "first"]).files).1 =
      .ok ⟨"fedcba9876543210fedcba9876543210", "second"⟩ := by decide +kernel
  obtain ⟨-, hnamed⟩ := removal_leaves_dotted_sources ⟨⟨"templates"⟩⟩ sampleHost .empty
    [.put "0123456789abcdef0123456789abcdef" [1] "docx" "first"]
    [.remove "0123456789abcdef0123456789abcdef"]
    "fedcba9876543210fedcba9876543210" [2] "tar.gz" "second" absent_sample.bare_made
    (by decide +kernel) (by decide +kernel) (by simp) hput
  obtain ⟨after, hremove, hnode⟩ := hnamed (by decide)
  refine ⟨after, hremove, (hnode _ _ _).mpr (.inr ⟨by decide, rfl, rfl, rfl⟩),
    fun content executable hfile => ?_⟩
  rcases (hnode _ _ _).mp hfile with hkept | ⟨-, hplace, -⟩
  · have hnone : (history ⟨⟨"templates"⟩⟩ sampleHost .empty
        [.put "0123456789abcdef0123456789abcdef" [1] "docx" "first",
          .remove "0123456789abcdef0123456789abcdef"]).files.node?
        ["templates", "fedcba9876543210fedcba9876543210.extracted"] = none := by decide +kernel
    rw [List.singleton_append, hnone] at hkept
    cases hkept
  · exact absurd hplace (by decide)

/-- The source of an archive stays when its template is removed. -/
theorem not_undone_of_dotted_format :
    let stored := (history ⟨⟨"templates"⟩⟩ sampleHost .empty
      [.put "0123456789abcdef0123456789abcdef" [1] "tar.gz" "text"]).files
    let removal := (Store.remove ⟨⟨"templates"⟩⟩ "0123456789abcdef0123456789abcdef").on sampleHost
      stored
    (history ⟨⟨"templates"⟩⟩ sampleHost .empty
        [.put "0123456789abcdef0123456789abcdef" [1] "tar.gz" "text"]).kept
        "0123456789abcdef0123456789abcdef" = some "text" ∧
      removal.1 = .ok () ∧
      removal.2.node? ["templates", "0123456789abcdef0123456789abcdef.tar.gz"] =
        some (.file [1] false) ∧
      (history ⟨⟨"templates"⟩⟩ sampleHost .empty []).files.node?
        ["templates", "0123456789abcdef0123456789abcdef.tar.gz"] = none := by
  decide +kernel

end Samples

end MailMerge.Store
