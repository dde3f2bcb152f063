import MailMerge.Proofs.FolderMaking
import MailMerge.Proofs.RequestRuns

/-!
# Replacing files

A file that is put into place is all that changes, and nothing at all changes if that fails: the
file that is written first has a new name, and is moved or taken away again (`replace_cases`).
Whether this succeeds is told by the folders and the new names (`replace_of_sameFolders`).
-/

namespace MailMerge

variable {host : Host} {files files' after : Files} {working place : Location} {folder p : Path}
  {content : Bytes}

namespace Files

lemma isStep_numbered {start : String} (hstart : '/' ∉ start.toList) (n : Nat) :
    Path.IsStep (start ++ toString n) := by
  have hchars : (start ++ toString n).toList = start.toList ++ Nat.toDigits 10 n := by
    rw [String.toList_append, Nat.toString_eq_ofList_toDigits, String.toList_ofList]
  have hdigit : ∀ c ∈ Nat.toDigits 10 n, c.isDigit = true := fun c hc =>
    Nat.isDigit_of_mem_toDigits (by decide) (by decide) hc
  obtain ⟨c, hc⟩ := List.exists_mem_of_ne_nil _ (Nat.toDigits_ne_nil (b := 10) (n := n))
  refine Path.isStep_of_mem (c := c) (fun hslash => ?_) (hchars ▸ List.mem_append_right _ hc)
    fun hpoint => absurd (hpoint ▸ hdigit c hc) (by decide)
  rcases List.mem_append.mp (hchars ▸ hslash) with hslash | hslash
  · exact hstart hslash
  · exact absurd (hdigit _ hslash) (by decide)

lemma isStep_temporary (n : Nat) : Path.IsStep (".tmp" ++ toString n) :=
  isStep_numbered (by decide) n

/-- An empty path stands for the working folder, as a single point does. -/
lemma follow_of_locate_folder
    (h : files.locate working (if folder.text = "" then ⟨"."⟩ else folder) = .ok place) :
    files.follow (origin working folder) folder.steps = .ok place := by
  have hfollow := (locate_eq_ok_iff.mp h).2.1
  by_cases hempty : folder.text = ""
  · have horigin : origin working folder = origin working ⟨"."⟩ := by
      rw [origin, origin, Path.isAbsolute, hempty]
      rfl
    have hsteps : folder.steps = Path.steps ⟨"."⟩ := by
      rw [Path.steps, Path.pieces, hempty]
      rfl
    rw [if_pos hempty] at hfollow
    rw [horigin, hsteps]
    exact hfollow
  · rw [if_neg hempty] at hfollow
    exact hfollow

lemma freshPlace_eq_ok_iff {start : String} :
    files.freshPlace working folder start = .ok (place, p) ↔
      ∃ found, files.locate working (if folder.text = "" then ⟨"."⟩ else folder) = .ok found ∧
        files.node? found = some .folder ∧ p = folder.join (files.freshName found start) ∧
        files.locate working p = .ok place := by
  unfold freshPlace
  cases hfound : files.locate working (if folder.text = "" then ⟨"."⟩ else folder) with
  | error fault => simp
  | ok found =>
    dsimp only
    cases hnode : files.node? found with
    | none => simp [hnode]
    | some node =>
      cases node with
      | file content executable => simp [hnode]
      | folder =>
        dsimp only
        cases hlocate : files.locate working (folder.join (files.freshName found start)) with
        | error fault =>
          refine iff_of_false (by simp [Except.map]) ?_
          rintro ⟨found', hfound', -, rfl, hlocate'⟩
          cases hfound'
          rw [hlocate] at hlocate'
          cases hlocate'
        | ok new =>
          constructor
          · intro h
            cases h
            exact ⟨found, rfl, hnode, rfl, hlocate⟩
          · rintro ⟨found', hfound', -, rfl, hlocate'⟩
            cases hfound'
            rw [hlocate] at hlocate'
            cases hlocate'
            rfl

lemma numbered_of_freshPlace {start : String} (hstart : '/' ∉ start.toList)
    (h : files.freshPlace working folder start = .ok (place, p)) :
    files.Stands working folder ∧ files.locate working p = .ok place ∧ p.namesFolder = false ∧
      files.node? place = none ∧ ∃ n : Nat, p = folder.join (start ++ toString n) := by
  obtain ⟨found, hfound, hfolder, hp, hlocate⟩ := freshPlace_eq_ok_iff.mp h
  have hfollow := follow_of_locate_folder hfound
  obtain ⟨n, hname, hfree⟩ := exists_freshName files found start
  have hstep : Path.IsStep (files.freshName found start) := hname ▸ isStep_numbered hstart n
  have hplace : place = found ++ [files.freshName found start] := by
    rw [eq_placeOf_of_locate hlocate, hp, placeOf_join working folder hstep, placeOf,
      ← eq_walk_of_follow hfollow]
  exact ⟨stands_of_follow hfollow hfolder, hlocate, hp ▸ Path.namesFolder_join folder hstep,
    hplace ▸ hfree, n, hp.trans (congrArg folder.join hname)⟩

lemma freshPlace_eq_ok (h : files.freshPlace working folder ".tmp" = .ok (place, p)) :
    files.Stands working folder ∧ files.locate working p = .ok place ∧ p.namesFolder = false ∧
      files.node? place = none ∧ ∃ n : Nat, p = folder.join (".tmp" ++ toString n) :=
  numbered_of_freshPlace (by decide) h

lemma freshPlace_of_sameFolders (h : SameFolders files files') {start : String}
    (hnames : ∀ n : Nat, files.node? (placeOf working folder ++ [start ++ toString n]) =
      files'.node? (placeOf working folder ++ [start ++ toString n]))
    (hfile : p.namesFolder = false)
    (hfresh : files.freshPlace working folder start = .ok (place, p)) :
    files'.freshPlace working folder start = .ok (place, p) := by
  obtain ⟨found, hfound, hfolder, hp, hlocate⟩ := freshPlace_eq_ok_iff.mp hfresh
  have hplace : found = placeOf working folder := eq_walk_of_follow (follow_of_locate_folder hfound)
  subst hplace
  obtain ⟨hbad, hfollow, -⟩ := locate_eq_ok_iff.mp hfound
  have hfolder' := (h _).mp hfolder
  refine freshPlace_eq_ok_iff.mpr ⟨_, ?_, hfolder', ?_, locate_of_sameFolders h hlocate hfile⟩
  · exact locate_eq_ok_iff.mpr ⟨hbad, follow_of_sameFolders h hfollow, by simp [hfolder']⟩
  · rw [hp, freshName_congr hnames]

lemma write_of_locate {old : Bytes} {executable : Bool}
    (hlocate : files.locate working p = .ok place)
    (hnode : files.node? place = some (.file old executable)) (content : Bytes) :
    files.write working p content = .ok (files.put place (.file content executable)) := by
  rw [write, hlocate]
  dsimp only
  rw [hnode]

lemma removeFile_of_locate {executable : Bool} (hlocate : files.locate working p = .ok place)
    (hnode : files.node? place = some (.file content executable)) :
    files.removeFile working p = .ok (files.erase place) := by
  rw [removeFile, hlocate]
  dsimp only
  rw [hnode]

lemma endsInPoints_of_rename {source target : Path}
    (h : files.rename working source target = .ok after) : target.endsInPoints = false := by
  unfold rename at h
  split at h
  · cases h
  · split at h
    · split at h
      · cases h
      · split at h
        · cases h
        · next hpoints => simpa using hpoints
    · cases h
    · cases h

lemma rename_of_locate {source target : Path} {origin : Location} {executable : Bool}
    (hsource : files.locate working source = .ok origin)
    (hnode : files.node? origin = some (.file content executable))
    (htarget : files.locate working target = .ok place) (hpoints : target.endsInPoints = false)
    (hname : target.namesFolder = false) (hother : files.node? place ≠ some .folder) :
    files.rename working source target =
      .ok ((files.erase origin).put place (.file content executable)) := by
  rw [rename, hsource]
  dsimp only
  rw [hnode]
  dsimp only
  rw [htarget]
  dsimp only
  rw [hpoints, hname]
  simp only [Bool.false_eq_true, if_false]

/-- The tree while a file is written under a new name. -/
def writing (files : Files) (place : Location) (content : Bytes) : Files :=
  (files.put place (.file [] false)).put place (.file content false)

lemma node?_writing (files : Files) (hplace : place ≠ []) (content : Bytes) (l : Location) :
    (files.writing place content).node? l =
      if l = place then some (.file content false) else files.node? l := by
  rw [writing, node?_put _ hplace, node?_put files hplace]
  split
  · rfl
  · rfl

lemma sameFolders_writing (hfree : files.node? place = none) (content : Bytes) :
    SameFolders files (files.writing place content) := by
  have hplace : place ≠ [] := ne_nil_of_free hfree
  refine (sameFolders_put (by simp [hfree]) [] false).trans (sameFolders_put ?_ content false)
  simp [node?_put files hplace]

lemma node?_erase_writing (hfree : files.node? place = none) (content : Bytes) :
    ((files.writing place content).erase place).node? = files.node? := by
  have hplace : place ≠ [] := ne_nil_of_free hfree
  funext l
  rw [node?_erase _ hplace, node?_writing files hplace]
  by_cases hl : l = place
  · rw [if_pos hl, hl, hfree]
  · rw [if_neg hl, if_neg hl]

end Files

namespace Action

lemma on_createTemporary_ok
    (h : files.freshPlace host.working folder ".tmp" = .ok (place, p)) :
    (createTemporary folder).on host files = (.ok p, files.put place (.file [] false)) := by
  change ((files.create _ _).1.mapError Error.file, (files.create _ _).2) = _
  rw [h]
  rfl

lemma on_createTemporary_error {fault : FileFault}
    (h : files.freshPlace host.working folder ".tmp" = .error fault) :
    (createTemporary folder).on host files = (.error (.file fault), files) := by
  change ((files.create _ _).1.mapError Error.file, (files.create _ _).2) = _
  rw [h]
  rfl

lemma on_write_ok (h : files.write host.working p content = .ok files') :
    (write p content).on host files = (.ok (), files') := by
  change ((files.change _).1.mapError Error.file, (files.change _).2) = _
  rw [h]
  rfl

lemma on_rename_ok {target : Path} (h : files.rename host.working p target = .ok files') :
    (rename p target).on host files = (.ok (), files') := by
  change ((files.change _).1.mapError Error.file, (files.change _).2) = _
  rw [h]
  rfl

lemma on_rename_error {target : Path} {fault : FileFault}
    (h : files.rename host.working p target = .error fault) :
    (rename p target).on host files = (.error (.file fault), files) := by
  change ((files.change _).1.mapError Error.file, (files.change _).2) = _
  rw [h]
  rfl

lemma run_discard {executable : Bool} (hlocate : files.locate host.working p = .ok place)
    (hnode : files.node? place = some (.file content executable)) :
    ((discard p).run host files).2 = files.erase place := by
  change (files.change (files.removeFile host.working p)).2 = _
  rw [Files.removeFile_of_locate hlocate hnode]
  rfl

lemma on_orElseDo_ok {α : Type} {a : Action α} {cleanUp : Program Unit} {x : α}
    (h : a.on host files = (.ok x, files')) :
    (orElseDo a cleanUp).on host files = (.ok x, files') := by
  change ((ExceptT.run a).bind _).run host files = _
  rw [on] at h
  rw [Program.run_bind, h]
  rfl

lemma on_orElseDo_error {α : Type} {a : Action α} {cleanUp : Program Unit} {e : Error}
    (h : a.on host files = (.error e, files')) :
    (orElseDo a cleanUp).on host files = (.error e, (cleanUp.run host files').2) := by
  change ((ExceptT.run a).bind _).run host files = _
  rw [on] at h
  rw [Program.run_bind, h]
  change (cleanUp.bind fun _ => .done (Except.error e)).run host files' = _
  rw [Program.run_bind]
  rfl

lemma on_orElseDo_bind_ok {α β : Type} {a : Action α} {f : α → Action β} {cleanUp : Program Unit}
    {x : α} (h : a.on host files = (.ok x, files')) :
    (orElseDo (a >>= f) cleanUp).on host files = (orElseDo (f x) cleanUp).on host files' := by
  change ((ExceptT.run (a >>= f)).bind _).run host files =
    ((ExceptT.run (f x)).bind _).run host files'
  have hbind := on_bind_ok (f := f) h
  rw [on, on] at hbind
  rw [Program.run_bind, Program.run_bind, hbind]

/-- A new file is written in its folder, and is then moved or taken away again. -/
lemma on_replace (hfresh : files.freshPlace host.working folder ".tmp" = .ok (place, p))
    (target : Path) (content : Bytes) :
    (replace folder target content).on host files =
      (orElseDo (rename p target) (discard p)).on host (files.writing place content) := by
  obtain ⟨-, hlocate, hfile, hfree, -⟩ := Files.freshPlace_eq_ok hfresh
  have hcreated : Files.SameFolders files (files.put place (.file [] false)) :=
    Files.sameFolders_put (by simp [hfree]) [] false
  have hnode : (files.put place (.file [] false)).node? place = some (.file [] false) := by
    rw [Files.node?_put files (Files.ne_nil_of_free hfree), if_pos rfl]
  have hwrite : (write p content).on host (files.put place (.file [] false)) =
      (.ok (), files.writing place content) :=
    on_write_ok (Files.write_of_locate (Files.locate_of_sameFolders hcreated hlocate hfile) hnode
      content)
  rw [replace, on_bind_ok (on_createTemporary_ok hfresh)]
  exact on_orElseDo_bind_ok hwrite

/-- A file is replaced as a whole, or nothing is changed. -/
theorem replace_cases (host : Host) (files : Files) (folder target : Path) (content : Bytes) :
    (∃ e after, (replace folder target content).on host files = (.error e, after) ∧
        after.node? = files.node?) ∨
      ∃ place after, (replace folder target content).on host files = (.ok (), after) ∧
        files.Stands host.working folder ∧ files.locate host.working target = .ok place ∧
        target.namesFolder = false ∧ files.node? place ≠ some .folder ∧
        ∀ l, after.node? l = if l = place then some (.file content false) else files.node? l := by
  cases hfresh : files.freshPlace host.working folder ".tmp" with
  | error fault => exact .inl ⟨_, _, on_bind_error (on_createTemporary_error hfresh), rfl⟩
  | ok new =>
    obtain ⟨start, temporary⟩ := new
    obtain ⟨hstands, hlocate, hfile, hfree, -⟩ := Files.freshPlace_eq_ok hfresh
    have hwritten : (files.writing start content).node? start = some (.file content false) := by
      rw [Files.node?_writing files (Files.ne_nil_of_free hfree), if_pos rfl]
    have hfolders := Files.sameFolders_writing hfree content
    have hlocated : (files.writing start content).locate host.working temporary = .ok start :=
      Files.locate_of_sameFolders hfolders hlocate hfile
    rw [on_replace hfresh]
    cases hmove : (files.writing start content).rename host.working temporary target with
    | error fault =>
      -- Nothing was in the new file's place, so the tree without it is the first one.
      refine .inl ⟨_, _, on_orElseDo_error (on_rename_error hmove), ?_⟩
      rw [run_discard hlocated hwritten, Files.node?_erase_writing hfree]
    | ok after =>
      obtain ⟨moved, place, found, executable, hmoved, hfound, htarget, hname, hplace, hafter⟩ :=
        Files.rename_eq_ok hmove
      rw [hlocated] at hmoved
      cases hmoved
      rw [hwritten] at hfound
      cases hfound
      have hother : files.node? place ≠ some .folder := fun h => hplace ((hfolders place).mp h)
      refine .inr ⟨place, after, on_orElseDo_ok (on_rename_ok hmove), hstands,
        Files.locate_of_sameFolders hfolders.symm htarget hname, hname, hother, fun l => ?_⟩
      rw [hafter, Files.node?_put _ (Files.ne_nil_of_node? hother), Files.node?_erase_writing hfree]

lemma on_replace_eq_ok_iff {target : Path} :
    (replace folder target content).on host files = (.ok (), after) ↔
      ∃ place p, files.freshPlace host.working folder ".tmp" = .ok (place, p) ∧
        (files.writing place content).rename host.working p target = .ok after := by
  cases hfresh : files.freshPlace host.working folder ".tmp" with
  | error fault =>
    rw [replace, on_bind_error (on_createTemporary_error hfresh)]
    simp
  | ok new =>
    obtain ⟨place, p⟩ := new
    rw [on_replace hfresh]
    cases hmove : (files.writing place content).rename host.working p target with
    | error fault =>
      rw [on_orElseDo_error (on_rename_error hmove)]
      refine iff_of_false (by simp) ?_
      rintro ⟨place', p', hsame, hmoved⟩
      cases hsame
      rw [hmove] at hmoved
      cases hmoved
    | ok moved =>
      rw [on_orElseDo_ok (on_rename_ok hmove)]
      constructor
      · intro h
        cases h
        exact ⟨place, p, rfl, hmove⟩
      · rintro ⟨place', p', hsame, hmoved⟩
        cases hsame
        rw [hmove] at hmoved
        cases hmoved
        rfl

lemma replace_of_sameFolders (h : Files.SameFolders files files')
    (hnames : ∀ n : Nat, files.node? (Files.placeOf host.working folder ++ [".tmp" ++ toString n]) =
      files'.node? (Files.placeOf host.working folder ++ [".tmp" ++ toString n])) {target : Path}
    (hreplace : (replace folder target content).on host files = (.ok (), after)) :
    ∃ after', (replace folder target content).on host files' = (.ok (), after') := by
  obtain ⟨start, p, hfresh, hmove⟩ := on_replace_eq_ok_iff.mp hreplace
  obtain ⟨-, hlocate, hfile, hfree, -⟩ := Files.freshPlace_eq_ok hfresh
  have hfresh' := Files.freshPlace_of_sameFolders h hnames hfile hfresh
  obtain ⟨-, -, -, hfree', -⟩ := Files.freshPlace_eq_ok hfresh'
  obtain ⟨-, place, -, -, -, -, htarget, hname, hother, -⟩ := Files.rename_eq_ok hmove
  have hfolders := (Files.sameFolders_writing hfree content).symm.trans
    (h.trans (Files.sameFolders_writing hfree' content))
  have hwritten : (files'.writing start content).node? start = some (.file content false) := by
    rw [Files.node?_writing files' (Files.ne_nil_of_free hfree'), if_pos rfl]
  have hsource := Files.locate_of_sameFolders
    (h.trans (Files.sameFolders_writing hfree' content)) hlocate hfile
  exact ⟨_, on_replace_eq_ok_iff.mpr ⟨start, p, hfresh', Files.rename_of_locate hsource hwritten
    (Files.locate_of_sameFolders hfolders htarget hname) (Files.endsInPoints_of_rename hmove) hname
    fun hfolder => hother ((hfolders place).mpr hfolder)⟩⟩

end Action

end MailMerge
