import MailMerge.Proofs.FileNames
import MailMerge.Proofs.FileTrees
import MailMerge.Proofs.NameAllocation
import Mathlib.Data.List.Nodup

/-!
# Making folders

All that a tree answers depends on its nodes. Making a folder adds folders only (`Grows`), a second
time it changes nothing (`createFolders_again`), and where it succeeds, files in the folder are
found right below its place (`locate_join`, `read_join_of_createFolders`).
-/

namespace MailMerge

namespace Files

variable {files files' : Files} {working place start : Location} {p : Path} {name : String}
  {steps : List String}

section Nodes

lemma follow_congr (h : files.node? = files'.node?) (start : Location) (steps : List String) :
    files.follow start steps = files'.follow start steps := by
  induction steps generalizing start with
  | nil => rfl
  | cons step rest ih => simp only [follow, h, ih]

lemma locate_congr (h : files.node? = files'.node?) (working : Location) (p : Path) :
    files.locate working p = files'.locate working p := by
  simp only [locate, follow_congr h, h]

lemma after?_eq_some_iff {α : Type} [DecidableEq α] {front xs rest : List α} :
    Text.after? front xs = some rest ↔ xs = front ++ rest := by
  induction front generalizing xs with
  | nil => simp [Text.after?, eq_comm]
  | cons a front ih =>
    cases xs with
    | nil => simp [Text.after?]
    | cons b xs =>
      rw [Text.after?]
      by_cases hab : a = b
      · rw [if_pos hab, ih, hab, List.cons_append, List.cons.injEq, and_iff_right rfl]
      · rw [if_neg hab, List.cons_append, List.cons.injEq]
        simp [Ne.symm hab]

lemma childName?_eq_some_iff {folder l : Location} :
    childName? folder l = some name ↔ l = folder ++ [name] := by
  unfold childName?
  rw [← after?_eq_some_iff]
  split
  · next found hfound => simp [hfound]
  · next hother =>
    constructor
    · intro h
      cases h
    · intro h
      exact absurd h (hother name)

lemma lookup_eq_none_iff {entries : List (Location × Node)} :
    lookup place entries = none ↔ place ∉ entries.map Prod.fst := by
  induction entries with
  | nil => simp [lookup]
  | cons e rest ih =>
    obtain ⟨l, n⟩ := e
    rw [lookup, List.map_cons, List.mem_cons, not_or]
    by_cases hl : l = place
    · simp [hl]
    · rw [if_neg hl, ih]
      simp [Ne.symm hl]

lemma mem_names_iff {folder : Location} :
    name ∈ files.names folder ↔ files.node? (folder ++ [name]) ≠ none := by
  rw [node?, if_neg (by simp), Ne, lookup_eq_none_iff, Classical.not_not, names,
    List.mem_filterMap, List.mem_map]
  simp only [childName?_eq_some_iff]

lemma nodup_names (files : Files) (folder : Location) : (files.names folder).Nodup := by
  have hplaces : files.names folder =
      (files.entries.map Prod.fst).filterMap (childName? folder) := by
    rw [List.filterMap_map]
    rfl
  rw [hplaces]
  apply files.distinct.filterMap
  intro l l' name hl hl'
  rw [Option.mem_def, childName?_eq_some_iff] at hl hl'
  rw [hl, hl']

lemma numbered_inj (start : String) {i j : Nat} (h : start ++ toString i = start ++ toString j) :
    i = j := by
  have hchars := congrArg String.toList h
  rw [String.toList_append, String.toList_append] at hchars
  exact Naming.toString_inj (String.toList_inj.mp (List.append_cancel_left hchars))

lemma exists_freshName (files : Files) (folder : Location) (start : String) :
    ∃ n : Nat, files.freshName folder start = start ++ toString n ∧
      files.node? (folder ++ [files.freshName folder start]) = none := by
  refine ⟨_, rfl, ?_⟩
  apply Classical.byContradiction
  intro hsome
  exact Naming.not_mem_firstFree (fun _ _ _ _ hsame => numbered_inj start hsame)
    (mem_names_iff.mpr hsome)

lemma freshName_congr {folder : Location} {start : String} (h : ∀ n : Nat,
    files.node? (folder ++ [start ++ toString n]) =
      files'.node? (folder ++ [start ++ toString n])) :
    files.freshName folder start = files'.freshName folder start := by
  refine congrArg (fun n : Nat => start ++ toString n) (Naming.firstFree_congr ?_ fun n => ?_)
  · exact fun _ _ _ _ hsame => numbered_inj start hsame
  · rw [mem_names_iff, mem_names_iff, h]

end Nodes

section Walks

/-- Where steps lead from a place if folders are met all the way. -/
def walk (place : Location) : List String → Location
  | [] => place
  | step :: rest => if step = ".." then walk place.dropLast rest else walk (place ++ [step]) rest

lemma walk_append (place : Location) (steps more : List String) :
    walk place (steps ++ more) = walk (walk place steps) more := by
  induction steps generalizing place with
  | nil => rfl
  | cons step rest ih =>
    rw [List.cons_append, walk, walk]
    split
    · exact ih _
    · exact ih _

lemma walk_up {step : String} (hup : step = "..") (place : Location) (rest : List String) :
    walk place (step :: rest) = walk place.dropLast rest :=
  if_pos hup

lemma walk_into {step : String} (hup : step ≠ "..") (place : Location) (rest : List String) :
    walk place (step :: rest) = walk (place ++ [step]) rest :=
  if_neg hup

/-- There is one place only to which steps can lead. -/
lemma eq_walk_of_follow (h : files.follow start steps = .ok place) : place = walk start steps := by
  rw [follow_eq_ok_iff] at h
  induction h with
  | here => rfl
  | up hup _ ih => rw [walk_up hup, ← ih]
  | into hup _ _ _ ih => rw [walk_into hup, ← ih]
  | last hup _ _ => rw [walk_into hup, walk]

lemma follow_append (h : files.follow start steps = .ok place)
    (hfolder : files.node? place = some .folder) (more : List String) :
    files.follow start (steps ++ more) = files.follow place more := by
  rw [follow_eq_ok_iff] at h
  induction h with
  | here => rfl
  | up hup _ ih => rw [List.cons_append, follow, if_pos hup, ih hfolder]
  | into hup hshort hstep _ ih =>
    rw [List.cons_append, follow_into hup hshort hstep, ih hfolder]
  | last _ _ hother => exact absurd hfolder hother

end Walks

section Growth

/-- The tree with folders in places where nothing was. -/
def Grows (files files' : Files) : Prop :=
  ∀ l, files'.node? l = files.node? l ∨ files.node? l = none ∧ files'.node? l = some .folder

lemma Grows.refl (files : Files) : Grows files files :=
  fun _ => .inl rfl

lemma Grows.keeps (h : Grows files files') {l : Location} (hl : files.node? l ≠ none) :
    files'.node? l = files.node? l := by
  rcases h l with hsame | ⟨hnone, -⟩
  · exact hsame
  · exact absurd hnone hl

lemma Grows.eq_none (h : Grows files files') {l : Location} (hl : files'.node? l = none) :
    files.node? l = none := by
  rcases h l with hsame | ⟨hnone, -⟩
  · rw [← hsame, hl]
  · exact hnone

lemma Grows.file_iff (h : Grows files files') {l : Location} {content : Bytes}
    {executable : Bool} : files'.node? l = some (.file content executable) ↔
      files.node? l = some (.file content executable) := by
  rcases h l with hsame | ⟨hnone, hfolder⟩
  · rw [hsame]
  · simp [hnone, hfolder]

lemma Grows.trans {files'' : Files} (h : Grows files files') (h' : Grows files' files'') :
    Grows files files'' := by
  intro l
  rcases h' l with hsame | ⟨hnone, hfolder⟩
  · rw [hsame]
    exact h l
  · exact .inr ⟨h.eq_none hnone, hfolder⟩

lemma grows_put_folder (h : files.node? place = none) : Grows files (files.put place .folder) := by
  intro l
  have hplace : place ≠ [] := ne_nil_of_free h
  rw [node?_put files hplace]
  by_cases hl : l = place
  · exact .inr ⟨hl ▸ h, if_pos hl⟩
  · exact .inl (if_neg hl)

/-- One step of making folders: the rest goes on where the step leads, or the step is at fault. -/
lemma makeFolders_cons (files : Files) (start : Location) (step : String) (rest : List String) :
    files.makeFolders start (step :: rest) =
      if step = ".." then files.makeFolders start.dropLast rest
      else if nameLimit < step.utf8ByteSize then (.error .nameTooLong, files)
      else
        match files.node? (start ++ [step]) with
        | some .folder => files.makeFolders (start ++ [step]) rest
        | some (.file ..) => (.error (if rest = [] then .alreadyExists else .notFolder), files)
        | none => (files.put (start ++ [step]) .folder).makeFolders (start ++ [step]) rest :=
  rfl

lemma grows_makeFolders (files : Files) (start : Location) (steps : List String) :
    Grows files (files.makeFolders start steps).2 := by
  induction steps generalizing files start with
  | nil => exact .refl files
  | cons step rest ih =>
    rw [makeFolders_cons]
    split
    · exact ih files start.dropLast
    · split
      · exact .refl files
      · split
        · exact ih files (start ++ [step])
        · exact .refl files
        · next hnone => exact (grows_put_folder hnone).trans (ih _ (start ++ [step]))

lemma folder_of_makeFolders (h : files.node? place = some .folder) (start : Location)
    (steps : List String) : (files.makeFolders start steps).2.node? place = some .folder := by
  rw [(grows_makeFolders files start steps).keeps (by simp [h]), h]

lemma node?_put_step (files : Files) (start : Location) (step : String) (node : Node) :
    (files.put (start ++ [step]) node).node? (start ++ [step]) = some node := by
  rw [node?_put files (by simp), if_pos rfl]

lemma follow_of_makeFolders (h : (files.makeFolders start steps).1 = .ok ()) :
    (files.makeFolders start steps).2.follow start steps = .ok (walk start steps) := by
  induction steps generalizing files start with
  | nil => rfl
  | cons step rest ih =>
    rw [makeFolders_cons] at h ⊢
    rw [walk]
    by_cases hup : step = ".."
    · rw [if_pos hup] at h ⊢
      rw [if_pos hup, follow, if_pos hup]
      exact ih h
    · rw [if_neg hup] at h ⊢
      rw [if_neg hup]
      by_cases hlong : nameLimit < step.utf8ByteSize
      · rw [if_pos hlong] at h
        cases h
      · rw [if_neg hlong] at h ⊢
        have hshort := Nat.not_lt.mp hlong
        cases hnode : files.node? (start ++ [step]) with
        | none =>
          rw [hnode] at h
          have hmade := folder_of_makeFolders (node?_put_step files start step .folder)
            (start ++ [step]) rest
          exact (follow_into hup hshort hmade rest).trans (ih h)
        | some node =>
          rw [hnode] at h
          cases node with
          | folder =>
            have hkept := folder_of_makeFolders hnode (start ++ [step]) rest
            exact (follow_into hup hshort hkept rest).trans (ih h)
          | file content executable => cases h

/-- In a tree that keeps what was made there is nothing left to make, and what could not be made
still cannot. -/
lemma makeFolders_again {later : Files}
    (h : ∀ l, (files.makeFolders start steps).2.node? l ≠ none →
      later.node? l = (files.makeFolders start steps).2.node? l) :
    later.makeFolders start steps = ((files.makeFolders start steps).1, later) := by
  induction steps generalizing files start with
  | nil => rfl
  | cons step rest ih =>
    rw [makeFolders_cons] at h ⊢
    rw [makeFolders_cons]
    by_cases hup : step = ".."
    · rw [if_pos hup] at h ⊢
      rw [if_pos hup]
      exact ih h
    · rw [if_neg hup] at h ⊢
      rw [if_neg hup]
      by_cases hlong : nameLimit < step.utf8ByteSize
      · rw [if_pos hlong, if_pos hlong]
      · rw [if_neg hlong] at h ⊢
        rw [if_neg hlong]
        cases hnode : files.node? (start ++ [step]) with
        | none =>
          rw [hnode] at h
          dsimp only at h ⊢
          have hmade := folder_of_makeFolders (node?_put_step files start step .folder)
            (start ++ [step]) rest
          rw [h (start ++ [step]) (by simp [hmade]), hmade]
          exact ih h
        | some node =>
          rw [hnode] at h
          cases node with
          | folder =>
            dsimp only at h ⊢
            have hmade := folder_of_makeFolders hnode (start ++ [step]) rest
            rw [h (start ++ [step]) (by simp [hmade]), hmade]
            exact ih h
          | file content executable =>
            dsimp only at h ⊢
            rw [h (start ++ [step]) (by simp [hnode]), hnode]

/-- On a way that can be made, but has not been, nothing is found: it ends where the first folder is
missing, or at the name. -/
lemma follow_of_missing {name : String} (h : (files.makeFolders start steps).1 = .ok ())
    (hup : name ≠ "..") (hshort : name.utf8ByteSize ≤ nameLimit) (hnone :
      (files.makeFolders start steps).2.node? (walk start steps ++ [name]) = none) :
    files.follow start (steps ++ [name]) = .error .missing ∨
      files.follow start (steps ++ [name]) = .ok (walk start steps ++ [name]) := by
  induction steps generalizing files start with
  | nil => exact .inr (follow_singleton hup hshort)
  | cons step rest ih =>
    rw [makeFolders_cons] at h hnone
    rw [List.cons_append, walk, follow]
    rw [walk] at hnone
    by_cases hstep : step = ".."
    · rw [if_pos hstep] at h hnone ⊢
      rw [if_pos hstep] at hnone ⊢
      exact ih h hnone
    · rw [if_neg hstep] at h hnone ⊢
      rw [if_neg hstep] at hnone ⊢
      by_cases hlong : nameLimit < step.utf8ByteSize
      · rw [if_pos hlong] at h
        cases h
      · rw [if_neg hlong] at h hnone ⊢
        cases hnode : files.node? (start ++ [step]) with
        -- The way ends here, because the name still follows.
        | none => exact .inl (if_neg (by simp))
        | some node =>
          rw [hnode] at h hnone
          cases node with
          | folder => exact ih h hnone
          | file content executable => cases h

end Growth

section Standing

/-- Where a path leads if it meets folders only. -/
def placeOf (working : Location) (p : Path) : Location :=
  walk (origin working p) p.steps

lemma eq_placeOf_of_locate (h : files.locate working p = .ok place) :
    place = placeOf working p :=
  eq_walk_of_follow (locate_eq_ok_iff.mp h).2.1

lemma steps_join_step (p : Path) (h : Path.IsStep name) :
    (p.join name).steps = p.steps ++ [name] := by
  rw [Path.steps_join p (Path.isAbsolute_of_isStep h), Path.steps_of_isStep h]

lemma origin_join (working : Location) (p : Path) (h : Path.IsStep name) :
    origin working (p.join name) = origin working p := by
  rw [origin, Path.isAbsolute_join p (Path.isAbsolute_of_isStep h), origin]

lemma placeOf_join (working : Location) (p : Path) (h : Path.IsStep name) :
    placeOf working (p.join name) = placeOf working p ++ [name] := by
  rw [placeOf, origin_join working p h, steps_join_step p h, walk_append, walk, if_neg h.notUp]
  rfl

lemma eq_of_locate_join (hname : Path.IsStep name)
    (h : files.locate working (p.join name) = .ok place) : place = placeOf working p ++ [name] :=
  (eq_placeOf_of_locate h).trans (placeOf_join working p hname)

/-- The path of a folder that is there. -/
structure Stands (files : Files) (working : Location) (p : Path) : Prop where
  follow : files.follow (origin working p) p.steps = .ok (placeOf working p)
  folder : files.node? (placeOf working p) = some .folder

lemma stands_of_follow (h : files.follow (origin working p) p.steps = .ok place)
    (hfolder : files.node? place = some .folder) : files.Stands working p := by
  have hplace : place = placeOf working p := eq_walk_of_follow h
  subst hplace
  exact ⟨h, hfolder⟩

lemma Stands.of_folders (h : files.Stands working p)
    (hfolders : ∀ l, files.node? l = some .folder → files'.node? l = some .folder) :
    files'.Stands working p :=
  ⟨follow_of_folders hfolders (fun _ => h.folder) h.follow, hfolders _ h.folder⟩

lemma Stands.of_sameFolders (h : files.Stands working p) (hfolders : SameFolders files files') :
    files'.Stands working p :=
  h.of_folders fun l => (hfolders l).mp

lemma locate_join (h : files.Stands working p) (hname : Path.IsStep name)
    (hshort : name.utf8ByteSize ≤ nameLimit) (hbad : badPath? (p.join name) = none) :
    files.locate working (p.join name) = .ok (placeOf working p ++ [name]) := by
  refine locate_eq_ok_iff.mpr ⟨hbad, ?_, fun _ _ _ => Path.namesFolder_join p hname⟩
  rw [origin_join working p hname, steps_join_step p hname]
  exact (follow_append h.follow h.folder [name]).trans (follow_singleton hname.notUp hshort)

/-- A dotted name that leads to a file, where no folder has its stem, leads right below. -/
lemma locate_dotted (h : files.Stands working p) {stem format : String} (hstem : stem ≠ "")
    (hpoint : '.' ∉ stem.toList) (hslash : '/' ∉ stem.toList)
    (hfree : ∀ extension,
      files.node? (placeOf working p ++ [stem ++ "." ++ extension]) ≠ some .folder)
    (hlocate : files.locate working (p.join (stem ++ "." ++ format)) = .ok place)
    (hfile : (p.join (stem ++ "." ++ format)).namesFolder = false) :
    Path.IsStep (stem ++ "." ++ format) ∧ (stem ++ "." ++ format).utf8ByteSize ≤ nameLimit ∧
      place = placeOf working p ++ [stem ++ "." ++ format] := by
  obtain ⟨habsolute, extension, rest, hsteps, hslash', hwhole⟩ :=
    exists_steps_dotted p hstem hpoint hslash format
  have hstep := isStep_dotted hstem hpoint hslash hslash'
  have hfollow := (locate_eq_ok_iff.mp hlocate).2.1
  rw [origin, Path.isAbsolute_join p habsolute, Path.steps_join p habsolute, hsteps, ← origin,
    follow_append h.follow h.folder] at hfollow
  cases follow_eq_ok_iff.mp hfollow with
  | up hup _ => exact absurd hup hstep.notUp
  | into _ _ hfolder _ => exact absurd hfolder (hfree extension)
  | last _ hshort _ =>
    have hextension := hwhole rfl hfile
    subst hextension
    exact ⟨hstep, hshort, rfl⟩

end Standing

section Creating

/-- A path is bad for all trees, or else its folders are made step by step. -/
lemma createFolders_cases (working : Location) (p : Path) :
    (∃ fault, ∀ files : Files, files.createFolders working p = (.error fault, files)) ∨
      (p.text = "" ∨ badPath? p = none) ∧ ∀ files : Files,
        files.createFolders working p = files.makeFolders (origin working p) p.steps := by
  unfold createFolders
  by_cases hempty : p.text = ""
  · have hsteps : p.steps = [] := by
      rw [Path.steps, Path.pieces, hempty]
      rfl
    refine .inr ⟨.inl hempty, fun files => ?_⟩
    rw [if_pos hempty, hsteps]
    rfl
  · simp only [if_neg hempty]
    cases hbad : badPath? p with
    | some fault => exact .inl ⟨fault, fun _ => rfl⟩
    | none => exact .inr ⟨.inr rfl, fun _ => rfl⟩

lemma grows_createFolders (files : Files) (working : Location) (p : Path) :
    Grows files (files.createFolders working p).2 := by
  rcases createFolders_cases working p with ⟨fault, h⟩ | ⟨-, h⟩
  · rw [h]
    exact .refl files
  · rw [h]
    exact grows_makeFolders files _ _

lemma createFolders_again {later : Files}
    (h : ∀ l, (files.createFolders working p).2.node? l ≠ none →
      later.node? l = (files.createFolders working p).2.node? l) :
    later.createFolders working p = ((files.createFolders working p).1, later) := by
  rcases createFolders_cases working p with ⟨fault, hmake⟩ | ⟨-, hmake⟩
  · rw [hmake, hmake]
  · rw [hmake] at h ⊢
    rw [hmake]
    exact makeFolders_again h

lemma stands_of_createFolders (h : (files.createFolders working p).1 = .ok ())
    (hfolder : (files.createFolders working p).2.node? (placeOf working p) = some .folder) :
    (files.createFolders working p).2.Stands working p ∧ (p.text = "" ∨ badPath? p = none) := by
  rcases createFolders_cases working p with ⟨fault, hmake⟩ | ⟨hgood, hmake⟩
  · rw [hmake] at h
    cases h
  · rw [hmake] at h hfolder ⊢
    exact ⟨⟨follow_of_makeFolders h, hfolder⟩, hgood⟩

lemma read_join_of_createFolders (h : (files.createFolders working p).1 = .ok ())
    (hname : Path.IsStep name) (hshort : name.utf8ByteSize ≤ nameLimit)
    (hbad : badPath? (p.join name) = none)
    (hnone : (files.createFolders working p).2.node? (placeOf working p ++ [name]) = none) :
    files.read working (p.join name) = .error .missing := by
  have hmissing := (grows_createFolders files working p).eq_none hnone
  rcases createFolders_cases working p with ⟨fault, hmake⟩ | ⟨-, hmake⟩
  · rw [hmake] at h
    cases h
  · rw [hmake] at h hnone
    have hfollow := follow_of_missing h hname.notUp hshort hnone
    rw [← origin_join working p hname, ← steps_join_step p hname] at hfollow
    rcases hfollow with hfollow | hfollow
    · rw [read, locate, hbad, hfollow]
    · have hplace : walk (origin working (p.join name)) p.steps ++ [name] =
          placeOf working p ++ [name] := by
        rw [origin_join working p hname, placeOf]
      rw [hplace] at hfollow
      have hlocate := locate_eq_ok_iff.mpr ⟨hbad, hfollow, by simp [hmissing]⟩
      rw [read, hlocate]
      dsimp only
      rw [hmissing]

end Creating

end Files

end MailMerge
