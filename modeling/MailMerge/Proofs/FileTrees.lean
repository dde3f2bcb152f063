import MailMerge.Files.Tree
import Mathlib.Tactic.Lemma

/-!
# Changes of a file tree

A path leads to the same place in all trees with the same folders (`follow_of_sameFolders`), and a
change of a file makes no folder and takes none away. So what is written to a path is read from it,
and a file that is moved is read from its new path (`read_of_write`, `read_of_rename`).
-/

namespace MailMerge.Files

variable {files files' : Files} {working place : Location} {p : Path}

section Nodes

lemma lookup_putEntry (place l : Location) (node : Node) (entries : List (Location × Node)) :
    lookup l (putEntry place node entries) =
      if l = place then some node else lookup l entries := by
  induction entries with
  | nil => simp [putEntry, lookup, eq_comm]
  | cons e rest ih =>
    obtain ⟨k, n⟩ := e
    rw [putEntry]
    by_cases hk : k = place
    · rw [if_pos hk, lookup, lookup, hk]
      by_cases hl : place = l
      · simp [hl]
      · simp [hl, Ne.symm hl]
    · rw [if_neg hk, lookup, lookup, ih]
      by_cases hkl : k = l
      · rw [if_pos hkl, if_pos hkl, if_neg (hkl ▸ hk)]
      · rw [if_neg hkl, if_neg hkl]

lemma node?_put (files : Files) {place : Location} (hplace : place ≠ []) (node : Node)
    (l : Location) :
    (files.put place node).node? l = if l = place then some node else files.node? l := by
  unfold node? put
  by_cases hl : l = []
  · rw [if_pos hl, if_neg, if_pos hl]
    rintro rfl
    exact hplace hl
  · rw [if_neg hl, lookup_putEntry, if_neg hl]

lemma lookup_filter (test : Location → Bool) (l : Location) (entries : List (Location × Node)) :
    lookup l (entries.filter fun e => test e.1) = if test l then lookup l entries else none := by
  induction entries with
  | nil => simp [lookup]
  | cons e rest ih =>
    obtain ⟨k, n⟩ := e
    by_cases hk : test k
    · rw [List.filter_cons_of_pos (by exact hk), lookup, lookup, ih]
      by_cases hkl : k = l
      · rw [if_pos hkl, if_pos hkl, ← hkl, if_pos hk]
      · rw [if_neg hkl, if_neg hkl]
    · rw [List.filter_cons_of_neg (by simpa using hk), ih, lookup]
      by_cases hkl : k = l
      · rw [← hkl, if_neg hk, if_neg hk]
      · rw [if_neg hkl]

lemma node?_keep (files : Files) {test : Location → Bool} (hroot : test [] = true)
    (l : Location) : (files.keep test).node? l = if test l then files.node? l else none := by
  rw [node?, node?, keep]
  by_cases hl : l = []
  · rw [if_pos hl, if_pos hl, hl, if_pos hroot]
  · rw [if_neg hl, if_neg hl, lookup_filter]

lemma node?_erase (files : Files) {place : Location} (hplace : place ≠ []) (l : Location) :
    (files.erase place).node? l = if l = place then none else files.node? l := by
  rw [erase, node?_keep files (by simpa using hplace.symm)]
  by_cases hlp : l = place
  · simp [hlp]
  · simp [hlp]

lemma ne_nil_of_node? (h : files.node? place ≠ some .folder) : place ≠ [] := by
  rintro rfl
  exact h (if_pos rfl)

lemma ne_nil_of_free (h : files.node? place = none) : place ≠ [] := by
  rintro rfl
  cases h

end Nodes

section Folders

/-- Two trees have folders at the same places. -/
def SameFolders (files files' : Files) : Prop :=
  ∀ l, files.node? l = some .folder ↔ files'.node? l = some .folder

lemma SameFolders.symm (h : SameFolders files files') : SameFolders files' files :=
  fun l => (h l).symm

lemma SameFolders.trans {files'' : Files} (h : SameFolders files files')
    (h' : SameFolders files' files'') : SameFolders files files'' :=
  fun l => (h l).trans (h' l)

lemma sameFolders_of_node? {content : Bytes} {executable : Bool}
    (hplace : files.node? place ≠ some .folder) (h : ∀ l, files'.node? l =
      if l = place then some (.file content executable) else files.node? l) :
    SameFolders files files' := by
  intro l
  rw [h]
  by_cases hl : l = place
  · rw [if_pos hl, hl]
    simp [hplace]
  · rw [if_neg hl]

lemma sameFolders_put (hplace : files.node? place ≠ some .folder) (content : Bytes)
    (executable : Bool) : SameFolders files (files.put place (.file content executable)) :=
  sameFolders_of_node? hplace (node?_put files (ne_nil_of_node? hplace) _)

lemma sameFolders_erase (hplace : files.node? place ≠ some .folder) :
    SameFolders files (files.erase place) := by
  intro l
  rw [node?_erase files (ne_nil_of_node? hplace)]
  by_cases hl : l = place
  · rw [if_pos hl, hl]
    simp [hplace]
  · rw [if_neg hl]

/-- Steps lead upwards and into folders, and the last one to anything else. -/
inductive Follows (files : Files) : Location → List String → Location → Prop
  | here {start : Location} : Follows files start [] start
  | up {start place : Location} {step : String} {rest : List String} (hup : step = "..")
      (way : Follows files start.dropLast rest place) : Follows files start (step :: rest) place
  | into {start place : Location} {step : String} {rest : List String} (hup : step ≠ "..")
      (hshort : step.utf8ByteSize ≤ nameLimit)
      (hfolder : files.node? (start ++ [step]) = some .folder)
      (way : Follows files (start ++ [step]) rest place) : Follows files start (step :: rest) place
  | last {start : Location} {step : String} (hup : step ≠ "..")
      (hshort : step.utf8ByteSize ≤ nameLimit)
      (hother : files.node? (start ++ [step]) ≠ some .folder) :
      Follows files start [step] (start ++ [step])

lemma follow_into {start : Location} {step : String} (hup : step ≠ "..")
    (hshort : step.utf8ByteSize ≤ nameLimit)
    (hfolder : files.node? (start ++ [step]) = some .folder) (rest : List String) :
    files.follow start (step :: rest) = files.follow (start ++ [step]) rest := by
  rw [follow, if_neg hup, if_neg (Nat.not_lt.mpr hshort), hfolder]

lemma follow_singleton {start : Location} {step : String} (hup : step ≠ "..")
    (hshort : step.utf8ByteSize ≤ nameLimit) :
    files.follow start [step] = .ok (start ++ [step]) := by
  rw [follow, if_neg hup, if_neg (Nat.not_lt.mpr hshort)]
  split
  · rfl
  · exact if_pos rfl
  · exact if_pos rfl

lemma follow_eq_ok_iff {start : Location} {steps : List String} :
    files.follow start steps = .ok place ↔ Follows files start steps place := by
  constructor
  · intro h
    induction steps generalizing start with
    | nil =>
      cases h
      exact .here
    | cons step rest ih =>
      by_cases hup : step = ".."
      · rw [follow, if_pos hup] at h
        exact .up hup (ih h)
      · by_cases hlong : nameLimit < step.utf8ByteSize
        · rw [follow, if_neg hup, if_pos hlong] at h
          cases h
        · have hshort := Nat.not_lt.mp hlong
          by_cases hfolder : files.node? (start ++ [step]) = some .folder
          · rw [follow_into hup hshort hfolder] at h
            exact .into hup hshort hfolder (ih h)
          · cases rest with
            | nil =>
              rw [follow_singleton hup hshort] at h
              cases h
              exact .last hup hshort hfolder
            | cons next rest =>
              -- Only a folder leads to the steps behind it.
              rw [follow, if_neg hup, if_neg hlong] at h
              split at h
              · contradiction
              · cases h
              · cases h
  · intro h
    induction h with
    | here => rfl
    | up hup _ ih => rw [follow, if_pos hup, ih]
    | into hup hshort hfolder _ ih => rw [follow_into hup hshort hfolder, ih]
    | last hup hshort _ => exact follow_singleton hup hshort

/-- More folders do not change where steps lead from a folder, unless one is made at the end. -/
lemma follow_of_folders (h : ∀ l, files.node? l = some .folder → files'.node? l = some .folder)
    (hend : files'.node? place = some .folder → files.node? place = some .folder)
    {start : Location} {steps : List String} (hfollow : files.follow start steps = .ok place) :
    files'.follow start steps = .ok place := by
  rw [follow_eq_ok_iff] at hfollow ⊢
  induction hfollow with
  | here => exact .here
  | up hup _ ih => exact .up hup (ih hend)
  | into hup hshort hfolder _ ih => exact .into hup hshort (h _ hfolder) (ih hend)
  | last hup hshort hother => exact .last hup hshort (mt hend hother)

lemma follow_of_sameFolders (h : SameFolders files files') {start : Location}
    {steps : List String} (hfollow : files.follow start steps = .ok place) :
    files'.follow start steps = .ok place :=
  follow_of_folders (fun l => (h l).mp) (h place).mpr hfollow

end Folders

section Paths

lemma badPath?_eq_none_iff : badPath? p = none ↔
    p.text ≠ "" ∧ '\x00' ∉ p.text.toList ∧ p.text.utf8ByteSize ≤ pathLimit := by
  unfold badPath?
  by_cases hempty : p.text = ""
  · simp [hempty]
  · by_cases hnul : '\x00' ∈ p.text.toList
    · simp [hempty, hnul]
    · simp [hempty, hnul]

/-- A path leads to where its steps lead, but it names no file if it ends as a folder's path. -/
lemma locate_eq_ok_iff : files.locate working p = .ok place ↔
    badPath? p = none ∧ files.follow (origin working p) p.steps = .ok place ∧
      ∀ content executable, files.node? place = some (.file content executable) →
        p.namesFolder = false := by
  unfold locate
  cases hbad : badPath? p with
  | some fault => simp
  | none =>
    cases hfollow : files.follow (origin working p) p.steps with
    | error fault => simp
    | ok found =>
      dsimp only
      cases hnode : files.node? found with
      | none => grind
      | some node =>
        cases node with
        | folder => grind
        | file content executable =>
          by_cases hfolder : p.namesFolder = true
          · rw [if_pos hfolder]
            grind
          · rw [if_neg hfolder]
            grind

lemma locate_of_sameFolders (h : SameFolders files files') (hlocate : files.locate working p =
    .ok place) (hfile : p.namesFolder = false) : files'.locate working p = .ok place := by
  obtain ⟨hbad, hfollow, -⟩ := locate_eq_ok_iff.mp hlocate
  exact locate_eq_ok_iff.mpr ⟨hbad, follow_of_sameFolders h hfollow, fun _ _ _ => hfile⟩

lemma read_eq_ok_iff {content : Bytes} : files.read working p = .ok content ↔
    ∃ place executable, files.locate working p = .ok place ∧
      files.node? place = some (.file content executable) := by
  unfold read
  cases hlocate : files.locate working p with
  | error fault => simp
  | ok place =>
    dsimp only
    cases hnode : files.node? place with
    | none => simp [hnode]
    | some node =>
      cases node with
      | folder => simp [hnode]
      | file found executable => cases executable <;> simp [hnode]

lemma write_eq_ok {content : Bytes} (h : files.write working p content = .ok files') :
    ∃ place executable, files.locate working p = .ok place ∧ p.namesFolder = false ∧
      files.node? place ≠ some .folder ∧
      files' = files.put place (.file content executable) := by
  unfold write at h
  cases hlocate : files.locate working p with
  | error fault =>
    rw [hlocate] at h
    cases h
  | ok place =>
    rw [hlocate] at h
    dsimp only at h
    cases hnode : files.node? place with
    | none =>
      rw [hnode] at h
      by_cases hfolder : p.namesFolder = true
      · rw [if_pos hfolder] at h
        cases h
      · rw [if_neg hfolder] at h
        cases h
        exact ⟨place, false, rfl, by simpa using hfolder, by simp [hnode], rfl⟩
    | some node =>
      rw [hnode] at h
      cases node with
      | folder => cases h
      | file old executable =>
        cases h
        have hfile := (locate_eq_ok_iff.mp hlocate).2.2 old executable hnode
        exact ⟨place, executable, rfl, hfile, by simp [hnode], rfl⟩

/-- What is written to a path is read from it. -/
theorem read_of_write {content : Bytes} (h : files.write working p content = .ok files') :
    files'.read working p = .ok content := by
  obtain ⟨place, executable, hlocate, hfile, hother, rfl⟩ := write_eq_ok h
  refine read_eq_ok_iff.mpr ⟨place, executable, ?_, ?_⟩
  · exact locate_of_sameFolders (sameFolders_put hother content executable) hlocate hfile
  · rw [node?_put files (ne_nil_of_node? hother), if_pos rfl]

lemma rename_eq_ok {source target : Path} (h : files.rename working source target = .ok files') :
    ∃ start place content executable, files.locate working source = .ok start ∧
      files.node? start = some (.file content executable) ∧
      files.locate working target = .ok place ∧ target.namesFolder = false ∧
      files.node? place ≠ some .folder ∧
      files' = (files.erase start).put place (.file content executable) := by
  unfold rename at h
  cases hsource : files.locate working source with
  | error fault =>
    rw [hsource] at h
    cases h
  | ok start =>
    rw [hsource] at h
    dsimp only at h
    cases hstart : files.node? start with
    | none =>
      rw [hstart] at h
      cases h
    | some node =>
      rw [hstart] at h
      cases node with
      | folder => cases h
      | file content executable =>
        dsimp only at h
        cases htarget : files.locate working target with
        | error fault =>
          rw [htarget] at h
          cases h
        | ok place =>
          rw [htarget] at h
          dsimp only at h
          split at h
          · cases h
          · split at h
            · cases h
            · next hfolder =>
              split at h
              · cases h
              · next hplace =>
                cases h
                exact ⟨start, place, content, executable, rfl, hstart, rfl,
                  by simpa using hfolder, hplace, rfl⟩

/-- A file that is moved is read from its new path. -/
theorem read_of_rename {source target : Path} {content : Bytes}
    (hread : files.read working source = .ok content)
    (h : files.rename working source target = .ok files') :
    files'.read working target = .ok content := by
  obtain ⟨start, place, moved, executable, hsource, hstart, htarget, hfile, hplace, rfl⟩ :=
    rename_eq_ok h
  obtain ⟨start', executable', hsource', hstart'⟩ := read_eq_ok_iff.mp hread
  have hcontent : moved = content := by
    rw [hsource] at hsource'
    cases hsource'
    rw [hstart] at hstart'
    cases hstart'
    rfl
  have herased : SameFolders files (files.erase start) := sameFolders_erase (by simp [hstart])
  have hplace' : (files.erase start).node? place ≠ some .folder :=
    fun hfolder => hplace ((herased place).mpr hfolder)
  refine read_eq_ok_iff.mpr ⟨place, executable, ?_, ?_⟩
  · exact locate_of_sameFolders (herased.trans (sameFolders_put hplace' moved executable)) htarget
      hfile
  · rw [node?_put _ (ne_nil_of_node? hplace'), if_pos rfl, hcontent]

end Paths

end MailMerge.Files
