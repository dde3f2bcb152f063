import MailMerge.Office
import MailMerge.Proofs.CommandFiles
import MailMerge.Proofs.StoreBorders

/-!
# Scratch folders

A document is converted in a folder with a new name. Nothing is below such a folder, and it is
taken away with all below it, however the conversion ends. So no file has changed after it, unless
the document's name leads out of the folder (`convert_leaves_files`).
-/

namespace MailMerge

open Files (SameFileAt SameFiles)

variable {host : Host} {files made given after : Files} {working start place : Location}
  {folder p : Path} {name : String} {steps : List String}

namespace Files

section Subtrees

/-- A place is in a folder, or in a folder in it, and so on. -/
def Below (folder l : Location) : Prop :=
  folder <+: l ∧ l ≠ folder

lemma node?_eraseBelow (files : Files) (hplace : place ≠ []) (l : Location) :
    (files.eraseBelow place).node? l = if place <+: l then none else files.node? l := by
  have hroot : (!place.isPrefixOf []) = true := by
    cases place with
    | nil => exact absurd rfl hplace
    | cons step rest => rfl
  rw [eraseBelow, node?_keep files hroot]
  by_cases hbelow : place <+: l
  · simp [hbelow]
  · simp [hbelow]

lemma Rooted.folder_above (h : files.Rooted) {rest : List String} (hrest : rest ≠ [])
    (hnode : files.node? (place ++ rest) ≠ none) : files.node? place = some .folder := by
  induction rest using List.reverseRecOn with
  | nil => exact absurd rfl hrest
  | append_singleton front name ih =>
    have hfolder : files.node? (place ++ front) = some .folder :=
      h _ name (by rwa [List.append_assoc])
    by_cases hfront : front = []
    · rwa [hfront, List.append_nil] at hfolder
    · exact ih hfront (by simp [hfolder])

lemma Rooted.eq_none_of_below (h : files.Rooted) (hplace : files.node? place ≠ some .folder)
    {l : Location} (hl : Below place l) : files.node? l = none := by
  obtain ⟨⟨rest, rfl⟩, hne⟩ := hl
  by_contra hnode
  exact hplace (h.folder_above (fun hrest => hne (by rw [hrest, List.append_nil])) hnode)

lemma Rooted.put_folder (h : files.Rooted) (hfolder : files.node? place = some .folder)
    (name : String) : (files.put (place ++ [name]) .folder).Rooted := by
  intro l last hnode
  rw [node?_put files (by simp)] at hnode ⊢
  split
  · rfl
  · split at hnode
    · next hsame => rwa [(List.append_inj' hsame rfl).1]
    · exact h l last hnode

lemma Rooted.makeFolders (h : files.Rooted) (hstart : files.node? start = some .folder)
    (steps : List String) : (files.makeFolders start steps).2.Rooted := by
  induction steps generalizing files start with
  | nil => exact h
  | cons step rest ih =>
    rw [makeFolders_cons]
    split
    · exact ih h (h.folder_dropLast hstart)
    · split
      · exact h
      · split
        · next hnode => exact ih h hnode
        · exact h
        · exact ih (h.put_folder hstart step) (node?_put_step files start step .folder)

lemma Sound.rooted_createFolders (h : files.Sound working) (p : Path) :
    (files.createFolders working p).2.Rooted := by
  rcases createFolders_cases working p with ⟨fault, hmake⟩ | ⟨-, hmake⟩
  · rw [hmake]
    exact h.rooted
  · rw [hmake]
    exact h.rooted.makeFolders (h.origin p) p.steps

end Subtrees

section Emptiness

/-- The path of a folder in which nothing is. -/
structure NewFolder (working : Location) (p : Path) (files : Files) : Prop where
  stands : files.Stands working p
  good : badPath? p = none
  notRoot : placeOf working p ≠ []
  empty : ∀ l, Below (placeOf working p) l → files.node? l = none

lemma Rooted.newFolder (h : files.Rooted) {beginning : String} (hslash : '/' ∉ beginning.toList)
    (hfresh : files.freshPlace working folder beginning = .ok (place, p)) :
    NewFolder working p (files.put place .folder) := by
  obtain ⟨hstands, hlocate, -, hfree, n, rfl⟩ := numbered_of_freshPlace hslash hfresh
  have hstep := isStep_numbered hslash n
  have hplace := eq_of_locate_join hstep hlocate
  have hshort := short_of_locate_join hstep hlocate
  have hnew : (files.put place .folder).node? place = some .folder := by
    rw [node?_put files (ne_nil_of_free hfree), if_pos rfl]
  have hstands' : (files.put place .folder).Stands working folder := by
    refine hstands.of_folders fun l hl => ?_
    rw [(grows_put_folder hfree).keeps (by simp [hl]), hl]
  have hfollow : (files.put place .folder).follow
      (origin working (folder.join (beginning ++ toString n)))
      (folder.join (beginning ++ toString n)).steps = .ok place := by
    rw [origin_join working folder hstep, steps_join_step folder hstep,
      follow_append hstands'.follow hstands'.folder, follow_singleton hstep.notUp hshort, hplace]
  refine ⟨stands_of_follow hfollow hnew, (locate_eq_ok_iff.mp hlocate).1, ?_, fun l hl => ?_⟩
  · rw [placeOf_join working folder hstep]
    exact List.append_ne_nil_of_right_ne_nil _ (by simp)
  · rw [placeOf_join working folder hstep, ← hplace] at hl
    rw [node?_put files (ne_nil_of_free hfree), if_neg hl.2]
    exact h.eq_none_of_below (by simp [hfree]) hl

/-- Steps from an empty folder stay in it, unless the first one leads upwards. -/
lemma prefix_of_follow (hempty : ∀ step, files.node? (start ++ [step]) = none)
    (hup : steps.head? ≠ some "..") (h : files.follow start steps = .ok place) :
    start <+: place := by
  cases follow_eq_ok_iff.mp h with
  | here => exact List.prefix_refl start
  | up hstep _ => exact absurd (congrArg some hstep) hup
  | into _ _ hfolder _ =>
    rw [hempty] at hfolder
    cases hfolder
  | last _ _ _ => exact List.prefix_append start _

/-- A name leads out of a folder: it is that of a path from the root, or leads upwards at once. -/
def leadsOut (name : String) : Bool :=
  Path.isAbsolute ⟨name⟩ || (Path.steps ⟨name⟩).head? == some ".."

lemma leadsOut_of_isStep (h : Path.IsStep name) : leadsOut name = false := by
  rw [leadsOut, Path.isAbsolute_of_isStep h, Path.steps_of_isStep h]
  simpa using h.notUp

lemma NewFolder.prefix_of_locate (h : NewFolder working p files) (hinside : leadsOut name = false)
    (hlocate : files.locate working (p.join name) = .ok place) : placeOf working p <+: place := by
  rw [leadsOut, Bool.or_eq_false_iff, beq_eq_false_iff_ne] at hinside
  obtain ⟨habsolute, hup⟩ := hinside
  have hfollow := (locate_eq_ok_iff.mp hlocate).2.1
  rw [origin, Path.isAbsolute_join p habsolute, Path.steps_join p habsolute, ← origin,
    follow_append h.stands.follow h.stands.folder] at hfollow
  exact prefix_of_follow (fun step => h.empty _ ⟨List.prefix_append _ _, by simp⟩) hup hfollow

end Emptiness

section Removal

/-- The tree after the attempt to remove a folder. -/
def without (files : Files) (working : Location) (p : Path) : Files :=
  (files.change (files.removeFolder working p)).2

lemma node?_without (h : files.Stands working p) (hgood : badPath? p = none)
    (hroot : placeOf working p ≠ []) (l : Location) :
    (files.without working p).node? l =
      if placeOf working p <+: l then none else files.node? l := by
  have hlocate : files.locate working p = .ok (placeOf working p) :=
    locate_eq_ok_iff.mpr ⟨hgood, h.follow, by simp [h.folder]⟩
  have hremove : files.removeFolder working p = .ok (files.eraseBelow (placeOf working p)) := by
    rw [removeFolder, hlocate]
    dsimp only
    rw [h.folder]
  rw [without, hremove]
  exact node?_eraseBelow files hroot l

/-- Two trees differ only below a folder. -/
def SameOutside (folder : Location) (files files' : Files) : Prop :=
  ∀ l, ¬Below folder l → files'.node? l = files.node? l

lemma NewFolder.node?_without (h : NewFolder working p made) (hgiven : SameFolders made given)
    (hafter : SameOutside (placeOf working p) given after) (l : Location) :
    (after.without working p).node? l =
      if placeOf working p <+: l then none else given.node? l := by
  -- All folders of the tree, the new one among them, are outside of what has changed.
  have hstands : after.Stands working p := by
    refine h.stands.of_folders fun l hfolder => ?_
    rw [hafter l fun hbelow => ?_]
    · exact (hgiven l).mp hfolder
    · rw [h.empty l hbelow] at hfolder
      cases hfolder
  rw [Files.node?_without hstands h.good h.notRoot]
  split
  · rfl
  · next hother => exact hafter l fun hbelow => hother hbelow.1

lemma NewFolder.sameFileAt_without (h : NewFolder working p made) (hgiven : SameFolders made given)
    (hafter : SameOutside (placeOf working p) given after) {l : Location}
    (hl : ¬placeOf working p <+: l → given.node? l = made.node? l) :
    SameFileAt l made (after.without working p) := by
  have hwithout := h.node?_without hgiven hafter l
  intro content executable
  by_cases hwithin : placeOf working p <+: l
  · have hmade : made.node? l ≠ some (.file content executable) := by
      by_cases hsame : l = placeOf working p
      · rw [hsame, h.stands.folder]
        simp
      · simp [h.empty l ⟨hwithin, hsame⟩]
    rw [hwithout, if_pos hwithin]
    simp [hmade]
  · rw [hwithout, if_neg hwithin, hl hwithin]

end Removal

end Files

namespace Office

variable {around : Surroundings} {settings : Settings} {limit : Option Nat} {a : Artifact}
  {parent program : Path} {fault : FileFault}

section Runs

lemma snd_run_firstProgram (paths : List Path) (files : Files) :
    ((firstProgram paths).run host files).2 = files := by
  induction paths with
  | nil => rfl
  | cons p rest ih =>
    simp only [firstProgram, bind, Program.bind, Program.perform, Program.run, Operation.apply]
    cases files.kind? host.working p with
    | none => exact ih
    | some kind =>
      cases kind with
      | program => rfl
      | file => exact ih
      | folder => exact ih

/-- A folder for a conversion, or why there is none, and the tree then. -/
def scratch (around : Surroundings) (parent : Path) (host : Host) (files : Files) :
    Except FileFault Path × Files :=
  match files.createFolders host.working parent with
  | (.error fault, made) => (.error fault, made)
  | (.ok (), made) =>
    made.create .folder
      (made.freshPlace host.working (around.working.seenFrom parent) "docfill-convert-")

lemma run_withScratch (use : Path → Program Converter.Outcome) :
    (withScratch around parent use).run host files =
      match scratch around parent host files with
      | (.error fault, made) => (.failed (.file fault), made)
      | (.ok folder, made) =>
        (((use folder).run host made).1,
          ((use folder).run host made).2.without host.working folder) := by
  simp only [withScratch, scratch, bind, Program.bind, Program.perform, Program.run,
    Operation.apply]
  cases files.createFolders host.working parent with
  | mk answer made =>
    cases answer with
    | error fault => rfl
    | ok _ =>
      dsimp only [Program.run, Operation.apply]
      cases made.freshPlace host.working (around.working.seenFrom parent) "docfill-convert-" with
      | error fault => rfl
      | ok new => exact Program.run_bind host (use new.2) _ _

/-- What is told of a conversion once the program has been called. -/
def verdict (binary : String) (host : Host) (folder : Path) (a : Artifact)
    (launched : Except FileFault (Option Ending) × Files) : Converter.Outcome :=
  match launched.1 with
  | .error fault => .failed (.conversion s!"failed to launch {binary}: {fault.message}")
  | .ok none => .unfinished
  | .ok (some ending) =>
    if ending.code ≠ some 0 then .failed (.conversion (errorText ending))
    else
      match launched.2.read host.working (folder.join (resultName a)) with
      | .ok content => .finished ⟨resultName a, content⟩
      | .error _ =>
        .failed (.conversion s!"{binary} produced no {resultName a}: {errorText ending}")

lemma run_convertIn (binary : String) (program folder : Path) (limit : Option Nat) (a : Artifact) :
    (convertIn binary program folder limit a).run host made =
      match made.write host.working (folder.join a.name) a.content with
      | .error fault => (.failed (.file fault), made)
      | .ok given =>
        (verdict binary host folder a
            (host.launch (call program folder (folder.join a.name)) limit given),
          (host.launch (call program folder (folder.join a.name)) limit given).2) := by
  simp only [convertIn, bind, Program.bind, Program.perform, Program.run, Operation.apply]
  cases made.write host.working (folder.join a.name) a.content with
  | error fault => rfl
  | ok given =>
    dsimp only [Files.change, Program.run, Operation.apply, verdict]
    cases (host.launch (call program folder (folder.join a.name)) limit given).1 with
    | error fault => rfl
    | ok answer =>
      cases answer with
      | none => rfl
      | some ending =>
        dsimp only
        split
        · rfl
        · dsimp only [Program.run, Operation.apply]
          cases (host.launch (call program folder (folder.join a.name)) limit given).2.read
            host.working (folder.join (resultName a)) with
          | error fault => rfl
          | ok content => rfl

lemma run_convert (around : Surroundings) (settings : Settings) (limit : Option Nat)
    (a : Artifact) :
    (convert around settings limit a).run host files =
      match ((locate around settings.converterBinary).run host files).1 with
      | none => (.failed (.toolMissing settings.converterBinary installation), files)
      | some program =>
        (withScratch around ⟨settings.scratchFolder⟩ fun folder =>
          convertIn settings.converterBinary program folder limit a).run host files := by
  change (Program.bind _ _).run host files = _
  rw [Program.run_bind, locate, snd_run_firstProgram]
  cases ((firstProgram (candidates around settings.converterBinary)).run host files).1 <;> rfl

end Runs

section Traces

lemma grows_scratch (around : Surroundings) (parent : Path) (host : Host) (files : Files) :
    Files.Grows files (scratch around parent host files).2 := by
  have hgrows := Files.grows_createFolders files host.working parent
  unfold scratch
  split
  · next hmade => rwa [hmade] at hgrows
  · next made hmade =>
    rw [hmade] at hgrows
    cases hfresh : made.freshPlace host.working (around.working.seenFrom parent)
        "docfill-convert-" with
    | error fault => exact hgrows
    | ok new =>
      obtain ⟨place, folder⟩ := new
      have hfree := (Files.numbered_of_freshPlace (by decide) hfresh).2.2.2.1
      exact hgrows.trans (Files.grows_put_folder hfree)

lemma newFolder_of_scratch (hsound : files.Sound host.working)
    (h : scratch around parent host files = (.ok folder, made)) :
    Files.NewFolder host.working folder made := by
  have hrooted := hsound.rooted_createFolders parent
  unfold scratch at h
  split at h
  · cases h
  · next between hmade =>
    rw [hmade] at hrooted
    cases hfresh : between.freshPlace host.working (around.working.seenFrom parent)
        "docfill-convert-" with
    | error fault =>
      rw [hfresh] at h
      cases h
    | ok new =>
      rw [hfresh] at h
      cases h
      exact hrooted.newFolder (by decide) hfresh

end Traces

end Office

/-- Calls of the office suite change nothing but what is below the folder that they are given. -/
def Host.KeepsToFolder (host : Host) : Prop :=
  ∀ (program folder input : Path) (limit : Option Nat) (files : Files),
    files.Stands host.working folder →
      Files.SameOutside (Files.placeOf host.working folder) files
        (host.launch (Office.call program folder input) limit files).2

namespace Office

/-- The document's own file is outside the scratch folder, and no other file has changed. -/
def LeftInput (host : Host) (folder : Path) (a : Artifact) (made after : Files) : Prop :=
  ∃ place executable, made.locate host.working (folder.join a.name) = .ok place ∧
    ¬Files.placeOf host.working folder <+: place ∧
    after.node? place = some (.file a.content executable) ∧
    ∀ l, l ≠ place → SameFileAt l made after

/-- What is written below a new folder goes with it, and so does the document, unless its name leads
out of the folder. -/
lemma leaves_convertIn (hkeeps : host.KeepsToFolder)
    (hnew : Files.NewFolder host.working folder made) (binary : String) (program : Path)
    (limit : Option Nat) (a : Artifact) :
    let after := ((convertIn binary program folder limit a).run host made).2.without
      host.working folder
    SameFiles made after ∨ Files.leadsOut a.name = true ∧ LeftInput host folder a made after := by
  rw [run_convertIn]
  cases hwrite : made.write host.working (folder.join a.name) a.content with
  | error fault =>
    exact .inl fun l => hnew.sameFileAt_without (fun _ => Iff.rfl) (fun _ _ => rfl) fun _ => rfl
  | ok given =>
    obtain ⟨place, executable, hlocate, -, hother, rfl⟩ := Files.write_eq_ok hwrite
    have hnode := Files.node?_put made (Files.ne_nil_of_node? hother) (.file a.content executable)
    have hfolders := Files.sameFolders_put hother a.content executable
    have hafter := hkeeps program folder (folder.join a.name) limit _
      (hnew.stands.of_sameFolders hfolders)
    dsimp only
    by_cases hinside : Files.placeOf host.working folder <+: place
    · refine .inl fun l => hnew.sameFileAt_without hfolders hafter fun hl => ?_
      rw [hnode, if_neg]
      rintro rfl
      exact hl hinside
    · have hout : Files.leadsOut a.name = true := by
        by_contra hnot
        exact hinside (hnew.prefix_of_locate (by simpa using hnot) hlocate)
      refine .inr ⟨hout, place, executable, hlocate, hinside, ?_, fun l hl => ?_⟩
      · rw [hnew.node?_without hfolders hafter, if_neg hinside, hnode, if_pos rfl]
      · exact hnew.sameFileAt_without hfolders hafter fun _ => by rw [hnode, if_neg hl]

/-- After a conversion no file has changed, whatever it came to. Only a document whose name leads
out of the scratch folder may still be there, as the one file that has changed. -/
theorem convert_leaves_files (hkeeps : host.KeepsToFolder) (hsound : files.Sound host.working)
    (around : Surroundings) (settings : Settings) (limit : Option Nat) (a : Artifact) :
    let after := ((convert around settings limit a).run host files).2
    (Files.leadsOut a.name = false → SameFiles files after) ∧
      (Files.leadsOut a.name = true → SameFiles files after ∨ ∃ folder made,
        scratch around ⟨settings.scratchFolder⟩ host files = (.ok folder, made) ∧
          SameFiles files made ∧ LeftInput host folder a made after) := by
  dsimp only
  rw [run_convert]
  cases ((locate around settings.converterBinary).run host files).1 with
  | none => exact ⟨fun _ => .refl files, fun _ => .inl (.refl files)⟩
  | some program =>
    have hgrows := grows_scratch around ⟨settings.scratchFolder⟩ host files
    dsimp only
    rw [run_withScratch]
    rcases hscratch : scratch around ⟨settings.scratchFolder⟩ host files with ⟨_ | folder, made⟩
    · rw [hscratch] at hgrows
      exact ⟨fun _ => hgrows.sameFiles, fun _ => .inl hgrows.sameFiles⟩
    · rw [hscratch] at hgrows
      rcases leaves_convertIn hkeeps (newFolder_of_scratch hsound hscratch)
        settings.converterBinary program limit a with hsame | ⟨hout, hleft⟩
      · exact ⟨fun _ => hgrows.sameFiles.trans hsame, fun _ => .inl (hgrows.sameFiles.trans hsame)⟩
      · refine ⟨fun hinside => ?_, fun _ => .inr ⟨folder, made, rfl, hgrows.sameFiles, hleft⟩⟩
        rw [hout] at hinside
        cases hinside

section Sample

/-- A machine where the office suite writes one file into its folder. -/
def sampleOffice : Host where
  working := []
  launch call _ files :=
    match files.locate [] ⟨call.arguments.getD 6 ""⟩ with
    | .error fault => (.error fault, files)
    | .ok folder =>
      (.ok (some ⟨some 0, [], []⟩), files.put (folder ++ ["letter.pdf"]) (.file [2] false))

lemma keepsToFolder_sampleOffice : sampleOffice.KeepsToFolder := by
  intro program folder input limit files hstands l hl
  have hgiven : (call program folder input).arguments.getD 6 "" = folder.text := rfl
  dsimp only [sampleOffice]
  rw [hgiven]
  cases hlocate : files.locate [] folder with
  | error fault => rfl
  | ok place =>
    have hplace := Files.eq_placeOf_of_locate hlocate
    have hother : l ≠ place ++ ["letter.pdf"] := by
      rintro rfl
      exact hl (hplace ▸ ⟨List.prefix_append _ _, by simp⟩)
    dsimp only
    rw [Files.node?_put files (by simp), if_neg hother]

/-- A program, and a folder for conversions with an old file in it. -/
def sampleSuite : Files where
  entries := [(["office"], .file [] true), (["scratch"], .folder),
    (["scratch", "old"], .file [7] false)]
  distinct := by decide

lemma sound_sampleSuite : sampleSuite.Sound sampleOffice.working :=
  Files.sound_of_entries (by decide) (by decide) rfl

def officeSettings : Settings :=
  { Settings.standard "/tmp" with converterBinary := "/office", scratchFolder := "scratch" }

/-- A conversion of a short document of this name. -/
def sampleConversion (name : String) : Program Converter.Outcome :=
  convert ⟨⟨"/"⟩, []⟩ officeSettings none ⟨name, [1]⟩

theorem convert_leaves_files_letter :
    sampleOffice.KeepsToFolder ∧ sampleSuite.Sound sampleOffice.working ∧
      Files.leadsOut "letter.txt" = false ∧
      ((sampleConversion "letter.txt").run sampleOffice sampleSuite).1 =
        .finished ⟨"letter.pdf", [2]⟩ ∧
      SameFiles sampleSuite ((sampleConversion "letter.txt").run sampleOffice sampleSuite).2 := by
  have hinside : Files.leadsOut "letter.txt" = false :=
    Files.leadsOut_of_isStep ⟨by decide, by decide, by decide⟩
  exact ⟨keepsToFolder_sampleOffice, sound_sampleSuite, hinside, by decide +kernel,
    (convert_leaves_files keepsToFolder_sampleOffice sound_sampleSuite ⟨⟨"/"⟩, []⟩ officeSettings
      none ⟨"letter.txt", [1]⟩).1 hinside⟩

/-- A document whose name leads upwards is left beside its scratch folder. -/
theorem not_convert_leaves_files_upwards :
    sampleOffice.KeepsToFolder ∧ sampleSuite.Sound sampleOffice.working ∧
      ((sampleConversion "../left.txt").run sampleOffice sampleSuite).2.node?
        ["scratch", "left.txt"] = some (.file [1] false) ∧
      ¬SameFiles sampleSuite ((sampleConversion "../left.txt").run sampleOffice sampleSuite).2 := by
  have hleft : ((sampleConversion "../left.txt").run sampleOffice sampleSuite).2.node?
      ["scratch", "left.txt"] = some (.file [1] false) := by
    decide +kernel
  refine ⟨keepsToFolder_sampleOffice, sound_sampleSuite, hleft, fun hsame => ?_⟩
  have hbefore := (hsame ["scratch", "left.txt"] [1] false).mp hleft
  exact absurd hbefore (by decide)

end Sample

end Office

end MailMerge
