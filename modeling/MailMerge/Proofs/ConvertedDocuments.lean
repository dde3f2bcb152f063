import MailMerge.Proofs.ScratchFolders

/-!
# Converted documents

A conversion comes to a document exactly if the program ends well and has itself written a file
under the name of the result, unless the document's own file has that name and is still there. In
all other cases in which the program ends, the conversion fails (`converted_iff_wrote`).
-/

namespace MailMerge.Office

variable {host : Host} {files made given : Files} {a : Artifact} {folder program : Path}
  {name : String} {content : Bytes}
  {launched : Except FileFault (Option Ending) × Files} {r : Artifact}

section Names

lemma resultName_eq (a : Artifact) : resultName a = a.stem ++ ".pdf" := by
  rw [resultName, targetExtension, String.append_assoc]
  rfl

lemma mem_name_of_mem_stem {c : Char} (h : c ∈ a.stem.toList) : c ∈ a.name.toList := by
  unfold Artifact.stem at h
  split at h
  · next before after hcut =>
    rw [String.toList_ofList] at h
    rw [(Text.cutLast_eq_some_iff.mp hcut).2]
    exact List.mem_append_left _ h
  · exact h

lemma isStep_resultName (h : Path.IsStep a.name) : Path.IsStep (resultName a) := by
  rw [resultName_eq]
  refine Path.isStep_of_mem (c := 'p') ?_ (by simp) (by decide)
  rw [String.toList_append, List.mem_append]
  rintro (hslash | hslash)
  · exact h.noSlash (mem_name_of_mem_stem hslash)
  · exact absurd hslash (by decide)

end Names

section Verdicts

/-- The program was started and has ended with the code of success. -/
def EndedWell (launched : Except FileFault (Option Ending) × Files) : Prop :=
  ∃ ending, launched.1 = .ok (some ending) ∧ ending.code = some 0

lemma verdict_eq_unfinished_iff (binary : String) :
    verdict binary host folder a launched = .unfinished ↔ launched.1 = .ok none := by
  unfold verdict
  split
  · next h => simp [h]
  · next h => simp [h]
  · next h =>
    rw [h]
    split
    · simp
    · split <;> simp

lemma verdict_eq_finished_iff (binary : String) :
    verdict binary host folder a launched = .finished r ↔
      EndedWell launched ∧ r.name = resultName a ∧
        launched.2.read host.working (folder.join (resultName a)) = .ok r.content := by
  unfold verdict EndedWell
  split
  · next h => simp [h]
  · next h => simp [h]
  · next ending h =>
    rw [h]
    by_cases hcode : ending.code = some 0
    · rw [if_neg (not_not.mpr hcode)]
      obtain ⟨name, content⟩ := r
      split
      · next found hread => grind
      · next fault hread => simp [hread]
    · rw [if_pos hcode]
      simp [hcode]

lemma verdict_cases (binary : String) (host : Host) (folder : Path) (a : Artifact)
    (launched : Except FileFault (Option Ending) × Files) :
    verdict binary host folder a launched = .unfinished ∨
      (∃ r, verdict binary host folder a launched = .finished r) ∨
      ∃ text, verdict binary host folder a launched = .failed (.conversion text) := by
  unfold verdict
  split
  · exact .inr (.inr ⟨_, rfl⟩)
  · exact .inl rfl
  · split
    · exact .inr (.inr ⟨_, rfl⟩)
    · split
      · exact .inr (.inl ⟨_, rfl⟩)
      · exact .inr (.inr ⟨_, rfl⟩)

end Verdicts

section Writing

/-- The program has ended well, and a file with this content is under the name of the result, which
was not there when the program was called. -/
structure Wrote (host : Host) (folder : Path) (a : Artifact) (given : Files)
    (launched : Except FileFault (Option Ending) × Files) (content : Bytes) : Prop where
  ended : EndedWell launched
  there : launched.2.read host.working (folder.join (a.stem ++ ".pdf")) = .ok content
  new : given.read host.working (folder.join (a.stem ++ ".pdf")) ≠ .ok content

/-- Nothing but the document can be read in its new folder. -/
lemma eq_of_read_given (hnew : Files.NewFolder host.working folder made)
    (hwrite : made.write host.working (folder.join a.name) a.content = .ok given)
    (hdocument : Path.IsStep a.name) (hname : Path.IsStep name)
    (hread : given.read host.working (folder.join name) = .ok content) :
    name = a.name ∧ content = a.content := by
  obtain ⟨place, executable, hlocate, -, hother, rfl⟩ := Files.write_eq_ok hwrite
  obtain ⟨found, executable', hfound, hnode⟩ := Files.read_eq_ok_iff.mp hread
  rw [Files.node?_put made (Files.ne_nil_of_node? hother),
    Files.eq_of_locate_join hdocument hlocate, Files.eq_of_locate_join hname hfound] at hnode
  by_cases hsame : name = a.name
  · rw [if_pos (by rw [hsame])] at hnode
    cases hnode
    exact ⟨hsame, rfl⟩
  · rw [if_neg (by simpa using hsame), hnew.empty _ ⟨List.prefix_append _ _, by simp⟩] at hnode
    cases hnode

/-- What is found under the name of the result is what the program has written, or else it is the
document itself. -/
lemma verdict_eq_finished_iff_wrote (hnew : Files.NewFolder host.working folder made)
    (hwrite : made.write host.working (folder.join a.name) a.content = .ok given)
    (hname : Path.IsStep a.name) (binary : String)
    (hother : ¬(a.name = a.stem ++ ".pdf" ∧ EndedWell launched ∧
      launched.2.read host.working (folder.join a.name) = .ok a.content)) :
    verdict binary host folder a launched = .finished r ↔
      r.name = a.stem ++ ".pdf" ∧ Wrote host folder a given launched r.content := by
  rw [verdict_eq_finished_iff, resultName_eq]
  constructor
  · rintro ⟨hended, hresult, hthere⟩
    refine ⟨hresult, hended, hthere, fun hbefore => hother ?_⟩
    obtain ⟨hsame, hcontent⟩ :=
      eq_of_read_given hnew hwrite hname (resultName_eq a ▸ isStep_resultName hname) hbefore
    rw [hsame, hcontent] at hthere
    exact ⟨hsame.symm, hended, hthere⟩
  · rintro ⟨hresult, hwrote⟩
    exact ⟨hwrote.ended, hresult, hwrote.there⟩

/-- A conversion whose program is found fails with a fault of the files if there is no scratch
folder with the document in it. Else it comes to a document exactly if the program has written it
under the name of the result, and fails as a conversion if the program ends otherwise. Left out is
that the program ends well and the document, which has the name of the result, is as it was. -/
theorem converted_iff_wrote (hsound : files.Sound host.working) (around : Surroundings)
    (settings : Settings) (limit : Option Nat) (hname : Path.IsStep a.name)
    (hfound : ((locate around settings.converterBinary).run host files).1 = some program) :
    let outcome := ((convert around settings limit a).run host files).1
    (∀ fault made, scratch around ⟨settings.scratchFolder⟩ host files = (.error fault, made) →
      outcome = .failed (.file fault)) ∧
    ∀ folder made, scratch around ⟨settings.scratchFolder⟩ host files = (.ok folder, made) →
      (∀ fault, made.write host.working (folder.join a.name) a.content = .error fault →
        outcome = .failed (.file fault)) ∧
      ∀ given, made.write host.working (folder.join a.name) a.content = .ok given →
        let launched := host.launch (call program folder (folder.join a.name)) limit given
        ¬(a.name = a.stem ++ ".pdf" ∧ EndedWell launched ∧
          launched.2.read host.working (folder.join a.name) = .ok a.content) →
        (outcome = .unfinished ↔ launched.1 = .ok none) ∧
        (∀ r, outcome = .finished r ↔
          r.name = a.stem ++ ".pdf" ∧ Wrote host folder a given launched r.content) ∧
        (launched.1 ≠ .ok none → (∀ content, ¬Wrote host folder a given launched content) →
          ∃ text, outcome = .failed (.conversion text)) := by
  dsimp only
  rw [run_convert, hfound]
  dsimp only
  rw [run_withScratch]
  refine ⟨fun fault made hscratch => by rw [hscratch], fun folder made hscratch => ?_⟩
  rw [hscratch]
  dsimp only
  rw [run_convertIn]
  refine ⟨fun fault hwrite => by rw [hwrite], fun given hwrite hother => ?_⟩
  rw [hwrite]
  dsimp only
  have hfinished (r : Artifact) := verdict_eq_finished_iff_wrote (r := r)
    (newFolder_of_scratch hsound hscratch) hwrite hname settings.converterBinary hother
  refine ⟨verdict_eq_unfinished_iff _, hfinished, fun hended hnone => ?_⟩
  rcases verdict_cases settings.converterBinary host folder a
      (host.launch (call program folder (folder.join a.name)) limit given) with
    hunfinished | ⟨r, hdocument⟩ | hfailed
  · exact absurd ((verdict_eq_unfinished_iff _).mp hunfinished) hended
  · exact absurd ((hfinished r).mp hdocument).2 (hnone r.content)
  · exact hfailed

end Writing

section Sample

def sampleDocument : Artifact :=
  ⟨"letter.txt", [1]⟩

/-- The scratch folder of a first conversion. -/
def sampleFolder : Path :=
  ⟨"/scratch/docfill-convert-0"⟩

def sampleMade : Files :=
  sampleSuite.put ["scratch", "docfill-convert-0"] .folder

def sampleGiven : Files :=
  sampleMade.put ["scratch", "docfill-convert-0", "letter.txt"] (.file [1] false)

def sampleLaunched : Except FileFault (Option Ending) × Files :=
  sampleOffice.launch (call ⟨"/office"⟩ sampleFolder (sampleFolder.join "letter.txt")) none
    sampleGiven

lemma locate_sampleSuite : ((locate ⟨⟨"/"⟩, []⟩ officeSettings.converterBinary).run sampleOffice
    sampleSuite).1 = some ⟨"/office"⟩ := by
  decide +kernel

theorem converted_iff_wrote_letter :
    sampleSuite.Sound sampleOffice.working ∧ Path.IsStep sampleDocument.name ∧
      scratch ⟨⟨"/"⟩, []⟩ ⟨"scratch"⟩ sampleOffice sampleSuite = (.ok sampleFolder, sampleMade) ∧
      Wrote sampleOffice sampleFolder sampleDocument sampleGiven sampleLaunched [2] ∧
      ((sampleConversion "letter.txt").run sampleOffice sampleSuite).1 =
        .finished ⟨"letter.pdf", [2]⟩ := by
  have hstep : Path.IsStep sampleDocument.name := ⟨by decide, by decide, by decide⟩
  have hwrote : Wrote sampleOffice sampleFolder sampleDocument sampleGiven sampleLaunched [2] :=
    ⟨⟨⟨some 0, [], []⟩, by decide +kernel, rfl⟩, by decide +kernel, by decide +kernel⟩
  have hconverted := ((converted_iff_wrote sound_sampleSuite ⟨⟨"/"⟩, []⟩ officeSettings none hstep
    locate_sampleSuite).2 sampleFolder sampleMade rfl).2 sampleGiven rfl
    fun hsame => absurd hsame.1 (by decide)
  exact ⟨sound_sampleSuite, hstep, rfl, hwrote,
    (hconverted.2.1 ⟨"letter.pdf", [2]⟩).mpr ⟨by decide, hwrote⟩⟩

/-- A machine where the office suite ends well and does nothing. -/
def idleOffice : Host where
  working := []
  launch _ _ files := (.ok (some ⟨some 0, [], []⟩), files)

/-- A plain name that no file can have. -/
def unwritableName : String :=
  "letter\x00"

/-- A document with a plain name may fail with a fault of the files, and one that has the name of
its result is returned as it is if the program does nothing. -/
theorem not_converted_iff_wrote :
    Path.IsStep unwritableName ∧
      ((locate ⟨⟨"/"⟩, []⟩ officeSettings.converterBinary).run sampleOffice sampleSuite).1 =
        some ⟨"/office"⟩ ∧
      ((sampleConversion unwritableName).run sampleOffice sampleSuite).1 =
        .failed (.file .nulInName) ∧
      Path.IsStep "letter.pdf" ∧
      idleOffice.launch = (fun _ _ files => (.ok (some ⟨some 0, [], []⟩), files)) ∧
      ((sampleConversion "letter.pdf").run idleOffice sampleSuite).1 =
        .finished ⟨"letter.pdf", [1]⟩ :=
  ⟨⟨by decide, by decide, by decide⟩, locate_sampleSuite, by decide +kernel,
    ⟨by decide, by decide, by decide⟩, rfl, by decide +kernel⟩

end Sample

end MailMerge.Office
