import MailMerge.Proofs.CommandRuns
import MailMerge.Proofs.RequestHistories

/-!
# What commands do to files

A command that fails has changed no file, though it may have made folders. A command that succeeds
has written what it is for and nothing else: the two files of a new template, or the one file of a
delivery (`run_transacts`).
-/

namespace MailMerge

variable {α β : Type} {host : Host} {files files' : Files}

namespace Files

/-- The same file is at a place in two trees, or a file in neither of them. -/
def SameFileAt (l : Location) (files files' : Files) : Prop :=
  ∀ content executable,
    files'.node? l = some (.file content executable) ↔
      files.node? l = some (.file content executable)

/-- Two trees have the same files. They may differ in their folders. -/
def SameFiles (files files' : Files) : Prop :=
  ∀ l, SameFileAt l files files'

lemma SameFiles.refl (files : Files) : SameFiles files files :=
  fun _ _ _ => Iff.rfl

lemma SameFiles.trans {files'' : Files} (h : SameFiles files files')
    (h' : SameFiles files' files'') : SameFiles files files'' :=
  fun l content executable => (h' l content executable).trans (h l content executable)

lemma sameFileAt_of_node? {l : Location} (h : files'.node? l = files.node? l) :
    SameFileAt l files files' := by
  intro content executable
  rw [h]

lemma sameFiles_of_node? (h : files'.node? = files.node?) : SameFiles files files' :=
  fun l => sameFileAt_of_node? (congrFun h l)

lemma Grows.sameFiles (h : Grows files files') : SameFiles files files' :=
  fun _ _ _ => h.file_iff

/-- A path leads to a file with this content, and no other file has changed. -/
def WritesOnly (host : Host) (path : Path) (content : Bytes) (files after : Files) : Prop :=
  ∃ place, after.locate host.working path = .ok place ∧
    after.node? place = some (.file content false) ∧ ∀ l, l ≠ place → SameFileAt l files after

lemma WritesOnly.of_sameFiles {path : Path} {content : Bytes} {after : Files}
    (h : WritesOnly host path content files' after) (hsame : SameFiles files files') :
    WritesOnly host path content files after := by
  obtain ⟨place, hlocate, hnode, hothers⟩ := h
  refine ⟨place, hlocate, hnode, fun l hl content executable => ?_⟩
  exact (hothers l hl content executable).trans (hsame l content executable)

lemma writesOnly_of_replace {path : Path} {content : Bytes} {place : Location} {after : Files}
    (hlocate : files.locate host.working path = .ok place) (hname : path.namesFolder = false)
    (hother : files.node? place ≠ some .folder)
    (hafter : ∀ l, after.node? l =
      if l = place then some (.file content false) else files.node? l) :
    WritesOnly host path content files after := by
  refine ⟨place, locate_of_sameFolders (sameFolders_of_node? hother hafter) hlocate hname, ?_,
    fun l hl => sameFileAt_of_node? ?_⟩
  · rw [hafter, if_pos rfl]
  · rw [hafter, if_neg hl]

end Files

open Files (SameFileAt SameFiles WritesOnly)

namespace Action

/-- On these files an action either comes to a result with such files after it, or it fails and has
changed no file. -/
def Transacts (host : Host) (files : Files) (post : α → Files → Prop) (a : Action α) : Prop :=
  (∃ x after, a.on host files = (.ok x, after) ∧ post x after) ∨
    ∃ fault after, a.on host files = (.error fault, after) ∧ SameFiles files after

variable {path : Path} {content : Bytes}

lemma transacts_createFolders_bind (p : Path) {a : Action α}
    (ha : ∀ between, a.Transacts host between fun _ => WritesOnly host path content between) :
    Action.Transacts host files (fun _ => WritesOnly host path content files)
      (createFolders p >>= fun _ => a) := by
  have hmake : (createFolders p).on host files =
      ((files.createFolders host.working p).1.mapError .file,
        (files.createFolders host.working p).2) := rfl
  have hsame : SameFiles files (files.createFolders host.working p).2 :=
    (Files.grows_createFolders files host.working p).sameFiles
  cases hcreated : (files.createFolders host.working p).1 with
  | error fault =>
    rw [hcreated] at hmake
    exact .inr ⟨_, _, on_bind_error hmake, hsame⟩
  | ok _ =>
    rw [hcreated] at hmake
    rw [Transacts, on_bind_ok hmake]
    rcases ha (files.createFolders host.working p).2 with
      ⟨x, after, hon, hwrites⟩ | ⟨fault, after, hon, hafter⟩
    · exact .inl ⟨x, after, hon, hwrites.of_sameFiles hsame⟩
    · exact .inr ⟨fault, after, hon, hsame.trans hafter⟩

lemma Transacts.bind_pure {a : Action α} {post : Files → Prop}
    (ha : a.Transacts host files fun _ => post) (f : α → β) :
    Action.Transacts host files (fun _ => post) (a >>= fun x => pure (f x)) := by
  rcases ha with ⟨x, after, hon, hafter⟩ | ⟨fault, after, hon, hsame⟩
  · exact .inl ⟨f x, after, on_bind_ok hon, hafter⟩
  · exact .inr ⟨fault, after, on_bind_error hon, hsame⟩

lemma transacts_replace (folder : Path) :
    (replace folder path content).Transacts host files
      fun _ => WritesOnly host path content files := by
  rcases replace_cases host files folder path content with
    ⟨fault, after, hreplace, hafter⟩ | ⟨place, after, hreplace, -, hlocate, hname, hother, hafter⟩
  · exact .inr ⟨fault, after, hreplace, Files.sameFiles_of_node? hafter⟩
  · exact .inl ⟨(), after, hreplace, Files.writesOnly_of_replace hlocate hname hother hafter⟩

end Action

namespace Delivery

variable (d : Delivery)

lemma transacts_writeTo (path : Path) (files : Files) :
    (d.writeTo path).Transacts host files fun _ => WritesOnly host path d.bytes files :=
  Action.transacts_createFolders_bind path.folder fun _ => Action.transacts_replace _

lemma transacts_writeInto (folder : Path) :
    (d.writeInto folder).Transacts host files
      fun _ => WritesOnly host (d.pathIn folder) d.bytes files :=
  Action.transacts_createFolders_bind folder fun between =>
    (d.transacts_writeTo (d.pathIn folder) between).bind_pure fun _ => d.pathIn folder

end Delivery

namespace Store

/-- The two files of a new template have been added, and no other file has changed. -/
structure AddsOnly (s : Store) (host : Host) (reference : String) (source : Bytes)
    (format text : String) (files after : Files) : Prop where
  differ : s.place host reference format ≠ s.place host reference textExtension
  new : ∀ extension, files.node? (s.place host reference extension) = none
  source : after.node? (s.place host reference format) = some (.file source false)
  text : after.node? (s.place host reference textExtension) =
    some (.file (Utf8.encode text) false)
  others : ∀ l, l ≠ s.place host reference format → l ≠ s.place host reference textExtension →
    SameFileAt l files after

variable {s : Store} {reference format text : String} {source : Bytes}

/-- A template is stored as two new files, or no file is changed. -/
lemma transacts_put (hfresh : s.Fresh host files reference) (hformat : format ≠ textExtension) :
    (s.put reference source format text).Transacts host files
      fun _ => s.AddsOnly host reference source format text files := by
  have hgrows : Files.Grows files (s.made host files) :=
    Files.grows_createFolders files host.working s.root
  have hdiffer : s.place host reference format ≠ s.place host reference textExtension :=
    fun hsame => hformat (place_inj hfresh.isReference hfresh.isReference hsame).2
  rcases put_cases hfresh source format text with
    ⟨fault, after, hput, hafter⟩ | ⟨after, hput, -, hadds⟩
  · exact .inr ⟨fault, after, hput,
      hgrows.sameFiles.trans (Files.sameFiles_of_node? hafter)⟩
  · refine .inl ⟨_, after, hput, hdiffer, fun extension => hgrows.eq_none (hfresh.free extension),
      ?_, ?_, fun l hsource htext content executable => ?_⟩
    · rw [hadds.node?, if_neg hdiffer, if_pos rfl]
    · exact hadds.node?_text
    · rw [hadds.node?, if_neg htext, if_neg hsource]
      exact hgrows.sameFiles l content executable

end Store

namespace CommandLine

namespace Command

/-- On these files a command either comes to a result with such files after it, or it fails and has
changed no file. -/
def Transacts (host : Host) (files : Files) (post : α → Files → Prop) (c : Command α) : Prop :=
  ∀ printed,
    (∃ x printed' after, c.on host printed files = ((.ok x, printed'), after) ∧ post x after) ∨
      ∃ failure printed' after, c.on host printed files = ((.error failure, printed'), after) ∧
        SameFiles files after

variable {post : α → Files → Prop}

lemma Reads.bind_transacts {c : Command α} {f : α → Command β} {post : β → Files → Prop}
    (hc : c.Reads host) (hf : ∀ x, c.result host files = .ok x → (f x).Transacts host files post) :
    Command.Transacts host files post (c >>= f) := by
  intro printed
  cases hx : c.result host files with
  | error failure =>
    rw [hc.on_bind_error hx]
    exact .inr ⟨failure, printed, files, rfl, .refl files⟩
  | ok x =>
    rw [hc.on_bind_ok hx]
    exact hf x hx printed

lemma Prints.bind_transacts {c : Command Unit} {f : Unit → Command α} (hc : c.Prints host)
    (hf : (f ()).Transacts host files post) : Command.Transacts host files post (c >>= f) := by
  intro printed
  obtain ⟨printed', hon⟩ := hc printed files
  rw [on_bind_ok hon]
  exact hf printed'

lemma Transacts.bind_prints {c : Command α} {f : α → Command Unit} {post' : Unit → Files → Prop}
    (hc : c.Transacts host files post) (hf : ∀ x, (f x).Prints host)
    (hpost : ∀ x after, post x after → post' () after) :
    Command.Transacts host files post' (c >>= f) := by
  intro printed
  rcases hc printed with ⟨x, between, after, hon, hafter⟩ | ⟨failure, between, after, hon, hsame⟩
  · obtain ⟨printed', hprints⟩ := hf x between after
    rw [on_bind_ok hon, hprints]
    exact .inl ⟨(), printed', after, rfl, hpost x after hafter⟩
  · rw [on_bind_error hon]
    exact .inr ⟨failure, between, after, rfl, hsame⟩

lemma transacts_ofAction {a : Action α} (ha : a.Transacts host files post) :
    (ofAction a).Transacts host files post := by
  intro printed
  rw [on_ofAction]
  rcases ha with ⟨x, after, hon, hafter⟩ | ⟨fault, after, hon, hsame⟩
  · rw [hon]
    exact .inl ⟨x, printed, after, rfl, hafter⟩
  · rw [hon]
    exact .inr ⟨.engine fault, printed, after, rfl, hsame⟩

lemma Transacts.bind_pure {c : Command α} {post : Files → Prop}
    (hc : c.Transacts host files fun _ => post) (f : α → β) :
    Command.Transacts host files (fun _ => post) (c >>= fun x => pure (f x)) := by
  intro printed
  rcases hc printed with ⟨x, printed', after, hon, hafter⟩ | ⟨failure, printed', after, hon, hsame⟩
  · rw [on_bind_ok hon]
    exact .inl ⟨f x, printed', after, rfl, hafter⟩
  · rw [on_bind_error hon]
    exact .inr ⟨failure, printed', after, rfl, hsame⟩

/-- Where a delivery goes: to the path that is asked for, or into the folder for outputs. -/
def target (d : Delivery) (output : Option Path) (outputFolder : Path) : Path :=
  output.getD (d.pathIn outputFolder)

lemma transacts_deliver (d : Delivery) (output : Option Path) (outputFolder : Path) :
    (deliver d output outputFolder).Transacts host files
      fun _ => WritesOnly host (target d output outputFolder) d.bytes files := by
  cases output with
  | none => exact transacts_ofAction (d.transacts_writeInto outputFolder)
  | some path =>
    exact (transacts_ofAction (d.transacts_writeTo path files)).bind_pure fun _ => path

section Requests

variable {system : System} {settings : Settings}

/-- The engine of a command that delivers its documents as they are rendered. -/
def engine (system : System) (settings : Settings) : Engine :=
  .office system.around settings false

lemma reads_generate (system : System) (settings : Settings) (reference : String) (r : Record) :
    (ofRequest .single ((engine system settings).generate system.requestId reference r)).Reads
      host := by
  refine reads_ofRequest fun files => ?_
  have hwithin : Request.Within (fun before after => after = before) host
      ((engine system settings).generate system.requestId reference r) :=
    Engine.within_generate (fun _ _ _ => rfl) _ _ _
  exact hwithin.run .single files

lemma reads_generateBatch (system : System) (settings : Settings) (reference : String)
    (data : Bytes) (format : String) :
    (ofRequest .batch
      ((engine system settings).generateBatch system.requestId [] reference data format)).Reads
      host := by
  refine reads_ofRequest fun files => ?_
  have hwithin : Request.Within (fun before after => after = before) host
      ((engine system settings).generateBatch system.requestId [] reference data format) :=
    Engine.within_generateBatch _ _ _ _ _
  exact hwithin.run .batch files

lemma format_ne_textExtension {x : Extractor} (hx : x ∈ (engine system settings).extractors) :
    x.format ≠ Store.textExtension := by
  have hcases : x = .plain ∨ x = .document := by simpa [engine, Engine.office] using hx
  rcases hcases with rfl | rfl
  · decide
  · decide

lemma ok_of_result {flow : Flow} {r : Request α} {x : α}
    (h : (ofRequest flow r).result host files = .ok x) :
    ((r.run flow).run host files).1.1 = .ok x := by
  rw [result, on_ofRequest] at h
  cases hrun : ((r.run flow).run host files).1.1 with
  | error fault =>
    rw [hrun] at h
    cases h
  | ok y =>
    rw [hrun] at h
    cases h
    rfl

lemma transacts_extract {reference : String}
    (hfresh : (engine system settings).store.Fresh host files reference) (bytes : Bytes)
    (format : String) :
    (ofRequest .extract ((engine system settings).extract reference bytes format)).Transacts
      host files fun _ after => ∃ text,
        (engine system settings).templateText (normalizeFormat format) bytes = .ok text ∧
        (engine system settings).store.AddsOnly host reference bytes (normalizeFormat format) text
          files after := by
  intro printed
  rw [on_ofRequest]
  rcases Engine.run_extract_cases (e := engine system settings) host files reference bytes format
    with ⟨fault, hrun⟩ | ⟨text, outcome, after, htext, hput, hresult, hafter⟩
  · rw [hrun]
    exact .inr ⟨_, printed, files, rfl, .refl files⟩
  · rw [hresult, hafter]
    obtain ⟨x, hx, hformat, -⟩ := Engine.exists_extractor htext
    have hother : normalizeFormat format ≠ Store.textExtension := by
      rw [← hformat]
      exact format_ne_textExtension hx
    have hstored : Action.Transacts host files
        (fun _ => (engine system settings).store.AddsOnly host reference bytes
          (normalizeFormat format) text files)
        ((engine system settings).store.put reference bytes (normalizeFormat format) text) :=
      Store.transacts_put hfresh hother
    rcases hstored with ⟨template, after', hput', hadds⟩ | ⟨fault, after', hput', hsame⟩
    · rw [hput] at hput'
      cases hput'
      exact .inl ⟨_, printed, after, rfl, text, htext, hadds⟩
    · rw [hput] at hput'
      cases hput'
      exact .inr ⟨_, printed, after, rfl, hsame⟩

end Requests

/-- What a command has done that succeeds: an upload has added the files of a template, and a
document or a bundle has been written as a file. -/
inductive Effect (system : System) (host : Host) (files after : Files) : Invocation → Prop
  | extract {settingsFile file : Path} (asJson : Bool) {settings : Settings}
      {format text : String} {source : Bytes}
      (hsettings : (loadSettings system settingsFile).result host files = .ok settings)
      (hformat : file.extension?.map lowerAscii = some format)
      (hsource : files.read host.working file = .ok source)
      (htext : (engine system settings).templateText (normalizeFormat format) source = .ok text)
      (hadds : (engine system settings).store.AddsOnly host system.reference source
        (normalizeFormat format) text files after) :
      Effect system host files after ⟨settingsFile, .extract file asJson⟩
  | generate {settingsFile : Path} {options : GenerateOptions} {settings : Settings} {r : Record}
      {delivery : Delivery}
      (hsettings : (loadSettings system settingsFile).result host files = .ok settings)
      (hvalues : (givenValues options).result host files = .ok r)
      (hdelivery : ((((engine system settings).generate system.requestId options.template r).run
        .single).run host files).1.1 = .ok delivery)
      (hwrites : WritesOnly host (target delivery options.output ⟨settings.outputFolder⟩)
        delivery.bytes files after) :
      Effect system host files after ⟨settingsFile, .generate options⟩
  | batch {settingsFile : Path} {options : BatchOptions} {settings : Settings} {format : String}
      {data : Bytes} {delivery : Delivery}
      (hsettings : (loadSettings system settingsFile).result host files = .ok settings)
      (hformat : options.data.extension?.map lowerAscii = some format)
      (hdata : files.read host.working options.data = .ok data)
      (hdelivery : ((((engine system settings).generateBatch system.requestId [] options.template
        data format).run .batch).run host files).1.1 = .ok delivery)
      (hwrites : WritesOnly host (target delivery options.output ⟨settings.outputFolder⟩)
        delivery.bytes files after) :
      Effect system host files after ⟨settingsFile, .batch options⟩

section Commands

variable {system : System} {settingsFile : Path}

lemma format_of_result {path : Path} {format : String}
    (h : (formatOf path).result host files = .ok format) :
    path.extension?.map lowerAscii = some format := by
  unfold formatOf at h
  cases hextension : path.extension? with
  | none =>
    rw [hextension] at h
    cases h
  | some extension =>
    rw [hextension] at h
    cases h
    rfl

lemma read_of_result {path : Path} {content : Bytes}
    (h : (readInput path).result host files = .ok content) :
    files.read host.working path = .ok content := by
  rw [result, readInput, on_bind_ok (on_ofProgram (Program.perform (.read path)))] at h
  rw [show Program.run host (Program.perform (.read path)) files =
    (files.read host.working path, files) from rfl] at h
  cases hread : files.read host.working path with
  | error fault =>
    rw [hread] at h
    cases h
  | ok found =>
    rw [hread] at h
    cases h
    rfl

lemma prints_reportExtraction (file : Path) (x : Extraction) :
    (reportExtraction file x).Prints host := by
  refine (prints_header _).bind ((prints_line _).bind ((prints_line _).bind ?_))
  split
  · exact prints_line _
  · exact (prints_line _).bind (prints_forM (fun _ => prints_line _) _)

lemma effect_extract {file : Path} (asJson : Bool)
    (hfresh : ∀ settings, (loadSettings system settingsFile).result host files = .ok settings →
      (engine system settings).store.Fresh host files system.reference) :
    (extract system settingsFile file asJson).Transacts host files
      fun _ after => Effect system host files after ⟨settingsFile, .extract file asJson⟩ := by
  refine (reads_loadSettings system settingsFile).bind_transacts fun settings hsettings => ?_
  refine (reads_formatOf file).bind_transacts fun format hformat => ?_
  refine (reads_readInput file).bind_transacts fun source hsource => ?_
  refine (transacts_extract (hfresh settings hsettings) source format).bind_prints (fun x => ?_) ?_
  · split
    · exact prints_line _
    · exact prints_reportExtraction file x
  · rintro x after ⟨text, htext, hadds⟩
    exact .extract asJson hsettings (format_of_result hformat) (read_of_result hsource) htext hadds

lemma effect_batch (options : BatchOptions) :
    (batch system settingsFile options).Transacts host files
      fun _ after => Effect system host files after ⟨settingsFile, .batch options⟩ := by
  refine (prints_header _).bind_transacts ?_
  refine (reads_loadSettings system settingsFile).bind_transacts fun settings hsettings => ?_
  refine (prints_line _).bind_transacts ?_
  refine (reads_formatOf options.data).bind_transacts fun format hformat => ?_
  refine (reads_readInput options.data).bind_transacts fun data hdata => ?_
  refine (prints_line _).bind_transacts ((prints_line _).bind_transacts ?_)
  refine (reads_generateBatch system settings options.template data format).bind_transacts
    fun delivery hdelivery => ?_
  refine (prints_line _).bind_transacts ?_
  refine (transacts_deliver delivery options.output ⟨settings.outputFolder⟩).bind_prints
    (fun _ => (prints_line _).bind ((prints_line _).bind (prints_digest _)))
    fun _ after hwrites => ?_
  exact .batch hsettings (format_of_result hformat) (read_of_result hdata)
    (ok_of_result hdelivery) hwrites

/-- What is printed in the end about a document. -/
def report (delivery : Delivery) (written : Path) : Command Unit := do
  success s!"Generated {written.text}"
  value "Request" delivery.requestId
  value "Content type" delivery.contentType
  digest delivery.bytes

lemma prints_report (delivery : Delivery) (written : Path) :
    (report delivery written).Prints host :=
  (prints_line _).bind ((prints_line _).bind ((prints_line _).bind (prints_digest _)))

/-- The last steps of making a document, once its values are there. -/
def renderAndDeliver (system : System) (settings : Settings) (options : GenerateOptions)
    (r : Record) : Command Unit := do
  let delivery ← ofRequest .single
    ((Engine.office system.around settings options.toPdf).generate system.requestId
      options.template r)
  progress 3 3 "Writing output..."
  let written ← deliver delivery options.output ⟨settings.outputFolder⟩
  report delivery written

lemma effect_renderAndDeliver {options : GenerateOptions} {settings : Settings} {r : Record}
    (hdirect : options.toPdf = false)
    (hsettings : (loadSettings system settingsFile).result host files = .ok settings)
    (hvalues : (givenValues options).result host files = .ok r) :
    (renderAndDeliver system settings options r).Transacts host files
      fun _ after => Effect system host files after ⟨settingsFile, .generate options⟩ := by
  rw [renderAndDeliver, hdirect]
  refine (reads_generate system settings options.template r).bind_transacts
    fun delivery hdelivery => ?_
  refine (prints_line _).bind_transacts ?_
  refine (transacts_deliver delivery options.output ⟨settings.outputFolder⟩).bind_prints
    (fun _ => prints_report delivery _) fun _ after hwrites => ?_
  exact .generate hsettings hvalues (ok_of_result hdelivery) hwrites

lemma effect_generate {options : GenerateOptions} (hdirect : options.toPdf = false) :
    (generate system settingsFile options).Transacts host files
      fun _ after => Effect system host files after ⟨settingsFile, .generate options⟩ := by
  refine (prints_header _).bind_transacts ?_
  refine (reads_loadSettings system settingsFile).bind_transacts fun settings hsettings => ?_
  refine (prints_line _).bind_transacts ?_
  refine (reads_givenValues options).bind_transacts fun r hvalues => ?_
  refine (reads_ofAction (Engine.snd_on_placeholders _ _)).bind_transacts fun names _ => ?_
  dsimp only
  split
  · exact (reads_throw _).bind_transacts nofun
  · have heffect := effect_renderAndDeliver hdirect hsettings hvalues
    split
    · exact (prints_line _).bind_transacts ((prints_line _).bind_transacts heffect)
    · exact (prints_line _).bind_transacts heffect

end Commands

end Command

/-- The tasks that store a template or write a result as it is rendered or bundled. -/
def Task.isDirect : Task → Bool
  | .extract .. | .batch _ => true
  | .generate options => !options.toPdf
  | .init | .check => false

/-- The reference that the system has for an upload is not in use in the store of its settings. -/
def Invocation.DrawsFresh (system : System) (host : Host) (files : Files)
    (invocation : Invocation) : Prop :=
  ∀ file asJson settings, invocation.task = .extract file asJson →
    (Command.loadSettings system invocation.settingsFile).result host files = .ok settings →
    (Command.engine system settings).store.Fresh host files system.reference

variable {system : System} {invocation : Invocation}

lemma Invocation.run_run :
    (invocation.run system).run host files =
      (Report.ofOutcome ((Command.ofInvocation system invocation).on host "" files).1.1
          ((Command.ofInvocation system invocation).on host "" files).1.2,
        ((Command.ofInvocation system invocation).on host "" files).2) := by
  change (Program.bind (StateT.run (ExceptT.run _) "") _).run host files = _
  rw [Program.run_bind]
  rfl

lemma Command.effect_ofInvocation (hdirect : invocation.task.isDirect = true)
    (hfresh : invocation.DrawsFresh system host files) :
    (ofInvocation system invocation).Transacts host files
      fun _ after => Effect system host files after invocation := by
  obtain ⟨settingsFile, task⟩ := invocation
  cases task with
  | extract file asJson =>
    exact effect_extract asJson fun settings hsettings => hfresh file asJson settings rfl hsettings
  | generate options => exact effect_generate (by simpa [Task.isDirect] using hdirect)
  | batch options => exact effect_batch options
  | init => cases hdirect
  | check => cases hdirect

/-- A run of a command that ends with another code than zero has changed no file, wherever it has
failed. A run that ends with zero has done what the command is for and has changed no other file:
the two files of the template are new, or the one file of the delivery has its bytes. -/
theorem run_transacts (host : Host) (files : Files) (system : System)
    (environment : Option String) (arguments : List String)
    (hdirect : ∀ invocation, Invocation.read environment arguments = .run invocation →
      invocation.task.isDirect = true)
    (hfresh : ∀ invocation, Invocation.read environment arguments = .run invocation →
      invocation.DrawsFresh system host files) :
    let outcome := (run system environment arguments).run host files
    (outcome.1.code ≠ 0 → SameFiles files outcome.2) ∧
    (outcome.1.code = 0 → ∀ invocation, Invocation.read environment arguments = .run invocation →
      Command.Effect system host files outcome.2 invocation) ∧
    ((∀ invocation, Invocation.read environment arguments ≠ .run invocation) →
      outcome.2 = files) := by
  cases hread : Invocation.read environment arguments with
  | version text =>
    rw [run, hread]
    exact ⟨fun _ => .refl files, fun _ _ => nofun, fun _ => rfl⟩
  | usage =>
    rw [run, hread]
    exact ⟨fun _ => .refl files, fun _ _ => nofun, fun _ => rfl⟩
  | run invocation =>
    rw [run, hread]
    dsimp only
    rw [Invocation.run_run]
    rcases Command.effect_ofInvocation (hdirect invocation hread) (hfresh invocation hread) "" with
      ⟨_, printed, after, hon, heffect⟩ | ⟨failure, printed, after, hon, hsame⟩
    · rw [hon]
      refine ⟨fun hcode => absurd rfl hcode, fun _ other hother => ?_, fun hnot => ?_⟩
      · cases hother
        exact heffect
      · exact absurd rfl (hnot invocation)
    · rw [hon]
      refine ⟨fun _ => hsame, nofun, fun hnot => ?_⟩
      exact absurd rfl (hnot invocation)

section Sample

/-- A folder with one letter. -/
def sampleLetter : Files where
  entries := [(["letter.txt"], .file (Utf8.encode "Dear \x7b\x7bname\x7d\x7d") false)]
  distinct := by decide

def sampleSystem : System where
  around := ⟨⟨"/"⟩, []⟩
  temporaryFolder := "/tmp"
  reference := sampleTemplate.reference
  requestId := "1"

theorem run_transacts_upload :
    ∃ invocation, Invocation.read none ["extract", "letter.txt"] = .run invocation ∧
      invocation.task.isDirect = true ∧
      invocation.DrawsFresh sampleSystem sampleHost sampleLetter ∧
      ((run sampleSystem none ["extract", "letter.txt"]).run sampleHost sampleLetter).1.code = 0 ∧
      Command.Effect sampleSystem sampleHost sampleLetter
        ((run sampleSystem none ["extract", "letter.txt"]).run sampleHost sampleLetter).2
        invocation := by
  have hread : Invocation.read none ["extract", "letter.txt"] =
      .run ⟨⟨"docfill.config.json"⟩, .extract ⟨"letter.txt"⟩ false⟩ := by
    decide +kernel
  have hsettings : (Command.loadSettings sampleSystem ⟨"docfill.config.json"⟩).result sampleHost
      sampleLetter = .ok (.standard "/tmp") := by
    decide +kernel
  have hfresh : Invocation.DrawsFresh sampleSystem sampleHost sampleLetter
      ⟨⟨"docfill.config.json"⟩, .extract ⟨"letter.txt"⟩ false⟩ := by
    rintro file asJson settings - hloaded
    rw [hsettings] at hloaded
    cases hloaded
    exact Store.fresh_of_names (by decide +kernel) (by decide +kernel)
  have hcode : ((run sampleSystem none ["extract", "letter.txt"]).run sampleHost
      sampleLetter).1.code = 0 := by
    decide +kernel
  have htransacts := run_transacts sampleHost sampleLetter sampleSystem none
    ["extract", "letter.txt"]
    (fun invocation h => by rw [hread] at h; cases h; rfl)
    (fun invocation h => by rw [hread] at h; cases h; exact hfresh)
  exact ⟨_, hread, rfl, hfresh, hcode, htransacts.2.1 hcode _ hread⟩

end Sample

end CommandLine

end MailMerge
