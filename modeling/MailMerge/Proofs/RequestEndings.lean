import MailMerge.Proofs.BatchNames
import MailMerge.Proofs.FailureKinds
import MailMerge.Proofs.RequestHistories

/-!
# Endings of requests

A request ends at the last stage of its flow, or as failed with an error that comes from outside the
engine: every move of a flow is allowed where it is asked for, and the artifacts of a batch can
always be bundled (`requests_end_properly`). Nothing but what the converter has made is delivered
as a single document.
-/

namespace MailMerge

variable {α β : Type} {host : Host} {files files' : Files}

namespace Error

/-- An error that tells of a fault in the engine itself. -/
def isInternal : Error → Bool
  | invalidTransition .. | emptyBundle => true
  | bundle _ reason => reason == "duplicate entry name"
  | _ => false

/-- A result that can only fail with errors from outside the engine. -/
def OnlyExternal (result : Except Error α) : Prop :=
  ∀ fault, result = .error fault → fault.isInternal = false

@[simp]
lemma onlyExternal_ok (x : α) : OnlyExternal (.ok x) := nofun

@[simp]
lemma onlyExternal_error_iff {fault : Error} :
    OnlyExternal (.error fault : Except Error α) ↔ fault.isInternal = false := by
  simp [OnlyExternal]

lemma OnlyExternal.bind {result : Except Error α} {f : α → Except Error β}
    (h : OnlyExternal result) (hf : ∀ x, OnlyExternal (f x)) : OnlyExternal (result >>= f) :=
  FailsOnly.bind h hf

lemma OnlyExternal.map {result : Except Error α} (h : OnlyExternal result) (f : α → β) :
    OnlyExternal (result.map f) :=
  FailsOnly.map h f

end Error

open Error

section Library

lemma onlyExternal_plainText (bytes : Bytes) : OnlyExternal (plainText bytes) := by
  rw [plainText]
  split <;> simp [isInternal]

lemma Document.onlyExternal_extract (bytes : Bytes) : OnlyExternal (Document.extract bytes) := by
  rw [Document.extract]
  repeat' split
  all_goals simp [isInternal]

lemma Csv.onlyExternal_rows (line : Nat) (records : List (Except Fault (List String))) :
    OnlyExternal (rows line records) := by
  fun_induction rows line records with
  | case1 => exact onlyExternal_ok _
  | case2 => exact onlyExternal_error_iff.2 rfl
  | case3 line row rest ih => exact ih.map _

lemma Csv.onlyExternal_read (bytes : Bytes) : OnlyExternal (Csv.read bytes) := by
  unfold Csv.read
  dsimp only
  split
  · exact onlyExternal_ok _
  · exact onlyExternal_error_iff.2 rfl
  · exact (onlyExternal_rows 2 _).map _

lemma TableReader.onlyExternal_readWorkbook (bytes : Bytes) :
    OnlyExternal (readWorkbook bytes) := by
  rw [readWorkbook]
  repeat' split
  all_goals simp [isInternal]

lemma TableReader.onlyExternal_readSpreadsheet (bytes : Bytes) (format : String) :
    OnlyExternal (readSpreadsheet bytes format) := by
  unfold readSpreadsheet
  dsimp only
  split
  · exact (Csv.onlyExternal_read bytes).map _
  · split
    · exact onlyExternal_readWorkbook bytes
    · exact onlyExternal_error_iff.2 rfl

end Library

namespace Action

/-- An action that can only fail with errors from outside the engine. -/
def OnlyExternal (host : Host) (a : Action α) : Prop :=
  ∀ files, Error.OnlyExternal (a.on host files).1

lemma onlyExternal_lift (p : Program α) : Action.OnlyExternal host (ExceptT.lift p) :=
  failsOnly_lift p

end Action

namespace Store

lemma holds_of_on_get {s : Store} {reference : String} {template : Template}
    (h : (s.get reference).on host files = (.ok template, files')) :
    template.reference = reference ∧ s.Holds host files template := by
  have hreference : template.reference = reference := reference_of_on_get (by rw [h])
  refine ⟨hreference, ?_⟩
  rw [Holds, hreference, h]

lemma onlyExternal_put (s : Store) (reference : String) (source : Bytes) (format text : String) :
    (s.put reference source format text).OnlyExternal host :=
  failsOnly_put (fun _ => rfl) s reference source format text

lemma onlyExternal_get (s : Store) (reference : String) :
    (s.get reference).OnlyExternal host := by
  intro files fault hfault
  rcases error_of_on_get (Prod.ext hfault rfl) with rfl | ⟨-, cause, rfl⟩
  · rfl
  · rfl

end Store

lemma Batch.onlyExternal_expand {settings : Settings} {renderer : Renderer}
    (hrender : ∀ text, OnlyExternal (renderer.render text)) (schedule : List Pool.Event)
    (template : Template) (rows : List Record) :
    OnlyExternal (expand settings renderer schedule template rows) := by
  by_cases hnone : usable settings.namingField rows = []
  · rw [expand_of_usable_eq_nil hnone]
    exact onlyExternal_error_iff.2 rfl
  · rw [expand_eq schedule hnone]
    refine OnlyExternal.map (fun fault hfault => ?_) _
    obtain ⟨job, -, hwork⟩ := List.mem_map.1 (exists_of_collect_error hfault)
    exact hrender _ fault (work_eq_error_iff.1 hwork)

lemma Bundle.onlyExternal_pack {settings : Settings} {renderer : Renderer}
    {schedule : List Pool.Event} {template : Template} {rows : List Record}
    {artifacts : List Artifact}
    (h : Batch.expand settings renderer schedule template rows = .ok artifacts)
    (method : Archive.Method) : OnlyExternal (pack method artifacts) := by
  obtain ⟨hsome, hnames⟩ := Batch.names_of_expand h
  have hdistinct : (artifacts.map Artifact.name).Nodup := by
    rw [hnames]
    exact Naming.nodup_allocateAll ..
  rw [pack_of_nodup method hsome hdistinct]
  exact onlyExternal_ok _

namespace Request

variable {flow : Flow} {source between target : Stage} {post : α → Prop} {r : Request α}

/-- From one stage of its flow a request comes to another one with such a result, or it fails before
the end with an error from outside the engine. -/
def Leads (host : Host) (flow : Flow) (source target : Stage) (post : α → Prop) (r : Request α) :
    Prop :=
  ∀ files,
    (∃ x, (r.on host ⟨flow, source⟩ files).1 = (.ok x, ⟨flow, target⟩) ∧ post x) ∨
    ∃ fault stage, (r.on host ⟨flow, source⟩ files).1 = (.error fault, ⟨flow, stage⟩) ∧
      fault.isInternal = false ∧ stage.isFinal = false

lemma Leads.bind {f : α → Request β} {post' : β → Prop}
    (hr : r.Leads host flow source between post)
    (hf : ∀ x, post x → (f x).Leads host flow between target post') :
    Request.Leads host flow source target post' (r >>= f) := by
  intro files
  rcases hon : r.on host ⟨flow, source⟩ files with ⟨outcome, after⟩
  rcases hr files with ⟨x, hx, hpost⟩ | ⟨fault, stage, hfault, hends⟩
  · rw [hon] at hx
    rw [on_bind_ok (hon.trans (Prod.ext hx rfl))]
    exact hf x hpost after
  · rw [hon] at hfault
    rw [on_bind_error (hon.trans (Prod.ext hfault rfl))]
    exact .inr ⟨fault, stage, rfl, hends⟩

lemma leads_pure (x : α) : (pure x : Request α).Leads host flow source source fun _ => True :=
  fun _ => .inl ⟨x, rfl, trivial⟩

lemma leads_ofExcept {result : Except Error α} (h : OnlyExternal result)
    (hsource : source.isFinal = false) :
    (ofExcept result).Leads host flow source source fun x => result = .ok x := by
  intro files
  rw [on_ofExcept]
  cases result with
  | error fault => exact .inr ⟨fault, source, rfl, h fault rfl, hsource⟩
  | ok x => exact .inl ⟨x, rfl, rfl⟩

lemma leads_ofAction {a : Action α} (h : a.OnlyExternal host) (hsource : source.isFinal = false) :
    (ofAction a).Leads host flow source source fun _ => True := by
  intro files
  have hresult := h files
  rw [on_ofAction]
  cases hon : (a.on host files).1 with
  | error fault => exact .inr ⟨fault, source, rfl, hresult fault hon, hsource⟩
  | ok x => exact .inl ⟨x, rfl, trivial⟩

lemma leads_advance (h : Stage.canMove flow source target = true) :
    (advance target).Leads host flow source target fun _ => True := by
  intro files
  have hmove : Progress.advance ⟨flow, source⟩ target = .ok ⟨flow, target⟩ := by
    rw [Progress.advance, if_pos h]
  rw [on_advance hmove]
  exact .inl ⟨(), rfl, trivial⟩

/-- A request has ended at this stage with a result, or as failed with an error from outside the
engine. -/
def EndsAt (flow : Flow) (last : Stage) : Except Error α × Progress → Prop
  | (.ok _, p) => p = ⟨flow, last⟩
  | (.error fault, p) => p = ⟨flow, .failed⟩ ∧ fault.isInternal = false

lemma Leads.run (h : r.Leads host flow (Progress.start flow).stage target post) (files : Files) :
    EndsAt flow target ((r.run flow).run host files).1 := by
  rw [run_run]
  rcases h files with ⟨x, hx, -⟩ | ⟨fault, stage, hfault, hexternal, hstage⟩
  · rw [show Progress.start flow = ⟨flow, (Progress.start flow).stage⟩ from rfl, hx]
    rfl
  · rw [show Progress.start flow = ⟨flow, (Progress.start flow).stage⟩ from rfl, hfault]
    refine ⟨?_, hexternal⟩
    rw [Progress.close, if_neg (by rw [hstage]; exact Bool.false_ne_true)]

end Request

namespace Engine

variable {e : Engine}

/-- The parts of an engine that are its own raise no internal errors, and its renderer fails only to
render. -/
structure Careful (e : Engine) : Prop where
  extractors : ∀ x ∈ e.extractors, ∀ bytes, OnlyExternal (x.extract bytes)
  reader : ∀ data format, OnlyExternal (e.reader.read data format)
  renderer : ∀ text fault, e.renderer.render text = .error fault → ∃ cause, fault = .rendering cause

lemma careful_of_library
    (hextractors : ∀ x ∈ e.extractors,
      x = .plain ∨ x = .document ∨ ∀ bytes, OnlyExternal (x.extract bytes))
    (hreader : e.reader = .spreadsheet ∨ ∀ data format, OnlyExternal (e.reader.read data format))
    (hrenderer : ∀ text fault, e.renderer.render text = .error fault →
      ∃ cause, fault = .rendering cause) : e.Careful where
  extractors x hx bytes := by
    rcases hextractors x hx with rfl | rfl | h
    · exact onlyExternal_plainText bytes
    · exact Document.onlyExternal_extract bytes
    · exact h bytes
  reader data format := by
    rcases hreader with h | h
    · rw [h]
      exact TableReader.onlyExternal_readSpreadsheet data format
    · exact h data format
  renderer := hrenderer

lemma Careful.render (h : e.Careful) (text : String) : OnlyExternal (e.renderer.render text) := by
  intro fault hfault
  obtain ⟨cause, rfl⟩ := h.renderer text fault hfault
  rfl

lemma onlyExternal_checkReference (reference : String) :
    OnlyExternal (checkReference reference) := by
  rw [checkReference]
  split <;> simp [isInternal]

lemma onlyExternal_checkTable (format : String) : OnlyExternal (e.checkTable format) := by
  rw [checkTable]
  split <;> simp [isInternal]

lemma onlyExternal_checkData (data : Bytes) : OnlyExternal (checkData data) := by
  rw [checkData]
  split <;> simp [isInternal]

lemma onlyExternal_converted (outcome : Converter.Outcome) :
    OnlyExternal (e.converted outcome) := by
  rw [converted.eq_def]
  split <;> simp [isInternal]

lemma Careful.templateText (h : e.Careful) (format : String) (bytes : Bytes) :
    OnlyExternal (e.templateText format bytes) := by
  rw [Engine.templateText, extractor]
  cases hfind : e.extractors.find? fun x => x.format == format with
  | none => exact onlyExternal_error_iff.2 rfl
  | some x =>
    cases hempty : bytes.isEmpty with
    | true => exact onlyExternal_error_iff.2 rfl
    | false =>
      exact (h.extractors x (List.mem_of_find?_eq_some hfind) bytes).bind fun text =>
        onlyExternal_ok _

lemma Careful.leads_extract (h : e.Careful) (reference : String) (bytes : Bytes) (format : String) :
    (e.extract reference bytes format).Leads host .extract .uploaded .extracted fun _ => True := by
  refine .bind (Request.leads_ofExcept (h.templateText _ bytes) rfl) fun text _ => ?_
  refine .bind (Request.leads_ofAction (e.store.onlyExternal_put _ _ _ _) rfl) fun template _ => ?_
  refine .bind (Request.leads_advance rfl) fun _ _ => ?_
  exact Request.leads_pure _

lemma Careful.leads_generate (h : e.Careful) (requestId reference : String) (r : Record) :
    (e.generate requestId reference r).Leads host .single .extracted .delivered fun _ => True := by
  refine .bind (Request.leads_ofExcept (onlyExternal_checkReference _) rfl) fun _ _ => ?_
  refine .bind (Request.leads_ofAction (e.store.onlyExternal_get _) rfl) fun template _ => ?_
  refine .bind (Request.leads_advance rfl) fun _ _ => ?_
  refine .bind (Request.leads_ofExcept ((h.render _).map _) rfl) fun rendered _ => ?_
  refine .bind (Request.leads_advance rfl) fun _ _ => ?_
  refine .bind (Request.leads_ofAction (Action.onlyExternal_lift _) rfl) fun outcome _ => ?_
  refine .bind (Request.leads_ofExcept (onlyExternal_converted _) rfl) fun document _ => ?_
  refine .bind (Request.leads_advance rfl) fun _ _ => ?_
  refine .bind (Request.leads_advance rfl) fun _ _ => ?_
  exact Request.leads_pure _

lemma Careful.leads_generateBatch (h : e.Careful) (requestId : String) (schedule : List Pool.Event)
    (reference : String) (data : Bytes) (format : String) :
    (e.generateBatch requestId schedule reference data format).Leads host .batch .extracted
      .delivered fun _ => True := by
  refine .bind (Request.leads_ofExcept (onlyExternal_checkTable _) rfl) fun _ _ => ?_
  refine .bind (Request.leads_ofExcept (onlyExternal_checkReference _) rfl) fun _ _ => ?_
  refine .bind (Request.leads_ofExcept (onlyExternal_checkData _) rfl) fun _ _ => ?_
  refine .bind (Request.leads_ofAction (e.store.onlyExternal_get _) rfl) fun template _ => ?_
  refine .bind (Request.leads_ofExcept (h.reader _ _) rfl) fun rows _ => ?_
  refine .bind (Request.leads_ofExcept (Batch.onlyExternal_expand h.render _ _ _) rfl)
    fun artifacts hartifacts => ?_
  refine .bind (Request.leads_advance rfl) fun _ _ => ?_
  refine .bind (Request.leads_ofExcept (Bundle.onlyExternal_pack hartifacts _) rfl)
    fun bundle _ => ?_
  refine .bind (Request.leads_advance rfl) fun _ _ => ?_
  refine .bind (Request.leads_advance rfl) fun _ _ => ?_
  exact Request.leads_pure _

section Conversions

variable {requestId reference : String} {template : Template} {r : Record} {rendered : Artifact}

lemma run_generate_of_unrendered (hholds : e.store.Holds host files template) {fault : Error}
    (hrendered : e.renderFilled template r = .error fault) :
    ((e.generate requestId template.reference r).run .single).run host files =
      ((.error fault, ⟨.single, .failed⟩), files) := by
  rw [run_generate_eq_deliver hholds, deliver]
  change (e.renderer.render (fill template.text r)).map _ = _ at hrendered
  cases hcontent : e.renderer.render (fill template.text r) with
  | error cause =>
    rw [hcontent] at hrendered
    cases hrendered
    rfl
  | ok content =>
    rw [hcontent] at hrendered
    cases hrendered

/-- A rendered document goes to the converter, and what becomes of it there is the end of the
request. -/
lemma run_generate_of_rendered (hholds : e.store.Holds host files template)
    (hrendered : e.renderFilled template r = .ok rendered) {outcome : Converter.Outcome}
    (hconvert : (e.converter.convert (some e.settings.conversionLimit.toNat) rendered).run host
      files = (outcome, files')) :
    ((e.generate requestId template.reference r).run .single).run host files =
      match e.converted outcome with
      | .ok document =>
        ((.ok ⟨requestId, document.name, e.converter.contentType, document.content⟩,
          ⟨.single, .delivered⟩), files')
      | .error fault => ((.error fault, ⟨.single, .failed⟩), files') := by
  rw [run_generate_eq_deliver hholds, deliver]
  change (e.renderer.render (fill template.text r)).map _ = _ at hrendered
  cases hcontent : e.renderer.render (fill template.text r) with
  | error fault =>
    rw [hcontent] at hrendered
    cases hrendered
  | ok content =>
    rw [hcontent] at hrendered
    cases hrendered
    obtain ⟨rfl, rfl⟩ := Prod.ext_iff.1 hconvert
    rfl

lemma converted_of_unfinished {outcome : Converter.Outcome}
    (h : ∀ a, outcome ≠ .finished a) :
    ∃ text, e.converted outcome = .error (.conversion text) := by
  rw [converted.eq_def]
  split
  · next a => exact absurd rfl (h a)
  · exact ⟨_, rfl⟩
  · exact ⟨_, rfl⟩
  · exact ⟨_, rfl⟩

lemma finished_of_converted {outcome : Converter.Outcome} {document : Artifact}
    (h : e.converted outcome = .ok document) : outcome = .finished document := by
  by_contra hnot
  have hunfinished : ∀ a, outcome ≠ .finished a := by
    rintro a rfl
    cases h
    exact hnot rfl
  obtain ⟨text, htext⟩ := converted_of_unfinished (e := e) hunfinished
  rw [h] at htext
  cases htext

lemma exists_of_run_generate {d : Delivery} {p : Progress}
    (h : ((e.generate requestId reference r).run .single).run host files = ((.ok d, p), files')) :
    ∃ template : Template, template.reference = reference ∧ e.store.Holds host files template := by
  rw [Request.run_run] at h
  rcases hon : (e.generate requestId reference r).on host (.start .single) files with
    ⟨⟨result, q⟩, after⟩
  rw [hon] at h
  cases h
  obtain ⟨_, q1, files1, hreference, hon⟩ := Request.on_bind_eq_ok hon
  obtain ⟨template, q2, files2, hget, -⟩ := Request.on_bind_eq_ok hon
  rw [Request.on_ofExcept, Prod.mk.injEq] at hreference
  rw [Request.on_ofAction, ← hreference.2] at hget
  exact ⟨template, Store.holds_of_on_get (Prod.ext (Prod.mk.inj (Prod.mk.inj hget).1).1 rfl)⟩

lemma exists_of_run_generate_eq_ok {d : Delivery} {p : Progress}
    (h : ((e.generate requestId reference r).run .single).run host files = ((.ok d, p), files')) :
    ∃ template rendered document, template.reference = reference ∧
      e.store.Holds host files template ∧ e.renderFilled template r = .ok rendered ∧
      (e.converter.convert (some e.settings.conversionLimit.toNat) rendered).run host files =
        (.finished document, files') ∧
      d = ⟨requestId, document.name, e.converter.contentType, document.content⟩ := by
  obtain ⟨template, rfl, hholds⟩ := exists_of_run_generate h
  cases hrendered : e.renderFilled template r with
  | error fault =>
    rw [run_generate_of_unrendered hholds hrendered] at h
    cases h
  | ok rendered =>
    rcases hconvert : (e.converter.convert (some e.settings.conversionLimit.toNat) rendered).run
      host files with ⟨outcome, after⟩
    rw [run_generate_of_rendered hholds hrendered hconvert] at h
    cases hconverted : e.converted outcome with
    | error fault =>
      rw [hconverted] at h
      cases h
    | ok document =>
      rw [hconverted] at h
      cases h
      rw [finished_of_converted hconverted] at hconvert
      exact ⟨template, rendered, document, rfl, hholds, hrendered, hconvert, rfl⟩

end Conversions

/-- A request ends at the last stage of its flow with a result, or as failed with an error that is
not internal, whatever the files, the input and the converter are. A single document is delivered
only if the converter has finished, and is then what the converter has made; any other outcome is an
error of the conversion. The parts of the library raise no internal errors. -/
theorem requests_end_properly (host : Host) (files : Files) (e : Engine)
    (hextractors : ∀ x ∈ e.extractors,
      x = .plain ∨ x = .document ∨ ∀ bytes, OnlyExternal (x.extract bytes))
    (hreader : e.reader = .spreadsheet ∨ ∀ data format, OnlyExternal (e.reader.read data format))
    (hrenderer : ∀ text fault, e.renderer.render text = .error fault →
      ∃ cause, fault = .rendering cause) :
    (∀ reference bytes format, Request.EndsAt .extract .extracted
      (((e.extract reference bytes format).run .extract).run host files).1) ∧
    (∀ requestId reference r, Request.EndsAt .single .delivered
      (((e.generate requestId reference r).run .single).run host files).1) ∧
    (∀ requestId schedule reference data format, Request.EndsAt .batch .delivered
      (((e.generateBatch requestId schedule reference data format).run .batch).run host files).1) ∧
    (∀ requestId reference r d p files',
      ((e.generate requestId reference r).run .single).run host files = ((.ok d, p), files') →
      ∃ template rendered document, template.reference = reference ∧
        e.store.Holds host files template ∧ e.renderFilled template r = .ok rendered ∧
        (e.converter.convert (some e.settings.conversionLimit.toNat) rendered).run host files =
          (.finished document, files') ∧
        d = ⟨requestId, document.name, e.converter.contentType, document.content⟩) ∧
    ∀ requestId template r rendered outcome files',
      e.store.Holds host files template → e.renderFilled template r = .ok rendered →
      (e.converter.convert (some e.settings.conversionLimit.toNat) rendered).run host files =
        (outcome, files') →
      (∀ document, outcome = .finished document →
        ((e.generate requestId template.reference r).run .single).run host files =
          ((.ok ⟨requestId, document.name, e.converter.contentType, document.content⟩,
            ⟨.single, .delivered⟩), files')) ∧
      ((∀ document, outcome ≠ .finished document) → ∃ text,
        ((e.generate requestId template.reference r).run .single).run host files =
          ((.error (.conversion text), ⟨.single, .failed⟩), files')) := by
  have hcareful : e.Careful := careful_of_library hextractors hreader hrenderer
  refine ⟨fun reference bytes format => ?_, fun requestId reference r => ?_,
    fun requestId schedule reference data format => ?_, fun _ _ _ _ _ _ hrun => ?_,
    fun requestId template r rendered outcome files' hholds hrendered hconvert => ⟨?_, ?_⟩⟩
  · exact (hcareful.leads_extract reference bytes format).run files
  · exact (hcareful.leads_generate requestId reference r).run files
  · exact (hcareful.leads_generateBatch requestId schedule reference data format).run files
  · exact exists_of_run_generate_eq_ok hrun
  · rintro document rfl
    exact run_generate_of_rendered hholds hrendered hconvert
  · intro hnot
    obtain ⟨text, htext⟩ := converted_of_unfinished (e := e) hnot
    rw [run_generate_of_rendered hholds hrendered hconvert, htext]
    exact ⟨text, rfl⟩

/-- The sample engine with a converter that comes to no end. -/
def sampleStalled : Engine :=
  { samplePlain with
    converter :=
      { name := "stalled"
        targetExtension := "pdf"
        contentType := "application/pdf"
        missing := return []
        convert := fun _ _ => return .unfinished } }

theorem requests_end_properly_stalled :
    (∀ x ∈ sampleStalled.extractors,
      x = .plain ∨ x = .document ∨ ∀ bytes, OnlyExternal (x.extract bytes)) ∧
    (sampleStalled.reader = .spreadsheet ∨
      ∀ data format, OnlyExternal (sampleStalled.reader.read data format)) ∧
    (∀ text fault, sampleStalled.renderer.render text = .error fault →
      ∃ cause, fault = .rendering cause) ∧
    (∃ text, ((sampleStalled.generate "0" sampleTemplate.reference
        (.ofList [("name", "Ann")])).run .single).run sampleHost sampleFiles =
      ((.error (.conversion text), ⟨.single, .failed⟩), sampleFiles)) ∧
    Request.EndsAt .batch .delivered (((sampleStalled.generateBatch "0" [] sampleTemplate.reference
      (Utf8.encode "name\nAnn\n") "csv").run .batch).run sampleHost sampleFiles).1 := by
  have hextractors : ∀ x ∈ sampleStalled.extractors,
      x = .plain ∨ x = .document ∨ ∀ bytes, OnlyExternal (x.extract bytes) :=
    fun x hx => .inl (List.mem_singleton.1 hx)
  have hrenderer : ∀ text fault, sampleStalled.renderer.render text = .error fault →
      ∃ cause, fault = .rendering cause := nofun
  have hholds : sampleStalled.store.Holds sampleHost sampleFiles sampleTemplate := holds_sample
  have hrendered : sampleStalled.renderFilled sampleTemplate (.ofList [("name", "Ann")]) =
      .ok ⟨"filled.txt", Utf8.encode (fill sampleTemplate.text (.ofList [("name", "Ann")]))⟩ := rfl
  obtain ⟨-, -, hbatch, -, hconverts⟩ :=
    requests_end_properly sampleHost sampleFiles sampleStalled hextractors (.inl rfl) hrenderer
  have hsingle := (hconverts "0" _ _ _ .unfinished sampleFiles hholds hrendered rfl).2 nofun
  exact ⟨hextractors, .inl rfl, hrenderer, hsingle,
    hbatch "0" [] sampleTemplate.reference (Utf8.encode "name\nAnn\n") "csv"⟩

end Engine

end MailMerge
