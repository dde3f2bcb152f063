import MailMerge.Proofs.DocumentRoundTrip
import MailMerge.Proofs.StoreWrites

/-!
# Documents as templates

A document that is stored as a template keeps its text through every step of its way: reading it,
its normal form, the store, filling, and writing it as a document again
(`document_template_round_trip`).
-/

namespace MailMerge.Engine

variable {host : Host} {files files' : Files} {e : Engine}

lemma on_extract_eq_ok {reference : String} {bytes : Bytes} {format : String} {p q : Progress}
    {x : Extraction}
    (h : (e.extract reference bytes format).on host p files = ((.ok x, q), files')) :
    ∃ text, e.templateText (normalizeFormat format) bytes = .ok text ∧
      x = ⟨MailMerge.placeholders text, reference⟩ ∧
      files'.read host.working (e.store.textPath reference) = .ok (Utf8.encode text) := by
  obtain ⟨text, p1, files1, htext, h⟩ := Request.on_bind_eq_ok h
  obtain ⟨template, p2, files2, hput, h⟩ := Request.on_bind_eq_ok h
  obtain ⟨_, p3, files3, hadvance, h⟩ := Request.on_bind_eq_ok h
  simp only [Request.on_ofExcept, Prod.mk.injEq] at htext
  simp only [Request.on_ofAction, Prod.mk.injEq] at hput
  rw [Request.on_advance_eq, Prod.mk.injEq] at hadvance
  rw [Request.on_pure] at h
  cases h
  rw [← hadvance.2, ← hput.2]
  have hstored := Store.read_of_put (Prod.ext hput.1.1 rfl)
  obtain ⟨rfl, hread⟩ := hstored
  exact ⟨text, htext.1.1, rfl, hread⟩

lemma run_extract_eq_ok {reference : String} {bytes : Bytes} {format : String} {p : Progress}
    {x : Extraction}
    (h : ((e.extract reference bytes format).run .extract).run host files =
      ((.ok x, p), files')) :
    ∃ text, e.templateText (normalizeFormat format) bytes = .ok text ∧
      x = ⟨MailMerge.placeholders text, reference⟩ ∧
      files'.read host.working (e.store.textPath reference) = .ok (Utf8.encode text) := by
  rw [Request.run_run] at h
  rcases hon : (e.extract reference bytes format).on host (.start .extract) files with
    ⟨⟨result, q⟩, after⟩
  rw [hon] at h
  cases h
  exact on_extract_eq_ok hon

/-- An upload with a text is accepted unless the store fails. -/
lemma run_extract {bytes : Bytes} {format text : String}
    (htext : e.templateText (normalizeFormat format) bytes = .ok text) (reference : String) :
    (((e.extract reference bytes format).run .extract).run host files).1.1 =
      ((e.store.put reference bytes (normalizeFormat format) text).on host files).1.map fun t =>
        ⟨MailMerge.placeholders text, t.reference⟩ := by
  rcases hput : (e.store.put reference bytes (normalizeFormat format) text).on host files with
    ⟨result, after⟩
  rw [Request.run_run, extract, Request.on_bind_ok (Request.on_ofExcept_eq htext)]
  cases result with
  | error fault =>
    rw [Request.on_bind_error (Request.on_ofAction_eq hput)]
    rfl
  | ok template =>
    rw [Request.on_bind_ok (Request.on_ofAction_eq hput),
      Request.on_bind_ok (Request.on_advance rfl)]
    rfl

lemma run_extract_of_error {bytes : Bytes} {format : String} {fault : Error}
    (h : e.templateText (normalizeFormat format) bytes = .error fault) (reference : String) :
    ((e.extract reference bytes format).run .extract).run host files =
      ((.error fault, ⟨.extract, .failed⟩), files) := by
  rw [Request.run_run, extract, Request.on_bind_error (Request.on_ofExcept_eq h)]
  rfl

lemma mem_of_extractor {format : String} {x : Extractor} (hx : e.extractor format = .ok x) :
    x ∈ e.extractors ∧ x.format = format := by
  unfold extractor at hx
  split at hx
  · next found hfind =>
    cases hx
    exact ⟨List.mem_of_find?_eq_some hfind, by simpa using List.find?_some hfind⟩
  · cases hx

lemma templateText_of_extractor {format : String} {x : Extractor} {bytes : Bytes}
    (hx : e.extractor format = .ok x) (hsome : bytes ≠ []) :
    e.templateText format bytes = (x.extract bytes).map normalizeText := by
  have hempty : bytes.isEmpty = false := List.isEmpty_eq_false_iff.mpr hsome
  rw [templateText, hx]
  simp only [hempty]
  change (x.extract bytes).bind _ = _
  cases x.extract bytes with
  | error fault => rfl
  | ok text => rfl

section Office

variable {around : Surroundings} {settings : Settings} {toPdf : Bool}

lemma extractor_document (around : Surroundings) (settings : Settings) (toPdf : Bool) :
    (office around settings toPdf).extractor "docx" = .ok .document := rfl

lemma templateText_document {bytes : Bytes} (hsome : bytes ≠ []) :
    (office around settings toPdf).templateText "docx" bytes =
      (Document.extract bytes).map normalizeText :=
  templateText_of_extractor (extractor_document around settings toPdf) hsome

lemma exists_text {bytes : Bytes} {text : String}
    (h : (office around settings toPdf).templateText "docx" bytes = .ok text) :
    ∃ found, Document.extract bytes = .ok found ∧ text = normalizeText found := by
  have hsome : bytes ≠ [] := by
    rintro rfl
    rw [templateText, extractor_document] at h
    cases h
  rw [templateText_document hsome] at h
  cases hextract : Document.extract bytes with
  | error fault =>
    rw [hextract] at h
    cases h
  | ok found =>
    rw [hextract] at h
    cases h
    exact ⟨found, rfl, rfl⟩

lemma render_ne_nil (text : String) : Document.render text ≠ [] := by
  intro h
  have hlength := Archive.length_write (Document.parts text)
  rw [← Document.render, h, List.length_nil] at hlength
  omega

/-- The template of a document that was written from a text is the normal form of the text. -/
lemma templateText_render {text : String}
    (h : (Document.render text).length < Archive.placeBound) :
    (office around settings toPdf).templateText "docx" (Document.render text) =
      .ok (normalizeText text) := by
  rw [templateText_document (render_ne_nil text), Document.extract_render h, Except.map,
    normalizeText_append_lineEnds]

lemma run_generate_office {template : Template}
    (hholds : (office around settings false).store.Holds host files template) (r : Record)
    (requestId : String) :
    ∃ delivery, (((office around settings false).generate requestId template.reference r).run
        .single).run host files = ((.ok delivery, ⟨.single, .delivered⟩), files) ∧
      delivery.bytes = Document.render (fill template.text r) :=
  ⟨_, run_generate hholds rfl rfl requestId, rfl⟩

end Office

/-- An uploaded document that is accepted has a text; the placeholders of its normal form are
reported, and every document that is made of it later, as long as the stored text stays, is read as
the filled normal form and two line ends. Of a document that was written from a text, the
placeholders of the text are reported unless the store fails. No document in memory is as long as
the bound. -/
theorem document_template_round_trip (host : Host) (files : Files) (around : Surroundings)
    (settings : Settings) (format reference : String) (hformat : normalizeFormat format = "docx")
    (href : Store.isReference reference = true) :
    (∀ bytes x p files', (((office around settings false).extract reference bytes format).run
          .extract).run host files = ((.ok x, p), files') →
      ∃ text, Document.extract bytes = .ok text ∧
        x = ⟨MailMerge.placeholders (normalizeText text), reference⟩ ∧
        ∀ later : Files,
          later.read host.working ((office around settings false).store.textPath reference) =
            files'.read host.working ((office around settings false).store.textPath reference) →
          ∀ r requestId, ∃ delivery,
            (((office around settings false).generate requestId reference r).run .single).run host
              later = ((.ok delivery, ⟨.single, .delivered⟩), later) ∧
            (delivery.bytes.length < Archive.placeBound →
              Document.extract delivery.bytes = .ok (fill (normalizeText text) r ++ "\n\n"))) ∧
    (∀ text, (Document.render text).length < Archive.placeBound →
      ((((office around settings false).extract reference (Document.render text) format).run
          .extract).run host files).1.1 =
        (((office around settings false).store.put reference (Document.render text) "docx"
          (normalizeText text)).on host files).1.map fun template =>
            ⟨MailMerge.placeholders text, template.reference⟩) := by
  constructor
  · intro bytes x p files' hrun
    obtain ⟨text, htext, rfl, hread⟩ := run_extract_eq_ok hrun
    rw [hformat] at htext
    obtain ⟨found, hfound, rfl⟩ := exists_text htext
    refine ⟨found, hfound, rfl, ?_⟩
    intro later hlater r requestId
    rw [hread] at hlater
    have hholds : (office around settings false).store.Holds host later
        ⟨reference, normalizeText found⟩ := Store.holds_of_read href hlater
    obtain ⟨delivery, hdelivery, hbytes⟩ := run_generate_office hholds r requestId
    refine ⟨delivery, hdelivery, ?_⟩
    rw [hbytes]
    exact Document.extract_render
  · intro text hbound
    have htext : (office around settings false).templateText (normalizeFormat format)
        (Document.render text) = .ok (normalizeText text) := by
      rw [hformat, templateText_render hbound]
    rw [run_extract htext, hformat, placeholders_normalizeText]

/-- A reference that no sample template has. -/
def sampleReference : String := "fedcba9876543210fedcba9876543210"

theorem document_template_round_trip_sample :
    ∃ p files' delivery,
      (((office ⟨⟨"/"⟩, []⟩ sampleSettings false).extract sampleReference
          (Document.render sampleTemplate.text) ".DOCX").run .extract).run sampleHost sampleFiles =
        ((.ok ⟨["name"], sampleReference⟩, p), files') ∧
      (((office ⟨⟨"/"⟩, []⟩ sampleSettings false).generate "0" sampleReference
          (.ofList [("name", "Ann")])).run .single).run sampleHost files' =
        ((.ok delivery, ⟨.single, .delivered⟩), files') ∧
      Document.extract delivery.bytes = .ok "Dear Ann\n\n" := by
  have hformat : normalizeFormat ".DOCX" = "docx" := by decide +kernel
  have href : Store.isReference sampleReference = true := by decide +kernel
  have hsample := document_template_round_trip sampleHost sampleFiles ⟨⟨"/"⟩, []⟩ sampleSettings
    ".DOCX" sampleReference hformat href
  have hsize : (Document.render sampleTemplate.text).length < Archive.placeBound := by
    decide +kernel
  have hreported := hsample.2 sampleTemplate.text hsize
  have hput : (((office ⟨⟨"/"⟩, []⟩ sampleSettings false).store.put sampleReference
      (Document.render sampleTemplate.text) "docx" (normalizeText sampleTemplate.text)).on
        sampleHost sampleFiles).1 = .ok ⟨sampleReference, sampleTemplate.text⟩ := by
    decide +kernel
  have hnames : MailMerge.placeholders sampleTemplate.text = ["name"] := by decide +kernel
  rcases hrun : (((office ⟨⟨"/"⟩, []⟩ sampleSettings false).extract sampleReference
      (Document.render sampleTemplate.text) ".DOCX").run .extract).run sampleHost sampleFiles with
    ⟨⟨result, p⟩, files'⟩
  rw [hrun, hput, hnames] at hreported
  cases hreported
  obtain ⟨text, htext, -, hdelivered⟩ := hsample.1 _ _ p files' hrun
  rw [Document.extract_render hsize, Except.ok.injEq] at htext
  have hfilled : fill (normalizeText text) (.ofList [("name", "Ann")]) = "Dear Ann" := by
    rw [← htext, normalizeText_append_lineEnds]
    decide +kernel
  obtain ⟨delivery, hdelivery, hextract⟩ := hdelivered files' rfl (.ofList [("name", "Ann")]) "0"
  rw [hfilled] at hextract
  -- The archive of the delivery is as long as that of a document of the filled text.
  obtain ⟨stored, hstored, -, hread⟩ := run_extract_eq_ok hrun
  rw [hformat, templateText_render hsize, Except.ok.injEq] at hstored
  have hholds : (office ⟨⟨"/"⟩, []⟩ sampleSettings false).store.Holds sampleHost files'
      ⟨sampleReference, stored⟩ := Store.holds_of_read href hread
  obtain ⟨written, hwritten, hbytes⟩ :=
    run_generate_office hholds (.ofList [("name", "Ann")]) "0"
  rw [hdelivery] at hwritten
  cases hwritten
  rw [← hstored, ← normalizeText_append_lineEnds, htext, hfilled] at hbytes
  have hbound : delivery.bytes.length < Archive.placeBound := by
    rw [hbytes]
    decide +kernel
  exact ⟨p, files', delivery, rfl, hdelivery, hextract hbound⟩

end MailMerge.Engine
