import MailMerge.Proofs.RequestRuns
import MailMerge.Proofs.TokenReading

/-!
# Documents of stored templates

A template that its store gives back is filled by every later request: reading it changes no file,
and one document of it is what the renderer makes of the filled text (`run_generate`).
-/

namespace MailMerge

variable {host : Host} {files : Files}

namespace Store

/-- The store gives this template for its reference. -/
def Holds (s : Store) (host : Host) (files : Files) (template : Template) : Prop :=
  ((s.get template.reference).on host files).1 = .ok template

lemma on_get (s : Store) (reference : String) :
    (s.get reference).on host files =
      ((checkReference reference).bind fun _ =>
        templateOf reference (files.read host.working (s.textPath reference)), files) := by
  unfold get checkReference
  by_cases h : isReference reference
  · rw [if_pos h, Action.on_bind_ok (Action.on_mk (.ok ()))]
    rfl
  · rw [if_neg h, Action.on_bind_error (Action.on_mk (.error _))]
    rfl

lemma reference_of_templateOf {reference : String} {read : Except FileFault Bytes}
    {template : Template} (h : templateOf reference read = .ok template) :
    template.reference = reference := by
  unfold templateOf at h
  split at h
  · cases h
  · cases h
  · split at h
    · cases h
      rfl
    · cases h

lemma reference_of_on_get {s : Store} {reference : String} {template : Template}
    (h : ((s.get reference).on host files).1 = .ok template) : template.reference = reference := by
  rw [on_get, checkReference] at h
  by_cases href : isReference reference = true
  · rw [if_pos href] at h
    exact reference_of_templateOf h
  · rw [if_neg href] at h
    cases h

lemma Holds.on_get {s : Store} {template : Template} (h : s.Holds host files template) :
    (s.get template.reference).on host files = (.ok template, files) := by
  rw [Holds, Store.on_get] at h
  dsimp only at h
  rw [Store.on_get, h]

lemma Holds.isReference {s : Store} {template : Template} (h : s.Holds host files template) :
    isReference template.reference = true := by
  rw [Holds, Store.on_get, checkReference] at h
  by_cases href : Store.isReference template.reference
  · exact href
  · rw [if_neg href] at h
    cases h

lemma holds_of_read {s : Store} {template : Template}
    (href : isReference template.reference = true)
    (hread : files.read host.working (s.textPath template.reference) =
      .ok (Utf8.encode template.text)) : s.Holds host files template := by
  rw [Holds, Store.on_get, checkReference, if_pos href, hread]
  simp only [Except.bind, templateOf, Utf8.decode_encode]

end Store

section Sample

/-- A machine on which no program can be called. -/
def sampleHost : Host where
  working := []
  launch _ _ files := (.error .unavailable, files)

def sampleTemplate : Template :=
  ⟨"0123456789abcdef0123456789abcdef", "Dear \x7b\x7bname\x7d\x7d"⟩

/-- A store with one template. -/
def sampleFiles : Files where
  entries := [(["templates"], .folder),
    (["templates", sampleTemplate.reference ++ ".extracted"],
      .file (Utf8.encode sampleTemplate.text) false)]
  distinct := by decide

def sampleSettings : Settings :=
  { Settings.standard "/tmp" with storageFolder := "templates" }

lemma holds_sample : Store.Holds ⟨⟨"templates"⟩⟩ sampleHost sampleFiles sampleTemplate :=
  Store.holds_of_read (by decide +kernel) rfl

end Sample

lemma isBlank_of_isReferenceChar {c : Char} (h : Store.isReferenceChar c = true) :
    Text.isBlank c = false := by
  apply Token.isBlank_of_isNameChar
  simp only [Store.isReferenceChar, isNameChar, Bool.or_eq_true, Bool.and_eq_true,
    decide_eq_true_eq] at h ⊢
  rcases h with h | ⟨ha, hf⟩
  · exact .inl (.inl (.inl (.inr h)))
  · exact .inl (.inl (.inl (.inl (.inr ⟨ha, Char.le_trans hf (by decide)⟩))))

lemma isBlankText_of_isReference {reference : String} (h : Store.isReference reference = true) :
    Text.isBlankText reference = false := by
  rw [Store.isReference, Bool.and_eq_true, beq_iff_eq, List.all_eq_true] at h
  cases hchars : reference.toList with
  | nil =>
    rw [hchars] at h
    cases h.1
  | cons c cs =>
    have hc := isBlank_of_isReferenceChar (h.2 c (by simp [hchars]))
    rw [Text.isBlankText, hchars, List.all_cons, hc, Bool.false_and]

namespace Engine

variable {e : Engine} {template : Template}

lemma checkReference_of_isReference {reference : String}
    (h : Store.isReference reference = true) : checkReference reference = .ok () := by
  rw [checkReference, isBlankText_of_isReference h]
  rfl

/-- One document of a stored template is what the renderer makes of the filled text, where the
converter delivers it as it is. -/
theorem run_generate (hholds : e.store.Holds host files template)
    (hconverter : e.converter = .passthrough e.renderer) {r : Record} {content : Bytes}
    (hcontent : e.renderer.render (fill template.text r) = .ok content) (requestId : String) :
    ((e.generate requestId template.reference r).run .single).run host files =
      ((.ok ⟨requestId, e.singleName, e.renderer.contentType, content⟩, ⟨.single, .delivered⟩),
        files) := by
  have hreference := checkReference_of_isReference hholds.isReference
  have hrendered : e.renderFilled template r = .ok ⟨e.singleName, content⟩ := by
    change (e.renderer.render (fill template.text r)).map _ = _
    rw [hcontent]
    rfl
  have hgenerate : (e.generate requestId template.reference r).on host (.start .single) files =
      ((.ok ⟨requestId, e.singleName, e.renderer.contentType, content⟩, ⟨.single, .delivered⟩),
        files) := by
    rw [generate, Request.on_bind_ok (Request.on_ofExcept_eq hreference),
      Request.on_bind_ok (Request.on_ofAction_eq hholds.on_get),
      Request.on_bind_ok (Request.on_advance rfl),
      Request.on_bind_ok (Request.on_ofExcept_eq hrendered),
      Request.on_bind_ok (Request.on_advance rfl), hconverter]
    rfl
  rw [Request.run_run, hgenerate]
  rfl

end Engine

end MailMerge
