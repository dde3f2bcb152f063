import MailMerge.Proofs.BatchDelivery
import MailMerge.Proofs.DocumentTemplates
import MailMerge.Proofs.FailureKinds

/-!
# Faults of extraction

A plain text fails to be read only as an extraction. So does a word document if its main part is
missing or is the bytes of a text; a main part that cannot be unpacked, or is no text, is a file
fault, although no file was read. An upload fails as its extraction does, or as its store
(`uploads_fail_as_extraction`).
-/

namespace MailMerge

variable {host : Host} {files : Files} {bytes : Bytes}

namespace Utf8

lemma eq_encode_of_decode {text : String} (h : decode bytes = .ok text) : bytes = encode text := by
  unfold decode at h
  split at h
  · next found hfound =>
    cases h
    rw [String.fromUTF8?] at hfound
    split at hfound
    · cases hfound
      rfl
    · cases hfound
  · cases h

end Utf8

namespace Error

def IsExtraction (fault : Error) : Prop :=
  ∃ cause, fault = .extraction cause

def IsFile (fault : Error) : Prop :=
  ∃ cause, fault = .file cause

end Error

open Error

lemma failsOnly_plainText (bytes : Bytes) : FailsOnly IsExtraction (plainText bytes) := by
  rw [plainText]
  split
  · exact failsOnly_ok _
  · exact failsOnly_error_iff.mpr ⟨_, rfl⟩

namespace Document

/-- The main part of an archive is missing or the bytes of a text. -/
def IsLegible (bytes : Bytes) : Prop :=
  ∀ archive, Archive.open? true bytes = some archive →
    archive.content mainPart = .error .absent ∨
      ∃ markup, archive.content mainPart = .ok (Utf8.encode markup)

lemma extract_of_not_isLegible (h : ¬IsLegible bytes) :
    ∃ fault, extract bytes = .error fault ∧ fault.IsFile := by
  simp only [IsLegible, not_forall, not_or] at h
  obtain ⟨archive, hopen, habsent, htext⟩ := h
  rw [extract, hopen]
  dsimp only
  cases hcontent : archive.content mainPart with
  | error fault =>
    cases fault with
    | absent => exact absurd hcontent habsent
    | corrupt => exact ⟨_, rfl, _, rfl⟩
  | ok content =>
    dsimp only
    cases hdecode : Utf8.decode content with
    | error fault => exact ⟨_, rfl, _, rfl⟩
    | ok markup =>
      rw [Utf8.eq_encode_of_decode hdecode] at hcontent
      exact absurd ⟨markup, hcontent⟩ htext

lemma failsOnly_extract (h : IsLegible bytes) : FailsOnly IsExtraction (extract bytes) := by
  unfold extract
  cases hopen : Archive.open? true bytes with
  | none => exact failsOnly_error_iff.mpr ⟨_, rfl⟩
  | some archive =>
    rcases h archive hopen with hcontent | ⟨markup, hcontent⟩
    · simp only [hcontent]
      exact failsOnly_error_iff.mpr ⟨_, rfl⟩
    · simp only [hcontent, Utf8.decode_encode]
      split
      · exact failsOnly_ok _
      · exact failsOnly_error_iff.mpr ⟨_, rfl⟩
      · exact failsOnly_error_iff.mpr ⟨_, rfl⟩

lemma failsOnly_extract_iff : FailsOnly IsExtraction (extract bytes) ↔ IsLegible bytes := by
  refine ⟨fun h => ?_, failsOnly_extract⟩
  by_contra hillegible
  obtain ⟨_, hextract, cause, rfl⟩ := extract_of_not_isLegible hillegible
  obtain ⟨text, hfault⟩ := h _ hextract
  cases hfault

end Document

namespace Engine

variable {e : Engine} {format : String}

/-- The text of an upload is extracted, and the store fails to keep it. -/
def FailsToStore (e : Engine) (host : Host) (files : Files) (reference : String) (bytes : Bytes)
    (format : String) (fault : Error) : Prop :=
  ∃ text, e.templateText (normalizeFormat format) bytes = .ok text ∧
    ((e.store.put reference bytes (normalizeFormat format) text).on host files).1 = .error fault

lemma exists_extractor_of_supported (hformat : format ∈ e.templateFormats) :
    ∃ x, e.extractor format = .ok x := by
  obtain ⟨x, hx, hxformat⟩ := List.mem_map.mp hformat
  unfold extractor
  cases hfind : e.extractors.find? fun x => x.format == format with
  | none =>
    have hother := List.find?_eq_none.mp hfind x hx
    exact absurd (beq_iff_eq.mpr hxformat) hother
  | some found => exact ⟨found, rfl⟩

lemma failsToStore_of_run {text reference : String} {fault : Error}
    (htext : e.templateText (normalizeFormat format) bytes = .ok text)
    (hrun : (((e.extract reference bytes format).run .extract).run host files).1.1 =
      .error fault) :
    e.FailsToStore host files reference bytes format fault ∧ fault.IsFile := by
  rw [run_extract htext] at hrun
  cases hput : ((e.store.put reference bytes (normalizeFormat format) text).on host files).1 with
  | ok template =>
    rw [hput] at hrun
    cases hrun
  | error cause =>
    rw [hput] at hrun
    cases hrun
    have hkind : ∀ cause, IsFile (.file cause) := fun cause => ⟨cause, rfl⟩
    have hfile : Action.FailsOnly host IsFile
        (e.store.put reference bytes (normalizeFormat format) text) :=
      e.store.failsOnly_put hkind reference bytes (normalizeFormat format) text
    exact ⟨⟨text, htext, hput⟩, hfile files _ hput⟩

/-- A nonempty upload of a supported format fails to be extracted or to be stored, unless it is a
word document with an illegible main part. -/
lemma failsOnly_run_extract_iff (hextractors : ∀ x ∈ e.extractors, x = .plain ∨ x = .document)
    (hformat : normalizeFormat format ∈ e.templateFormats) (hsome : bytes ≠ [])
    (reference : String) :
    FailsOnly (fun fault => fault.IsExtraction ∨
        e.FailsToStore host files reference bytes format fault ∧ fault.IsFile)
      (((e.extract reference bytes format).run .extract).run host files).1.1 ↔
      (normalizeFormat format = "docx" → Document.IsLegible bytes) := by
  obtain ⟨x, hextractor⟩ := exists_extractor_of_supported hformat
  obtain ⟨hx, hxformat⟩ := mem_of_extractor hextractor
  have htemplate := templateText_of_extractor hextractor hsome
  constructor
  · intro hfails hdocx
    have hdocument : x = .document := by
      rcases hextractors x hx with rfl | rfl
      · rw [hdocx] at hxformat
        exact absurd hxformat (by decide)
      · rfl
    rw [hdocument] at htemplate
    by_contra hillegible
    obtain ⟨_, hextract, cause, rfl⟩ := Document.extract_of_not_isLegible hillegible
    have herror : e.templateText (normalizeFormat format) bytes = .error (.file cause) := by
      rw [htemplate]
      change (Document.extract bytes).map _ = _
      rw [hextract]
      rfl
    rw [run_extract_of_error herror] at hfails
    rcases hfails _ rfl with ⟨text, hfault⟩ | ⟨⟨text, htext, -⟩, -⟩
    · cases hfault
    · rw [herror] at htext
      cases htext
  · intro hlegible fault hrun
    have hextract : FailsOnly IsExtraction (x.extract bytes) := by
      rcases hextractors x hx with rfl | rfl
      · exact failsOnly_plainText bytes
      · exact Document.failsOnly_extract (hlegible hxformat.symm)
    cases htext : e.templateText (normalizeFormat format) bytes with
    | error cause =>
      rw [run_extract_of_error htext] at hrun
      cases hrun
      rw [htemplate] at htext
      exact .inl (hextract.map normalizeText _ htext)
    | ok text => exact .inr (failsToStore_of_run htext hrun)

end Engine

/-- A document whose main part is one byte that is no text. -/
def sampleIllegible : Bytes :=
  Archive.write [⟨Document.mainPart, .deflated, [0xFF]⟩]

lemma extract_sampleIllegible :
    Document.extract sampleIllegible = .error (.file .notText) := by
  have hwritable : Archive.Writable [⟨Document.mainPart, .deflated, [0xFF]⟩] := by
    refine ⟨by decide, fun e he => ?_, by decide +kernel⟩
    rw [List.mem_singleton.mp he]
    change (Utf8.encode Document.mainPart).length < 65536
    decide
  have hopen := Archive.open?_write true hwritable
  have hcontent := Archive.content_write hwritable hopen List.mem_cons_self
  have hdecode : Utf8.decode [0xFF] = .error ⟨0, some 1⟩ := by decide +kernel
  rw [Document.extract, sampleIllegible, hopen]
  dsimp only at hcontent ⊢
  rw [hcontent]
  dsimp only
  rw [hdecode]

/-- An engine for plain texts and word documents with the sample store. -/
def sampleMixed : Engine :=
  { Engine.samplePlain with extractors := [.plain, .document] }

/-- Plain texts fail to be read as extractions only, and documents do if and only if they have no
illegible main part. What else an upload can fail as is a file fault of the store. -/
theorem uploads_fail_as_extraction (host : Host) (files : Files) :
    (∀ bytes, FailsOnly IsExtraction (plainText bytes)) ∧
      (∀ bytes, FailsOnly IsExtraction (Document.extract bytes) ↔ Document.IsLegible bytes) ∧
      ∀ (e : Engine) reference bytes format,
        (∀ x ∈ e.extractors, x = .plain ∨ x = .document) →
        normalizeFormat format ∈ e.templateFormats → bytes ≠ [] →
        (FailsOnly (fun fault => fault.IsExtraction ∨
            e.FailsToStore host files reference bytes format fault ∧ fault.IsFile)
          (((e.extract reference bytes format).run .extract).run host files).1.1 ↔
          (normalizeFormat format = "docx" → Document.IsLegible bytes)) := by
  refine ⟨failsOnly_plainText, fun bytes => Document.failsOnly_extract_iff, ?_⟩
  intro e reference bytes format hextractors hformat hsome
  exact Engine.failsOnly_run_extract_iff hextractors hformat hsome reference

theorem uploads_fail_as_extraction_illegible :
    (∀ x ∈ sampleMixed.extractors, x = .plain ∨ x = .document) ∧
      normalizeFormat ".DOCX" ∈ sampleMixed.templateFormats ∧ sampleIllegible ≠ [] ∧
      ¬FailsOnly (fun fault => fault.IsExtraction ∨
          sampleMixed.FailsToStore sampleHost sampleFiles "0" sampleIllegible ".DOCX" fault ∧
            fault.IsFile)
        (((sampleMixed.extract "0" sampleIllegible ".DOCX").run .extract).run
          sampleHost sampleFiles).1.1 := by
  have hextractors : ∀ x ∈ sampleMixed.extractors, x = .plain ∨ x = .document := by
    intro x hx
    simpa [sampleMixed] using hx
  have hdocx : normalizeFormat ".DOCX" = "docx" := by decide +kernel
  have hformat : normalizeFormat ".DOCX" ∈ sampleMixed.templateFormats := by
    rw [hdocx]
    decide
  have hsome : sampleIllegible ≠ [] := by decide +kernel
  obtain ⟨-, hdocuments, huploads⟩ := uploads_fail_as_extraction sampleHost sampleFiles
  refine ⟨hextractors, hformat, hsome, fun hfails => ?_⟩
  have hlegible := (huploads sampleMixed "0" _ _ hextractors hformat hsome).mp hfails hdocx
  obtain ⟨cause, hcause⟩ := (hdocuments _).mpr hlegible _ extract_sampleIllegible
  cases hcause

/-- Bytes that are no text make an error of another kind. -/
theorem not_failsOnly_extraction :
    Document.extract sampleIllegible = .error (.file .notText) ∧
      ¬∀ bytes, FailsOnly IsExtraction (Document.extract bytes) := by
  refine ⟨extract_sampleIllegible, fun h => ?_⟩
  obtain ⟨cause, hcause⟩ := h _ _ extract_sampleIllegible
  cases hcause

end MailMerge
