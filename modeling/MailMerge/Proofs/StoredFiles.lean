import MailMerge.Proofs.RequestHistories

/-!
# Files of a stored template

A template that is stored has its text in the store's folder, and no file that was there has
changed. Its source is there under its format, except where the format names the text: then the
text, which is written last, takes the place of the source (`stored_parts_are_kept`).
-/

namespace MailMerge.Store

variable {s : Store} {host : Host} {files files' : Files} {reference extension format text : String}
  {source content : Bytes}

section Parts

/-- A file of a template is in the store's folder, and is read from there. -/
structure HoldsFile (s : Store) (host : Host) (files : Files) (reference extension : String)
    (content : Bytes) : Prop where
  node? : files.node? (s.place host reference extension) = some (.file content false)
  read : files.read host.working (s.filePath reference extension) = .ok content

lemma holdsFile_of_node? (hstands : files.Stands host.working s.root)
    (hstep : Path.IsStep (reference ++ "." ++ extension))
    (hshort : (reference ++ "." ++ extension).utf8ByteSize ≤ Files.nameLimit)
    (hbad : Files.badPath? (s.filePath reference extension) = none)
    (hnode : files.node? (s.place host reference extension) = some (.file content false)) :
    s.HoldsFile host files reference extension content := by
  have hlocate : files.locate host.working (s.filePath reference extension) =
      .ok (s.place host reference extension) := Files.locate_join hstands hstep hshort hbad
  exact ⟨hnode, Files.read_eq_ok_iff.mpr ⟨_, false, hlocate, hnode⟩⟩

lemma Adds.holdsText (h : s.Adds host files files' reference source format text)
    (hfree : ∀ extension, files.node? (s.place host reference extension) = none)
    (href : isReference reference = true) :
    s.HoldsFile host files' reference textExtension (Utf8.encode text) := by
  have hnode : files'.node? (s.place host reference textExtension) =
      some (.file (Utf8.encode text) false) := by
    rw [h.node?, if_pos rfl]
  exact holdsFile_of_node? (h.stands.of_sameFolders (h.sameFolders hfree))
    (isStep_textName href) (short_textName href) h.textGood hnode

lemma Adds.holdsSource_iff (h : s.Adds host files files' reference source format text)
    (hfree : ∀ extension, files.node? (s.place host reference extension) = none)
    (href : isReference reference = true) :
    s.HoldsFile host files' reference format source ↔
      format ≠ textExtension ∨ source = Utf8.encode text := by
  have htext := (h.holdsText hfree href).node?
  constructor
  · intro hsource
    by_cases hformat : format = textExtension
    · have hnode := hsource.node?
      rw [hformat, htext] at hnode
      cases hnode
      exact .inr rfl
    · exact .inl hformat
  · intro hcases
    have hnode : files'.node? (s.place host reference format) = some (.file source false) := by
      by_cases hformat : format = textExtension
      · rcases hcases with hne | rfl
        · exact absurd hformat hne
        · rw [hformat]
          exact htext
      · have hplace : s.place host reference format ≠ s.place host reference textExtension :=
          fun hsame => hformat (place_inj href href hsame).2
        rw [h.node?, if_neg hplace, if_pos rfl]
    exact holdsFile_of_node? (h.stands.of_sameFolders (h.sameFolders hfree)) h.sourceStep
      h.sourceShort h.sourceGood hnode

end Parts

section Putting

lemma file_of_adds (hadds : s.Adds host (s.made host files) files' reference source format text)
    {l : Location} {executable : Bool}
    (hfile : files'.node? l = some (.file content executable)) :
    files.node? l = some (.file content executable) ∨
      l = s.place host reference textExtension ∨ l = s.place host reference format := by
  rw [hadds.node?] at hfile
  split at hfile
  · next htext => exact .inr (.inl htext)
  · split at hfile
    · next hsource => exact .inr (.inr hsource)
    · have hgrows : Files.Grows files (s.made host files) :=
        Files.grows_createFolders files host.working s.root
      exact .inl (hgrows.file_iff.mp hfile)

/-- A stored template has its text in its place, what was there is unchanged, and the only other new
file is that of the source. It holds what was given unless the format is that of the text. -/
theorem stored_parts_are_kept (hfresh : s.Fresh host files reference) {template : Template}
    (hput : (s.put reference source format text).on host files = (.ok template, files')) :
    template = ⟨reference, text⟩ ∧
      s.HoldsFile host files' reference textExtension (Utf8.encode text) ∧
      (s.HoldsFile host files' reference format source ↔
        format ≠ textExtension ∨ source = Utf8.encode text) ∧
      (∀ l, files.node? l ≠ none → files'.node? l = files.node? l) ∧
      ∀ l content executable, files'.node? l = some (.file content executable) →
        files.node? l = some (.file content executable) ∨
          l = s.place host reference textExtension ∨ l = s.place host reference format := by
  obtain ⟨htemplate, hadds⟩ := adds_of_put hfresh hput
  have href := hfresh.isReference
  refine ⟨htemplate, hadds.holdsText hfresh.free href, hadds.holdsSource_iff hfresh.free href,
    (put_keeps hfresh hput).1, fun l content executable hfile => ?_⟩
  exact file_of_adds hadds hfile

/-- A reference that no template of the sample store has. -/
def sampleReference : String :=
  "fedcba9876543210fedcba9876543210"

lemma fresh_sampleReference : Store.Fresh ⟨⟨"templates"⟩⟩ sampleHost sampleFiles sampleReference :=
  fresh_of_names (by decide +kernel) (by decide +kernel)

/-- The sample store with one more template. -/
def sampleStored (format : String) : Except Error Template × Files :=
  (Store.put ⟨⟨"templates"⟩⟩ sampleReference (Utf8.encode "source") format "text").on sampleHost
    sampleFiles

lemma on_put_sample {template : Template} (h : (sampleStored format).1 = .ok template) :
    (Store.put ⟨⟨"templates"⟩⟩ sampleReference (Utf8.encode "source") format "text").on sampleHost
      sampleFiles = (.ok template, (sampleStored format).2) := by
  rw [← sampleStored, ← h]

theorem stored_parts_are_kept_emptyFormat :
    Store.Fresh ⟨⟨"templates"⟩⟩ sampleHost sampleFiles sampleReference ∧
      (sampleStored "").1 = .ok ⟨sampleReference, "text"⟩ ∧
      Store.HoldsFile ⟨⟨"templates"⟩⟩ sampleHost (sampleStored "").2 sampleReference ""
        (Utf8.encode "source") := by
  have hput : (sampleStored "").1 = .ok ⟨sampleReference, "text"⟩ := by decide +kernel
  obtain ⟨-, -, hsource, -, -⟩ :=
    stored_parts_are_kept fresh_sampleReference (on_put_sample hput)
  exact ⟨fresh_sampleReference, hput, hsource.mpr (.inl (by decide))⟩

/-- A source whose format is that of the texts is lost: where it should be is the text. -/
theorem not_holdsFile_of_textExtension :
    Store.Fresh ⟨⟨"templates"⟩⟩ sampleHost sampleFiles sampleReference ∧
      (sampleStored textExtension).1 = .ok ⟨sampleReference, "text"⟩ ∧
      Store.HoldsFile ⟨⟨"templates"⟩⟩ sampleHost (sampleStored textExtension).2 sampleReference
        textExtension (Utf8.encode "text") ∧
      ¬Store.HoldsFile ⟨⟨"templates"⟩⟩ sampleHost (sampleStored textExtension).2 sampleReference
        textExtension (Utf8.encode "source") := by
  have hput : (sampleStored textExtension).1 = .ok ⟨sampleReference, "text"⟩ := by decide +kernel
  have href := fresh_sampleReference.isReference
  have hfree := fresh_sampleReference.free
  obtain ⟨-, hadds⟩ := adds_of_put fresh_sampleReference (on_put_sample hput)
  refine ⟨fresh_sampleReference, hput, hadds.holdsText hfree href, fun hsource => ?_⟩
  exact absurd ((hadds.holdsSource_iff hfree href).mp hsource) (by decide)

end Putting

end MailMerge.Store
