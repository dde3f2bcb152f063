import MailMerge.Proofs.BatchDelivery
import MailMerge.Proofs.DocumentTemplates
import MailMerge.Proofs.RequestFiles
import MailMerge.Proofs.TemplateFiles
import Mathlib.Data.List.Induction

/-!
# Histories of requests

A template that was uploaded stays as it was through all later requests: only an upload that
succeeds adds files to the store's folder, and it changes none that are there (`extract_keeps`). So
every later request finds the text whose placeholders were reported (`template_stays_usable`).
-/

namespace MailMerge

variable {α β : Type} {host : Host} {files files' : Files}

section FirstPlaces

variable [DecidableEq α]

/-- The members of a list, each once, in the order of their first places. -/
structure FirstPlaces (names all : List α) : Prop where
  mem_iff : ∀ n, n ∈ names ↔ n ∈ all
  ordered : names.Pairwise fun m n => all.idxOf m < all.idxOf n

lemma firstPlaces_eraseDups (all : List α) : FirstPlaces all.eraseDups all := by
  refine ⟨fun n => List.mem_eraseDups, ?_⟩
  induction all using List.reverseRecOn with
  | nil => exact List.Pairwise.nil
  | append_singleton all last ih =>
    rw [List.eraseDups_append, List.pairwise_append]
    refine ⟨?_, ?_, ?_⟩
    · refine ih.imp_of_mem fun {m n} hm hn h => ?_
      rw [List.mem_eraseDups] at hm hn
      rwa [List.idxOf_append_of_mem hm, List.idxOf_append_of_mem hn]
    · by_cases hlast : last ∈ all
      · simp [List.removeAll, hlast]
      · simp [List.removeAll, hlast, List.eraseDups_cons]
    · intro m hm n hn
      rw [List.mem_eraseDups] at hm hn
      rw [List.removeAll, List.mem_filter, List.mem_singleton] at hn
      obtain ⟨rfl, hnot⟩ := hn
      have hnew : n ∉ all := by simpa using hnot
      rw [List.idxOf_append_of_mem hm, List.idxOf_append_of_notMem hnew]
      exact Nat.lt_add_right _ (List.idxOf_lt_length_of_mem hm)

end FirstPlaces

namespace Store

variable {s : Store} {template : Template}

/-- The store's folder is where it was, with what is in it. -/
structure Untouched (s : Store) (host : Host) (files files' : Files) : Prop where
  stands : files.Stands host.working s.root → files'.Stands host.working s.root
  node? : ∀ l, Files.placeOf host.working s.root <+: l → files'.node? l = files.node? l

lemma Untouched.refl (s : Store) (host : Host) (files : Files) : s.Untouched host files files :=
  ⟨id, fun _ _ => rfl⟩

lemma Untouched.trans {files'' : Files} (h : s.Untouched host files files')
    (h' : s.Untouched host files' files'') : s.Untouched host files files'' :=
  ⟨h'.stands ∘ h.stands, fun l hl => (h'.node? l hl).trans (h.node? l hl)⟩

instance : Std.Refl (s.Untouched host) :=
  ⟨.refl s host⟩

instance : IsTrans Files (s.Untouched host) :=
  ⟨fun _ _ _ => .trans⟩

/-- A program that does not touch the store's folder. -/
def Spares (s : Store) (host : Host) (p : Program α) : Prop :=
  ∀ files, s.Untouched host files (p.run host files).2

/-- The text of a template is in its place. -/
structure Has (s : Store) (host : Host) (files : Files) (template : Template) : Prop where
  isReference : isReference template.reference = true
  stands : files.Stands host.working s.root
  textGood : Files.badPath? (s.textPath template.reference) = none
  node? : ∃ executable, files.node? (s.place host template.reference textExtension) =
    some (.file (Utf8.encode template.text) executable)

lemma Has.holds (h : s.Has host files template) : s.Holds host files template := by
  obtain ⟨executable, hnode⟩ := h.node?
  exact holds_of_node? h.stands h.isReference h.textGood hnode

lemma Has.of_untouched (h : s.Has host files template)
    (huntouched : s.Untouched host files files') :
    s.Has host files' template := by
  obtain ⟨executable, hnode⟩ := h.node?
  refine ⟨h.isReference, huntouched.stands h.stands, h.textGood, executable, ?_⟩
  exact (huntouched.node? _ (List.prefix_append _ _)).trans hnode

lemma Has.of_keeps (h : s.Has host files template)
    (hkeeps : ∀ l, files.node? l ≠ none → files'.node? l = files.node? l) :
    s.Has host files' template := by
  obtain ⟨executable, hnode⟩ := h.node?
  refine ⟨h.isReference, h.stands.of_folders fun l hl => ?_, h.textGood, executable, ?_⟩
  · rw [hkeeps l (by simp [hl]), hl]
  · rw [hkeeps _ (by simp [hnode]), hnode]

variable {reference format text : String} {source : Bytes}

/-- Storing a template changes nothing that is there, and if it fails, no file is added. -/
lemma put_keeps (hfresh : s.Fresh host files reference)
    {result : Except Error Template} {after : Files}
    (hput : (s.put reference source format text).on host files = (result, after)) :
    (∀ l, files.node? l ≠ none → after.node? l = files.node? l) ∧
      (∀ e, result = .error e → ∀ l content executable,
        after.node? l = some (.file content executable) ↔
          files.node? l = some (.file content executable)) := by
  have hgrows : Files.Grows files (s.made host files) :=
    Files.grows_createFolders files host.working s.root
  rcases put_cases hfresh source format text with
    ⟨e, stored, hcase, hstored⟩ | ⟨stored, hcase, -, hadds⟩
  · rw [hput] at hcase
    cases hcase
    refine ⟨fun l hl => by rw [hstored, hgrows.keeps hl], fun _ _ l content executable => ?_⟩
    rw [hstored]
    rcases hgrows l with hsame | ⟨hnone, hfolder⟩
    · rw [hsame]
    · simp [hnone, hfolder]
  · rw [hput] at hcase
    cases hcase
    refine ⟨fun l hl => ?_, fun e he => by cases he⟩
    have hmade := hgrows.keeps hl
    -- The new files are put where nothing was.
    have hother : ∀ extension, l ≠ s.place host reference extension := by
      rintro extension rfl
      rw [hfresh.free] at hmade
      exact hl hmade.symm
    rw [hadds.node?_rest hother, hmade]

lemma has_of_put (hfresh : s.Fresh host files reference) {template : Template} {after : Files}
    (hput : (s.put reference source format text).on host files = (.ok template, after)) :
    template = ⟨reference, text⟩ ∧ s.Has host after template := by
  obtain ⟨rfl, hadds⟩ := adds_of_put hfresh hput
  refine ⟨rfl, hfresh.isReference,
    hadds.stands.of_sameFolders (hadds.sameFolders hfresh.free), hadds.textGood, false,
    hadds.node?_text⟩

end Store

namespace Request

variable {s : Store} {r : Request α}

/-- A request that does not touch the store's folder. -/
def Spares (s : Store) (host : Host) (r : Request α) : Prop :=
  ∀ p files, s.Untouched host files (r.on host p files).2

lemma Spares.run (h : r.Spares s host) (flow : Flow) (files : Files) :
    s.Untouched host files ((r.run flow).run host files).2 :=
  Within.run h flow files

end Request

namespace Engine

variable {e : Engine}

/-- A request, with the reference that an upload draws and the order in which the jobs of a batch
finish. -/
inductive Task where
  | extract (reference : String) (bytes : Bytes) (format : String)
  | placeholders (reference : String)
  | generate (requestId reference : String) (r : Record)
  | generateBatch (requestId : String) (schedule : List Pool.Event) (reference : String)
    (data : Bytes) (format : String)

/-- The files after a request. -/
def after (e : Engine) (host : Host) (files : Files) : Task → Files
  | .extract reference bytes format =>
    (((e.extract reference bytes format).run .extract).run host files).2
  | .placeholders reference => ((e.placeholders reference).on host files).2
  | .generate requestId reference r =>
    (((e.generate requestId reference r).run .single).run host files).2
  | .generateBatch requestId schedule reference data format =>
    (((e.generateBatch requestId schedule reference data format).run .batch).run host files).2

/-- The request is an upload that succeeds. -/
def Stores (e : Engine) (host : Host) (files : Files) : Task → Prop
  | .extract reference bytes format =>
    ∃ x, (((e.extract reference bytes format).run .extract).run host files).1.1 = .ok x
  | .placeholders _ | .generate .. | .generateBatch .. => False

/-- The reference that an upload draws is a new one. -/
def DrawsFresh (e : Engine) (host : Host) (files : Files) : Task → Prop
  | .extract reference _ _ => e.store.Fresh host files reference
  | .placeholders _ | .generate .. | .generateBatch .. => True

/-- The files after requests, one after the other. -/
def afterAll (e : Engine) (host : Host) (files : Files) (tasks : List Task) : Files :=
  tasks.foldl (e.after host) files

/-- Every upload draws a reference that is new when it is made. -/
def AllDrawFresh (e : Engine) (host : Host) (files : Files) : List Task → Prop
  | [] => True
  | task :: rest =>
    e.DrawsFresh host files task ∧ e.AllDrawFresh host (e.after host files task) rest

/-- What becomes of a filled text: an error of the renderer, or what the converter makes of the
document. -/
def deliver (e : Engine) (host : Host) (files : Files) (requestId filled : String) :
    (Except Error Delivery × Progress) × Files :=
  match e.renderer.render filled with
  | .error fault => ((.error fault, ⟨.single, .failed⟩), files)
  | .ok content =>
    let (outcome, files) := (e.converter.convert (some e.settings.conversionLimit.toNat)
      ⟨e.singleName, content⟩).run host files
    match e.converted outcome with
    | .ok document =>
      ((.ok ⟨requestId, document.name, e.converter.contentType, document.content⟩,
        ⟨.single, .delivered⟩), files)
    | .error fault => ((.error fault, ⟨.single, .failed⟩), files)

/-- A document of a template that the store gives is what becomes of its filled text. -/
lemma run_generate_eq_deliver {template : Template} (hholds : e.store.Holds host files template)
    (requestId : String) (r : Record) :
    ((e.generate requestId template.reference r).run .single).run host files =
      e.deliver host files requestId (fill template.text r) := by
  have hreference := checkReference_of_isReference hholds.isReference
  rw [Request.run_run, generate, Request.on_bind_ok (Request.on_ofExcept_eq hreference),
    Request.on_bind_ok (Request.on_ofAction_eq hholds.on_get),
    Request.on_bind_ok (Request.on_advance rfl), deliver]
  have hrendered : e.renderFilled template r =
      (e.renderer.render (fill template.text r)).map fun content => ⟨e.singleName, content⟩ := rfl
  cases hcontent : e.renderer.render (fill template.text r) with
  | error fault =>
    rw [hcontent] at hrendered
    rw [Request.on_bind_error (Request.on_ofExcept_eq hrendered)]
    rfl
  | ok content =>
    rw [hcontent] at hrendered
    rw [Request.on_bind_ok (Request.on_ofExcept_eq hrendered),
      Request.on_bind_ok (Request.on_advance rfl)]
    dsimp only
    rw [Request.on_bind_ok (Request.on_ofAction_eq (Action.on_lift _ files))]
    cases e.converted ((e.converter.convert (some e.settings.conversionLimit.toNat)
        ⟨e.singleName, content⟩).run host files).1 with
    | error fault =>
      rw [Request.on_bind_error (Request.on_ofExcept (.error fault))]
      rfl
    | ok document =>
      rw [Request.on_bind_ok (Request.on_ofExcept (.ok document)),
        Request.on_bind_ok (Request.on_advance rfl), Request.on_bind_ok (Request.on_advance rfl)]
      rfl

lemma on_placeholders {template : Template} (hholds : e.store.Holds host files template) :
    (e.placeholders template.reference).on host files =
      (.ok (distinctPlaceholders template.text), files) := by
  have hreference : Action.on host (ExceptT.mk (pure (checkReference template.reference))) files =
      (.ok (), files) := by
    rw [Action.on_mk, checkReference_of_isReference hholds.isReference]
  rw [placeholders, Action.on_bind_ok hreference, Action.on_bind_ok hholds.on_get]
  rfl

section Frames

lemma untouched_placeholders (files : Files) (reference : String) :
    e.store.Untouched host files ((e.placeholders reference).on host files).2 := by
  rw [snd_on_placeholders]
  exact .refl e.store host files

lemma spares_generate (hspares : ∀ limit a, e.store.Spares host (e.converter.convert limit a))
    (requestId reference : String) (r : Record) :
    (e.generate requestId reference r).Spares e.store host :=
  within_generate hspares requestId reference r

lemma spares_generateBatch (requestId : String) (schedule : List Pool.Event) (reference : String)
    (data : Bytes) (format : String) :
    (e.generateBatch requestId schedule reference data format).Spares e.store host :=
  within_generateBatch requestId schedule reference data format

/-- An upload comes to what storing its text comes to, or is refused before. -/
lemma run_extract_cases (host : Host) (files : Files) (reference : String) (bytes : Bytes)
    (format : String) :
    (∃ fault, ((e.extract reference bytes format).run .extract).run host files =
        ((.error fault, ⟨.extract, .failed⟩), files)) ∨
      ∃ text result after, e.templateText (normalizeFormat format) bytes = .ok text ∧
        (e.store.put reference bytes (normalizeFormat format) text).on host files =
          (result, after) ∧
        (((e.extract reference bytes format).run .extract).run host files).1.1 =
          result.map (fun template => ⟨MailMerge.placeholders text, template.reference⟩) ∧
        (((e.extract reference bytes format).run .extract).run host files).2 = after := by
  cases htext : e.templateText (normalizeFormat format) bytes with
  | error fault => exact .inl ⟨fault, run_extract_of_error htext reference⟩
  | ok text =>
    right
    rcases hput : (e.store.put reference bytes (normalizeFormat format) text).on host files with
      ⟨result, after⟩
    refine ⟨text, result, after, rfl, hput, ?_⟩
    rw [Request.run_run, extract, Request.on_bind_ok (Request.on_ofExcept_eq htext)]
    cases result with
    | error fault =>
      rw [Request.on_bind_error (Request.on_ofAction_eq hput)]
      exact ⟨rfl, rfl⟩
    | ok template =>
      rw [Request.on_bind_ok (Request.on_ofAction_eq hput),
        Request.on_bind_ok (Request.on_advance rfl)]
      exact ⟨rfl, rfl⟩

lemma untouched_after (hspares : ∀ limit a, e.store.Spares host (e.converter.convert limit a))
    (files : Files) (task : Task) :
    (∃ reference bytes format, task = .extract reference bytes format) ∨
      ¬e.Stores host files task ∧ e.store.Untouched host files (e.after host files task) := by
  cases task with
  | extract reference bytes format => exact .inl ⟨reference, bytes, format, rfl⟩
  | placeholders reference => exact .inr ⟨id, untouched_placeholders files reference⟩
  | generate requestId reference r =>
    exact .inr ⟨id, (spares_generate hspares requestId reference r).run .single files⟩
  | generateBatch requestId schedule reference data format =>
    exact .inr ⟨id,
      (spares_generateBatch requestId schedule reference data format).run .batch files⟩

lemma extract_keeps {reference : String} (hfresh : e.store.Fresh host files reference)
    (bytes : Bytes) (format : String) :
    (∀ l, files.node? l ≠ none →
        (e.after host files (.extract reference bytes format)).node? l = files.node? l) ∧
      (¬e.Stores host files (.extract reference bytes format) → ∀ l content executable,
        (e.after host files (.extract reference bytes format)).node? l =
            some (.file content executable) ↔
          files.node? l = some (.file content executable)) := by
  rcases run_extract_cases (e := e) host files reference bytes format with
    ⟨fault, hrun⟩ | ⟨text, result, stored, -, hput, hresult, hafter⟩
  · rw [after, hrun]
    exact ⟨fun _ _ => rfl, fun _ _ _ _ => Iff.rfl⟩
  · obtain ⟨hkeeps, hfails⟩ := Store.put_keeps hfresh hput
    rw [after, hafter]
    refine ⟨hkeeps, fun hnot => ?_⟩
    cases result with
    | error fault => exact hfails fault rfl
    | ok template => exact absurd ⟨_, hresult⟩ hnot

lemma has_after (hspares : ∀ limit a, e.store.Spares host (e.converter.convert limit a))
    {template : Template} (h : e.store.Has host files template) {task : Task}
    (hfresh : e.DrawsFresh host files task) :
    e.store.Has host (e.after host files task) template := by
  rcases untouched_after hspares files task with ⟨reference, bytes, format, rfl⟩ | ⟨-, huntouched⟩
  · exact h.of_keeps (extract_keeps hfresh bytes format).1
  · exact h.of_untouched huntouched

lemma has_afterAll (hspares : ∀ limit a, e.store.Spares host (e.converter.convert limit a))
    {template : Template} (h : e.store.Has host files template) {tasks : List Task}
    (hfresh : e.AllDrawFresh host files tasks) :
    e.store.Has host (e.afterAll host files tasks) template := by
  induction tasks generalizing files with
  | nil => exact h
  | cons task rest ih => exact ih (has_after hspares h hfresh.1) hfresh.2

end Frames

section Uploads

lemma exists_extractor {format text : String} {bytes : Bytes}
    (h : e.templateText format bytes = .ok text) :
    ∃ extractor ∈ e.extractors, extractor.format = format ∧
      ∃ found, extractor.extract bytes = .ok found ∧ text = normalizeText found := by
  cases hextractor : e.extractor format with
  | error fault =>
    rw [templateText, hextractor] at h
    cases h
  | ok extractor =>
    have hsome : bytes ≠ [] := by
      rintro rfl
      rw [templateText, hextractor] at h
      cases h
    rw [templateText_of_extractor hextractor hsome] at h
    obtain ⟨hmem, hformat⟩ := mem_of_extractor hextractor
    refine ⟨extractor, hmem, hformat, ?_⟩
    cases hextract : extractor.extract bytes with
    | error fault =>
      rw [hextract] at h
      cases h
    | ok found =>
      rw [hextract] at h
      cases h
      exact ⟨found, rfl, rfl⟩

lemma has_of_run_extract {reference format : String} {bytes : Bytes} {x : Extraction} {p : Progress}
    (hfresh : e.store.Fresh host files reference)
    (hrun : ((e.extract reference bytes format).run .extract).run host files =
      ((.ok x, p), files')) :
    ∃ text, e.templateText (normalizeFormat format) bytes = .ok text ∧
      x = ⟨MailMerge.placeholders text, reference⟩ ∧ e.store.Has host files' ⟨reference, text⟩ := by
  rcases run_extract_cases (e := e) host files reference bytes format with
    ⟨fault, hcase⟩ | ⟨text, result, stored, htext, hput, hresult, hafter⟩
  · rw [hrun] at hcase
    cases hcase
  · rw [hrun] at hresult hafter
    dsimp only at hresult hafter
    subst hafter
    cases result with
    | error fault => cases hresult
    | ok template =>
      cases hresult
      obtain ⟨rfl, hhas⟩ := Store.has_of_put hfresh hput
      exact ⟨text, htext, rfl, hhas⟩

/-- An upload that succeeds makes a template of the normal text that its format's extractor finds.
After all later requests, whether they succeed or not, the reported placeholders are listed each
once in the order of their first places, and a document is what becomes of the filled text. A
request adds files to the store's folder only if it is an upload that succeeds, and none changes a
file that is there. New references are fresh, and the converter does not touch the folder. -/
theorem template_stays_usable (host : Host) (e : Engine)
    (hspares : ∀ limit a, e.store.Spares host (e.converter.convert limit a)) :
    (∀ start reference bytes format x p stored, e.store.Fresh host start reference →
      ((e.extract reference bytes format).run .extract).run host start = ((.ok x, p), stored) →
      ∃ extractor ∈ e.extractors, extractor.format = normalizeFormat format ∧
        ∃ found, extractor.extract bytes = .ok found ∧
          x = ⟨MailMerge.placeholders (normalizeText found), reference⟩ ∧
          ∀ tasks, e.AllDrawFresh host stored tasks →
            (∃ names, (e.placeholders reference).on host (e.afterAll host stored tasks) =
                (.ok names, e.afterAll host stored tasks) ∧
              FirstPlaces names x.placeholders) ∧
            ∀ requestId r,
              ((e.generate requestId reference r).run .single).run host
                  (e.afterAll host stored tasks) =
                e.deliver host (e.afterAll host stored tasks) requestId
                  (fill (normalizeText found) r)) ∧
    ∀ files task, e.DrawsFresh host files task →
      (¬e.Stores host files task → ∀ l, Files.placeOf host.working e.store.root <+: l →
        ∀ content executable,
          (e.after host files task).node? l = some (.file content executable) ↔
            files.node? l = some (.file content executable)) ∧
      (e.Stores host files task → ∀ l, Files.placeOf host.working e.store.root <+: l →
        ∀ content executable, files.node? l = some (.file content executable) →
          (e.after host files task).node? l = some (.file content executable)) := by
  constructor
  · intro start reference bytes format x p stored hfresh hrun
    obtain ⟨text, htext, rfl, hhas⟩ := has_of_run_extract hfresh hrun
    obtain ⟨extractor, hmem, hformat, found, hfound, rfl⟩ := exists_extractor htext
    refine ⟨extractor, hmem, hformat, found, hfound, rfl, fun tasks htasks => ?_⟩
    have hholds := (has_afterAll hspares hhas htasks).holds
    have hnames := on_placeholders hholds
    dsimp only at hnames
    refine ⟨⟨_, hnames, ?_⟩, fun requestId r => ?_⟩
    · exact firstPlaces_eraseDups (MailMerge.placeholders (normalizeText found))
    · exact run_generate_eq_deliver hholds requestId r
  · intro files task hfresh
    rcases untouched_after hspares files task with
      ⟨reference, bytes, format, rfl⟩ | ⟨hnot, huntouched⟩
    · obtain ⟨hkeeps, hfails⟩ := extract_keeps hfresh bytes format
      refine ⟨fun hnot l _ => hfails hnot l, fun _ l _ content executable hnode => ?_⟩
      rw [hkeeps l (by simp [hnode]), hnode]
    · refine ⟨fun _ l hl content executable => ?_, fun hstores => absurd hstores hnot⟩
      rw [huntouched.node? l hl]

/-- Another upload, one that is refused, and a batch of a template that is missing. -/
def sampleTasks : List Task :=
  [.extract "00000000000000000000000000000000" (Utf8.encode "\x7b\x7bc\x7d\x7d") "txt",
    .extract "11111111111111111111111111111111" [] "txt",
    .generateBatch "1" [] "22222222222222222222222222222222" (Utf8.encode "name\nAnn\n") "csv"]

def sampleUpload : Bytes :=
  Utf8.encode "\x7b\x7bb\x7d\x7d\x7b\x7ba\x7d\x7d\x7b\x7bb\x7d\x7d"

/-- The sample store with one more template. -/
def sampleStored : Files :=
  (((samplePlain.extract sampleReference sampleUpload ".TXT").run .extract).run sampleHost
    sampleFiles).2

lemma spares_passthrough {s : Store} (renderer : Renderer) (limit : Option Nat) (a : Artifact) :
    s.Spares host ((Converter.passthrough renderer).convert limit a) :=
  fun files => .refl s host files

theorem template_stays_usable_laterUploads :
    (∃ names, (samplePlain.placeholders sampleReference).on sampleHost
        (samplePlain.afterAll sampleHost sampleStored sampleTasks) =
          (.ok names, samplePlain.afterAll sampleHost sampleStored sampleTasks) ∧
      FirstPlaces names ["b", "a", "b"]) ∧
    (((samplePlain.generate "0" sampleReference (.ofList [("a", "x")])).run .single).run sampleHost
        (samplePlain.afterAll sampleHost sampleStored sampleTasks)).1 =
      (.ok ⟨"0", "filled.txt", Renderer.plain.contentType,
        Utf8.encode "\x7b\x7bb\x7d\x7dx\x7b\x7bb\x7d\x7d"⟩, ⟨.single, .delivered⟩) := by
  have hfresh : samplePlain.store.Fresh sampleHost sampleFiles sampleReference :=
    Store.fresh_of_names (by decide +kernel) (by decide +kernel)
  have hrun : ((samplePlain.extract sampleReference sampleUpload ".TXT").run .extract).run
      sampleHost sampleFiles =
        ((.ok ⟨["b", "a", "b"], sampleReference⟩, ⟨.extract, .extracted⟩), sampleStored) :=
    Prod.ext (by decide +kernel) rfl
  have htasks : samplePlain.AllDrawFresh sampleHost sampleStored sampleTasks :=
    ⟨Store.fresh_of_names (by decide +kernel) (by decide +kernel),
      Store.fresh_of_names (by decide +kernel) (by decide +kernel), trivial, trivial⟩
  obtain ⟨extractor, hmem, -, found, hfound, -, hlater⟩ :=
    (template_stays_usable sampleHost samplePlain (spares_passthrough .plain)).1 sampleFiles
      sampleReference _ _ _ _ _ hfresh hrun
  obtain ⟨hnames, hgenerate⟩ := hlater sampleTasks htasks
  refine ⟨hnames, ?_⟩
  have hplain : extractor = .plain := List.mem_singleton.mp hmem
  have htext : Extractor.plain.extract sampleUpload =
      .ok "\x7b\x7bb\x7d\x7d\x7b\x7ba\x7d\x7d\x7b\x7bb\x7d\x7d" := by
    decide +kernel
  rw [hplain, htext] at hfound
  cases hfound
  have hfilled : fill (normalizeText
      "\x7b\x7bb\x7d\x7d\x7b\x7ba\x7d\x7d\x7b\x7bb\x7d\x7d") (.ofList [("a", "x")]) =
        "\x7b\x7bb\x7d\x7dx\x7b\x7bb\x7d\x7d" := by
    decide +kernel
  rw [hgenerate, hfilled]
  rfl

end Uploads

end Engine

end MailMerge
