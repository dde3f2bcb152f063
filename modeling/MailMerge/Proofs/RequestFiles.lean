import MailMerge.Proofs.StoredTemplates
import Mathlib.Order.Defs.Unbundled

/-!
# What requests do to files

A request changes files in its actions only, and of the requests for documents only the converter
has an action that changes any. So what a converter does to the files, the whole request does.
-/

namespace MailMerge

variable {α β : Type} {host : Host} {files files' : Files}
  {R : Files → Files → Prop}

namespace Request

/-- The files after a request are in this relation to those before it, however it ends. -/
def Within (R : Files → Files → Prop) (host : Host) (r : Request α) : Prop :=
  ∀ p files, R files (r.on host p files).2

lemma Within.bind [IsTrans Files R] {r : Request α} {f : α → Request β}
    (hr : r.Within R host) (hf : ∀ x, (f x).Within R host) : Request.Within R host (r >>= f) := by
  intro p files
  have hfirst := hr p files
  rcases hon : r.on host p files with ⟨⟨result, q⟩, between⟩
  rw [hon] at hfirst
  cases result with
  | error e =>
    rw [on_bind_error hon]
    exact hfirst
  | ok x =>
    rw [on_bind_ok hon]
    exact trans_of R hfirst (hf x q between)

lemma within_pure [Std.Refl R] (x : α) : Request.Within R host (pure x) :=
  fun _ files => refl_of R files

lemma within_ofExcept [Std.Refl R] (result : Except Error α) :
    (ofExcept result).Within R host :=
  fun _ files => refl_of R files

lemma within_advance [Std.Refl R] (target : Stage) : (advance target).Within R host := by
  intro p files
  rw [on_advance_eq]
  exact refl_of R files

lemma within_ofAction {a : Action α} (h : ∀ files, R files (a.on host files).2) :
    (ofAction a).Within R host := by
  intro p files
  rw [on_ofAction]
  exact h files

lemma Within.run {r : Request α} (h : r.Within R host) (flow : Flow) (files : Files) :
    R files ((r.run flow).run host files).2 := by
  rw [run_run]
  exact h _ files

end Request

namespace Engine

variable {e : Engine}

lemma within_get [Std.Refl R] (s : Store) (reference : String) (files : Files) :
    R files ((s.get reference).on host files).2 := by
  rw [Store.on_get]
  exact refl_of R files

lemma snd_on_placeholders (e : Engine) (reference : String) (files : Files) :
    ((e.placeholders reference).on host files).2 = files := by
  rw [placeholders]
  cases hreference : checkReference reference with
  | error fault => rw [Action.on_bind_error (Action.on_mk _)]
  | ok _ =>
    rw [Action.on_bind_ok (Action.on_mk (.ok ()))]
    have hget : (e.store.get reference).on host files = _ := Store.on_get _ _
    cases hresult : (Store.checkReference reference).bind fun _ => Store.templateOf reference
        (files.read host.working (e.store.textPath reference)) with
    | error fault =>
      rw [hresult] at hget
      rw [Action.on_bind_error hget]
    | ok template =>
      rw [hresult] at hget
      rw [Action.on_bind_ok hget]
      rfl

/-- Making a document does to the files what its converter does. -/
lemma within_generate [Std.Refl R] [IsTrans Files R]
    (hconvert : ∀ limit a files, R files ((e.converter.convert limit a).run host files).2)
    (requestId reference : String) (r : Record) :
    (e.generate requestId reference r).Within R host := by
  refine .bind (Request.within_ofExcept _) fun _ => ?_
  refine .bind (Request.within_ofAction (within_get _ _)) fun _ => ?_
  refine .bind (Request.within_advance _) fun _ => ?_
  refine .bind (Request.within_ofExcept _) fun a => ?_
  refine .bind (Request.within_advance _) fun _ => ?_
  refine .bind (Request.within_ofAction fun files => ?_) fun _ => ?_
  · rw [Action.on_lift]
    exact hconvert _ a files
  refine .bind (Request.within_ofExcept _) fun _ => ?_
  refine .bind (Request.within_advance _) fun _ => ?_
  refine .bind (Request.within_advance _) fun _ => ?_
  exact Request.within_pure _

lemma within_generateBatch [Std.Refl R] [IsTrans Files R] (requestId : String)
    (schedule : List Pool.Event) (reference : String) (data : Bytes) (format : String) :
    (e.generateBatch requestId schedule reference data format).Within R host := by
  refine .bind (Request.within_ofExcept _) fun _ => ?_
  refine .bind (Request.within_ofExcept _) fun _ => ?_
  refine .bind (Request.within_ofExcept _) fun _ => ?_
  refine .bind (Request.within_ofAction (within_get _ _)) fun _ => ?_
  refine .bind (Request.within_ofExcept _) fun _ => ?_
  refine .bind (Request.within_ofExcept _) fun _ => ?_
  refine .bind (Request.within_advance _) fun _ => ?_
  refine .bind (Request.within_ofExcept _) fun _ => ?_
  refine .bind (Request.within_advance _) fun _ => ?_
  refine .bind (Request.within_advance _) fun _ => ?_
  exact Request.within_pure _

end Engine

end MailMerge
