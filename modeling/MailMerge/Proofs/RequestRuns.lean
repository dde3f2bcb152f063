import MailMerge.Engine
import Mathlib.Tactic.Lemma

/-!
# Runs of requests

A request is run step by step: what its first part comes to, and the files it leaves, are what the
next part goes on from. Each kind of part has its own equation, so a flow is run by rewriting.
-/

namespace MailMerge

variable {α β : Type} {host : Host} {files files' : Files}

theorem Program.run_bind (host : Host) (p : Program α) (f : α → Program β) (files : Files) :
    (p.bind f).run host files = (f (p.run host files).1).run host (p.run host files).2 := by
  induction p generalizing files with
  | done a => rfl
  | step op next ih =>
    exact ih (op.apply host files).1 (op.apply host files).2

namespace Action

/-- What an action comes to on a file tree, and the tree after it. -/
def on (host : Host) (a : Action α) (files : Files) : Except Error α × Files :=
  (ExceptT.run a).run host files

lemma on_mk (r : Except Error α) :
    Action.on host (ExceptT.mk (pure r)) files = (r, files) := rfl

lemma on_lift (p : Program α) (files : Files) :
    Action.on host (ExceptT.lift p) files = (.ok (p.run host files).1, (p.run host files).2) := by
  change (p.bind _).run host files = _
  rw [Program.run_bind]
  rfl

lemma on_bind_ok {a : Action α} {f : α → Action β} {x : α}
    (h : a.on host files = (.ok x, files')) : (a >>= f).on host files = (f x).on host files' := by
  change ((ExceptT.run a).bind _).run host files = _
  rw [on] at h
  rw [Program.run_bind, h]
  rfl

lemma on_bind_error {a : Action α} {f : α → Action β} {e : Error}
    (h : a.on host files = (.error e, files')) :
    (a >>= f).on host files = (.error e, files') := by
  change ((ExceptT.run a).bind _).run host files = _
  rw [on] at h
  rw [Program.run_bind, h]
  rfl

lemma on_bind_eq_ok {a : Action α} {f : α → Action β} {y : β}
    (h : (a >>= f).on host files = (.ok y, files')) :
    ∃ x between, a.on host files = (.ok x, between) ∧
      (f x).on host between = (.ok y, files') := by
  rcases ha : a.on host files with ⟨result, between⟩
  cases result with
  | error e =>
    rw [on_bind_error ha] at h
    cases h
  | ok x =>
    rw [on_bind_ok ha] at h
    exact ⟨x, between, rfl, h⟩

end Action

namespace Request

/-- What a request comes to from a place in its flow, where it then stands, and the files after
it. -/
def on (host : Host) (r : Request α) (p : Progress) (files : Files) :
    (Except Error α × Progress) × Files :=
  (StateT.run (ExceptT.run r) p).run host files

variable {p p' : Progress}

lemma on_pure (x : α) : (pure x : Request α).on host p files = ((.ok x, p), files) := rfl

lemma on_bind_ok {r : Request α} {f : α → Request β} {x : α}
    (h : r.on host p files = ((.ok x, p'), files')) :
    (r >>= f).on host p files = (f x).on host p' files' := by
  change ((StateT.run (ExceptT.run r) p).bind _).run host files = _
  rw [on] at h
  rw [Program.run_bind, h]
  rfl

lemma on_bind_error {r : Request α} {f : α → Request β} {e : Error}
    (h : r.on host p files = ((.error e, p'), files')) :
    (r >>= f).on host p files = ((.error e, p'), files') := by
  change ((StateT.run (ExceptT.run r) p).bind _).run host files = _
  rw [on] at h
  rw [Program.run_bind, h]
  rfl

lemma on_bind_eq_ok {r : Request α} {f : α → Request β} {y : β} {final : Progress}
    (h : (r >>= f).on host p files = ((.ok y, final), files')) :
    ∃ x q between, r.on host p files = ((.ok x, q), between) ∧
      (f x).on host q between = ((.ok y, final), files') := by
  rcases hr : r.on host p files with ⟨⟨result, q⟩, between⟩
  cases result with
  | error e =>
    rw [on_bind_error hr] at h
    cases h
  | ok x =>
    rw [on_bind_ok hr] at h
    exact ⟨x, q, between, rfl, h⟩

lemma on_ofExcept (result : Except Error α) :
    (ofExcept result).on host p files = ((result, p), files) := rfl

lemma on_ofAction (a : Action α) :
    (ofAction a).on host p files = (((a.on host files).1, p), (a.on host files).2) := by
  change ((ExceptT.run a).bind _).run host files = _
  rw [Program.run_bind]
  rfl

lemma on_ofExcept_eq {result result' : Except Error α} (h : result = result') :
    (ofExcept result).on host p files = ((result', p), files) := by
  rw [on_ofExcept, h]

lemma on_ofAction_eq {a : Action α} {result : Except Error α}
    (h : a.on host files = (result, files')) :
    (ofAction a).on host p files = ((result, p), files') := by
  rw [on_ofAction, h]

lemma on_advance_eq (target : Stage) :
    (advance target).on host p files =
      (match p.advance target with
        | .ok q => (.ok (), q)
        | .error e => (.error e, p), files) := by
  have hget : Request.on host get p files = ((.ok p, p), files) := rfl
  rw [advance, on_bind_ok hget]
  cases p.advance target <;> rfl

lemma on_advance {target : Stage} (h : p.advance target = .ok p') :
    (advance target).on host p files = ((.ok (), p'), files) := by
  rw [on_advance_eq, h]

lemma run_run (flow : Flow) (r : Request α) :
    (r.run flow).run host files =
      (((r.on host (.start flow) files).1.1,
        (r.on host (.start flow) files).1.2.close (r.on host (.start flow) files).1.1),
        (r.on host (.start flow) files).2) := by
  change ((StateT.run (ExceptT.run r) (Progress.start flow)).bind _).run host files = _
  rw [Program.run_bind]
  rfl

end Request

end MailMerge
