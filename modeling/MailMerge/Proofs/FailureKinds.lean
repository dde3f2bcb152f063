import MailMerge.Proofs.RequestRuns

/-!
# Kinds of failures

A chain of results fails only with errors of a kind if each of its parts does, and what is done
after a failure does not change its error. So the store fails only with what is true of all file
faults (`Store.failsOnly_put`).
-/

namespace MailMerge

variable {α β : Type} {host : Host} {kind : Error → Prop}

namespace Error

/-- A result that can only fail with errors of this kind. -/
def FailsOnly (kind : Error → Prop) (result : Except Error α) : Prop :=
  ∀ fault, result = .error fault → kind fault

lemma failsOnly_ok (x : α) : FailsOnly kind (.ok x) := nofun

lemma failsOnly_error_iff {fault : Error} :
    FailsOnly kind (.error fault : Except Error α) ↔ kind fault := by
  simp [FailsOnly]

lemma FailsOnly.bind {result : Except Error α} {f : α → Except Error β}
    (h : FailsOnly kind result) (hf : ∀ x, FailsOnly kind (f x)) :
    FailsOnly kind (result >>= f) := by
  cases result with
  | error fault => exact failsOnly_error_iff.2 (h fault rfl)
  | ok x => exact hf x

lemma FailsOnly.map {result : Except Error α} (h : FailsOnly kind result) (f : α → β) :
    FailsOnly kind (result.map f) := by
  cases result with
  | error fault => exact failsOnly_error_iff.2 (h fault rfl)
  | ok x => exact failsOnly_ok (f x)

end Error

open Error

namespace Action

variable {a : Action α} {f : α → Action β}

/-- An action that can only fail with errors of this kind. -/
def FailsOnly (host : Host) (kind : Error → Prop) (a : Action α) : Prop :=
  ∀ files, Error.FailsOnly kind (a.on host files).1

lemma FailsOnly.bind (ha : a.FailsOnly host kind) (hf : ∀ x, (f x).FailsOnly host kind) :
    Action.FailsOnly host kind (a >>= f) := by
  intro files
  have hfirst := ha files
  rcases hon : a.on host files with ⟨result, between⟩
  rw [hon] at hfirst
  cases result with
  | error fault =>
    rw [on_bind_error hon]
    exact failsOnly_error_iff.2 (hfirst fault rfl)
  | ok x =>
    rw [on_bind_ok hon]
    exact hf x between

lemma failsOnly_pure (x : α) : Action.FailsOnly host kind (pure x) :=
  fun _ => failsOnly_ok x

lemma failsOnly_ofFile (hkind : ∀ cause, kind (.file cause))
    (p : Program (Except FileFault α)) : (ofFile p).FailsOnly host kind := by
  intro files
  have hon : ((ofFile p).on host files).1 = (p.run host files).1.mapError Error.file := by
    change ((p.bind _).run host files).1 = _
    rw [Program.run_bind]
    rfl
  rw [hon]
  cases (p.run host files).1 with
  | error fault => exact failsOnly_error_iff.2 (hkind fault)
  | ok x => exact failsOnly_ok x

lemma failsOnly_lift (p : Program α) : Action.FailsOnly host kind (ExceptT.lift p) := by
  intro files
  rw [on_lift]
  exact failsOnly_ok _

lemma failsOnly_orElseDo (ha : a.FailsOnly host kind) (cleanUp : Program Unit) :
    (orElseDo a cleanUp).FailsOnly host kind := by
  intro files
  have hfirst := ha files
  have hon : ((orElseDo a cleanUp).on host files).1 = (a.on host files).1 := by
    change (((ExceptT.run a).bind _).run host files).1 = _
    rw [Program.run_bind, on]
    cases ((ExceptT.run a).run host files).1 with
    | ok x => rfl
    | error fault =>
      change ((cleanUp.bind _).run host _).1 = _
      rw [Program.run_bind]
      rfl
  rw [hon]
  exact hfirst

lemma failsOnly_replace (hkind : ∀ cause, kind (.file cause)) (folder target : Path)
    (content : Bytes) : (replace folder target content).FailsOnly host kind := by
  refine (failsOnly_ofFile hkind _).bind fun temporary => ?_
  exact failsOnly_orElseDo ((failsOnly_ofFile hkind _).bind fun _ => failsOnly_ofFile hkind _) _

end Action

namespace Store

lemma failsOnly_put (hkind : ∀ cause, kind (.file cause)) (s : Store) (reference : String)
    (source : Bytes) (format text : String) :
    (s.put reference source format text).FailsOnly host kind := by
  have hwrite : (s.writeFiles reference source format text).FailsOnly host kind := by
    refine (Action.failsOnly_replace hkind _ _ _).bind fun _ => ?_
    exact Action.failsOnly_orElseDo (Action.failsOnly_replace hkind _ _ _) _
  refine (Action.failsOnly_ofFile hkind _).bind fun _ => hwrite.bind fun _ => ?_
  exact Action.failsOnly_pure _

end Store

end MailMerge
