import MailMerge.CommandLine.Run
import MailMerge.Proofs.RequestRuns

/-!
# Runs of commands

A command is run step by step, as a request is. Most of its steps are of two kinds: those that only
print, which never fail, and those that only read, whose result does not depend on what was printed.
-/

namespace MailMerge.CommandLine.Command

variable {α β : Type} {host : Host} {files files' : Files} {printed printed' : String}

/-- What a command comes to, what it has printed then, and the files after it. -/
def on (host : Host) (c : Command α) (printed : String) (files : Files) :
    (Except Failure α × String) × Files :=
  (StateT.run (ExceptT.run c) printed).run host files

lemma on_pure (x : α) : (pure x : Command α).on host printed files = ((.ok x, printed), files) :=
  rfl

lemma on_bind_ok {c : Command α} {f : α → Command β} {x : α}
    (h : c.on host printed files = ((.ok x, printed'), files')) :
    Command.on host (c >>= f) printed files = (f x).on host printed' files' := by
  change ((StateT.run (ExceptT.run c) printed).bind _).run host files = _
  rw [on] at h
  rw [Program.run_bind, h]
  rfl

lemma on_bind_error {c : Command α} {f : α → Command β} {failure : Failure}
    (h : c.on host printed files = ((.error failure, printed'), files')) :
    Command.on host (c >>= f) printed files = ((.error failure, printed'), files') := by
  change ((StateT.run (ExceptT.run c) printed).bind _).run host files = _
  rw [on] at h
  rw [Program.run_bind, h]
  rfl

lemma on_ofProgram (p : Program α) :
    (ofProgram p).on host printed files =
      ((.ok (p.run host files).1, printed), (p.run host files).2) := by
  change ((p.bind _).bind _).run host files = _
  rw [Program.run_bind, Program.run_bind]
  rfl

lemma on_ofAction (a : Action α) :
    (ofAction a).on host printed files =
      (((a.on host files).1.mapError .engine, printed), (a.on host files).2) := by
  change (((ExceptT.run a).bind _).bind _).run host files = _
  rw [Program.run_bind, Program.run_bind]
  rfl

lemma on_ofRequest (flow : Flow) (r : Request α) :
    (ofRequest flow r).on host printed files =
      ((((r.run flow).run host files).1.1.mapError .engine, printed),
        ((r.run flow).run host files).2) := by
  have haction : Action.on host (ExceptT.mk ((r.run flow).bind fun result => .done result.1))
      files = (((r.run flow).run host files).1.1, ((r.run flow).run host files).2) := by
    change ((r.run flow).bind _).run host files = _
    rw [Program.run_bind]
    rfl
  rw [ofRequest, on_ofAction, haction]

section Printing

/-- A command that only prints. -/
def Prints (host : Host) (c : Command Unit) : Prop :=
  ∀ printed files, ∃ printed', c.on host printed files = ((.ok (), printed'), files)

lemma Prints.bind {c : Command Unit} {f : Unit → Command Unit} (hc : c.Prints host)
    (hf : (f ()).Prints host) : Command.Prints host (c >>= f) := by
  intro printed files
  obtain ⟨between, hon⟩ := hc printed files
  rw [on_bind_ok hon]
  exact hf between files

lemma prints_pure : (pure () : Command Unit).Prints host :=
  fun printed _ => ⟨printed, rfl⟩

lemma prints_line (text : String) : (line text).Prints host :=
  fun printed _ => ⟨printed ++ text ++ "\n", rfl⟩

lemma prints_header (text : String) : (header text).Prints host :=
  (prints_line _).bind ((prints_line _).bind (prints_line _))

lemma prints_digest (bytes : Bytes) : (digest bytes).Prints host :=
  (prints_line _).bind (prints_line _)

lemma prints_forM {f : α → Command Unit} (hf : ∀ x, (f x).Prints host) (xs : List α) :
    (xs.forM f).Prints host := by
  induction xs with
  | nil => exact prints_pure
  | cons x xs ih => exact (hf x).bind ih

end Printing

section Reading

/-- What a command comes to. -/
def result (host : Host) (c : Command α) (files : Files) : Except Failure α :=
  (c.on host "" files).1.1

/-- A command that neither prints nor changes a file. -/
def Reads (host : Host) (c : Command α) : Prop :=
  ∀ printed files, c.on host printed files = ((c.result host files, printed), files)

lemma Reads.on_bind_ok {c : Command α} (hc : c.Reads host) {x : α}
    (hx : c.result host files = .ok x) (f : α → Command β) (printed : String) :
    Command.on host (c >>= f) printed files = (f x).on host printed files :=
  Command.on_bind_ok ((hc printed files).trans (by rw [hx]))

lemma Reads.on_bind_error {c : Command α} (hc : c.Reads host) {failure : Failure}
    (hx : c.result host files = .error failure) (f : α → Command β) (printed : String) :
    Command.on host (c >>= f) printed files = ((.error failure, printed), files) :=
  Command.on_bind_error ((hc printed files).trans (by rw [hx]))

lemma Reads.bind {c : Command α} {f : α → Command β} (hc : c.Reads host)
    (hf : ∀ x, (f x).Reads host) : Command.Reads host (c >>= f) := by
  intro printed files
  rw [result]
  cases hx : c.result host files with
  | error failure => rw [hc.on_bind_error hx, hc.on_bind_error hx]
  | ok x =>
    rw [hc.on_bind_ok hx, hc.on_bind_ok hx]
    exact hf x printed files

lemma reads_pure (x : α) : (pure x : Command α).Reads host :=
  fun _ _ => rfl

lemma reads_throw (failure : Failure) : (throw failure : Command α).Reads host :=
  fun _ _ => rfl

lemma reads_ofExcept (outcome : Except Failure α) : (ofExcept outcome).Reads host :=
  fun _ _ => rfl

lemma reads_ofProgram {p : Program α} (h : ∀ files, (p.run host files).2 = files) :
    (ofProgram p).Reads host := by
  intro printed files
  rw [result, on_ofProgram, on_ofProgram, h]

lemma reads_ofAction {a : Action α} (h : ∀ files, (a.on host files).2 = files) :
    (ofAction a).Reads host := by
  intro printed files
  rw [result, on_ofAction, on_ofAction, h]

lemma reads_ofRequest {flow : Flow} {r : Request α}
    (h : ∀ files, ((r.run flow).run host files).2 = files) : (ofRequest flow r).Reads host := by
  intro printed files
  rw [result, on_ofRequest, on_ofRequest, h]

lemma snd_on_load (defaults : Settings) (path : Path) (files : Files) :
    ((Settings.load defaults path).on host files).2 = files := by
  change (Program.run host (Program.bind (Program.perform (.read path)) _) files).2 = files
  rw [Program.run_bind]
  cases (Program.run host (Program.perform (.read path)) files).1 with
  | error fault => rfl
  | ok content => rfl

lemma reads_loadSettings (system : System) (path : Path) :
    (loadSettings system path).Reads host := by
  refine .bind (reads_ofAction fun _ => rfl) fun kind => ?_
  cases kind with
  | none => exact reads_pure _
  | some _ => exact reads_ofAction (snd_on_load _ path)

lemma reads_formatOf (path : Path) : (formatOf path).Reads host := by
  unfold formatOf
  cases path.extension? with
  | none => exact reads_throw _
  | some extension => exact reads_pure _

lemma reads_readInput (path : Path) : (readInput path).Reads host := by
  refine .bind (reads_ofProgram fun _ => rfl) fun content => ?_
  cases content with
  | error fault => exact reads_throw _
  | ok content => exact reads_pure _

lemma reads_givenValues (options : GenerateOptions) : (givenValues options).Reads host := by
  have hassigned (fromFile : Record) : Command.Reads host do
      return fromFile.extend (← ofExcept (parseAssignments options.assignments)) :=
    (reads_ofExcept _).bind fun _ => reads_pure _
  unfold givenValues
  cases options.values with
  | none => exact (reads_pure _).bind hassigned
  | some path =>
    exact (reads_readInput path).bind fun _ => (reads_ofExcept _).bind hassigned

end Reading

end MailMerge.CommandLine.Command
