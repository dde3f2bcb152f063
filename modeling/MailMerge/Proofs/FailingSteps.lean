import MailMerge.Proofs.UploadPhases

/-!
# Failing steps

A file operation can fail for reasons that are not in the tree: the disk is full, or the machine
refuses. A program is run here with such a trouble at any of its steps. While a template's files are
written, whichever steps fail, the first fault is reported, and the tree is the first one again if
what has to be removed can be (`failed_writing_leaves_no_trace`).
-/

namespace MailMerge

variable {α β : Type}

/-- What goes wrong with an operation: its fault, and what a write has written by then. -/
structure Trouble where
  fault : FileFault
  written : Bytes

namespace Operation

/-- The answer of an operation that fails; what cannot be looked at is not found. -/
def refusal (fault : FileFault) : (op : Operation) → op.Answer
  | kind _ => none
  | read _ | list _ | write .. | createFolders _ | createTemporary _ | createScratch ..
  | rename .. | removeFile _ | removeFolder _ | launch .. => .error fault

/-- The tree after an operation that fails: a write has begun, all else has done nothing. -/
def residue (host : Host) (files : Files) (written : Bytes) : Operation → Files
  | write p _ => (files.change (files.write host.working p written)).2
  | _ => files

/-- What an operation does if there may be trouble with it. -/
def applyWith (host : Host) (files : Files) (op : Operation) : Option Trouble → op.Answer × Files
  | none => op.apply host files
  | some trouble => (op.refusal trouble.fault, op.residue host files trouble.written)

end Operation

namespace Deed

def fault? : Deed → Option FileFault
  | ⟨.kind _, _⟩ => none
  | ⟨.read _, .error fault⟩ | ⟨.list _, .error fault⟩ | ⟨.write .., .error fault⟩
  | ⟨.createFolders _, .error fault⟩ | ⟨.createTemporary _, .error fault⟩
  | ⟨.createScratch .., .error fault⟩ | ⟨.rename .., .error fault⟩ | ⟨.removeFile _, .error fault⟩
  | ⟨.removeFolder _, .error fault⟩ | ⟨.launch .., .error fault⟩ => some fault
  | _ => none

lemma fault?_of_refusal {deed : Deed} {fault : FileFault}
    (hanswer : deed.answer = deed.operation.refusal fault)
    (hkind : ∀ p, deed.operation ≠ .kind p) : deed.fault? = some fault := by
  obtain ⟨op, answer⟩ := deed
  dsimp only at hanswer hkind
  subst hanswer
  cases op with
  | kind p => exact absurd rfl (hkind p)
  | _ => rfl

/-- A file was to be removed and was not. -/
def leavesFile : Deed → Bool
  | ⟨.removeFile _, .error _⟩ => true
  | _ => false

end Deed

/-- A run with all that was done on the way. -/
structure Course (α : Type) where
  result : α
  files : Files
  deeds : List Deed

namespace Course

/-- The run behind what was done before. -/
def behind (c : Course α) (deeds : List Deed) : Course α :=
  { c with deeds := deeds ++ c.deeds }

/-- The fault of the first step that failed. -/
def firstFault? (c : Course α) : Option FileFault :=
  c.deeds.findSome? Deed.fault?

/-- Whatever was to be removed was. -/
def Tidy (c : Course α) : Prop :=
  ∀ deed ∈ c.deeds, deed.leavesFile = false

lemma files_behind (c : Course α) (deeds : List Deed) : (c.behind deeds).files = c.files := rfl

end Course

/-- Runs a program with trouble at some of its steps. -/
def Program.runWith (host : Host) : Program α → (Nat → Option Trouble) → Files → Course α
  | done a, _, files => ⟨a, files, []⟩
  | step op next, trouble, files =>
    let (answer, files) := op.applyWith host files (trouble 0)
    (runWith host (next answer) (fun n => trouble (n + 1)) files).behind [⟨op, answer⟩]

namespace Program

variable {host : Host} {trouble : Nat → Option Trouble} {files files' : Files}

/-- Without trouble a program does what it always does. -/
theorem runWith_none (host : Host) (p : Program α) (files : Files) :
    (p.runWith host (fun _ => none) files).result = (p.run host files).1 ∧
      (p.runWith host (fun _ => none) files).files = (p.run host files).2 := by
  induction p generalizing files with
  | done a => exact ⟨rfl, rfl⟩
  | step op next ih => exact ih (op.apply host files).1 (op.apply host files).2

/-- With trouble at a step, its operation fails. -/
theorem answer_of_trouble {p : Program α} {n : Nat} {what : Trouble} {deed : Deed}
    (hdeed : (p.runWith host trouble files).deeds[n]? = some deed) (hwhat : trouble n = some what) :
    deed.answer = deed.operation.refusal what.fault := by
  induction p generalizing trouble files n with
  | done a => cases hdeed
  | step op next ih =>
    cases n with
    | zero =>
      cases hdeed
      rw [hwhat]
    | succ n => exact ih _ hdeed hwhat

lemma runWith_step {op : Operation} {next : op.Answer → Program α} {answer : op.Answer}
    (h : op.applyWith host files (trouble 0) = (answer, files')) :
    (step op next).runWith host trouble files =
      ((next answer).runWith host (fun n => trouble (n + 1)) files').behind [⟨op, answer⟩] := by
  rw [runWith, h]

/-- The second program goes on where the first has ended, with the trouble that is left. -/
theorem runWith_bind (host : Host) (p : Program α) (f : α → Program β)
    (trouble : Nat → Option Trouble) (files : Files) :
    (p.bind f).runWith host trouble files =
      ((f (p.runWith host trouble files).result).runWith host
        (fun n => trouble (n + (p.runWith host trouble files).deeds.length))
        (p.runWith host trouble files).files).behind (p.runWith host trouble files).deeds := by
  induction p generalizing trouble files with
  | done a => rfl
  | step op next ih =>
    exact congrArg (Course.behind · [⟨op, (op.applyWith host files (trouble 0)).1⟩])
      (ih (op.applyWith host files (trouble 0)).1 (fun n => trouble (n + 1))
        (op.applyWith host files (trouble 0)).2)

end Program

namespace Action

variable {host : Host} {trouble : Nat → Option Trouble} {files : Files}

/-- An action with trouble at some of its steps. -/
def onWith (host : Host) (a : Action α) (trouble : Nat → Option Trouble) (files : Files) :
    Course (Except Error α) :=
  (ExceptT.run a).runWith host trouble files

lemma onWith_bind_ok {a : Action α} {f : α → Action β} {x : α}
    (h : (a.onWith host trouble files).result = .ok x) :
    (a >>= f).onWith host trouble files =
      ((f x).onWith host (fun n => trouble (n + (a.onWith host trouble files).deeds.length))
        (a.onWith host trouble files).files).behind (a.onWith host trouble files).deeds := by
  change ((ExceptT.run a).bind _).runWith host trouble files = _
  rw [onWith] at h ⊢
  rw [Program.runWith_bind, h]
  rfl

lemma onWith_bind_error {a : Action α} {f : α → Action β} {e : Error}
    (h : (a.onWith host trouble files).result = .error e) :
    (a >>= f).onWith host trouble files =
      ⟨.error e, (a.onWith host trouble files).files, (a.onWith host trouble files).deeds⟩ := by
  change ((ExceptT.run a).bind _).runWith host trouble files = _
  rw [onWith] at h ⊢
  rw [Program.runWith_bind, h]
  exact congrArg (Course.mk _ _) (List.append_nil _)

lemma onWith_orElseDo_ok {a : Action α} {cleanUp : Program Unit} {x : α}
    (h : (a.onWith host trouble files).result = .ok x) :
    (orElseDo a cleanUp).onWith host trouble files =
      ⟨.ok x, (a.onWith host trouble files).files, (a.onWith host trouble files).deeds⟩ := by
  change ((ExceptT.run a).bind _).runWith host trouble files = _
  rw [onWith] at h ⊢
  rw [Program.runWith_bind, h]
  exact congrArg (Course.mk _ _) (List.append_nil _)

lemma onWith_orElseDo_error {a : Action α} {cleanUp : Program Unit} {e : Error}
    (h : (a.onWith host trouble files).result = .error e) :
    (orElseDo a cleanUp).onWith host trouble files =
      ((cleanUp.bind fun _ => .done (.error e)).runWith host
        (fun n => trouble (n + (a.onWith host trouble files).deeds.length))
        (a.onWith host trouble files).files).behind (a.onWith host trouble files).deeds := by
  change ((ExceptT.run a).bind _).runWith host trouble files = _
  rw [onWith] at h ⊢
  rw [Program.runWith_bind, h]
  rfl

end Action

namespace Course

variable {base after : Files} {held : List (Location × Bytes)}

/-- A run in which a step has failed. The first fault is its result, and it leaves the tree with the
held files, unless a file that was to be removed stays. -/
structure Fails (base : Files) (held : List (Location × Bytes)) (c : Course (Except Error α)) :
    Prop where
  fault : ∃ fault, c.firstFault? = some fault ∧ c.result = .error (.file fault)
  overlay : c.Tidy → Files.Overlay base held c.files

/-- A run of steps none of which has failed. -/
structure Succeeds (x : α) (after : Files) (steps : List Operation) (c : Course (Except Error α)) :
    Prop where
  result : c.result = .ok x
  files : c.files = after
  faultless : c.firstFault? = none
  steps : c.deeds.map Deed.operation = steps

lemma fails_of_fault {deed : Deed} {fault : FileFault} {files : Files}
    (hdeed : deed.fault? = some fault) (h : Files.Overlay base held files) :
    (Course.mk (.error (.file fault) : Except Error α) files [deed]).Fails base held := by
  refine ⟨⟨fault, ?_, rfl⟩, fun _ => h⟩
  rw [firstFault?, List.findSome?_cons, hdeed]

lemma firstFault?_behind (c : Course α) (deeds : List Deed) :
    (c.behind deeds).firstFault? = (deeds.findSome? Deed.fault?).or c.firstFault? := by
  rw [firstFault?, behind, List.findSome?_append, firstFault?]

lemma tidy_behind {c : Course α} {deeds : List Deed} :
    (c.behind deeds).Tidy ↔ (∀ deed ∈ deeds, deed.leavesFile = false) ∧ c.Tidy :=
  List.forall_mem_append

/-- Steps that did not fail change nothing about how a run ends. -/
lemma Fails.behind {c : Course (Except Error α)} {deeds : List Deed} (h : c.Fails base held)
    (hdeeds : deeds.findSome? Deed.fault? = none) : (c.behind deeds).Fails base held := by
  obtain ⟨fault, hfault, hresult⟩ := h.fault
  refine ⟨⟨fault, ?_, hresult⟩, fun htidy => h.overlay (tidy_behind.mp htidy).2⟩
  rw [firstFault?_behind, hdeeds, Option.none_or, hfault]

lemma Succeeds.behind {c : Course (Except Error α)} {first : Course (Except Error β)} {x : α}
    {y : β} {between : Files} {steps steps' : List Operation} (h : c.Succeeds x after steps)
    (hfirst : first.Succeeds y between steps') :
    (c.behind first.deeds).Succeeds x after (steps' ++ steps) := by
  refine ⟨h.result, h.files, ?_, ?_⟩
  · have hnone : first.deeds.findSome? Deed.fault? = none := hfirst.faultless
    rw [firstFault?_behind, hnone, Option.none_or, h.faultless]
  · rw [Course.behind, List.map_append, hfirst.steps, h.steps]

end Course

namespace Action

variable {host : Host} {base files between after : Files} {held : List (Location × Bytes)}
  {trouble : Nat → Option Trouble} {p : Path} {place : Location} {content : Bytes}
  {steps : List Operation}

lemma untroubled_of_succeeds {a : Action α} {x : α}
    (h : (a.onWith host trouble files).Succeeds x after steps)
    (hkind : ∀ p, Operation.kind p ∉ steps) {n : Nat} (hn : n < steps.length) :
    trouble n = none := by
  cases hwhat : trouble n with
  | none => rfl
  | some what =>
    have hlength : n < (a.onWith host trouble files).deeds.length := by
      rw [← h.steps, List.length_map] at hn
      exact hn
    have hdeed := List.getElem?_eq_getElem hlength
    have hmem := List.getElem_mem hlength
    have hfault := Deed.fault?_of_refusal (Program.answer_of_trouble hdeed hwhat) fun p hop =>
      hkind p (by rw [← h.steps, ← hop]; exact List.mem_map_of_mem hmem)
    have hnone := List.findSome?_eq_none_iff.mp h.faultless _ hmem
    rw [hfault] at hnone
    cases hnone

lemma fails_bind_of_fails {a : Action α} {f : α → Action β}
    (h : (a.onWith host trouble files).Fails base held) :
    ((a >>= f).onWith host trouble files).Fails base held := by
  obtain ⟨fault, hfault, hresult⟩ := h.fault
  rw [onWith_bind_error hresult]
  exact ⟨⟨fault, hfault, rfl⟩, h.overlay⟩

lemma onWith_bind_of_succeeds {a : Action α} {f : α → Action β} {x : α}
    (h : (a.onWith host trouble files).Succeeds x between steps) :
    ∃ trouble', (a >>= f).onWith host trouble files =
      ((f x).onWith host trouble' between).behind (a.onWith host trouble files).deeds :=
  ⟨_, h.files ▸ onWith_bind_ok h.result⟩

lemma succeeds_orElseDo {a : Action α} {cleanUp : Program Unit} {x : α}
    (h : (a.onWith host trouble files).Succeeds x after steps) :
    ((orElseDo a cleanUp).onWith host trouble files).Succeeds x after steps := by
  rw [onWith_orElseDo_ok h.result]
  exact ⟨rfl, h.files, h.faultless, h.steps⟩

lemma onWith_createTemporary {folder : Path} {answer : Except FileFault Path}
    (h : (Operation.createTemporary folder).applyWith host files (trouble 0) = (answer, after)) :
    (createTemporary folder).onWith host trouble files =
      ⟨answer.mapError Error.file, after, [⟨.createTemporary folder, answer⟩]⟩ :=
  Program.runWith_step h

lemma onWith_write {answer : Except FileFault Unit}
    (h : (Operation.write p content).applyWith host files (trouble 0) = (answer, after)) :
    (write p content).onWith host trouble files =
      ⟨answer.mapError Error.file, after, [⟨.write p content, answer⟩]⟩ :=
  Program.runWith_step h

lemma onWith_rename {target : Path} {answer : Except FileFault Unit}
    (h : (Operation.rename p target).applyWith host files (trouble 0) = (answer, after)) :
    (rename p target).onWith host trouble files =
      ⟨answer.mapError Error.file, after, [⟨.rename p target, answer⟩]⟩ :=
  Program.runWith_step h

lemma runWith_discard {r : Except Error α} {answer : Except FileFault Unit}
    (h : (Operation.removeFile p).applyWith host files (trouble 0) = (answer, after)) :
    ((discard p).bind fun _ => .done r).runWith host trouble files =
      ⟨r, after, [⟨.removeFile p, answer⟩]⟩ :=
  Program.runWith_step h

/-- The removal that follows on a failure takes away one of the held files. -/
lemma fails_orElseDo {a : Action α}
    (h : (a.onWith host trouble files).Fails base ((place, content) :: held))
    (hlocate : base.locate host.working p = .ok place) (hfile : p.namesFolder = false) :
    ((orElseDo a (discard p)).onWith host trouble files).Fails base held := by
  obtain ⟨fault, hfault, hresult⟩ := h.fault
  rw [onWith_orElseDo_error hresult]
  refine ⟨⟨fault, ?_, rfl⟩, fun htidy => ?_⟩
  · rw [Course.firstFault?_behind]
    rw [Course.firstFault?] at hfault
    rw [hfault, Option.some_or]
  · obtain ⟨hbefore, hremoval⟩ := Course.tidy_behind.mp htidy
    obtain ⟨after, happly, hoverlay⟩ := Store.remove_held hlocate hfile (h.overlay hbefore)
    -- The removal is the first step behind those of the action.
    cases htrouble : trouble (0 + (a.onWith host trouble files).deeds.length) with
    | none =>
      have hwith : (Operation.removeFile p).applyWith host (a.onWith host trouble files).files
          (trouble (0 + (a.onWith host trouble files).deeds.length)) = (.ok (), after) := by
        rw [htrouble]
        exact happly
      rw [Course.files_behind, runWith_discard hwith]
      exact hoverlay
    | some what =>
      have hwith : (Operation.removeFile p).applyWith host (a.onWith host trouble files).files
          (trouble (0 + (a.onWith host trouble files).deeds.length)) =
            (.error what.fault, (a.onWith host trouble files).files) := by
        rw [htrouble]
        rfl
      rw [runWith_discard hwith] at hremoval
      cases hremoval _ List.mem_cons_self

end Action

namespace Store

variable {s : Store} {host : Host} {base files : Files} {held : List (Location × Bytes)}
  {reference format : String} {p : Path} {content : Bytes}

lemma createTemporary_withTrouble (s : Store) (host : Host) (trouble : Nat → Option Trouble)
    (h : Files.Overlay base held files) :
    ((Action.createTemporary s.root).onWith host trouble files).Fails base held ∨
      ∃ p after, ((Action.createTemporary s.root).onWith host trouble files).Succeeds p after
          [.createTemporary s.root] ∧
        s.Temporary host base p ∧
        Files.Overlay base ((Files.placeOf host.working p, []) :: held) after := by
  have hcases : (∃ fault, (Operation.createTemporary s.root).applyWith host files (trouble 0) =
        (.error fault, files)) ∨
      ∃ p after, (Operation.createTemporary s.root).applyWith host files (trouble 0) =
          (.ok p, after) ∧ s.Temporary host base p ∧
        Files.Overlay base ((Files.placeOf host.working p, []) :: held) after := by
    cases trouble 0 with
    | none => exact open_cases s host h
    | some what => exact .inl ⟨what.fault, rfl⟩
  rcases hcases with ⟨fault, happly⟩ | ⟨p, after, happly, hp, hopened⟩
  · rw [Action.onWith_createTemporary happly]
    exact .inl (Course.fails_of_fault rfl h)
  · rw [Action.onWith_createTemporary happly]
    exact .inr ⟨p, after, ⟨rfl, rfl, rfl, rfl⟩, hp, hopened⟩

/-- The new file is written as a whole, or the step fails and anything may be in it. -/
lemma write_withTrouble (hp : s.Temporary host base p) {old : Bytes}
    (h : Files.Overlay base ((Files.placeOf host.working p, old) :: held) files)
    (trouble : Nat → Option Trouble) (content : Bytes) :
    (∃ written, ((Action.write p content).onWith host trouble files).Fails base
        ((Files.placeOf host.working p, written) :: held)) ∨
      ∃ after, ((Action.write p content).onWith host trouble files).Succeeds () after
          [.write p content] ∧
        Files.Overlay base ((Files.placeOf host.working p, content) :: held) after := by
  cases htrouble : trouble 0 with
  | none =>
    obtain ⟨after, happly, hwritten⟩ := write_held hp h content
    have hwith : (Operation.write p content).applyWith host files (trouble 0) =
        (.ok (), after) := by
      rw [htrouble]
      exact happly
    rw [Action.onWith_write hwith]
    exact .inr ⟨after, ⟨rfl, rfl, rfl, rfl⟩, hwritten⟩
  | some what =>
    obtain ⟨after, happly, hwritten⟩ := write_held hp h what.written
    have hafter : (Operation.write p what.written).residue host files what.written = after :=
      congrArg Prod.snd happly
    have hwith : (Operation.write p content).applyWith host files (trouble 0) =
        (.error what.fault, after) := by
      rw [htrouble]
      exact Prod.ext rfl hafter
    rw [Action.onWith_write hwith]
    exact .inl ⟨what.written, Course.fails_of_fault rfl hwritten⟩

lemma rename_withTrouble (h : Files.Overlay base held files) (trouble : Nat → Option Trouble)
    (p target : Path) :
    ((Action.rename p target).onWith host trouble files).Fails base held ∨
      ∃ after, ((Action.rename p target).onWith host trouble files).Succeeds () after
          [.rename p target] ∧
        files.rename host.working p target = .ok after := by
  have hcases : (∃ fault, (Operation.rename p target).applyWith host files (trouble 0) =
        (.error fault, files)) ∨
      ∃ after, (Operation.rename p target).applyWith host files (trouble 0) = (.ok (), after) ∧
        files.rename host.working p target = .ok after := by
    cases trouble 0 with
    | some what => exact .inl ⟨what.fault, rfl⟩
    | none =>
      cases hmove : files.rename host.working p target with
      | error fault => exact .inl ⟨fault, congrArg files.change hmove⟩
      | ok after => exact .inr ⟨after, congrArg files.change hmove, rfl⟩
  rcases hcases with ⟨fault, happly⟩ | ⟨after, happly, hmove⟩
  · rw [Action.onWith_rename happly]
    exact .inl (Course.fails_of_fault rfl h)
  · rw [Action.onWith_rename happly]
    exact .inr ⟨after, ⟨rfl, rfl, rfl, rfl⟩, hmove⟩

lemma fill_withTrouble (hp : s.Temporary host base p) {old : Bytes}
    (h : Files.Overlay base ((Files.placeOf host.working p, old) :: held) files)
    (trouble : Nat → Option Trouble) (target : Path) (content : Bytes) :
    (∃ written, ((do Action.write p content; Action.rename p target : Action Unit).onWith host
        trouble files).Fails base ((Files.placeOf host.working p, written) :: held)) ∨
      ∃ between after, ((do Action.write p content; Action.rename p target : Action Unit).onWith
          host trouble files).Succeeds () after [.write p content, .rename p target] ∧
        Files.Overlay base ((Files.placeOf host.working p, content) :: held) between ∧
        between.rename host.working p target = .ok after := by
  rcases write_withTrouble hp h trouble content with
    ⟨written, hwrite⟩ | ⟨between, hwrite, hwritten⟩
  · exact .inl ⟨written, Action.fails_bind_of_fails hwrite⟩
  · obtain ⟨trouble', hcourse⟩ := Action.onWith_bind_of_succeeds hwrite
    rw [hcourse]
    rcases rename_withTrouble hwritten trouble' p target with hmove | ⟨after, hmove, hmoved⟩
    · exact .inl ⟨content, hmove.behind hwrite.faultless⟩
    · exact .inr ⟨between, after, hmove.behind hwrite, hwritten, hmoved⟩

/-- Whichever step of putting a file into place fails, the new file is taken away. -/
lemma replace_withTrouble (s : Store) (host : Host) (trouble : Nat → Option Trouble)
    (h : Files.Overlay base held files) (target : Path) (content : Bytes) :
    ((Action.replace s.root target content).onWith host trouble files).Fails base held ∨
      ∃ p between after,
        ((Action.replace s.root target content).onWith host trouble files).Succeeds () after
          [.createTemporary s.root, .write p content, .rename p target] ∧
        s.Temporary host base p ∧
        Files.Overlay base ((Files.placeOf host.working p, content) :: held) between ∧
        between.rename host.working p target = .ok after := by
  rcases createTemporary_withTrouble s host trouble h with
    hopen | ⟨p, opened, hopen, hp, hopened⟩
  · exact .inl (Action.fails_bind_of_fails hopen)
  · obtain ⟨trouble', hcourse⟩ := Action.onWith_bind_of_succeeds hopen
    rw [Action.replace, hcourse]
    rcases fill_withTrouble hp hopened trouble' target content with
      ⟨written, hfill⟩ | ⟨between, after, hfill, hwritten, hmoved⟩
    · exact .inl ((Action.fails_orElseDo hfill hp.locate hp.namesFolder).behind hopen.faultless)
    · exact .inr ⟨p, between, after, (Action.succeeds_orElseDo hfill).behind hopen, hp, hwritten,
        hmoved⟩

lemma source_placed {between after : Files} (href : isReference reference = true)
    (hfree : ∀ extension, base.node? (s.place host reference extension) = none)
    (hp : s.Temporary host base p)
    (h : Files.Overlay base [(Files.placeOf host.working p, content)] between)
    (hmoved : between.rename host.working p (s.filePath reference format) = .ok after) :
    s.Placed host base reference format ∧
      Files.Overlay base [(s.place host reference format, content)] after := by
  obtain ⟨-, target, -, -, -, -, htarget, hname, -, -⟩ := Files.rename_eq_ok hmoved
  have htarget' := Files.locate_of_sameFolders h.sameFolders.symm htarget hname
  obtain ⟨hstep, -, -⟩ := Files.locate_dotted hp.stands (ne_empty_of_isReference href)
    (not_mem_of_isReference href rfl) (not_mem_of_isReference href rfl)
    (fun extension => by rw [← place, hfree]; simp) htarget' hname
  have hfree' : between.node? (s.place host reference format) = none := by
    rw [h.rest _ (by simpa using place_ne_temporary href hp), hfree]
  have hmove : (Operation.rename p (s.filePath reference format)).apply host between =
      (.ok (), after) := congrArg between.change hmoved
  rcases rename_cases hp h hstep hfree' with ⟨fault, happly⟩ | ⟨after', happly, hplaced, hheld⟩
  · rw [hmove] at happly
    cases happly
  · rw [hmove] at happly
    cases happly
    exact ⟨hplaced, hheld⟩

/-- The files of a template are written, or a step fails and none is left. -/
lemma writeFiles_withTrouble (href : isReference reference = true)
    (hfree : ∀ extension, files.node? (s.place host reference extension) = none)
    (trouble : Nat → Option Trouble) (source : Bytes) (format text : String) :
    ((s.writeFiles reference source format text).onWith host trouble files).Fails files [] ∨
      ∃ p p' after, ((s.writeFiles reference source format text).onWith host trouble
        files).Succeeds () after
          [.createTemporary s.root, .write p source, .rename p (s.filePath reference format),
            .createTemporary s.root, .write p' (Utf8.encode text),
            .rename p' (s.textPath reference)] := by
  rcases replace_withTrouble s host trouble (.nil files) (s.filePath reference format) source with
    hsource | ⟨p, between, sourced, hsource, hp, hwritten, hmoved⟩
  · exact .inl (Action.fails_bind_of_fails hsource)
  · obtain ⟨hplaced, hheld⟩ := source_placed href hfree hp hwritten hmoved
    obtain ⟨trouble', hcourse⟩ := Action.onWith_bind_of_succeeds hsource
    rw [writeFiles, hcourse]
    rcases replace_withTrouble s host trouble' hheld (s.textPath reference) (Utf8.encode text) with
      htext | ⟨p', -, after, htext, -, -, -⟩
    · exact .inl ((Action.fails_orElseDo htext hplaced.locate hplaced.namesFolder).behind
        hsource.faultless)
    · exact .inr ⟨p, p', after, (Action.succeeds_orElseDo htext).behind hsource⟩

/-- While the files of a new template are written, any steps may fail. Without a fault the writing
succeeds, and there was no trouble with its six steps. Otherwise its result is the first fault, and
the tree is as before if the files that were to be removed then are. -/
theorem failed_writing_leaves_no_trace (href : isReference reference = true)
    (hfree : ∀ extension, files.node? (s.place host reference extension) = none)
    (trouble : Nat → Option Trouble) (source : Bytes) (format text : String) :
    let course := (s.writeFiles reference source format text).onWith host trouble files
    (course.firstFault? = none → course.result = .ok () ∧ ∀ n < 6, trouble n = none) ∧
      ∀ fault, course.firstFault? = some fault → course.result = .error (.file fault) ∧
        (course.Tidy → course.files.node? = files.node?) := by
  dsimp only
  rcases writeFiles_withTrouble href hfree trouble source format text with
    hfails | ⟨p, p', after, hdone⟩
  · obtain ⟨first, hfirst, hresult⟩ := hfails.fault
    rw [hfirst]
    refine ⟨(nomatch ·), fun fault hfault => ?_⟩
    cases hfault
    exact ⟨hresult, fun htidy => funext fun l => (hfails.overlay htidy).rest l List.not_mem_nil⟩
  · rw [hdone.faultless]
    refine ⟨fun _ => ⟨hdone.result, fun n hn => ?_⟩, fun _ => (nomatch ·)⟩
    exact Action.untroubled_of_succeeds hdone (by simp) hn

/-- The disk is full when a part of the text is written. -/
def sampleTrouble (n : Nat) : Option Trouble :=
  if n = 4 then some ⟨.other "No space left on device (os error 28)", [116]⟩ else none

theorem failed_writing_leaves_no_trace_fullDisk :
    let course := (Store.writeFiles ⟨⟨"templates"⟩⟩ "fedcba9876543210fedcba9876543210" [115] "docx"
      "text").onWith sampleHost sampleTrouble sampleFiles
    course.result = .error (.file (.other "No space left on device (os error 28)")) ∧
      course.files.node? = sampleFiles.node? := by
  have hfresh : Store.Fresh ⟨⟨"templates"⟩⟩ sampleHost sampleFiles
      "fedcba9876543210fedcba9876543210" :=
    fresh_of_names (by decide +kernel) (by decide +kernel)
  have hmade : Store.made ⟨⟨"templates"⟩⟩ sampleHost sampleFiles = sampleFiles := rfl
  obtain ⟨-, hfault⟩ := failed_writing_leaves_no_trace hfresh.isReference (hmade ▸ hfresh.free)
    sampleTrouble [115] "docx" "text"
  obtain ⟨hresult, hnode⟩ := hfault (.other "No space left on device (os error 28)")
    (by decide +kernel)
  exact ⟨hresult, hnode (by unfold Course.Tidy; decide +kernel)⟩

end Store

end MailMerge
