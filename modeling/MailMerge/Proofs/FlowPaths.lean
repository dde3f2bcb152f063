import MailMerge.Proofs.RequestRuns
import Mathlib.Data.List.Infix

/-!
# Paths of flows

Each flow has one path, and the stages that a request enters are a part of it from its beginning,
with at most one failure behind. So a request is told to its end by the stages that it has entered,
whatever else it was asked for.
-/

namespace MailMerge

/-- The stages that a flow goes through, in order. -/
def Flow.path : Flow → List Stage
  | .extract => [.extracted]
  | .single => [.filled, .substituted, .converted, .delivered]
  | .batch => [.expanded, .packaged, .delivered]

/-- A row of stages that walks along the path of a flow from its beginning, and may then fail unless
it has come to a delivery. -/
def Flow.Walks (flow : Flow) (row : List Stage) : Prop :=
  ∃ walked, walked <+: flow.path ∧
    (row = walked ∨ row = walked ++ [.failed] ∧ walked.getLast? ≠ some .delivered)

/-- Where a request stands once it has entered these stages. -/
def Flow.stageAfter (flow : Flow) (row : List Stage) : Stage :=
  row.getLast?.getD (Progress.start flow).stage

namespace Flow

variable {flow : Flow} {row walked rest : List Stage} {target : Stage}

lemma stageAfter_append_singleton (flow : Flow) (row : List Stage) (target : Stage) :
    flow.stageAfter (row ++ [target]) = target := by
  rw [stageAfter, List.getLast?_concat, Option.getD_some]

lemma failed_notMem_path (flow : Flow) : Stage.failed ∉ flow.path := by
  cases flow <;> decide

lemma next?_stageAfter (h : walked ++ rest = flow.path) :
    Stage.next? flow (flow.stageAfter walked) = rest.head? := by
  have htable : ∀ start ∈ flow.path.inits,
      Stage.next? flow (flow.stageAfter start) = (flow.path.drop start.length).head? := by
    cases flow <;> decide
  have hwalked : walked ∈ flow.path.inits := (List.mem_inits _ _).2 ⟨rest, h⟩
  rw [htable walked hwalked, ← h, List.drop_left]

lemma isFinal_stageAfter (h : walked <+: flow.path) :
    (flow.stageAfter walked).isFinal = true ↔ walked.getLast? = some .delivered := by
  have htable : ∀ start ∈ flow.path.inits,
      ((flow.stageAfter start).isFinal = true ↔ start.getLast? = some .delivered) := by
    cases flow <;> decide
  exact htable walked ((List.mem_inits _ _).2 h)

lemma walks_of_isPrefix (h : walked <+: flow.path) : flow.Walks walked :=
  ⟨walked, h, .inl rfl⟩

lemma isPrefix_of_walks (h : flow.Walks row) (hrow : Stage.failed ∉ row) : row <+: flow.path := by
  obtain ⟨walked, hwalked, rfl | ⟨rfl, -⟩⟩ := h
  · exact hwalked
  · exact absurd (List.mem_concat_self) hrow

lemma notMem_of_isPrefix (h : walked <+: flow.path) : Stage.failed ∉ walked :=
  fun hmem => flow.failed_notMem_path (h.subset hmem)

lemma walks_concat_failed (h : walked <+: flow.path) :
    flow.Walks (walked ++ [.failed]) ↔ walked.getLast? ≠ some .delivered := by
  constructor
  · rintro ⟨other, hother, rfl | ⟨heq, hlast⟩⟩
    · exact absurd List.mem_concat_self (notMem_of_isPrefix hother)
    · rwa [List.append_cancel_right heq]
  · exact fun hlast => ⟨walked, h, .inr ⟨rfl, hlast⟩⟩

lemma walks_concat (h : walked ++ rest = flow.path) (htarget : target ≠ .failed) :
    flow.Walks (walked ++ [target]) ↔ rest.head? = some target := by
  have hrow : Stage.failed ∉ walked ++ [target] := by
    have hwalked : Stage.failed ∉ walked := notMem_of_isPrefix ⟨rest, h⟩
    simp [hwalked, htarget.symm]
  rw [show flow.Walks (walked ++ [target]) ↔ walked ++ [target] <+: flow.path from
    ⟨fun hwalks => isPrefix_of_walks hwalks hrow, walks_of_isPrefix⟩, ← h,
    List.prefix_append_right_inj]
  cases rest with
  | nil => simp
  | cons next rest => simp [eq_comm]

lemma not_walks_of_failed (row : List Stage) (target : Stage) :
    ¬flow.Walks (row ++ [.failed] ++ [target]) := by
  rintro ⟨walked, hwalked, rfl | ⟨heq, -⟩⟩
  · exact notMem_of_isPrefix hwalked (by simp)
  · have hrow : row ++ [.failed] = walked := List.append_inj_left' heq rfl
    exact notMem_of_isPrefix hwalked (hrow ▸ List.mem_concat_self)

/-- The moves that a flow allows are those that keep a row of stages on its path. -/
lemma canMove_iff_walks (h : flow.Walks row) :
    Stage.canMove flow (flow.stageAfter row) target = true ↔ flow.Walks (row ++ [target]) := by
  obtain ⟨walked, hwalked, rfl | ⟨rfl, -⟩⟩ := h
  · have hfinal := isFinal_stageAfter hwalked
    obtain ⟨rest, hrest⟩ := hwalked
    by_cases htarget : target = .failed
    · rw [htarget, walks_concat_failed ⟨rest, hrest⟩, ne_eq, ← hfinal]
      simp [Stage.canMove]
    · rw [walks_concat hrest htarget, ← next?_stageAfter hrest]
      simp [Stage.canMove, htarget]
  · rw [stageAfter_append_singleton]
    have hstuck : Stage.canMove flow .failed target = false := by
      cases flow <;> cases target <;> rfl
    rw [hstuck]
    exact iff_of_false Bool.false_ne_true (not_walks_of_failed walked target)

end Flow

/-- What a request has become: the stages that it has entered, in order, and where it stands. -/
structure Trail where
  entered : List Stage
  progress : Progress

namespace Trail

variable {flow : Flow} {t : Trail} {target : Stage}

def start (flow : Flow) : Trail :=
  ⟨[], .start flow⟩

/-- Asks a request for one more stage. -/
def ask (host : Host) (files : Files) (t : Trail) (target : Stage) : Trail :=
  match ((Request.advance target).on host t.progress files).1 with
  | (.ok (), p) => ⟨t.entered ++ [target], p⟩
  | (.error _, p) => ⟨t.entered, p⟩

/-- A new request of a flow, asked for these stages one after another. -/
def after (host : Host) (files : Files) (flow : Flow) (targets : List Stage) : Trail :=
  targets.foldl (ask host files) (start flow)

/-- The request stands at the end of a walk along the path of its flow. -/
structure OnPath (flow : Flow) (t : Trail) : Prop where
  walks : flow.Walks t.entered
  stands : t.progress = ⟨flow, flow.stageAfter t.entered⟩

lemma advance_of_walks (h : OnPath flow t) (htarget : flow.Walks (t.entered ++ [target])) :
    t.progress.advance target = .ok ⟨flow, target⟩ := by
  rw [h.stands, Progress.advance, if_pos ((Flow.canMove_iff_walks h.walks).2 htarget)]

lemma advance_of_not_walks (h : OnPath flow t) (htarget : ¬flow.Walks (t.entered ++ [target])) :
    t.progress.advance target =
      .error (.invalidTransition t.progress.stage.name target.name) := by
  rw [h.stands, Progress.advance, if_neg (mt (Flow.canMove_iff_walks h.walks).1 htarget)]

variable {host : Host} {files : Files}

lemma ask_of_walks (h : OnPath flow t) (htarget : flow.Walks (t.entered ++ [target])) :
    t.ask host files target = ⟨t.entered ++ [target], ⟨flow, target⟩⟩ := by
  rw [ask, Request.on_advance (advance_of_walks h htarget)]

lemma ask_of_not_walks (h : OnPath flow t) (htarget : ¬flow.Walks (t.entered ++ [target])) :
    t.ask host files target = t := by
  rw [ask, Request.on_advance_eq, advance_of_not_walks h htarget]

/-- One more request keeps to the path, whether it is granted or not. -/
lemma OnPath.ask (h : OnPath flow t) (target : Stage) : OnPath flow (t.ask host files target) := by
  by_cases htarget : flow.Walks (t.entered ++ [target])
  · rw [ask_of_walks h htarget]
    exact ⟨htarget, by rw [Flow.stageAfter_append_singleton]⟩
  · rwa [ask_of_not_walks h htarget]

end Trail

end MailMerge
