import MailMerge.Error

/-!
# Stages of a request

A request follows a flow of stages. It may fail at any stage that is not its last one, and leaves
no last stage again.
-/

namespace MailMerge

inductive Flow where
  | extract
  | single
  | batch
  deriving DecidableEq, Repr

inductive Stage where
  | uploaded
  | extracted
  | filled
  | substituted
  | converted
  | expanded
  | packaged
  | delivered
  | failed
  deriving DecidableEq, Repr

namespace Stage

def name : Stage → String
  | uploaded => "Uploaded"
  | extracted => "Extracted"
  | filled => "Filled"
  | substituted => "Substituted"
  | converted => "Converted"
  | expanded => "Expanded"
  | packaged => "Packaged"
  | delivered => "Delivered"
  | failed => "Failed"

def isFinal : Stage → Bool
  | delivered | failed => true
  | _ => false

/-- The stage after this one in a flow. -/
def next? (flow : Flow) (stage : Stage) : Option Stage :=
  match flow, stage with
  | .extract, uploaded => some extracted
  | .single, extracted => some filled
  | .single, filled => some substituted
  | .single, substituted => some converted
  | .single, converted => some delivered
  | .batch, extracted => some expanded
  | .batch, expanded => some packaged
  | .batch, packaged => some delivered
  | _, _ => none

/-- A flow allows a move to the next stage, and to failure before the end. -/
def canMove (flow : Flow) (stage target : Stage) : Bool :=
  if target = failed then !stage.isFinal else next? flow stage = some target

end Stage

/-- Where a request stands in its flow. -/
structure Progress where
  flow : Flow
  stage : Stage
  deriving DecidableEq, Repr

namespace Progress

def start (flow : Flow) : Progress :=
  ⟨flow, match flow with
    | .extract => .uploaded
    | .single | .batch => .extracted⟩

def advance (p : Progress) (target : Stage) : Except Error Progress :=
  if p.stage.canMove p.flow target then .ok { p with stage := target }
  else .error (.invalidTransition p.stage.name target.name)

/-- Closes a request: an error ends it as failed unless it has ended before. -/
def close {α : Type} (p : Progress) (result : Except Error α) : Progress :=
  match result with
  | .ok _ => p
  | .error _ => if p.stage.isFinal then p else { p with stage := .failed }

end Progress

end MailMerge
