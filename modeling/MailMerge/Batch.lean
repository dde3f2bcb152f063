import MailMerge.Artifact
import MailMerge.Layout
import MailMerge.Naming
import MailMerge.Pool
import MailMerge.Renderer
import MailMerge.Settings

/-!
# Batches

A batch fills one template with many rows, one artifact for each row that has a value to name it.
Rows are worked on at once; every job has a slot, so the artifacts come in the order of the rows
whichever job finishes first, and the first job that fails fails the batch.
-/

namespace MailMerge

/-- The text of a stored template under its reference. -/
structure Template where
  reference : String
  text : String
  deriving DecidableEq, Repr

namespace Batch

/-- A row that is worked on, under the name of its artifact. -/
structure Job where
  name : String
  row : Record
  deriving DecidableEq

/-- The rows that have a value to name their artifact. -/
def usable (namingField : String) (rows : List Record) : List Record :=
  rows.filter fun r => !r.isBlank namingField

/-- The word that a row's artifact is named after. -/
def baseName (namingField : String) (r : Record) : String :=
  Naming.safe ((r.get? namingField).getD "")

def jobs (namingField extension : String) (rows : List Record) : List Job :=
  let kept := usable namingField rows
  let names := Naming.allocateAll [] extension (kept.map (baseName namingField))
  List.zipWith Job.mk names kept

/-- The artifact of a job. -/
def work (renderer : Renderer) (layout : Layout) (job : Job) : Except Error Artifact :=
  (renderer.render (layout.fill job.row)).map fun content => ⟨job.name, content⟩

/-- Puts the outcomes of jobs into their slots in the order in which they finish. -/
def collect (outcomes : List (Except Error Artifact)) :
    List Nat → List (Option Artifact) → Except Error (List (Option Artifact))
  | [], slots => .ok slots
  | job :: rest, slots =>
    match outcomes[job]? with
    | none => collect outcomes rest slots
    | some (.error e) => .error e
    | some (.ok a) => collect outcomes rest (slots.set job (some a))

/-- The artifacts of a template's rows, with the jobs finishing as the schedule has it. -/
def expand (settings : Settings) (renderer : Renderer) (schedule : List Pool.Event)
    (template : Template) (rows : List Record) : Except Error (List Artifact) :=
  let queue := jobs settings.namingField renderer.extension rows
  if queue.isEmpty then .error (.noUsableRow rows.length settings.namingField)
  else
    let layout := Layout.ofText template.text
    let outcomes := queue.map (work renderer layout)
    let order := Pool.completionOrder settings.concurrency schedule queue.length
    (collect outcomes order (List.replicate queue.length none)).map fun slots =>
      slots.filterMap id

end Batch

end MailMerge
