/-!
# Bounded pools

Jobs wait, run and finish; at most `limit` of them run at once. Which of them starts or finishes
next is up to a schedule, any list of events at all: an event that cannot happen is skipped. When
the schedule is over, the running jobs finish, and then the waiting ones go through one by one.
-/

namespace MailMerge

/-- Jobs by their numbers; those that have finished last first. -/
structure Pool where
  waiting : List Nat
  running : List Nat
  finished : List Nat
  deriving DecidableEq, Repr

namespace Pool

inductive Event where
  | start (job : Nat)
  | finish (job : Nat)
  deriving DecidableEq, Repr

def step (limit : Nat) (p : Pool) : Event → Pool
  | .start job =>
    if p.running.length < limit && p.waiting.contains job then
      { p with waiting := p.waiting.erase job, running := job :: p.running }
    else p
  | .finish job =>
    if p.running.contains job then
      { p with running := p.running.erase job, finished := job :: p.finished }
    else p

/-- The order in which all jobs finish when no event is left; with a limit of zero those that wait
never do. -/
def drain (limit : Nat) (p : Pool) : List Nat :=
  p.finished.reverse ++ p.running ++ if limit = 0 then [] else p.waiting

/-- The order in which `n` jobs finish under a schedule. -/
def completionOrder (limit : Nat) (schedule : List Event) (n : Nat) : List Nat :=
  drain limit (schedule.foldl (step limit) ⟨List.range n, [], []⟩)

end Pool

end MailMerge
