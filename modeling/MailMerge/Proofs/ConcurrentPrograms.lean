import MailMerge.Files.Program
import Mathlib.Tactic.Lemma

/-!
# Programs side by side

Programs that share a file tree take turns, and in its turn a program performs one operation. A row
of turns is a beginning of an interleaving, so what can ever be seen of the tree is what is there
after some row of turns.
-/

namespace MailMerge

/-- An operation that was performed, with its answer. -/
structure Deed where
  operation : Operation
  answer : operation.Answer

namespace Deed

/-- The path to which a file was moved. -/
def moved? : Deed → Option Path
  | ⟨.rename _ target, .ok ()⟩ => some target
  | _ => none

/-- The path of a file that was made with a new name. -/
def temporary? : Deed → Option Path
  | ⟨.createTemporary _, .ok p⟩ => some p
  | _ => none

end Deed

variable {α : Type}

/-- The first operation of a program is performed, unless the program has ended. -/
def Program.turn (host : Host) (files : Files) : Program α → Option (Program α × Files × Deed)
  | done _ => none
  | step op next =>
    some (next (op.apply host files).1, (op.apply host files).2, ⟨op, (op.apply host files).1⟩)

/-- A file tree, what is left of the programs that share it, and what they have done, the last
first. -/
structure Machine (α : Type) where
  files : Files
  programs : List (Program α)
  deeds : List Deed

namespace Machine

def start (files : Files) (programs : List (Program α)) : Machine α :=
  ⟨files, programs, []⟩

/-- The turn of one of the programs. -/
def turn (host : Host) (m : Machine α) (i : Nat) : Machine α :=
  match m.programs[i]?.bind (Program.turn host m.files) with
  | some (p, files, deed) => ⟨files, m.programs.set i p, deed :: m.deeds⟩
  | none => m

def after (host : Host) (m : Machine α) (turns : List Nat) : Machine α :=
  turns.foldl (turn host) m

/-- A file has been moved to this path. -/
def Moved (m : Machine α) (target : Path) : Prop :=
  ∃ deed ∈ m.deeds, deed.moved? = some target

/-- A file has been made with a new name and this path. -/
def Made (m : Machine α) (p : Path) : Prop :=
  ∃ deed ∈ m.deeds, deed.temporary? = some p

variable {host : Host} {m : Machine α} {files' : Files} {before rest : List (Program α)}
  {p p' : Program α} {deed : Deed}

lemma moved_cons (files : Files) (programs : List (Program α)) (target : Path) :
    (Machine.mk files programs (deed :: m.deeds)).Moved target ↔
      deed.moved? = some target ∨ m.Moved target := by
  simp [Moved]

lemma made_cons (files : Files) (programs : List (Program α)) (new : Path) :
    (Machine.mk files programs (deed :: m.deeds)).Made new ↔
      deed.temporary? = some new ∨ m.Made new := by
  simp [Made]

lemma turn_of_programs (hprograms : m.programs = before ++ p :: rest)
    (hturn : p.turn host m.files = some (p', files', deed)) :
    m.turn host before.length = ⟨files', before ++ p' :: rest, deed :: m.deeds⟩ := by
  have hp : m.programs[before.length]? = some p := by
    rw [hprograms, List.getElem?_append_right (Nat.le_refl _), Nat.sub_self]
    rfl
  rw [turn, hp, Option.bind_some, hturn, hprograms]
  simp

/-- A turn changes nothing, or a program that has not ended goes on. -/
lemma turn_cases (host : Host) (m : Machine α) (i : Nat) :
    m.turn host i = m ∨ ∃ before p rest p' files' deed, m.programs = before ++ p :: rest ∧
      p.turn host m.files = some (p', files', deed) ∧
      m.turn host i = ⟨files', before ++ p' :: rest, deed :: m.deeds⟩ := by
  cases hp : m.programs[i]? with
  | none =>
    refine .inl ?_
    rw [turn, hp]
    rfl
  | some p =>
    cases hturn : p.turn host m.files with
    | none =>
      refine .inl ?_
      rw [turn, hp, Option.bind_some, hturn]
    | some r =>
      obtain ⟨p', files', deed⟩ := r
      obtain ⟨hi, rfl⟩ := List.getElem?_eq_some_iff.mp hp
      have hprograms : m.programs =
          m.programs.take i ++ m.programs[i] :: m.programs.drop (i + 1) := by
        rw [← List.drop_eq_getElem_cons hi, List.take_append_drop]
      have hlength : (m.programs.take i).length = i := List.length_take_of_le (Nat.le_of_lt hi)
      have hnext := turn_of_programs hprograms hturn
      rw [hlength] at hnext
      exact .inr ⟨_, _, _, p', files', deed, hprograms, hturn, hnext⟩

lemma deeds_turn (host : Host) (m : Machine α) (i : Nat) :
    m.turn host i = m ∨ (m.turn host i).deeds.isEmpty = false := by
  rcases m.turn_cases host i with hsame | ⟨before, p, rest, p', files', deed, -, -, hnext⟩
  · exact .inl hsame
  · rw [hnext]
    exact .inr rfl

/-- What holds at first and is kept by every turn holds after every row of turns. -/
theorem after_of_turn {Holds : Machine α → Prop} (hfirst : Holds m)
    (hturn : ∀ m i, Holds m → Holds (m.turn host i)) (turns : List Nat) :
    Holds (m.after host turns) := by
  induction turns generalizing m with
  | nil => exact hfirst
  | cons i turns ih => exact ih (hturn m i hfirst)

/-- A program that is alone comes to what it comes to on the tree, after some turns. -/
theorem after_alone (host : Host) (p : Program α) (files : Files) (deeds : List Deed) :
    ∃ n deeds', (Machine.mk files [p] deeds).after host (List.replicate n 0) =
      ⟨(p.run host files).2, [.done (p.run host files).1], deeds'⟩ := by
  induction p generalizing files deeds with
  | done a => exact ⟨0, deeds, rfl⟩
  | step op next ih =>
    obtain ⟨n, deeds', h⟩ := ih (op.apply host files).1 (op.apply host files).2
      (⟨op, (op.apply host files).1⟩ :: deeds)
    exact ⟨n + 1, deeds', h⟩

end Machine

end MailMerge
