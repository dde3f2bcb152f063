import MailMerge.Proofs.FileTrees
import MailMerge.Proofs.StoredTemplates

/-!
# Writing templates

A file that is put into place is read as a whole from there, and the last file that storing a
template puts into place is its text (`read_of_put`).
-/

namespace MailMerge

variable {host : Host} {files files' : Files}

namespace Action

lemma on_orElseDo_eq_ok {α : Type} {a : Action α} {cleanUp : Program Unit} {x : α}
    (h : (orElseDo a cleanUp).on host files = (.ok x, files')) :
    a.on host files = (.ok x, files') := by
  rcases ha : a.on host files with ⟨result, between⟩
  change ((ExceptT.run a).bind _).run host files = _ at h
  rw [on] at ha
  rw [Program.run_bind, ha] at h
  cases result with
  | ok y => exact h
  | error e =>
    change (cleanUp.bind fun _ => .done (Except.error e)).run host between = (.ok x, files') at h
    rw [Program.run_bind] at h
    cases h

lemma change_eq_ok {changed : Except FileFault Files}
    (h : (((files.change changed).1.mapError Error.file, (files.change changed).2) :
      Except Error Unit × Files) = (.ok (), files')) : changed = .ok files' := by
  cases changed with
  | error fault => cases h
  | ok after =>
    cases h
    rfl

lemma on_write_eq_ok {p : Path} {content : Bytes}
    (h : (write p content).on host files = (.ok (), files')) :
    files.write host.working p content = .ok files' :=
  change_eq_ok h

lemma on_rename_eq_ok {source target : Path}
    (h : (rename source target).on host files = (.ok (), files')) :
    files.rename host.working source target = .ok files' :=
  change_eq_ok h

/-- A file that is put into place is read from there as a whole. -/
theorem read_of_replace {folder target : Path} {content : Bytes}
    (h : (replace folder target content).on host files = (.ok (), files')) :
    files'.read host.working target = .ok content := by
  obtain ⟨temporary, created, -, h⟩ := on_bind_eq_ok h
  obtain ⟨_, written, hwrite, hrename⟩ := on_bind_eq_ok (on_orElseDo_eq_ok h)
  exact Files.read_of_rename (Files.read_of_write (on_write_eq_ok hwrite))
    (on_rename_eq_ok hrename)

end Action

namespace Store

/-- Storing a template ends with its text in place. -/
theorem read_of_put {s : Store} {reference : String} {source : Bytes} {format text : String}
    {template : Template}
    (h : (s.put reference source format text).on host files = (.ok template, files')) :
    template = ⟨reference, text⟩ ∧
      files'.read host.working (s.textPath reference) = .ok (Utf8.encode text) := by
  obtain ⟨_, prepared, -, h⟩ := Action.on_bind_eq_ok h
  obtain ⟨_, stored, hwrite, h⟩ := Action.on_bind_eq_ok h
  obtain ⟨_, sourced, -, htext⟩ := Action.on_bind_eq_ok hwrite
  cases h
  exact ⟨rfl, Action.read_of_replace (Action.on_orElseDo_eq_ok htext)⟩

end Store

end MailMerge
