import MailMerge.Proofs.ConcurrentPrograms
import MailMerge.Proofs.HeldFiles
import MailMerge.Proofs.TemplateFiles

/-!
# Phases of an upload

Storing a template goes through phases, one operation each. In each phase the upload holds at most
one file with a new name and, in the folder, the source and then the text.
-/

namespace MailMerge.Store

/-- A template that is to be stored. -/
structure Upload where
  reference : String
  source : Bytes
  format : String
  text : String

/-- How far an upload has come, with the path of its file that has a new name. -/
inductive Phase where
  | ready
  | folderMade
  | sourceOpened (temporary : Path)
  | sourceWritten (temporary : Path)
  | sourcePlaced
  | textOpened (temporary : Path)
  | textWritten (temporary : Path)
  | stored
  | droppingSource (temporary : Path) (e : Error)
  | droppingText (temporary : Path) (e : Error)
  | withdrawing (e : Error)
  | failed (e : Error)

variable {s : Store} {host : Host} {base files files' : Files} {u : Upload}

section Programs

def Upload.program (s : Store) (u : Upload) : Program (Except Error Template) :=
  ExceptT.run (s.put u.reference u.source u.format u.text)

def Upload.sourcePath (s : Store) (u : Upload) : Path :=
  s.filePath u.reference u.format

/-- What follows on putting the text into place: the source is taken away again if that fails. -/
def Upload.withText (s : Store) (u : Upload) (text : Action Unit) :
    Program (Except Error Template) :=
  ExceptT.run do
    Action.orElseDo text (Action.discard (u.sourcePath s))
    return ⟨u.reference, u.text⟩

/-- The text is put into place after the source. -/
def Upload.thenText (s : Store) (u : Upload) (source : Action Unit) : Action Unit := do
  source
  Action.orElseDo (Action.replace s.root (s.textPath u.reference) (Utf8.encode u.text))
    (Action.discard (u.sourcePath s))

/-- What follows on putting the source into place. -/
def Upload.withSource (s : Store) (u : Upload) (source : Action Unit) :
    Program (Except Error Template) :=
  ExceptT.run do
    u.thenText s source
    return ⟨u.reference, u.text⟩

/-- What is left to do from a phase on. -/
def Phase.program (s : Store) (u : Upload) : Phase → Program (Except Error Template)
  | ready => u.program s
  | folderMade => u.withSource s (Action.replace s.root (u.sourcePath s) u.source)
  | sourceOpened p => u.withSource s (Action.orElseDo
      (do Action.write p u.source; Action.rename p (u.sourcePath s)) (Action.discard p))
  | sourceWritten p => u.withSource s
      (Action.orElseDo (Action.rename p (u.sourcePath s)) (Action.discard p))
  | sourcePlaced => u.withText s
      (Action.replace s.root (s.textPath u.reference) (Utf8.encode u.text))
  | textOpened p => u.withText s (Action.orElseDo
      (do Action.write p (Utf8.encode u.text); Action.rename p (s.textPath u.reference))
      (Action.discard p))
  | textWritten p => u.withText s
      (Action.orElseDo (Action.rename p (s.textPath u.reference)) (Action.discard p))
  | stored => .done (.ok ⟨u.reference, u.text⟩)
  | droppingSource p e => (Action.discard p).bind fun _ => .done (.error e)
  | droppingText p e => (Action.discard p).bind fun _ =>
      (Action.discard (u.sourcePath s)).bind fun _ => .done (.error e)
  | withdrawing e => (Action.discard (u.sourcePath s)).bind fun _ => .done (.error e)
  | failed e => .done (.error e)

lemma turn_eq_some {α : Type} {program p : Program α} {op : Operation}
    {next : op.Answer → Program α} {answer : op.Answer} {after : Files} {deed : Deed}
    (hprogram : program = .step op next) (happly : op.apply host files = (answer, after))
    (hturn : program.turn host files = some (p, files', deed)) :
    p = next answer ∧ files' = after ∧ deed = ⟨op, answer⟩ := by
  rw [hprogram, Program.turn, happly] at hturn
  cases hturn
  exact ⟨rfl, rfl, rfl⟩

end Programs

section Holding

def Upload.sourcePlace (s : Store) (host : Host) (u : Upload) : Location :=
  s.place host u.reference u.format

def Upload.textPlace (s : Store) (host : Host) (u : Upload) : Location :=
  s.place host u.reference textExtension

/-- The files that an upload holds in a phase, the last first. -/
def Phase.held (s : Store) (host : Host) (u : Upload) : Phase → List (Location × Bytes)
  | ready | folderMade | failed _ => []
  | sourceOpened p => [(Files.placeOf host.working p, [])]
  | sourceWritten p | droppingSource p _ => [(Files.placeOf host.working p, u.source)]
  | sourcePlaced | withdrawing _ => [(u.sourcePlace s host, u.source)]
  | textOpened p => [(Files.placeOf host.working p, []), (u.sourcePlace s host, u.source)]
  | textWritten p | droppingText p _ =>
    [(Files.placeOf host.working p, Utf8.encode u.text), (u.sourcePlace s host, u.source)]
  | stored => [(u.textPlace s host, Utf8.encode u.text), (u.sourcePlace s host, u.source)]

/-- The path of a new file in the store's folder. -/
structure Temporary (s : Store) (host : Host) (base : Files) (p : Path) : Prop where
  stands : base.Stands host.working s.root
  locate : base.locate host.working p = .ok (Files.placeOf host.working p)
  namesFolder : p.namesFolder = false
  named : ∃ n : Nat, p = s.root.join (".tmp" ++ toString n)

/-- The path of a template's file leads right below the store's folder. -/
structure Placed (s : Store) (host : Host) (base : Files) (reference extension : String) :
    Prop where
  stands : base.Stands host.working s.root
  locate : base.locate host.working (s.filePath reference extension) =
    .ok (s.place host reference extension)
  namesFolder : (s.filePath reference extension).namesFolder = false

/-- What is known of the paths of the held files; it depends on the folders only. -/
def Phase.Sound (s : Store) (host : Host) (base : Files) (u : Upload) : Phase → Prop
  | ready | folderMade | failed _ => True
  | sourceOpened p | sourceWritten p | droppingSource p _ => s.Temporary host base p
  | sourcePlaced | withdrawing _ => s.Placed host base u.reference u.format
  | textOpened p | textWritten p | droppingText p _ =>
    s.Temporary host base p ∧ s.Placed host base u.reference u.format
  | stored =>
    s.Placed host base u.reference textExtension ∧ s.Placed host base u.reference u.format

/-- The path to which a file has been moved where a phase begins. -/
def Phase.arrival? (s : Store) (u : Upload) : Phase → Option Path
  | sourcePlaced => some (u.sourcePath s)
  | stored => some (s.textPath u.reference)
  | _ => none

/-- The path of the new file that has been made where a phase begins. -/
def Phase.opened? : Phase → Option Path
  | sourceOpened p | textOpened p => some p
  | _ => none

end Holding

section Operations

variable {held : List (Location × Bytes)} {content : Bytes} {p : Path}
  {reference extension : String}

lemma open_cases (s : Store) (host : Host) (h : Files.Overlay base held files) :
    (∃ fault, (Operation.createTemporary s.root).apply host files = (.error fault, files)) ∨
      ∃ p files', (Operation.createTemporary s.root).apply host files = (.ok p, files') ∧
        s.Temporary host base p ∧
        Files.Overlay base ((Files.placeOf host.working p, []) :: held) files' := by
  cases hfresh : files.freshPlace host.working s.root ".tmp" with
  | error fault =>
    refine .inl ⟨fault, ?_⟩
    change files.create _ (files.freshPlace host.working s.root ".tmp") = _
    rw [hfresh]
    rfl
  | ok new =>
    obtain ⟨place, p⟩ := new
    obtain ⟨hstands, hlocate, hfile, hfree, hnamed⟩ := Files.freshPlace_eq_ok hfresh
    have hplace := Files.eq_placeOf_of_locate hlocate
    subst hplace
    have hfolders := h.sameFolders.symm
    refine .inr ⟨p, files.put (Files.placeOf host.working p) (.file [] false), ?_,
      ⟨hstands.of_sameFolders hfolders,
        Files.locate_of_sameFolders hfolders hlocate hfile, hfile, hnamed⟩,
      h.put hfree []⟩
    change files.create _ (files.freshPlace host.working s.root ".tmp") = _
    rw [hfresh]
    rfl

lemma write_held (hp : s.Temporary host base p)
    (h : Files.Overlay base ((Files.placeOf host.working p, content) :: held) files)
    (content' : Bytes) :
    ∃ files', (Operation.write p content').apply host files = (.ok (), files') ∧
      Files.Overlay base ((Files.placeOf host.working p, content') :: held) files' := by
  have hlocate := Files.locate_of_sameFolders h.sameFolders hp.locate hp.namesFolder
  have hnode := h.node _ List.mem_cons_self
  refine ⟨_, ?_, h.write content'⟩
  change files.change (files.write host.working p content') = _
  rw [Files.write_of_locate hlocate hnode content']
  rfl

lemma rename_cases (hp : s.Temporary host base p)
    (h : Files.Overlay base ((Files.placeOf host.working p, content) :: held) files)
    (hstep : Path.IsStep (reference ++ "." ++ extension))
    (hfree : files.node? (s.place host reference extension) = none) :
    (∃ fault, (Operation.rename p (s.filePath reference extension)).apply host files =
        (.error fault, files)) ∨
      ∃ files', (Operation.rename p (s.filePath reference extension)).apply host files =
          (.ok (), files') ∧ s.Placed host base reference extension ∧
        Files.Overlay base ((s.place host reference extension, content) :: held) files' := by
  have hlocate := Files.locate_of_sameFolders h.sameFolders hp.locate hp.namesFolder
  have hnode := h.node _ List.mem_cons_self
  cases hmove : files.rename host.working p (s.filePath reference extension) with
  | error fault =>
    refine .inl ⟨fault, ?_⟩
    change files.change (files.rename host.working p (s.filePath reference extension)) = _
    rw [hmove]
    rfl
  | ok after =>
    obtain ⟨place, target, found, executable, hmoved, hfound, htarget, hname, -, rfl⟩ :=
      Files.rename_eq_ok hmove
    rw [hlocate] at hmoved
    cases hmoved
    rw [hnode] at hfound
    cases hfound
    have hplace : target = s.place host reference extension :=
      Files.eq_of_locate_join hstep htarget
    subst hplace
    have hgone : (files.erase (Files.placeOf host.working p)).node?
        (s.place host reference extension) = none := by
      rw [Files.node?_erase files h.ne_nil, hfree, ite_self]
    refine .inr ⟨_, ?_, ⟨hp.stands,
      Files.locate_of_sameFolders h.sameFolders.symm htarget hname, hname⟩, h.erase.put hgone _⟩
    change files.change (files.rename host.working p (s.filePath reference extension)) = _
    rw [hmove]
    rfl

lemma remove_held {place : Location} (hlocate : base.locate host.working p = .ok place)
    (hfile : p.namesFolder = false) (h : Files.Overlay base ((place, content) :: held) files) :
    ∃ files', (Operation.removeFile p).apply host files = (.ok (), files') ∧
      Files.Overlay base held files' := by
  have hlocate' := Files.locate_of_sameFolders h.sameFolders hlocate hfile
  refine ⟨_, ?_, h.erase⟩
  change files.change (files.removeFile host.working p) = _
  rw [Files.removeFile_of_locate hlocate' (h.node _ List.mem_cons_self)]
  rfl

end Operations

section Turns

variable {others : List (Location × Bytes)} {reference extension : String} {p : Path}

lemma place_ne_new (s : Store) (host : Host) (href : isReference reference = true) (n : Nat) :
    s.place host reference extension ≠
      Files.placeOf host.working (s.root.join (".tmp" ++ toString n)) := by
  rw [Files.placeOf_join _ _ (Files.isStep_temporary n), place]
  intro hsame
  have hchars := congrArg String.toList (List.singleton_inj.mp (List.append_cancel_left hsame))
  rw [toList_dotted] at hchars
  -- A new name begins with a point, and no reference does.
  cases hreference : reference.toList with
  | nil => exact ne_empty_of_isReference href (String.toList_inj.mp hreference)
  | cons c cs =>
    rw [hreference, List.cons_append, String.toList_append] at hchars
    have hc : c = '.' := (List.cons.inj hchars).1
    exact not_mem_of_isReference href (c := '.') rfl (by simp [hreference, hc])

lemma place_ne_temporary (href : isReference reference = true) (hp : s.Temporary host base p) :
    s.place host reference extension ≠ Files.placeOf host.working p := by
  obtain ⟨n, rfl⟩ := hp.named
  exact place_ne_new s host href n

/-- An upload whose reference is new to the tree and to what others hold. -/
structure Apart (s : Store) (host : Host) (base : Files) (u : Upload)
    (others : List (Location × Bytes)) : Prop where
  isReference : isReference u.reference = true
  free : ∀ extension, base.node? (s.place host u.reference extension) = none
  noSlash : '/' ∉ u.format.toList
  notText : u.format ≠ textExtension
  others : ∀ extension, s.place host u.reference extension ∉ others.map Prod.fst

lemma Apart.isStep (h : s.Apart host base u others) {extension : String}
    (hslash : '/' ∉ extension.toList) : Path.IsStep (u.reference ++ "." ++ extension) :=
  isStep_dotted (ne_empty_of_isReference h.isReference) (not_mem_of_isReference h.isReference rfl)
    (not_mem_of_isReference h.isReference rfl) hslash

lemma Apart.textPlace_ne (h : s.Apart host base u others) :
    u.textPlace s host ≠ u.sourcePlace s host :=
  fun hsame => h.notText (place_inj h.isReference h.isReference hsame).2.symm

/-- An upload has come to a phase by what it did last. -/
structure Phase.Reached (s : Store) (host : Host) (base : Files) (u : Upload)
    (others : List (Location × Bytes)) (files : Files) (deed : Deed) (phase : Phase) : Prop where
  overlay : Files.Overlay base (phase.held s host u ++ others) files
  sound : phase.Sound s host base u
  moved : deed.moved? = phase.arrival? s u
  made : deed.temporary? = phase.opened?

/-- In its turn an upload goes on to one of the next phases, whatever others hold. -/
theorem Phase.turn_cases (hapart : s.Apart host base u others) {phase : Phase}
    (hsound : phase.Sound s host base u)
    (hoverlay : Files.Overlay base (phase.held s host u ++ others) files)
    (hmade : (files.createFolders host.working s.root).2 = files)
    {program : Program (Except Error Template)} {deed : Deed}
    (hturn : (phase.program s u).turn host files = some (program, files', deed)) :
    ∃ phase' : Phase, program = phase'.program s u ∧
      phase'.Reached s host base u others files' deed := by
  cases phase with
  | ready =>
    obtain ⟨answer, hmake⟩ : ∃ answer, files.createFolders host.working s.root = (answer, files) :=
      ⟨_, Prod.ext rfl hmade⟩
    have happly : (Operation.createFolders s.root).apply host files = (answer, files) := hmake
    obtain ⟨rfl, rfl, rfl⟩ := turn_eq_some rfl happly hturn
    cases answer with
    | error fault => exact ⟨.failed (.file fault), rfl, hoverlay, trivial, rfl, rfl⟩
    | ok _ => exact ⟨.folderMade, rfl, hoverlay, trivial, rfl, rfl⟩
  | folderMade =>
    rcases open_cases s host hoverlay with ⟨fault, happly⟩ | ⟨p, after, happly, hp, hopened⟩
    · obtain ⟨rfl, rfl, rfl⟩ := turn_eq_some rfl happly hturn
      exact ⟨.failed (.file fault), rfl, hoverlay, trivial, rfl, rfl⟩
    · obtain ⟨rfl, rfl, rfl⟩ := turn_eq_some rfl happly hturn
      exact ⟨.sourceOpened p, rfl, hopened, hp, rfl, rfl⟩
  | sourceOpened p =>
    obtain ⟨after, happly, hwritten⟩ := write_held hsound hoverlay u.source
    obtain ⟨rfl, rfl, rfl⟩ := turn_eq_some rfl happly hturn
    exact ⟨.sourceWritten p, rfl, hwritten, hsound, rfl, rfl⟩
  | sourceWritten p =>
    -- The place of the source is in no one's hands, so only its path can be at fault.
    have hnew := List.not_mem_cons_of_ne_of_not_mem
      (place_ne_temporary hapart.isReference hsound) (hapart.others u.format)
    have hfree := (hoverlay.rest _ hnew).trans (hapart.free u.format)
    rcases rename_cases hsound hoverlay (hapart.isStep hapart.noSlash) hfree with
      ⟨fault, happly⟩ | ⟨after, happly, hplaced, hmoved⟩
    · obtain ⟨rfl, rfl, rfl⟩ := turn_eq_some rfl happly hturn
      exact ⟨.droppingSource p (.file fault), rfl, hoverlay, hsound, rfl, rfl⟩
    · obtain ⟨rfl, rfl, rfl⟩ := turn_eq_some rfl happly hturn
      exact ⟨.sourcePlaced, rfl, hmoved, hplaced, rfl, rfl⟩
  | sourcePlaced =>
    rcases open_cases s host hoverlay with ⟨fault, happly⟩ | ⟨p, after, happly, hp, hopened⟩
    · obtain ⟨rfl, rfl, rfl⟩ := turn_eq_some rfl happly hturn
      exact ⟨.withdrawing (.file fault), rfl, hoverlay, hsound, rfl, rfl⟩
    · obtain ⟨rfl, rfl, rfl⟩ := turn_eq_some rfl happly hturn
      exact ⟨.textOpened p, rfl, hopened, ⟨hp, hsound⟩, rfl, rfl⟩
  | textOpened p =>
    obtain ⟨after, happly, hwritten⟩ := write_held hsound.1 hoverlay (Utf8.encode u.text)
    obtain ⟨rfl, rfl, rfl⟩ := turn_eq_some rfl happly hturn
    exact ⟨.textWritten p, rfl, hwritten, hsound, rfl, rfl⟩
  | textWritten p =>
    have hnew := List.not_mem_cons_of_ne_of_not_mem
      (place_ne_temporary hapart.isReference hsound.1)
      (List.not_mem_cons_of_ne_of_not_mem hapart.textPlace_ne (hapart.others textExtension))
    have hfree := (hoverlay.rest _ hnew).trans (hapart.free textExtension)
    rcases rename_cases hsound.1 hoverlay (isStep_textName hapart.isReference) hfree with
      ⟨fault, happly⟩ | ⟨after, happly, hplaced, hmoved⟩
    · obtain ⟨rfl, rfl, rfl⟩ := turn_eq_some rfl happly hturn
      exact ⟨.droppingText p (.file fault), rfl, hoverlay, hsound, rfl, rfl⟩
    · obtain ⟨rfl, rfl, rfl⟩ := turn_eq_some rfl happly hturn
      exact ⟨.stored, rfl, hmoved, ⟨hplaced, hsound.2⟩, rfl, rfl⟩
  | stored => cases hturn
  | droppingSource p e =>
    obtain ⟨after, happly, hremoved⟩ := remove_held hsound.locate hsound.namesFolder hoverlay
    obtain ⟨rfl, rfl, rfl⟩ := turn_eq_some rfl happly hturn
    exact ⟨.failed e, rfl, hremoved, trivial, rfl, rfl⟩
  | droppingText p e =>
    obtain ⟨after, happly, hremoved⟩ := remove_held hsound.1.locate hsound.1.namesFolder hoverlay
    obtain ⟨rfl, rfl, rfl⟩ := turn_eq_some rfl happly hturn
    exact ⟨.withdrawing e, rfl, hremoved, hsound.2, rfl, rfl⟩
  | withdrawing e =>
    obtain ⟨after, happly, hremoved⟩ := remove_held hsound.locate hsound.namesFolder hoverlay
    obtain ⟨rfl, rfl, rfl⟩ := turn_eq_some rfl happly hturn
    exact ⟨.failed e, rfl, hremoved, trivial, rfl, rfl⟩
  | failed e => cases hturn

end Turns

end MailMerge.Store
