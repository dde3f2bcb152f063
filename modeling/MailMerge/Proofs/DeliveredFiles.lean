import MailMerge.Proofs.CommandFiles
import MailMerge.Proofs.FailingSteps
import MailMerge.Proofs.StoreBorders

/-!
# Delivered files

A delivery is written as a whole, or no file has changed, whichever steps fail. The name of its
file begins with the request's identifier, and identifiers are of one length, so the files of two
requests never stand in each other's way (`deliveries_keep_apart`).
-/

namespace MailMerge

open Files (SameFiles WritesOnly)

variable {α : Type} {host : Host} {files : Files} {trouble : Nat → Option Trouble}

lemma Path.join_inj {p : Path} {name name' : String} (hname : IsStep name)
    (hname' : IsStep name') (h : p.join name = p.join name') : name = name' := by
  obtain ⟨front, hfront⟩ := exists_text_join p
  have htext := congrArg (fun p => p.text.toList) h
  rw [hfront _ (isAbsolute_of_isStep hname), hfront _ (isAbsolute_of_isStep hname'),
    String.toList_append, String.toList_append] at htext
  exact String.toList_inj.mp (List.append_cancel_left htext)

namespace Files

/-- The path of a name in a folder leads where it did as long as the path of another name there
leads anywhere. -/
lemma locate_join_beside {files' : Files} {working place place' : Location} {p : Path}
    {name name' : String} (hname : Path.IsStep name) (hname' : Path.IsStep name')
    (h : files.locate working (p.join name) = .ok place)
    (h' : files'.locate working (p.join name') = .ok place') :
    files'.locate working (p.join name) = .ok place := by
  have hfollow' := (locate_eq_ok_iff.mp h').2.1
  rw [origin_join working p hname', steps_join_step p hname'] at hfollow'
  have hshort := short_of_locate_join hname h
  refine locate_eq_ok_iff.mpr ⟨(locate_eq_ok_iff.mp h).1, ?_,
    fun _ _ _ => Path.namesFolder_join p hname⟩
  rw [origin_join working p hname, steps_join_step p hname,
    follow_append_of_follow (by simp) hfollow', follow_singleton hname.notUp hshort,
    eq_of_locate_join hname h, placeOf]

end Files

namespace Course

/-- A run that either comes to a result with such files after it, or fails and has changed no file,
if what it had to take away again was taken away. -/
def Transacts (files : Files) (post : α → Files → Prop) (c : Course (Except Error α)) : Prop :=
  (∃ x, c.result = .ok x ∧ post x c.files) ∨
    ∃ fault, c.result = .error (.file fault) ∧ (c.Tidy → SameFiles files c.files)

lemma Transacts.behind {post : α → Files → Prop} {c : Course (Except Error α)}
    (h : c.Transacts files post) (deeds : List Deed) : (c.behind deeds).Transacts files post :=
  h.imp_right fun ⟨fault, hresult, hfiles⟩ =>
    ⟨fault, hresult, fun htidy => hfiles (tidy_behind.mp htidy).2⟩

end Course

namespace Action

variable {path : Path} {content : Bytes}

lemma onWith_createFolders {p : Path} {answer : Except FileFault Unit} {after : Files}
    (h : (Operation.createFolders p).applyWith host files (trouble 0) = (answer, after)) :
    (createFolders p).onWith host trouble files =
      ⟨answer.mapError Error.file, after, [⟨.createFolders p, answer⟩]⟩ :=
  Program.runWith_step h

lemma exists_onWith_createFolders (host : Host) (trouble : Nat → Option Trouble) (files : Files)
    (p : Path) : ∃ answer between, SameFiles files between ∧
      (createFolders p).onWith host trouble files =
        ⟨answer.mapError Error.file, between, [⟨.createFolders p, answer⟩]⟩ := by
  have happly : ∃ answer between, SameFiles files between ∧
      (Operation.createFolders p).applyWith host files (trouble 0) = (answer, between) := by
    cases trouble 0 with
    | none => exact ⟨_, _, (Files.grows_createFolders files host.working p).sameFiles, rfl⟩
    | some what => exact ⟨.error what.fault, files, .refl files, rfl⟩
  obtain ⟨answer, between, hsame, happly⟩ := happly
  exact ⟨answer, between, hsame, onWith_createFolders happly⟩

lemma transacts_createFolders_bind_withTrouble (p : Path) {a : Action α}
    (post : Files → α → Files → Prop)
    (hpost : ∀ between x after, SameFiles files between → post between x after →
      post files x after)
    (ha : ∀ trouble between, (a.onWith host trouble between).Transacts between (post between)) :
    ((createFolders p >>= fun _ => a).onWith host trouble files).Transacts files (post files) := by
  obtain ⟨answer, between, hsame, hcourse⟩ := exists_onWith_createFolders host trouble files p
  cases answer with
  | error fault =>
    rw [onWith_bind_error (by rw [hcourse]; rfl), hcourse]
    exact .inr ⟨fault, rfl, fun _ => hsame⟩
  | ok _ =>
    rw [onWith_bind_ok (x := ()) (by rw [hcourse]; rfl), hcourse]
    refine Course.Transacts.behind ?_ _
    rcases ha _ between with ⟨x, hresult, hafter⟩ | ⟨fault, hresult, hfiles⟩
    · exact .inl ⟨x, hresult, hpost between x _ hsame hafter⟩
    · exact .inr ⟨fault, hresult, fun htidy => hsame.trans (hfiles htidy)⟩

lemma writesOnly_of_rename {s : Store} {p target : Path} {between after : Files}
    (hp : s.Temporary host files p)
    (hheld : Files.Overlay files [(Files.placeOf host.working p, content)] between)
    (hmoved : between.rename host.working p target = .ok after) :
    WritesOnly host target content files after := by
  obtain ⟨start, place, moved, executable, hsource, hstart, htarget, hname, hother, hafter⟩ :=
    Files.rename_eq_ok hmoved
  rw [Files.locate_of_sameFolders hheld.sameFolders hp.locate hp.namesFolder] at hsource
  cases hsource
  rw [hheld.node _ List.mem_cons_self] at hstart
  cases hstart
  have hother' : files.node? place ≠ some .folder :=
    fun hfolder => hother ((hheld.sameFolders place).mp hfolder)
  refine Files.writesOnly_of_replace
    (Files.locate_of_sameFolders hheld.sameFolders.symm htarget hname) hname hother' fun l => ?_
  rw [hafter, Files.node?_put _ (Files.ne_nil_of_node? hother'),
    hheld.erase.rest l List.not_mem_nil]

lemma transacts_replace_withTrouble (folder : Path) :
    ((replace folder path content).onWith host trouble files).Transacts files
      fun _ => WritesOnly host path content files := by
  rcases Store.replace_withTrouble ⟨folder⟩ host trouble (.nil files) path content with
    hfails | ⟨p, between, after, hdone, hp, hheld, hmoved⟩
  · obtain ⟨fault, -, hresult⟩ := hfails.fault
    refine .inr ⟨fault, hresult, fun htidy => Files.sameFiles_of_node? (funext fun l => ?_)⟩
    exact (hfails.overlay htidy).rest l List.not_mem_nil
  · refine .inl ⟨(), hdone.result, ?_⟩
    rw [hdone.files]
    exact writesOnly_of_rename hp hheld hmoved

end Action

namespace Delivery

variable {d d' : Delivery} {folder path p p' : Path} {between after : Files}

section Wholeness

lemma transacts_writeTo_withTrouble (d : Delivery) (path : Path) (trouble : Nat → Option Trouble)
    (files : Files) : ((d.writeTo path).onWith host trouble files).Transacts files
      fun _ => WritesOnly host path d.bytes files :=
  Action.transacts_createFolders_bind_withTrouble path.folder
    (fun between _ => WritesOnly host path d.bytes between)
    (fun _ _ _ hsame hwrites => hwrites.of_sameFiles hsame)
    fun _ _ => Action.transacts_replace_withTrouble path.folder

lemma transacts_writeInto_withTrouble (d : Delivery) (folder : Path)
    (trouble : Nat → Option Trouble) (files : Files) :
    ((d.writeInto folder).onWith host trouble files).Transacts files fun p after =>
      p = d.pathIn folder ∧ WritesOnly host p d.bytes files after := by
  refine Action.transacts_createFolders_bind_withTrouble folder
    (fun between p after => p = d.pathIn folder ∧ WritesOnly host p d.bytes between after)
    (fun _ _ _ hsame h => ⟨h.1, h.2.of_sameFiles hsame⟩) fun trouble between => ?_
  have hwriteTo : ((d.writeTo (d.pathIn folder)).onWith host trouble between).Transacts between
      fun _ => WritesOnly host (d.pathIn folder) d.bytes between :=
    d.transacts_writeTo_withTrouble (d.pathIn folder) trouble between
  rcases hwriteTo with ⟨_, hresult, hwrites⟩ | ⟨fault, hresult, hfiles⟩
  · rw [Action.onWith_bind_ok hresult]
    exact .inl ⟨_, rfl, rfl, hwrites⟩
  · rw [Action.onWith_bind_error hresult]
    exact .inr ⟨fault, rfl, hfiles⟩

lemma eq_pathIn_of_writeInto (h : (d.writeInto folder).on host files = (.ok p, after)) :
    p = d.pathIn folder := by
  obtain ⟨_, between, -, h⟩ := Action.on_bind_eq_ok h
  obtain ⟨_, written, -, h⟩ := Action.on_bind_eq_ok h
  cases h
  rfl

lemma transacts_writeInto_pathIn (d : Delivery) (folder : Path) (files : Files) :
    (d.writeInto folder).Transacts host files
      fun p after => p = d.pathIn folder ∧ WritesOnly host p d.bytes files after := by
  rcases d.transacts_writeInto folder with ⟨p, after, hon, hwrites⟩ | hfails
  · have hp := eq_pathIn_of_writeInto hon
    exact .inl ⟨p, after, hon, hp, hp ▸ hwrites⟩
  · exact .inr hfails

lemma writesOnly_of_writeInto (h : (d.writeInto folder).on host files = (.ok p, after)) :
    WritesOnly host (d.pathIn folder) d.bytes files after := by
  rcases d.transacts_writeInto folder with ⟨_, _, hon, hwrites⟩ | ⟨_, _, hon, -⟩
  · rw [h] at hon
    cases hon
    exact hwrites
  · rw [h] at hon
    cases hon

end Wholeness

section Names

def isHexDigit (c : Char) : Bool :=
  ('0' ≤ c && c ≤ '9') || ('a' ≤ c && c ≤ 'f') || ('A' ≤ c && c ≤ 'F')

/-- An identifier of a request: thirty-two hexadecimal digits. -/
def isRequestId (s : String) : Bool :=
  s.toList.length == 32 && s.toList.all isHexDigit

/-- The name of the delivery's file in a folder. -/
def name (d : Delivery) : String :=
  d.requestId ++ "-" ++ d.fileName

lemma toList_name (d : Delivery) :
    d.name.toList = d.requestId.toList ++ '-' :: d.fileName.toList := by
  simp [name, String.toList_append]

lemma isStep_name (hid : isRequestId d.requestId = true) (hslash : '/' ∉ d.fileName.toList) :
    Path.IsStep d.name := by
  rw [isRequestId, Bool.and_eq_true, List.all_eq_true] at hid
  refine Path.isStep_of_mem (c := '-') ?_ (by simp [toList_name]) (by decide)
  rw [toList_name, List.mem_append, List.mem_cons]
  rintro (h | h | h)
  · exact absurd (hid.2 _ h) (by decide)
  · cases h
  · exact hslash h

/-- Identifiers are of one length, so the names of different requests differ. -/
lemma name_ne (hid : isRequestId d.requestId = true) (hid' : isRequestId d'.requestId = true)
    (hne : d.requestId ≠ d'.requestId) : d.name ≠ d'.name := by
  rw [isRequestId, Bool.and_eq_true, beq_iff_eq] at hid hid'
  intro hname
  have hchars := congrArg String.toList hname
  rw [toList_name, toList_name] at hchars
  exact hne (String.toList_inj.mp (List.append_inj hchars (hid.1.trans hid'.1.symm)).1)

end Names

section Apart

/-- A delivery's file stays in its place while another file of the folder is written. -/
lemma read_of_writesOnly {name name' : String} {content content' : Bytes}
    (hname : Path.IsStep name) (hname' : Path.IsStep name') (hne : name ≠ name')
    (h : WritesOnly host (folder.join name) content files between)
    (h' : WritesOnly host (folder.join name') content' between after) :
    after.read host.working (folder.join name) = .ok content ∧
      after.read host.working (folder.join name') = .ok content' := by
  obtain ⟨place, hlocate, hnode, -⟩ := h
  obtain ⟨place', hlocate', hnode', hothers⟩ := h'
  have hplace := Files.eq_of_locate_join hname hlocate
  have hplace' := Files.eq_of_locate_join hname' hlocate'
  have hdiffer : place ≠ place' := by
    rw [hplace, hplace']
    simpa using hne
  have hnode := (hothers place hdiffer content false).mpr hnode
  have hlocated := Files.locate_join_beside hname hname' hlocate hlocate'
  exact ⟨Files.read_eq_ok_iff.mpr ⟨place, false, hlocated, hnode⟩,
    Files.read_eq_ok_iff.mpr ⟨place', false, hlocate', hnode'⟩⟩

/-- A delivery is written as a whole to its path or into a folder, and no other file has changed,
or it fails and no file has; this holds also with trouble at any step, if a file that then has to be
taken away is. The files of deliveries with different identifiers keep their bytes. -/
theorem deliveries_keep_apart (host : Host) :
    (∀ (d : Delivery) (path : Path) (files : Files),
      (d.writeTo path).Transacts host files (fun _ => WritesOnly host path d.bytes files) ∧
        ∀ trouble, ((d.writeTo path).onWith host trouble files).Transacts files
          fun _ => WritesOnly host path d.bytes files) ∧
      (∀ (d : Delivery) (folder : Path) (files : Files),
        (d.writeInto folder).Transacts host files (fun p after =>
            p = d.pathIn folder ∧ WritesOnly host p d.bytes files after) ∧
          ∀ trouble, ((d.writeInto folder).onWith host trouble files).Transacts files
            fun p after => p = d.pathIn folder ∧ WritesOnly host p d.bytes files after) ∧
      ∀ (d d' : Delivery) (folder p p' : Path) (files between after : Files),
        isRequestId d.requestId = true → isRequestId d'.requestId = true →
        d.requestId ≠ d'.requestId → '/' ∉ d.fileName.toList → '/' ∉ d'.fileName.toList →
        (d.writeInto folder).on host files = (.ok p, between) →
        (d'.writeInto folder).on host between = (.ok p', after) →
        p ≠ p' ∧ after.read host.working p = .ok d.bytes ∧
          after.read host.working p' = .ok d'.bytes := by
  refine ⟨fun d path files => ⟨d.transacts_writeTo path files, fun trouble =>
      d.transacts_writeTo_withTrouble path trouble files⟩,
    fun d folder files => ⟨d.transacts_writeInto_pathIn folder files, fun trouble =>
      d.transacts_writeInto_withTrouble folder trouble files⟩, ?_⟩
  intro d d' folder p p' files between after hid hid' hne hslash hslash' hwrite hwrite'
  have hname := name_ne hid hid' hne
  have hstep := isStep_name hid hslash
  have hstep' := isStep_name hid' hslash'
  rw [eq_pathIn_of_writeInto hwrite, eq_pathIn_of_writeInto hwrite']
  exact ⟨fun hsame => hname (Path.join_inj hstep hstep' hsame),
    read_of_writesOnly hstep hstep' hname (writesOnly_of_writeInto hwrite)
      (writesOnly_of_writeInto hwrite')⟩

def sampleFirst : Delivery :=
  ⟨"0123456789abcdef0123456789abcdef", "documents.zip", "application/zip", [1]⟩

def sampleSecond : Delivery :=
  ⟨"0123456789ABCDEF0123456789abcdef", "documents.zip", "application/zip", [2]⟩

/-- The first delivery in a folder that has to be made. -/
def sampleDelivered : Except Error Path × Files :=
  (sampleFirst.writeInto ⟨"out"⟩).on sampleHost sampleFiles

/-- The second delivery in the same folder. -/
def sampleBothDelivered : Except Error Path × Files :=
  (sampleSecond.writeInto ⟨"out"⟩).on sampleHost sampleDelivered.2

theorem deliveries_keep_apart_sameName :
    sampleDelivered.1 = .ok ⟨"out/0123456789abcdef0123456789abcdef-documents.zip"⟩ ∧
      sampleBothDelivered.1 = .ok ⟨"out/0123456789ABCDEF0123456789abcdef-documents.zip"⟩ ∧
      sampleBothDelivered.2.read sampleHost.working
        ⟨"out/0123456789abcdef0123456789abcdef-documents.zip"⟩ = .ok [1] ∧
      sampleBothDelivered.2.read sampleHost.working
        ⟨"out/0123456789ABCDEF0123456789abcdef-documents.zip"⟩ = .ok [2] := by
  have hwrite : sampleDelivered.1 =
      .ok ⟨"out/0123456789abcdef0123456789abcdef-documents.zip"⟩ := by decide +kernel
  have hwrite' : sampleBothDelivered.1 =
      .ok ⟨"out/0123456789ABCDEF0123456789abcdef-documents.zip"⟩ := by decide +kernel
  obtain ⟨-, hread, hread'⟩ := (deliveries_keep_apart sampleHost).2.2 sampleFirst sampleSecond
    ⟨"out"⟩ _ _ sampleFiles sampleDelivered.2 sampleBothDelivered.2 (by decide) (by decide)
    (by decide) (by decide) (by decide) (Prod.ext hwrite rfl) (Prod.ext hwrite' rfl)
  exact ⟨hwrite, hwrite', hread, hread'⟩

end Apart

end Delivery

end MailMerge
