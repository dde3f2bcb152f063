import MailMerge.Proofs.CoercedValues
import MailMerge.Proofs.CommandFiles
import MailMerge.Proofs.DocumentTemplates
import MailMerge.Proofs.FileNames
import MailMerge.Proofs.TableRecords
import MailMerge.Proofs.UnfilledNames

/-!
# Given values

A document is filled with the values of a file and of assignments. The last assignment of a name
counts, and counts more than the file; the first argument that is no assignment ends the command
before anything is made (`given_values_override`).
-/

namespace MailMerge

namespace CommandLine

section Assignments

/-- An argument assigns a value, all that stands behind its first `=`, to a name, which is not blank
and loses the blank characters around it. -/
def Assigns (argument name value : String) : Prop :=
  ∃ front, argument = front ++ "=" ++ value ∧ '=' ∉ front.toList ∧
    Text.isBlankText front = false ∧ name = Text.trimmed front

/-- An argument assigns nothing: it has no `=`, or only blank characters before the first. -/
def IsRefused (argument : String) : Prop :=
  '=' ∉ argument.toList ∨ ∃ front value, argument = front ++ "=" ++ value ∧
    '=' ∉ front.toList ∧ Text.isBlankText front = true

lemma cutFirst_toList {argument front value : String} :
    Text.cutFirst '=' argument.toList = some (front.toList, value.toList) ↔
      '=' ∉ front.toList ∧ argument = front ++ "=" ++ value := by
  rw [Text.cutFirst_eq_some_iff, ← String.toList_inj, String.toList_append, String.toList_append]
  simp

lemma parseAssignment_of_cut {argument front value : String}
    (hfront : '=' ∉ front.toList) (h : argument = front ++ "=" ++ value) :
    Command.parseAssignment argument =
      if Text.isBlankText front then .error (.badAssignment argument)
      else .ok (Text.trimmed front, value) := by
  rw [Command.parseAssignment, cutFirst_toList.mpr ⟨hfront, h⟩]
  simp only [String.ofList_toList]

lemma parseAssignment_of_assigns {argument name value : String}
    (h : Assigns argument name value) : Command.parseAssignment argument = .ok (name, value) := by
  obtain ⟨front, hargument, hfront, hsome, rfl⟩ := h
  rw [parseAssignment_of_cut hfront hargument, if_neg (by simp [hsome])]

lemma parseAssignment_of_isRefused {argument : String} (h : IsRefused argument) :
    Command.parseAssignment argument = .error (.badAssignment argument) := by
  rcases h with hnone | ⟨front, value, hargument, hfront, hblank⟩
  · cases hcut : Text.cutFirst '=' argument.toList with
    | none => rw [Command.parseAssignment, hcut]
    | some cut =>
      obtain ⟨-, hchars⟩ := Text.cutFirst_eq_some_iff.mp hcut
      exact absurd (hchars ▸ List.mem_append_right _ List.mem_cons_self) hnone
  · rw [parseAssignment_of_cut hfront hargument, if_pos hblank]

lemma not_isRefused {argument name value : String} (h : Assigns argument name value) :
    ¬IsRefused argument := by
  intro hrefused
  have hparsed := parseAssignment_of_assigns h
  rw [parseAssignment_of_isRefused hrefused] at hparsed
  cases hparsed

lemma exists_assigns {argument : String} (h : ¬IsRefused argument) :
    ∃ name value, Assigns argument name value := by
  rw [IsRefused, not_or, not_not] at h
  obtain ⟨hmark, hblank⟩ := h
  obtain ⟨front, value, hchars, hfront⟩ := List.eq_append_cons_of_mem hmark
  have hargument : argument = String.ofList front ++ "=" ++ String.ofList value := by
    rw [← String.toList_inj, hchars]
    simp
  have hfront' : '=' ∉ (String.ofList front).toList := by rwa [String.toList_ofList]
  refine ⟨_, _, String.ofList front, hargument, hfront', ?_, rfl⟩
  rw [Bool.eq_false_iff]
  exact fun hfrontblank => hblank ⟨_, _, hargument, hfront', hfrontblank⟩

lemma assigns_unique {argument name name' value value' : String}
    (h : Assigns argument name value) (h' : Assigns argument name' value') :
    name = name' ∧ value = value' := by
  have hparsed := (parseAssignment_of_assigns h).symm.trans (parseAssignment_of_assigns h')
  exact Prod.mk.inj (Except.ok.inj hparsed)

/-- The pairs that arguments assign. -/
def AssignAll (arguments : List String) (pairs : List (String × String)) : Prop :=
  List.Forall₂ (fun argument p => Assigns argument p.1 p.2) arguments pairs

variable {arguments before after : List String} {pairs : List (String × String)}

lemma exists_assignAll (h : ∀ argument ∈ arguments, ¬IsRefused argument) :
    ∃ pairs, AssignAll arguments pairs := by
  induction arguments with
  | nil => exact ⟨[], .nil⟩
  | cons argument rest ih =>
    obtain ⟨hfirst, hrest⟩ := List.forall_mem_cons.mp h
    obtain ⟨name, value, hassigns⟩ := exists_assigns hfirst
    obtain ⟨pairs, hpairs⟩ := ih hrest
    exact ⟨(name, value) :: pairs, .cons hassigns hpairs⟩

lemma mapM_cons_of_assigns {argument name value : String} (h : Assigns argument name value)
    (rest : List String) : (argument :: rest).mapM Command.parseAssignment =
      (rest.mapM Command.parseAssignment).map ((name, value) :: ·) := by
  rw [List.mapM_cons, parseAssignment_of_assigns h]
  cases rest.mapM Command.parseAssignment <;> rfl

lemma parseAssignments_of_assignAll (h : AssignAll arguments pairs) :
    Command.parseAssignments arguments = .ok (Record.ofList pairs) := by
  have hparsed : arguments.mapM Command.parseAssignment = .ok pairs := by
    induction h with
    | nil => rfl
    | cons hfirst _ ih =>
      rw [mapM_cons_of_assigns hfirst, ih]
      rfl
  rw [Command.parseAssignments, hparsed]
  rfl

lemma parseAssignments_of_isRefused (hbefore : ∀ argument ∈ before, ¬IsRefused argument)
    {bad : String} (hbad : IsRefused bad) :
    Command.parseAssignments (before ++ bad :: after) = .error (.badAssignment bad) := by
  have hparsed : (before ++ bad :: after).mapM Command.parseAssignment =
      .error (.badAssignment bad) := by
    induction before with
    | nil =>
      rw [List.nil_append, List.mapM_cons, parseAssignment_of_isRefused hbad]
      rfl
    | cons argument before ih =>
      obtain ⟨hfirst, hrest⟩ := List.forall_mem_cons.mp hbefore
      obtain ⟨name, value, hassigns⟩ := exists_assigns hfirst
      rw [List.cons_append, mapM_cons_of_assigns hassigns, ih hrest]
      rfl
  rw [Command.parseAssignments, hparsed]
  rfl

lemma not_mem_of_assignAll {name : String} (h : AssignAll arguments pairs)
    (hnone : ∀ argument ∈ arguments, ∀ value, ¬Assigns argument name value) :
    name ∉ pairs.map Prod.fst := by
  induction h with
  | nil => exact List.not_mem_nil
  | cons hfirst _ ih =>
    obtain ⟨hother, hrest⟩ := List.forall_mem_cons.mp hnone
    rw [List.map_cons, List.mem_cons, not_or]
    refine ⟨?_, ih hrest⟩
    rintro rfl
    exact hother _ hfirst

/-- Of several arguments that assign a name the last one counts. -/
lemma get?_of_assignAll {argument name value : String}
    (h : AssignAll (before ++ argument :: after) pairs) (hassigns : Assigns argument name value)
    (hlast : ∀ later ∈ after, ∀ other, ¬Assigns later name other)
    (fields : List (String × String)) :
    Fields.get? name (Fields.setAll fields pairs) = some value := by
  induction before generalizing pairs fields with
  | nil =>
    obtain ⟨⟨n, v⟩, rest, hfirst, hrest, rfl⟩ := List.forall₂_cons_left_iff.mp h
    obtain ⟨rfl, rfl⟩ := assigns_unique hassigns hfirst
    rw [Fields.setAll_cons, Fields.get?_setAll_of_not_mem (not_mem_of_assignAll hrest hlast),
      Fields.get?_set, if_pos rfl]
  | cons other before ih =>
    obtain ⟨p, rest, -, hrest, rfl⟩ := List.forall₂_cons_left_iff.mp h
    rw [Fields.setAll_cons]
    exact ih hrest _

end Assignments

section Values

open Command

variable {host : Host} {files : Files} {fields : List (String × Json.Value)}
  {arguments : List String} {options : GenerateOptions}

/-- A file has a text of this values object; without a file there are no values. -/
def GivesObject (host : Host) (files : Files) (file : Option Path)
    (fields : List (String × Json.Value)) : Prop :=
  match file with
  | some path => ∃ text, files.read host.working path = .ok (Utf8.encode text) ∧
      Json.Value.ofText? text = some (.object fields)
  | none => fields = []

/-- A record has for each name the value of the last argument that assigns one to it, and for all
other names what the values object has. -/
structure IsGiven (fields : List (String × Json.Value)) (arguments : List String) (r : Record) :
    Prop where
  assigned : ∀ before argument after name value, arguments = before ++ argument :: after →
    Assigns argument name value → (∀ later ∈ after, ∀ other, ¬Assigns later name other) →
      r.get? name = some value
  others : ∀ name, (∀ argument ∈ arguments, ∀ value, ¬Assigns argument name value) →
    r.get? name = (Fields.get? name fields).map Record.coerce

lemma exists_last_assigns {name : String}
    (h : ∃ argument ∈ arguments, ∃ value, Assigns argument name value) :
    ∃ before argument after value, arguments = before ++ argument :: after ∧
      Assigns argument name value ∧ ∀ later ∈ after, ∀ other, ¬Assigns later name other := by
  induction arguments with
  | nil =>
    obtain ⟨_, hmem, -⟩ := h
    cases hmem
  | cons first rest ih =>
    by_cases hrest : ∃ argument ∈ rest, ∃ value, Assigns argument name value
    · obtain ⟨before, argument, after, value, rfl, hassigns, hlast⟩ := ih hrest
      exact ⟨first :: before, argument, after, value, rfl, hassigns, hlast⟩
    · obtain ⟨argument, hmem, value, hassigns⟩ := h
      rcases List.mem_cons.mp hmem with rfl | hmem
      · exact ⟨[], argument, rest, value, rfl, hassigns,
          fun later hlater other hother => hrest ⟨later, hlater, other, hother⟩⟩
      · exact absurd ⟨argument, hmem, value, hassigns⟩ hrest

lemma IsGiven.unique {r r' : Record} (h : IsGiven fields arguments r)
    (h' : IsGiven fields arguments r') : r' = r := by
  have hget : ∀ name, Fields.get? name r'.fields = Fields.get? name r.fields := by
    intro name
    by_cases hassigned : ∃ argument ∈ arguments, ∃ value, Assigns argument name value
    · obtain ⟨before, argument, after, value, hsplit, hassigns, hlast⟩ :=
        exists_last_assigns hassigned
      exact (h'.assigned _ _ _ _ _ hsplit hassigns hlast).trans
        (h.assigned _ _ _ _ _ hsplit hassigns hlast).symm
    · have hnone : ∀ argument ∈ arguments, ∀ value, ¬Assigns argument name value :=
        fun argument hmem value hassigns => hassigned ⟨argument, hmem, value, hassigns⟩
      exact (h'.others name hnone).trans (h.others name hnone).symm
  have hfields : r'.fields = r.fields := Fields.eq_of_get?_eq r'.sorted r.sorted hget
  obtain ⟨_, _⟩ := r
  obtain ⟨_, _⟩ := r'
  cases hfields
  rfl

/-- The record of a values object. -/
def recordOfFields (fields : List (String × Json.Value)) : Record :=
  .ofList (fields.map (Prod.map id Record.coerce))

lemma sorted_of_givesObject {file : Option Path} (h : GivesObject host files file fields) :
    Fields.Sorted fields := by
  cases file with
  | none =>
    cases h
    exact .nil
  | some path =>
    obtain ⟨text, -, htext⟩ := h
    exact (Json.Value.fits_of_ofText? htext).2.1

lemma isGiven_extend {pairs : List (String × String)} (hsorted : Fields.Sorted fields)
    (hpairs : AssignAll arguments pairs) :
    IsGiven fields arguments ((recordOfFields fields).extend (.ofList pairs)) := by
  have hget (name : String) : ((recordOfFields fields).extend (.ofList pairs)).get? name =
      (Fields.get? name (Fields.setAll [] pairs)).or
        ((Fields.get? name fields).map Record.coerce) := by
    rw [Record.get?_extend, recordOfFields, Record.get?_ofJson? hsorted]
    rfl
  constructor
  · rintro before argument after name value rfl hassigns hlast
    rw [hget, get?_of_assignAll hpairs hassigns hlast, Option.some_or]
  · intro name hnone
    rw [hget, Fields.get?_setAll_of_not_mem (not_mem_of_assignAll hpairs hnone), Fields.get?,
      Option.none_or]

lemma result_givenValues (hvalues : GivesObject host files options.values fields) :
    (givenValues options).result host files =
      (parseAssignments options.assignments).map (recordOfFields fields).extend := by
  rw [result, givenValues]
  cases hfile : options.values with
  | none =>
    rw [hfile] at hvalues
    cases hvalues
    cases parseAssignments options.assignments <;> rfl
  | some path =>
    rw [hfile] at hvalues
    obtain ⟨text, hread, htext⟩ := hvalues
    have hinput : (readInput path).on host "" files = ((.ok (Utf8.encode text), ""), files) := by
      have hperform : (Program.perform (.read path)).run host files =
          (.ok (Utf8.encode text), files) := congrArg (·, files) hread
      rw [readInput, on_bind_ok (on_ofProgram _), hperform]
      rfl
    have hrecord : recordOf path (Utf8.encode text) = .ok (recordOfFields fields) := by
      simp only [recordOf, Utf8.decode_encode, htext]
      rfl
    rw [on_bind_ok hinput, hrecord]
    cases parseAssignments options.assignments <;> rfl

end Values

section Generating

open Command
open Files (SameFiles WritesOnly)

variable {host : Host} {files : Files} {system : System} {settingsFile : Path}
  {options : GenerateOptions} {settings : Settings} {text : String} {r : Record}

lemma told_badAssignment (argument : String) :
    s!"Error: {(Failure.badAssignment argument).message}\n" =
      "Error: invalid --set '" ++ argument ++ "', expected NAME=VALUE\n" := by
  have hmessage : (Failure.badAssignment argument).message =
      "invalid --set '" ++ argument ++ "', expected NAME=VALUE" := rfl
  change "Error: " ++ (Failure.badAssignment argument).message ++ "\n" = _
  rw [hmessage, ← String.toList_inj]
  simp [String.toList_append]

lemma on_generate_of_error {failure : Failure}
    (hsettings : (loadSettings system settingsFile).result host files = .ok settings)
    (hvalues : (givenValues options).result host files = .error failure) :
    ∃ printed, (generate system settingsFile options).on host "" files =
      ((.error failure, printed), files) := by
  unfold generate
  rw [on_bind_ok (tells_generateHeader _ _), on_bind_ok (on_loadSettings hsettings _),
    on_bind_ok (tells_collecting _ _), on_bind_error (on_givenValues hvalues _)]
  exact ⟨_, rfl⟩

lemma on_renderAndDeliver {delivery : Delivery}
    (hrun : (((Engine.office system.around settings options.toPdf).generate system.requestId
      options.template r).run .single).run host files =
        ((.ok delivery, ⟨.single, .delivered⟩), files)) (printed : String) :
    ∃ printed', (renderAndDeliver system settings options r).on host printed files =
      Command.on host (deliver delivery options.output ⟨settings.outputFolder⟩ >>= report delivery)
        printed' files := by
  have hrequest : (ofRequest .single
      ((Engine.office system.around settings options.toPdf).generate system.requestId
        options.template r)).on host printed files = ((.ok delivery, printed), files) := by
    rw [on_ofRequest, hrun]
    rfl
  rw [renderAndDeliver, on_bind_ok hrequest]
  exact ⟨_, on_bind_ok (tells_line _ _ _)⟩

/-- With values the command comes to a document of the filled text, which it delivers. -/
lemma exists_on_generate (hinteractive : options.interactive = false)
    (hdirect : options.toPdf = false)
    (hsettings : (loadSettings system settingsFile).result host files = .ok settings)
    (hvalues : (givenValues options).result host files = .ok r)
    (hholds : Store.Holds ⟨⟨settings.storageFolder⟩⟩ host files ⟨options.template, text⟩) :
    ∃ delivery printed, delivery.bytes = Document.render (fill text r) ∧
      (generate system settingsFile options).on host "" files =
        Command.on host (deliver delivery options.output ⟨settings.outputFolder⟩ >>=
          report delivery) printed files := by
  have hstored : (Engine.office system.around settings false).store.Holds host files
      ⟨options.template, text⟩ := hholds
  obtain ⟨delivery, hrun, hbytes⟩ := Engine.run_generate_office hstored r system.requestId
  rw [← hdirect] at hstored hrun
  unfold generate
  rw [on_bind_ok (tells_generateHeader _ _), on_bind_ok (on_loadSettings hsettings _),
    on_bind_ok (tells_collecting _ _), on_bind_ok (on_givenValues hvalues _),
    on_bind_ok (on_ofAction_placeholders hstored _), hinteractive]
  dsimp only
  rw [if_neg (by simp)]
  split
  · next hleft =>
    rw [on_bind_ok (tells_unfilled (by simpa using hleft) _ _), on_bind_ok (tells_rendering _ _)]
    obtain ⟨printed, hrender⟩ := on_renderAndDeliver hrun _
    exact ⟨delivery, printed, hbytes, hrender⟩
  · rw [on_bind_ok (tells_rendering _ _)]
    obtain ⟨printed, hrender⟩ := on_renderAndDeliver hrun _
    exact ⟨delivery, printed, hbytes, hrender⟩

lemma on_deliver (host : Host) (files : Files) (d : Delivery) (output : Option Path)
    (folder : Path) (printed : String) :
    (deliver d output folder).on host printed files =
      (((deliver d output folder).result host files, printed),
        ((deliver d output folder).on host "" files).2) := by
  cases output with
  | none =>
    rw [deliver, result, on_ofAction, on_ofAction]
  | some path =>
    rcases hwrite : (d.writeTo path).on host files with ⟨answer, after⟩
    have hon (printed : String) : (ofAction (d.writeTo path)).on host printed files =
        ((answer.mapError .engine, printed), after) := by
      rw [on_ofAction, hwrite]
    rw [deliver, result]
    cases answer with
    | error fault => rw [on_bind_error (hon _), on_bind_error (hon _)]
    | ok _ =>
      rw [on_bind_ok (hon _), on_bind_ok (hon _)]
      rfl

/-- The command succeeds exactly if its document can be delivered. -/
lemma run_deliver (invocation : Invocation) (delivery : Delivery) (output : Option Path)
    (folder : Path) {printed : String}
    (hon : (ofInvocation system invocation).on host "" files =
      Command.on host (deliver delivery output folder >>= report delivery) printed files) :
    (∃ path told after, (deliver delivery output folder).result host files = .ok path ∧
      (invocation.run system).run host files = (⟨0, told, ""⟩, after) ∧
      WritesOnly host (target delivery output folder) delivery.bytes files after) ∨
    ∃ failure told after, (deliver delivery output folder).result host files = .error failure ∧
      (invocation.run system).run host files =
        (⟨1, told, s!"Error: {failure.message}\n"⟩, after) ∧ SameFiles files after := by
  rw [Invocation.run_run, hon]
  have hprinted := on_deliver host files delivery output folder printed
  have hdelivered : (deliver delivery output folder).Transacts host files
      fun _ => WritesOnly host (target delivery output folder) delivery.bytes files :=
    transacts_deliver delivery output folder
  rcases hdelivered printed with
    ⟨path, printed', after, hdeliver, hwrites⟩ | ⟨failure, printed', after, hdeliver, hsame⟩
  · rw [hdeliver] at hprinted
    have hreport : (report delivery path).Prints host := prints_report delivery path
    obtain ⟨told, htold⟩ := hreport printed' after
    rw [on_bind_ok hdeliver, htold]
    exact .inl ⟨path, told, after, by simpa using (Prod.mk.inj (Prod.mk.inj hprinted).1).1.symm,
      rfl, hwrites⟩
  · rw [hdeliver] at hprinted
    rw [on_bind_error hdeliver]
    exact .inr ⟨failure, printed', after,
      by simpa using (Prod.mk.inj (Prod.mk.inj hprinted).1).1.symm, rfl, hsame⟩

/-- A document is filled with the values of its file and of the assignments, of which the last one
of a name counts most, and is written unless it cannot be delivered. The first argument that assigns
nothing ends the command, and no file is changed. -/
theorem given_values_override (host : Host) (files : Files) (system : System)
    (environment : Option String) (arguments : List String)
    {fields : List (String × Json.Value)}
    (hread : Invocation.read environment arguments = .run ⟨settingsFile, .generate options⟩)
    (hinteractive : options.interactive = false) (hdirect : options.toPdf = false)
    (hsettings : (loadSettings system settingsFile).result host files = .ok settings)
    (hholds : Store.Holds ⟨⟨settings.storageFolder⟩⟩ host files ⟨options.template, text⟩)
    (hvalues : GivesObject host files options.values fields) :
    (∀ before bad after, options.assignments = before ++ bad :: after →
      (∀ argument ∈ before, ¬IsRefused argument) → IsRefused bad →
        ∃ told, (run system environment arguments).run host files =
          (⟨1, told, "Error: invalid --set '" ++ bad ++ "', expected NAME=VALUE\n"⟩, files)) ∧
    ((∀ argument ∈ options.assignments, ¬IsRefused argument) →
      ∃ r delivery, IsGiven fields options.assignments r ∧
        (∀ other, IsGiven fields options.assignments other → other = r) ∧
        delivery.bytes = Document.render (fill text r) ∧
        (delivery.bytes.length < Archive.placeBound →
          Document.extract delivery.bytes = .ok (fill text r ++ "\n\n")) ∧
        ((∃ path told after, (deliver delivery options.output ⟨settings.outputFolder⟩).result host
            files = .ok path ∧
            (run system environment arguments).run host files = (⟨0, told, ""⟩, after) ∧
            WritesOnly host (target delivery options.output ⟨settings.outputFolder⟩)
              delivery.bytes files after) ∨
          ∃ failure told after, (deliver delivery options.output ⟨settings.outputFolder⟩).result
            host files = .error failure ∧
            (run system environment arguments).run host files =
              (⟨1, told, s!"Error: {failure.message}\n"⟩, after) ∧ SameFiles files after)) := by
  have hgiven := result_givenValues hvalues
  rw [run, hread]
  dsimp only
  constructor
  · intro before bad after hassignments hbefore hbad
    rw [hassignments, parseAssignments_of_isRefused hbefore hbad] at hgiven
    obtain ⟨told, hon⟩ := on_generate_of_error hsettings hgiven
    have hrun : ((⟨settingsFile, .generate options⟩ : Invocation).run system).run host files = _ :=
      Invocation.run_run
    rw [ofInvocation, hon] at hrun
    refine ⟨told, hrun.trans ?_⟩
    rw [Report.ofOutcome, told_badAssignment]
  · intro hall
    obtain ⟨pairs, hpairs⟩ := exists_assignAll hall
    rw [parseAssignments_of_assignAll hpairs] at hgiven
    have hisgiven := isGiven_extend (sorted_of_givesObject hvalues) hpairs
    obtain ⟨delivery, printed, hbytes, hon⟩ :=
      exists_on_generate hinteractive hdirect hsettings hgiven hholds
    refine ⟨_, delivery, hisgiven, fun _ => hisgiven.unique, hbytes, fun hbound => ?_, ?_⟩
    · rw [hbytes] at hbound ⊢
      exact Document.extract_render hbound
    · exact run_deliver ⟨settingsFile, .generate options⟩ delivery options.output
        ⟨settings.outputFolder⟩ hon

/-- A store with one template, and a file of values. -/
def sampleGiven : Files where
  entries := (["values.json"], .file (Utf8.encode "\x7b\"a\": 1, \"c\": null\x7d") false) ::
    sampleUnfilled.entries
  distinct := by decide

def sampleArguments (assignments : List String) : List String :=
  ["generate", "--template", sampleTemplate.reference, "--values", "values.json", "--no-convert",
    "--output", "letter.docx"] ++ assignments.flatMap fun text => ["--set", text]

def sampleAssignments (assignments : List String) : GenerateOptions where
  template := sampleTemplate.reference
  values := some ⟨"values.json"⟩
  assignments := assignments
  interactive := false
  toPdf := false
  output := some ⟨"letter.docx"⟩

lemma givesObject_sampleGiven : GivesObject sampleHost sampleGiven (some ⟨"values.json"⟩)
    [("a", .number (.integer 1)), ("c", .null)] := by
  have htokens : Json.tokens? "\x7b\"a\": 1, \"c\": null\x7d".toList =
      some [.openObject, .string (some "a"), .colon, .number ⟨false, ['1'], [], none⟩, .comma,
        .string (some "c"), .colon, .null, .closeObject] := by
    decide +kernel
  refine ⟨_, rfl, ?_⟩
  rw [Json.Value.ofText?, Json.Tree.ofText?, htokens]
  rfl

theorem given_values_override_twice :
    (∃ (r : Record) (delivery : Delivery) (told : String) (after : Files),
      r.get? "a" = some "3" ∧ r.get? "b" = some "x=y" ∧
      delivery.bytes = Document.render (fill sampleLine r) ∧
      (run sampleSystem none (sampleArguments ["a=2", " b =x=y", "a=3"])).run sampleHost
        sampleGiven = (⟨0, told, ""⟩, after) ∧
      WritesOnly sampleHost ⟨"letter.docx"⟩ delivery.bytes sampleGiven after) ∧
    ∃ told, (run sampleSystem none (sampleArguments ["a=2", " =x", "b"])).run sampleHost
      sampleGiven =
        (⟨1, told, "Error: invalid --set '" ++ " =x" ++ "', expected NAME=VALUE\n"⟩,
          sampleGiven) := by
  have hsettings : (loadSettings sampleSystem ⟨"docfill.config.json"⟩).result sampleHost
      sampleGiven = .ok (.standard "/tmp") := by
    decide +kernel
  have hholds : Store.Holds ⟨⟨".docfill/templates"⟩⟩ sampleHost sampleGiven
      ⟨sampleTemplate.reference, sampleLine⟩ := Store.holds_of_read (by decide +kernel) rfl
  have htwo : Assigns "a=2" "a" "2" := ⟨"a", by decide⟩
  have hpair : Assigns " b =x=y" "b" "x=y" := ⟨" b ", by decide +kernel⟩
  have hthree : Assigns "a=3" "a" "3" := ⟨"a", by decide⟩
  constructor
  · have hread : Invocation.read none (sampleArguments ["a=2", " b =x=y", "a=3"]) =
        .run ⟨⟨"docfill.config.json"⟩,
          .generate (sampleAssignments ["a=2", " b =x=y", "a=3"])⟩ := by
      decide +kernel
    obtain ⟨-, hdelivered⟩ := given_values_override sampleHost sampleGiven sampleSystem none _
      hread rfl rfl hsettings hholds givesObject_sampleGiven
    have hall : ∀ argument ∈ ["a=2", " b =x=y", "a=3"], ¬IsRefused argument := by
      simpa using ⟨not_isRefused htwo, not_isRefused hpair, not_isRefused hthree⟩
    obtain ⟨r, delivery, hgiven, -, hbytes, -, hwritten⟩ := hdelivered hall
    have hfirst := hgiven.assigned ["a=2", " b =x=y"] _ [] _ _ rfl hthree nofun
    have hsecond := hgiven.assigned ["a=2"] _ ["a=3"] _ _ rfl hpair (by
      intro later hlater other hother
      rw [List.mem_singleton.mp hlater] at hother
      exact absurd (assigns_unique hother hthree).1 (by decide))
    rcases hwritten with ⟨_, told, after, -, hrun, hwrites⟩ | ⟨failure, told, after, hfailed, -, -⟩
    · exact ⟨r, delivery, told, after, hfirst, hsecond, hbytes, hrun, hwrites⟩
    · have hwritable : (deliver delivery (some ⟨"letter.docx"⟩) ⟨".docfill/out"⟩).result sampleHost
          sampleGiven = .ok ⟨"letter.docx"⟩ := rfl
      cases hwritable.symm.trans hfailed
  · have hread : Invocation.read none (sampleArguments ["a=2", " =x", "b"]) =
        .run ⟨⟨"docfill.config.json"⟩, .generate (sampleAssignments ["a=2", " =x", "b"])⟩ := by
      decide +kernel
    obtain ⟨hrefused, -⟩ := given_values_override sampleHost sampleGiven sampleSystem none _
      hread rfl rfl hsettings hholds givesObject_sampleGiven
    refine hrefused ["a=2"] " =x" ["b"] rfl ?_ (.inr ⟨" ", "x", by decide⟩)
    intro argument hargument
    rw [List.mem_singleton.mp hargument]
    exact not_isRefused htwo

end Generating

end CommandLine

end MailMerge
