import MailMerge.Proofs.CommandFiles
import MailMerge.Proofs.TemplateFilling

/-!
# Names without a value

The names of a template are found by the reader of its placeholders, by its layout's index, by the
row of its segments, and by the command that fills it. All four agree on how many tokens there are,
on their names, and on which of them a record has no value for (`unfilled_names_agree`).
-/

namespace MailMerge

lemma eraseDups_filter {α : Type} [DecidableEq α] (p : α → Bool) (all : List α) :
    (all.filter p).eraseDups = all.eraseDups.filter p := by
  match all with
  | [] => rfl
  | a :: rest =>
    -- The rest without `a` is shorter, so the recursion is on the length.
    have ih := eraseDups_filter p (rest.filter fun b => !b == a)
    rw [List.filter_filter] at ih
    rw [List.eraseDups_cons, List.filter_cons, List.filter_cons, ← ih]
    by_cases ha : p a = true
    · rw [if_pos ha, if_pos ha, List.eraseDups_cons, List.filter_filter]
      simp only [Bool.and_comm]
    · rw [if_neg ha, if_neg ha]
      congr 1
      refine List.filter_congr fun b _ => ?_
      by_cases hb : b = a
      · simp [hb, ha]
      · simp [hb]
termination_by all.length
decreasing_by exact Nat.lt_succ_of_le (List.length_filter_le ..)

lemma FirstPlaces.nodup {α : Type} [DecidableEq α] {names all : List α}
    (h : FirstPlaces names all) : names.Nodup :=
  h.ordered.imp fun hlt heq => absurd (heq ▸ hlt) (Nat.lt_irrefl _)

lemma Segment.filterMap_name?_place (start : Nat) (parts : List Part) :
    (place start parts).filterMap Segment.name? = parts.filterMap Part.name? := by
  induction parts generalizing start with
  | nil => rfl
  | cons p parts ih =>
    rw [place, List.filterMap_cons, List.filterMap_cons, ih]

namespace Layout

lemma filterMap_name?_segments (text : String) :
    (ofText text).segments.filterMap Segment.name? = placeholders text :=
  Segment.filterMap_name?_place 0 _

section Index

variable {name other : String} {i : Nat} {index : List (String × List Nat)}

/-- How many segments an index has. -/
def held : List (String × List Nat) → Nat
  | [] => 0
  | entry :: index => entry.2.length + held index

lemma tokenCount_eq (l : Layout) : l.tokenCount = held l.index := by
  have hfold (n : Nat) (index : List (String × List Nat)) :
      index.foldl (fun n entry => n + entry.2.length) n = n + held index := by
    induction index generalizing n with
    | nil => rfl
    | cons entry index ih => rw [List.foldl_cons, ih, held, Nat.add_assoc]
  rw [tokenCount, hfold, Nat.zero_add]

lemma held_note : held (note name i index) = held index + 1 := by
  induction index with
  | nil => rfl
  | cons entry index ih =>
    rw [note]
    split
    · rw [held, held, List.length_append, List.length_singleton, Nat.add_right_comm]
    · rw [held, held, ih, Nat.add_assoc]

lemma held_indexFrom (segments : List Segment) :
    held (indexFrom i index segments) =
      held index + (segments.filterMap Segment.name?).length := by
  induction segments generalizing i index with
  | nil => rfl
  | cons s rest ih =>
    rw [indexFrom, List.filterMap_cons]
    cases s.name? with
    | none => exact ih
    | some name =>
      dsimp only
      rw [ih, held_note, List.length_cons]
      omega

lemma any_note : (note name i index).any (fun entry => entry.1 == other) =
    (name == other || index.any fun entry => entry.1 == other) := by
  induction index with
  | nil => rfl
  | cons entry index ih =>
    rw [note]
    split
    · next hname => simp [hname]
    · rw [List.any_cons, ih, List.any_cons, Bool.or_left_comm]

lemma any_indexFrom (segments : List Segment) :
    (indexFrom i index segments).any (fun entry => entry.1 == other) =
      (index.any (fun entry => entry.1 == other) ||
        (segments.filterMap Segment.name?).contains other) := by
  induction segments generalizing i index with
  | nil => simp [indexFrom]
  | cons s rest ih =>
    rw [indexFrom, List.filterMap_cons]
    cases s.name? with
    | none => exact ih
    | some name =>
      dsimp only
      rw [ih, any_note, List.contains_cons, Bool.or_left_comm, Bool.or_assoc,
        BEq.comm]

end Index

lemma tokenCount_ofText (text : String) :
    (ofText text).tokenCount = (placeholders text).length := by
  rw [tokenCount_eq, ← filterMap_name?_segments]
  exact (held_indexFrom _).trans (Nat.zero_add _)

lemma has_ofText (text name : String) :
    (ofText text).has name = true ↔ name ∈ placeholders text := by
  rw [← List.contains_iff_mem, ← filterMap_name?_segments]
  exact Eq.congr_left ((any_indexFrom _).trans (Bool.false_or _))

section Missing

variable {r : Record} {text : String}

lemma missingFrom_eq (seen : List String) (segments : List Segment) :
    missingFrom r seen segments = seen.reverse ++ ((segments.filterMap Segment.name?).filter
      fun name => !(r.contains name || seen.contains name)).eraseDups := by
  induction segments generalizing seen with
  | nil => simp [missingFrom]
  | cons s rest ih =>
    rw [missingFrom, List.filterMap_cons]
    cases s.name? with
    | none => exact ih seen
    | some name =>
      dsimp only
      rw [List.filter_cons]
      by_cases hknown : (r.contains name || seen.contains name) = true
      · rw [if_pos hknown, hknown, ih]
        rfl
      · rw [if_neg hknown, if_pos (by simpa using hknown), ih, List.eraseDups_cons,
          List.filter_filter, List.reverse_cons, List.append_assoc, List.singleton_append]
        congr 3
        refine List.filter_congr fun other _ => ?_
        rw [List.contains_cons, Bool.not_or, Bool.not_or, Bool.not_or, Bool.and_left_comm]

lemma missing_ofText (text : String) (r : Record) :
    (ofText text).missing r = (distinctPlaceholders text).filter fun name => !r.contains name := by
  rw [missing, missingFrom_eq, filterMap_name?_segments, distinctPlaceholders, ← eraseDups_filter]
  simp

lemma mem_missing_iff {name : String} (hname : name ∈ placeholders text) :
    name ∈ (ofText text).missing r ↔ r.get? name = none := by
  rw [missing_ofText, List.mem_filter, distinctPlaceholders, List.mem_eraseDups, Record.contains]
  simp [hname]

end Missing

end Layout

/-- The part itself, if its name is among those that are kept, and otherwise the record's value. -/
def Part.keeping (kept : List String) (r : Record) : Part → List Char
  | literal cs => cs
  | token t =>
    if String.ofList t.name ∈ kept then t.chars
    else ((r.get? (String.ofList t.name)).getD "").toList

/-- Filling a record in keeps the tokens of the missing names. -/
lemma IsCutOf.toList_fill_keeping {text : String} {parts : List Part}
    (h : IsCutOf parts text.toList) (r : Record) :
    (fill text r).toList = parts.flatMap (Part.keeping ((Layout.ofText text).missing r) r) := by
  rw [h.toList_fill]
  refine List.flatMap_congr fun p hp => ?_
  cases p with
  | literal cs => rfl
  | token t =>
    have hname : String.ofList t.name ∈ placeholders text := by
      change _ ∈ tokenNames text.toList
      rw [h.tokenNames_eq]
      exact List.mem_filterMap.mpr ⟨_, hp, rfl⟩
    rw [Part.filled, Part.keeping]
    cases hvalue : r.get? (String.ofList t.name) with
    | none => rw [if_pos ((Layout.mem_missing_iff hname).mpr hvalue)]
    | some value =>
      have hkept : String.ofList t.name ∉ (Layout.ofText text).missing r := by
        rw [Layout.mem_missing_iff hname, hvalue]
        exact Option.some_ne_none _
      rw [if_neg hkept, Option.getD_some]

namespace CommandLine.Command

variable {α β : Type} {host : Host} {files : Files}

section Appending

/-- A command that leaves what was printed before it. -/
def Appends (host : Host) (c : Command α) : Prop :=
  ∀ printed files, ∃ more, (c.on host printed files).1.2 = printed ++ more

lemma Appends.bind {c : Command α} {f : α → Command β} (hc : c.Appends host)
    (hf : ∀ x, (f x).Appends host) : Command.Appends host (c >>= f) := by
  intro printed files
  obtain ⟨more, hmore⟩ := hc printed files
  rcases hon : c.on host printed files with ⟨⟨result, printed'⟩, files'⟩
  rw [hon] at hmore
  dsimp only at hmore
  subst hmore
  cases result with
  | error failure => exact ⟨more, by rw [on_bind_error hon]⟩
  | ok x =>
    obtain ⟨rest, hrest⟩ := hf x (printed ++ more) files'
    exact ⟨more ++ rest, by rw [on_bind_ok hon, hrest, String.append_assoc]⟩

lemma appends_pure (x : α) : (pure x : Command α).Appends host :=
  fun _ _ => ⟨"", String.append_empty.symm⟩

lemma appends_line (text : String) : (line text).Appends host :=
  fun _ _ => ⟨text ++ "\n", String.append_assoc⟩

lemma appends_ofAction (a : Action α) : (ofAction a).Appends host :=
  fun _ _ => ⟨"", by rw [on_ofAction, String.append_empty]⟩

lemma appends_ofRequest (flow : Flow) (r : Request α) : (ofRequest flow r).Appends host :=
  fun _ _ => ⟨"", by rw [on_ofRequest, String.append_empty]⟩

lemma appends_deliver (d : Delivery) (output : Option Path) (folder : Path) :
    (deliver d output folder).Appends host := by
  cases output with
  | none => exact appends_ofAction _
  | some path => exact (appends_ofAction _).bind fun _ => appends_pure _

/-- A command that prints this text and does nothing else. -/
def Tells (host : Host) (c : Command Unit) (text : String) : Prop :=
  ∀ printed files, c.on host printed files = ((.ok (), printed ++ text), files)

lemma tells_line (text : String) : (line text).Tells host (text ++ "\n") := by
  intro printed files
  rw [← String.append_assoc]
  rfl

lemma Tells.bind {c : Command Unit} {f : Unit → Command Unit} {text rest : String}
    (hc : c.Tells host text) (hf : (f ()).Tells host rest) :
    Command.Tells host (c >>= f) (text ++ rest) := by
  intro printed files
  rw [on_bind_ok (hc printed files), hf, String.append_assoc]

lemma Tells.cast {c : Command Unit} {text text' : String} (hc : c.Tells host text)
    (h : text = text') : c.Tells host text' :=
  h ▸ hc

lemma Tells.bind_appends {c : Command Unit} {f : Unit → Command α} {text : String}
    (hc : c.Tells host text) (hf : ∀ x, (f x).Appends host) (printed : String) (files : Files) :
    ∃ more, (Command.on host (c >>= f) printed files).1.2 = printed ++ text ++ more := by
  rw [on_bind_ok (hc printed files)]
  exact hf () _ files

end Appending

section Generating

/-- What is printed before it is known which names have no value. -/
def generateOpening : String :=
  "\ndocfill generate\n================\n[1/3] Collecting values...\n"

/-- What is printed about the names that are left without a value. -/
def unfilledLines (left : List String) : String :=
  if left.isEmpty then "" else "[WARN] Left unfilled: " ++ Text.joinTexts ", " left ++ "\n"

variable {system : System} {settingsFile : Path} {options : GenerateOptions} {settings : Settings}
  {text : String} {r : Record}

lemma tells_generateHeader :
    (header "docfill generate").Tells host "\ndocfill generate\n================\n" :=
  ((tells_line _).bind ((tells_line _).bind (tells_line _))).cast (by decide)

lemma tells_collecting :
    (progress 1 3 "Collecting values...").Tells host "[1/3] Collecting values...\n" :=
  (tells_line _).cast (by decide)

lemma tells_rendering :
    (progress 2 3 "Rendering document...").Tells host "[2/3] Rendering document...\n" :=
  (tells_line _).cast (by decide)

lemma tells_unfilled {left : List String} (h : left ≠ []) :
    (warning ("Left unfilled: " ++ Text.joinTexts ", " left)).Tells host (unfilledLines left) := by
  refine (tells_line _).cast ?_
  have hwords : "[WARN] " ++ "Left unfilled: " = "[WARN] Left unfilled: " := by decide
  rw [unfilledLines, if_neg (by simpa using h), ← hwords]
  simp only [String.append_assoc]
  rfl

lemma on_loadSettings
    (hsettings : (loadSettings system settingsFile).result host files = .ok settings)
    (printed : String) :
    (loadSettings system settingsFile).on host printed files = ((.ok settings, printed), files) :=
  hsettings ▸ reads_loadSettings system settingsFile printed files

lemma on_givenValues {given : Except Failure Record}
    (hvalues : (givenValues options).result host files = given) (printed : String) :
    (givenValues options).on host printed files = ((given, printed), files) :=
  hvalues ▸ reads_givenValues options printed files

lemma on_ofAction_placeholders {e : Engine} {template : Template}
    (hholds : e.store.Holds host files template) (printed : String) :
    (ofAction (e.placeholders template.reference)).on host printed files =
      ((.ok (distinctPlaceholders template.text), printed), files) := by
  rw [on_ofAction, Engine.on_placeholders hholds]
  rfl

lemma appends_renderAndDeliver (host : Host) (system : System) (settings : Settings)
    (options : GenerateOptions) (r : Record) :
    (renderAndDeliver system settings options r).Appends host :=
  (appends_ofRequest _ _).bind fun _ => (appends_line _).bind fun _ =>
    (appends_deliver _ _ _).bind fun _ => (appends_line _).bind fun _ =>
      (appends_line _).bind fun _ => (appends_line _).bind fun _ =>
        (appends_line _).bind fun _ => appends_line _

/-- The names that have no value are told before the document is made, or stop the command if it is
to ask for their values. -/
lemma on_generate {left : List String}
    (hsettings : (loadSettings system settingsFile).result host files = .ok settings)
    (hvalues : (givenValues options).result host files = .ok r)
    (hholds : Store.Holds ⟨⟨settings.storageFolder⟩⟩ host files ⟨options.template, text⟩)
    (hleft : unfilled (distinctPlaceholders text) r = left) :
    (options.interactive = true → left ≠ [] →
      (generate system settingsFile options).on host "" files =
        ((.error .noTerminal, generateOpening), files)) ∧
    ((options.interactive = true → left = []) →
      ∃ more, ((generate system settingsFile options).on host "" files).1.2 =
        generateOpening ++ unfilledLines left ++ "[2/3] Rendering document...\n" ++ more) := by
  have hstored : (Engine.office system.around settings options.toPdf).store.Holds host files
      ⟨options.template, text⟩ := hholds
  have hopening : "" ++ "\ndocfill generate\n================\n" ++
      "[1/3] Collecting values...\n" = generateOpening := by
    decide
  have hrendering := appends_renderAndDeliver host system settings options r
  unfold generate
  rw [on_bind_ok (tells_generateHeader _ _), on_bind_ok (on_loadSettings hsettings _),
    on_bind_ok (tells_collecting _ _), on_bind_ok (on_givenValues hvalues _),
    on_bind_ok (on_ofAction_placeholders hstored _), hopening, hleft]
  dsimp only
  constructor
  · intro hinteractive hsome
    rw [if_pos (by simp [hinteractive, hsome])]
    rfl
  · intro hnone
    rw [if_neg (by simpa using hnone)]
    by_cases hempty : left = []
    · rw [if_neg (by simpa using hempty), hempty, unfilledLines, List.isEmpty_nil, if_pos rfl,
        String.append_empty]
      exact tells_rendering.bind_appends (fun _ => hrendering) _ _
    · rw [if_pos (by simpa using hempty), on_bind_ok (tells_unfilled hempty _ _)]
      exact tells_rendering.bind_appends (fun _ => hrendering) _ _

end Generating

/-- The layout of a text counts its tokens, knows their names, and finds those without a value in
the order of their first places, each once. Filling a record in keeps the tokens of these names and
of no others, and the command tells just these, or asks for their values and stops because there is
nobody to answer. -/
theorem unfilled_names_agree (text : String) (r : Record) :
    let l := Layout.ofText text
    l.tokenCount = (placeholders text).length ∧
    (∀ name, l.has name = true ↔ name ∈ placeholders text) ∧
    FirstPlaces (distinctPlaceholders text) (placeholders text) ∧
    l.missing r = (distinctPlaceholders text).filter (fun name => !r.contains name) ∧
    (l.missing r).Nodup ∧
    (∀ parts, IsCutOf parts text.toList →
      (l.fill r).toList = parts.flatMap (Part.keeping (l.missing r) r)) ∧
    (∀ name ∈ placeholders text, name ∈ l.missing r ↔ r.get? name = none) ∧
    ∀ (system : System) (host : Host) (files : Files) (settingsFile : Path)
      (options : GenerateOptions) (settings : Settings),
      (loadSettings system settingsFile).result host files = .ok settings →
      (givenValues options).result host files = .ok r →
      Store.Holds ⟨⟨settings.storageFolder⟩⟩ host files ⟨options.template, text⟩ →
      (options.interactive = true → l.missing r ≠ [] →
        (generate system settingsFile options).on host "" files =
          ((.error .noTerminal, generateOpening), files)) ∧
      ((options.interactive = true → l.missing r = []) →
        ∃ more, ((generate system settingsFile options).on host "" files).1.2 =
          generateOpening ++ unfilledLines (l.missing r) ++ "[2/3] Rendering document...\n" ++
            more) := by
  have hplaces : FirstPlaces (distinctPlaceholders text) (placeholders text) :=
    firstPlaces_eraseDups _
  have hmissing := Layout.missing_ofText text r
  refine ⟨Layout.tokenCount_ofText text, Layout.has_ofText text, hplaces, hmissing, ?_,
    fun parts hparts => hparts.toList_fill_keeping r, fun name => Layout.mem_missing_iff, ?_⟩
  · rw [hmissing]
    exact hplaces.nodup.filter _
  · intro system host files settingsFile options settings hsettings hvalues hholds
    exact on_generate hsettings hvalues hholds hmissing.symm

/-- Three names, the first of which has two tokens. -/
def sampleLine : String :=
  "\x7b\x7bb\x7d\x7d \x7b\x7ba\x7d\x7d \x7b\x7b c \x7d\x7d \x7b\x7bb\x7d\x7d"

def sampleUnfilled : Files where
  entries := [([".docfill"], .folder), ([".docfill", "templates"], .folder),
    ([".docfill", "templates", sampleTemplate.reference ++ ".extracted"],
      .file (Utf8.encode sampleLine) false)]
  distinct := by decide

def sampleGenerate (interactive : Bool) : GenerateOptions where
  template := sampleTemplate.reference
  values := none
  assignments := ["a=1"]
  interactive := interactive
  toPdf := false
  output := none

theorem unfilled_names_agree_sampleGenerate :
    (∃ more, ((generate sampleSystem ⟨"docfill.config.json"⟩ (sampleGenerate false)).on sampleHost
        "" sampleUnfilled).1.2 =
      generateOpening ++ unfilledLines ["b", "c"] ++ "[2/3] Rendering document...\n" ++ more) ∧
    (generate sampleSystem ⟨"docfill.config.json"⟩ (sampleGenerate true)).on sampleHost ""
        sampleUnfilled =
      ((.error .noTerminal, generateOpening), sampleUnfilled) := by
  have hsettings : (loadSettings sampleSystem ⟨"docfill.config.json"⟩).result sampleHost
      sampleUnfilled = .ok (.standard "/tmp") := by
    decide +kernel
  have hvalues (interactive : Bool) : (givenValues (sampleGenerate interactive)).result sampleHost
      sampleUnfilled = .ok (.ofList [("a", "1")]) := by
    cases interactive <;> decide +kernel
  have hholds : Store.Holds ⟨⟨".docfill/templates"⟩⟩ sampleHost sampleUnfilled
      ⟨sampleTemplate.reference, sampleLine⟩ := Store.holds_of_read (by decide +kernel) rfl
  have hmissing : (Layout.ofText sampleLine).missing (.ofList [("a", "1")]) = ["b", "c"] := by
    decide +kernel
  obtain ⟨-, -, -, -, -, -, -, hcommand⟩ :=
    unfilled_names_agree sampleLine (.ofList [("a", "1")])
  rw [hmissing] at hcommand
  exact ⟨(hcommand _ _ _ _ _ _ hsettings (hvalues false) hholds).2 (nomatch ·),
    (hcommand _ _ _ _ _ _ hsettings (hvalues true) hholds).1 rfl (List.cons_ne_nil _ _)⟩

end CommandLine.Command

end MailMerge
