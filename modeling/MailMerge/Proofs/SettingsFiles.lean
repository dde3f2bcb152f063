import MailMerge.Proofs.CommandRuns
import MailMerge.Proofs.ExtractionFaults
import MailMerge.Proofs.JsonGrammar
import MailMerge.Proofs.SettingsTexts
import MailMerge.Proofs.StoreWrites
import MailMerge.Settings.File

/-!
# Settings in files

What is saved is loaded again, and a file that has only some of the fields gives the defaults for
the others (`settings_survive_files`). Loading tells a malformed file from a missing one only if
the file is text: one that is not counts as missing (`settings_missing_iff`).
-/

namespace MailMerge

lemma Files.exists_read_eq_error {files : Files} {working : Location} {p : Path}
    (h : files.kind? working p = none) : ∃ fault, files.read working p = .error fault := by
  unfold kind? at h
  unfold read
  cases hlocate : files.locate working p with
  | error fault => exact ⟨fault, rfl⟩
  | ok place =>
    rw [hlocate] at h
    have hnode : files.node? place = none := Option.map_eq_none_iff.mp h
    exact ⟨.missing, by simp only [hnode]⟩

namespace Settings

open CommandLine (Command)
open CommandLine.Command (loadSettings standardSettings)
open Json (Tree)

variable {host : Host} {files : Files} {path : Path}

section Loading

lemma on_load (defaults : Settings) (path : Path) (files : Files) :
    (load defaults path).on host files =
      (match files.read host.working path with
        | .error fault => .error (.settingsMissing path.text fault)
        | .ok content => ofBytes defaults path content, files) := by
  have hperform : Program.run host (Program.perform (.read path)) files =
      (files.read host.working path, files) := rfl
  change Program.run host (Program.bind (Program.perform (.read path)) _) files = _
  rw [Program.run_bind, hperform]
  cases files.read host.working path <;> rfl

lemma on_load_of_error {fault : FileFault} (h : files.read host.working path = .error fault)
    (defaults : Settings) :
    (load defaults path).on host files = (.error (.settingsMissing path.text fault), files) := by
  rw [on_load, h]

lemma on_load_of_encode {text : String}
    (h : files.read host.working path = .ok (Utf8.encode text)) (defaults : Settings) :
    (load defaults path).on host files =
      (match ofText? defaults text with
        | some s => .ok s
        | none => .error (.settingsMalformed path.text "no settings"), files) := by
  rw [on_load, h]
  cases hsettings : ofText? defaults text with
  | none => simp only [ofBytes, Utf8.decode_encode, hsettings]
  | some s => simp only [ofBytes, Utf8.decode_encode, hsettings]

lemma on_load_of_not_text {content : Bytes} (h : files.read host.working path = .ok content)
    (hcontent : ∀ text, content ≠ Utf8.encode text) (defaults : Settings) :
    (load defaults path).on host files =
      (.error (.settingsMissing path.text .notText), files) := by
  rw [on_load, h]
  cases hdecode : Utf8.decode content with
  | error fault => simp only [ofBytes, hdecode]
  | ok text => exact absurd (Utf8.eq_encode_of_decode hdecode) (hcontent text)

lemma on_load_of_text {text : String} {s defaults : Settings}
    (h : files.read host.working path = .ok (Utf8.encode text))
    (hs : ofText? defaults text = some s) :
    (load defaults path).on host files = (.ok s, files) := by
  rw [on_load_of_encode h, hs]

end Loading

section Saving

/-- The folder above a file, with an empty path where none has to be made. -/
def above (path : Path) : Path :=
  path.parent?.getD ⟨""⟩

lemma on_save (s : Settings) (path : Path) (files : Files) :
    (s.save path).on host files =
      Action.on host (do
        Action.createFolders (above path)
        Action.write path (Utf8.encode s.toText)) files := by
  rw [save, above]
  cases path.parent? with
  | none => rfl
  | some parent =>
    dsimp only
    by_cases hempty : parent.text = ""
    · obtain ⟨text⟩ := parent
      cases hempty
      rw [if_neg (by simp)]
      rfl
    · rw [if_pos hempty]
      rfl

/-- Saving ends with the settings in the file, unless the folders above it or the file itself cannot
be made. -/
lemma save_cases (host : Host) (files : Files) (s : Settings) (path : Path) :
    (∃ fault between, files.createFolders host.working (above path) = (.error fault, between) ∧
        (s.save path).on host files = (.error (.file fault), between)) ∨
      ∃ between, files.createFolders host.working (above path) = (.ok (), between) ∧
        ((∃ fault, between.write host.working path (Utf8.encode s.toText) = .error fault ∧
            (s.save path).on host files = (.error (.file fault), between)) ∨
          ∃ after, between.write host.working path (Utf8.encode s.toText) = .ok after ∧
            (s.save path).on host files = (.ok (), after)) := by
  have hon : (Action.createFolders (above path)).on host files =
      ((files.createFolders host.working (above path)).1.mapError .file,
        (files.createFolders host.working (above path)).2) := rfl
  rcases hmade : files.createFolders host.working (above path) with ⟨answer, between⟩
  rw [hmade] at hon
  cases answer with
  | error fault =>
    refine .inl ⟨fault, between, rfl, ?_⟩
    rw [on_save, Action.on_bind_error hon]
  | ok _ =>
    refine .inr ⟨between, rfl, ?_⟩
    have hwrite : (Action.write path (Utf8.encode s.toText)).on host between =
        ((between.change (between.write host.working path (Utf8.encode s.toText))).1.mapError .file,
          (between.change (between.write host.working path (Utf8.encode s.toText))).2) := rfl
    rw [on_save, Action.on_bind_ok hon, hwrite]
    cases hwritten : between.write host.working path (Utf8.encode s.toText) with
    | error fault => exact .inl ⟨fault, rfl, rfl⟩
    | ok after => exact .inr ⟨after, rfl, rfl⟩

/-- What is saved is loaded again, unless it cannot be saved, and a file with a mixture of its
fields gives these and the defaults for the others. -/
theorem settings_survive_files (host : Host) (files : Files) (s defaults : Settings)
    (path : Path) :
    ((∃ fault between, files.createFolders host.working (above path) = (.error fault, between) ∧
        (s.save path).on host files = (.error (.file fault), between)) ∨
      ∃ between, files.createFolders host.working (above path) = (.ok (), between) ∧
        ((∃ fault, between.write host.working path (Utf8.encode s.toText) = .error fault ∧
            (s.save path).on host files = (.error (.file fault), between)) ∨
          ∃ after, (s.save path).on host files = (.ok (), after) ∧
            after.read host.working path = .ok (Utf8.encode s.toText) ∧
            (load defaults path).on host after = (.ok s, after))) ∧
      (Tree.object s.members).IsText s.toText ∧
      ∀ kept members text, IsMixture s kept members → (Tree.object members).IsText text →
        files.read host.working path = .ok (Utf8.encode text) →
          ∃ loaded, (load defaults path).on host files = (.ok loaded, files) ∧
            ∀ f : Field, f.value loaded = if f ∈ kept then f.value s else f.value defaults := by
  refine ⟨?_, s.isText_toText, ?_⟩
  · refine (save_cases host files s path).imp_right ?_
    rintro ⟨between, hmade, houtcome⟩
    refine ⟨between, hmade, houtcome.imp_right ?_⟩
    rintro ⟨after, hwritten, hsaved⟩
    have hread := Files.read_of_write hwritten
    exact ⟨after, hsaved, hread, on_load_of_text hread (ofText?_toText s defaults)⟩
  · intro kept members text hmixture htext hread
    obtain ⟨loaded, hloaded, hvalues⟩ := ofText?_of_isMixture hmixture htext defaults
    exact ⟨loaded, on_load_of_text hread hloaded, hvalues⟩

/-- A file with one of the fields, in a spelling of its own, and an unknown one whose value is no
value of JSON. -/
def samplePartialText : String :=
  "\x7b\"later\": [\"\\ud800\", 1e999],\n \"max\\u005fconcurrency\" : 18446744073709551615\x7d"

def samplePartialFiles : Files where
  entries := [(["docfill.config.json"], .file (Utf8.encode samplePartialText) false)]
  distinct := by decide

def sampleBusy : Settings :=
  { sampleSettings with maxConcurrency := 18446744073709551615, namingField := "\"\x01\n" }

def sampleLater : Tree :=
  .array [.string none, .number ⟨false, ['1'], [], some (false, ['9', '9', '9'])⟩]

lemma isText_samplePartialText :
    (Tree.object [(some "later", sampleLater),
      (some "max_concurrency", (Field.maxConcurrency.value sampleBusy).toTree)]).IsText
        samplePartialText := by
  have htokens : Json.tokens? samplePartialText.toList =
      some [.openObject, .string (some "later"), .colon, .openArray, .string none, .comma,
        .number ⟨false, ['1'], [], some (false, ['9', '9', '9'])⟩, .closeArray, .comma,
        .string (some "max_concurrency"), .colon,
        .number ⟨false, "18446744073709551615".toList, [], none⟩, .closeObject] := by
    decide +kernel
  rw [← Tree.ofText?_eq_some_iff, Tree.ofText?, htokens]
  rfl

theorem settings_survive_files_partly :
    (∃ after,
        (sampleBusy.save ⟨"conf/docfill.config.json"⟩).on sampleHost .empty = (.ok (), after) ∧
        (load sampleSettings ⟨"conf/docfill.config.json"⟩).on sampleHost after =
          (.ok sampleBusy, after)) ∧
      (load sampleSettings ⟨"docfill.config.json"⟩).on sampleHost samplePartialFiles =
        (.ok { sampleSettings with maxConcurrency := 18446744073709551615 },
          samplePartialFiles) := by
  constructor
  · obtain ⟨hsaved, -⟩ := settings_survive_files sampleHost .empty sampleBusy sampleSettings
      ⟨"conf/docfill.config.json"⟩
    rcases hsaved with ⟨fault, between, hmade, -⟩ | ⟨between, hmade, hwritten⟩
    · cases hmade
    · rcases hwritten with ⟨fault, hwritten, -⟩ | ⟨after, hsaved, -, hloaded⟩
      · cases hmade
        cases hwritten
      · exact ⟨after, hsaved, hloaded⟩
  · have hunknown : ∀ f : Field, f.key ≠ "later" := fun f => by cases f <;> decide
    have hmixture : IsMixture sampleBusy [.maxConcurrency] [(some "later", sampleLater),
        (some "max_concurrency", (Field.maxConcurrency.value sampleBusy).toTree)] :=
      .unknown hunknown sampleLater (.known List.not_mem_nil .nil)
    obtain ⟨loaded, hloaded, hvalues⟩ :=
      (settings_survive_files sampleHost samplePartialFiles sampleBusy sampleSettings
        ⟨"docfill.config.json"⟩).2.2 _ _ _ hmixture isText_samplePartialText rfl
    have hsame : loaded = { sampleSettings with maxConcurrency := 18446744073709551615 } :=
      eq_of_value_eq fun f => by
        rw [hvalues]
        cases f <;> rfl
    rw [hloaded, hsame]

end Saving

section Missing

lemma result_loadSettings (system : CommandLine.System) (path : Path) (files : Files) :
    (loadSettings system path).result host files =
      if files.kind? host.working path = none then .ok (standardSettings system)
      else ((load (standardSettings system) path).on host files).1.mapError .engine := by
  have hkind : (Command.ofAction (Action.kind path)).on host "" files =
      ((.ok (files.kind? host.working path), ""), files) := Command.on_ofAction _
  rw [Command.result, loadSettings, Command.on_bind_ok hkind]
  cases files.kind? host.working path with
  | none => rfl
  | some kind =>
    dsimp only
    rw [Command.on_ofAction]
    rfl

/-- Settings are missing exactly if no text can be read; from a text they are loaded, or it is
malformed. Only where nothing is, a command goes on with the standard settings. -/
theorem settings_missing_iff (host : Host) (files : Files) (defaults : Settings) (path : Path) :
    ((∃ fault, (load defaults path).on host files =
        (.error (.settingsMissing path.text fault), files)) ↔
      ∀ text, files.read host.working path ≠ .ok (Utf8.encode text)) ∧
    (∀ text, files.read host.working path = .ok (Utf8.encode text) →
      (∃ s, ofText? defaults text = some s ∧ (load defaults path).on host files = (.ok s, files)) ∨
        ofText? defaults text = none ∧ ∃ cause, (load defaults path).on host files =
          (.error (.settingsMalformed path.text cause), files)) ∧
    (files.kind? host.working path = none → ∃ fault, (load defaults path).on host files =
      (.error (.settingsMissing path.text fault), files)) ∧
    ∀ system, (loadSettings system path).result host files =
      if files.kind? host.working path = none then .ok (standardSettings system)
      else ((load (standardSettings system) path).on host files).1.mapError .engine := by
  refine ⟨⟨?_, fun h => ?_⟩, fun text h => ?_, fun h => ?_, fun system => ?_⟩
  · rintro ⟨fault, hload⟩ text hread
    rw [on_load_of_encode hread] at hload
    cases hsettings : ofText? defaults text <;> simp [hsettings] at hload
  · cases hread : files.read host.working path with
    | error fault => exact ⟨fault, on_load_of_error hread defaults⟩
    | ok content =>
      refine ⟨.notText, on_load_of_not_text hread (fun text hcontent => ?_) defaults⟩
      rw [hcontent] at hread
      exact h text hread
  · rw [on_load_of_encode h]
    cases hsettings : ofText? defaults text with
    | none => exact .inr ⟨rfl, _, rfl⟩
    | some s => exact .inl ⟨s, rfl, rfl⟩
  · obtain ⟨fault, hread⟩ := Files.exists_read_eq_error h
    exact ⟨fault, on_load_of_error hread defaults⟩
  · exact result_loadSettings system path files

/-- A file in which an object is not closed. -/
def sampleOpenFiles : Files where
  entries := [(["docfill.config.json"], .file (Utf8.encode "\x7b") false)]
  distinct := by decide

theorem settings_missing_iff_openObject :
    (∃ cause, (load sampleSettings ⟨"docfill.config.json"⟩).on sampleHost sampleOpenFiles =
        (.error (.settingsMalformed "docfill.config.json" cause), sampleOpenFiles)) ∧
      ∃ fault, (load sampleSettings ⟨"docfill.config.json"⟩).on sampleHost .empty =
        (.error (.settingsMissing "docfill.config.json" fault), .empty) := by
  constructor
  · have hnone : ofText? sampleSettings "\x7b" = none := by decide +kernel
    rcases (settings_missing_iff sampleHost sampleOpenFiles sampleSettings
      ⟨"docfill.config.json"⟩).2.1 "\x7b" rfl with ⟨s, hs, -⟩ | ⟨-, hmalformed⟩
    · rw [hnone] at hs
      cases hs
    · exact hmalformed
  · exact (settings_missing_iff sampleHost .empty sampleSettings
      ⟨"docfill.config.json"⟩).2.2.1 rfl

/-- A file with one byte that is no text. -/
def sampleByteFiles : Files where
  entries := [(["docfill.config.json"], .file [0xFF] false)]
  distinct := by decide

theorem not_loaded_or_malformed :
    ¬∀ host files defaults path content, Files.read files (Host.working host) path = .ok content →
      ∀ fault, ((load defaults path).on host files).1 ≠
        .error (.settingsMissing path.text fault) := by
  intro h
  have hdecode : Utf8.decode [0xFF] = .error ⟨0, some 1⟩ := by decide +kernel
  refine h sampleHost sampleByteFiles sampleSettings ⟨"docfill.config.json"⟩ [0xFF] rfl .notText ?_
  have hread : sampleByteFiles.read sampleHost.working ⟨"docfill.config.json"⟩ = .ok [0xFF] := rfl
  rw [on_load, hread]
  simp only [ofBytes, hdecode]

end Missing

end Settings

end MailMerge
