import MailMerge.Proofs.JsonPrinting
import MailMerge.Settings

/-!
# Settings in JSON texts

Each field of settings is read from the tree of its own value, whatever else the text has: fields
in another order, unknown ones between them, and missing ones, which keep their defaults
(`ofText?_of_isMixture`). Printed settings have all fields, so they are read as they were
(`ofText?_toText`).
-/

namespace MailMerge.Settings

open Json (Tree Value)

section Fields

namespace Field

/-- The other settings with this field of the first. -/
def copy (f : Field) (s t : Settings) : Settings :=
  match f with
  | storageFolder => { t with storageFolder := s.storageFolder }
  | scratchFolder => { t with scratchFolder := s.scratchFolder }
  | outputFolder => { t with outputFolder := s.outputFolder }
  | namingField => { t with namingField := s.namingField }
  | maxConcurrency => { t with maxConcurrency := s.maxConcurrency }
  | conversionLimit => { t with conversionLimit := s.conversionLimit }
  | converterBinary => { t with converterBinary := s.converterBinary }

lemma value_copy (f g : Field) (s t : Settings) :
    f.value (g.copy s t) = if f = g then f.value s else f.value t := by
  cases f <;> cases g <;> rfl

lemma isWhole_word (n : UInt64) : Json.Number.IsWhole (.integer n.toNat) := by
  have hlt : n.toNat < Json.wordBound := n.toNat_lt
  exact ⟨by omega, by omega⟩

lemma isWhole_of_mem_numbers {f : Field} {s : Settings} {n : Json.Number}
    (h : n ∈ (f.value s).numbers) : n.IsWhole := by
  cases f with
  | maxConcurrency =>
    rw [List.mem_singleton.mp h]
    exact isWhole_word _
  | conversionLimit =>
    rw [List.mem_singleton.mp h]
    exact isWhole_word _
  | _ => cases h

lemma word?_toTree (n : UInt64) :
    word? (Value.number (.integer n.toNat)).toTree = some n := by
  have hnat : ((n.toNat : Int)).toNat = n.toNat := Int.toNat_natCast _
  rw [Value.toTree, word?, Json.Number.number?_numeral (isWhole_word n)]
  simp only [Int.natCast_nonneg, if_true, hnat, UInt64.ofNat_toNat]

lemma read?_toTree (f : Field) (s t : Settings) :
    f.read? t (f.value s).toTree = some (f.copy s t) := by
  cases f with
  | maxConcurrency =>
    rw [read?, value, word?_toTree]
    rfl
  | conversionLimit =>
    rw [read?, value, word?_toTree]
    rfl
  | _ => rfl

lemma ofKey?_key (f : Field) : ofKey? f.key = some f := by
  cases f <;> decide

lemma ofKey?_eq_none {key : String} (h : ∀ f : Field, f.key ≠ key) : ofKey? key = none :=
  List.find?_eq_none.mpr fun f _ => by simpa using h f

lemma mem_all (f : Field) : f ∈ all := by
  cases f <;> decide

end Field

lemma eq_of_value_eq {s t : Settings} (h : ∀ f : Field, f.value s = f.value t) : s = t := by
  have hword {n m : UInt64}
      (h : Value.number (.integer n.toNat) = Value.number (.integer m.toNat)) : n = m := by
    have hnat := Json.Number.integer.inj (Value.number.inj h)
    exact UInt64.toNat_inj.mp (Int.natCast_inj.mp hnat)
  have hstorage := Value.string.inj (h .storageFolder)
  have hscratch := Value.string.inj (h .scratchFolder)
  have houtput := Value.string.inj (h .outputFolder)
  have hnaming := Value.string.inj (h .namingField)
  have hconcurrency := hword (h .maxConcurrency)
  have hlimit := hword (h .conversionLimit)
  have hbinary := Value.string.inj (h .converterBinary)
  obtain ⟨_, _, _, _, _, _, _⟩ := s
  obtain ⟨_, _, _, _, _, _, _⟩ := t
  rw [Settings.mk.injEq]
  exact ⟨hstorage, hscratch, houtput, hnaming, hconcurrency, hlimit, hbinary⟩

end Fields

/-- Members of an object that has some fields of these settings, each of them once and in any order,
and between them unknown names with any values. -/
inductive IsMixture (s : Settings) : List Field → List (Option String × Tree) → Prop
  | nil : IsMixture s [] []
  | known {f : Field} {kept : List Field} {members : List (Option String × Tree)}
      (hnew : f ∉ kept) (h : IsMixture s kept members) :
      IsMixture s (f :: kept) ((some f.key, (f.value s).toTree) :: members)
  | unknown {key : String} {kept : List Field} {members : List (Option String × Tree)}
      (hkey : ∀ f : Field, f.key ≠ key) (v : Tree) (h : IsMixture s kept members) :
      IsMixture s kept ((some key, v) :: members)

/-- Fields that are read are taken over, and all others stay. -/
lemma readFields_of_isMixture {s : Settings} {kept : List Field}
    {members : List (Option String × Tree)} (h : IsMixture s kept members) {seen : List Field}
    (hseen : ∀ f ∈ kept, f ∉ seen) (t : Settings) :
    ∃ loaded, readFields seen t members = some loaded ∧
      ∀ f : Field, f.value loaded = if f ∈ kept then f.value s else f.value t := by
  induction h generalizing seen t with
  | nil => exact ⟨t, rfl, fun f => rfl⟩
  | @known f kept members hnew _ ih =>
    have hmore : ∀ g ∈ kept, g ∉ f :: seen := by
      intro g hg hmem
      rcases List.mem_cons.mp hmem with rfl | hmem
      · exact hnew hg
      · exact hseen g (List.mem_cons_of_mem _ hg) hmem
    obtain ⟨loaded, hloaded, hvalues⟩ := ih hmore (f.copy s t)
    refine ⟨loaded, ?_, fun g => ?_⟩
    · have hfirst : seen.contains f = false := by
        simpa using hseen f List.mem_cons_self
      rw [readFields, Field.ofKey?_key]
      simp only [hfirst, Field.read?_toTree, Option.bind_some]
      exact hloaded
    · rw [hvalues, Field.value_copy]
      by_cases hg : g = f
      · simp [hg]
      · simp [hg]
  | unknown hkey v _ ih =>
    obtain ⟨loaded, hloaded, hvalues⟩ := ih hseen t
    refine ⟨loaded, ?_, hvalues⟩
    rw [readFields, Field.ofKey?_eq_none hkey]
    exact hloaded

lemma ofText?_of_isMixture {s : Settings} {kept : List Field}
    {members : List (Option String × Tree)} (h : IsMixture s kept members) {text : String}
    (htext : (Tree.object members).IsText text) (defaults : Settings) :
    ∃ loaded, ofText? defaults text = some loaded ∧
      ∀ f : Field, f.value loaded = if f ∈ kept then f.value s else f.value defaults := by
  rw [ofText?, Tree.ofText?_of_isText htext]
  exact readFields_of_isMixture h (fun _ _ => List.not_mem_nil) defaults

/-- The members of saved settings: all fields in their order. -/
def members (s : Settings) : List (Option String × Tree) :=
  Field.all.map fun f => (some f.key, (f.value s).toTree)

lemma isMixture_map (s : Settings) {fields : List Field} (h : fields.Nodup) :
    IsMixture s fields (fields.map fun f => (some f.key, (f.value s).toTree)) := by
  induction fields with
  | nil => exact .nil
  | cons f rest ih =>
    obtain ⟨hnew, hrest⟩ := List.nodup_cons.mp h
    exact .known hnew (ih hrest)

lemma isText_toText (s : Settings) : (Tree.object s.members).IsText s.toText := by
  have hwhole : ∀ n ∈ (Value.object (Field.all.map fun f => (f.key, f.value s))).numbers,
      n.IsWhole := by
    intro n hn
    obtain ⟨_, hmem, hnumber⟩ := Value.exists_of_mem_fieldNumbers hn
    obtain ⟨f, -, rfl⟩ := List.mem_map.mp hmem
    exact Field.isWhole_of_mem_numbers hnumber
  exact Value.isText_indented hwhole 0

lemma ofText?_toText (s defaults : Settings) : ofText? defaults s.toText = some s := by
  obtain ⟨loaded, hloaded, hvalues⟩ :=
    ofText?_of_isMixture (isMixture_map s (by decide)) s.isText_toText defaults
  have hsame : loaded = s := eq_of_value_eq fun f => by rw [hvalues, if_pos f.mem_all]
  rw [hloaded, hsame]

end MailMerge.Settings
