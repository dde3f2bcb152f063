import MailMerge.Bundle
import MailMerge.Proofs.ArchiveRoundTrip

/-!
# Reading a bundle

Artifacts with different names are packed, and the archive has them again, in their order
(`entries?_pack`); so packing loses nothing (`packing_is_lossless`).
-/

namespace MailMerge.Bundle

lemma firstRepeated_eq_none {seen : List String} {artifacts : List Artifact}
    (hdistinct : (artifacts.map Artifact.name).Nodup)
    (hnew : ∀ a ∈ artifacts, a.name ∉ seen) : firstRepeated seen artifacts = none := by
  induction artifacts generalizing seen with
  | nil => rfl
  | cons a rest ih =>
    rw [List.map_cons, List.nodup_cons] at hdistinct
    have ha : seen.contains a.name = false := by simpa using hnew a (by simp)
    rw [firstRepeated, ha, if_neg Bool.false_ne_true]
    apply ih hdistinct.2
    intro b hb hmem
    rcases List.mem_cons.mp hmem with hsame | hmem
    · exact hdistinct.1 (hsame ▸ List.mem_map_of_mem hb)
    · exact hnew b (by simp [hb]) hmem

/-- The entry of an artifact. -/
def entryOf (method : Archive.Method) (a : Artifact) : Archive.Entry :=
  ⟨a.name, method, a.content⟩

lemma pack_of_nodup (method : Archive.Method) {artifacts : List Artifact} (hsome : artifacts ≠ [])
    (hdistinct : (artifacts.map Artifact.name).Nodup) :
    pack method artifacts = .ok ⟨artifacts.map Artifact.name,
      Archive.write (artifacts.map (entryOf method))⟩ := by
  have hempty : artifacts.isEmpty = false := List.isEmpty_eq_false_iff.mpr hsome
  have hrepeated : firstRepeated [] artifacts = none := firstRepeated_eq_none hdistinct (by simp)
  rw [pack, hempty, if_neg Bool.false_ne_true, hrepeated]
  rfl

lemma map_name_entryOf (method : Archive.Method) (artifacts : List Artifact) :
    (artifacts.map (entryOf method)).map Archive.Entry.name = artifacts.map Artifact.name := by
  rw [List.map_map]
  rfl

/-- The archive of packed artifacts has an entry for each of them, in their order. -/
theorem entries?_pack {method : Archive.Method} {artifacts : List Artifact} {bundle : Bundle}
    (hdistinct : (artifacts.map Artifact.name).Nodup)
    (hshort : ∀ a ∈ artifacts, (Utf8.encode a.name).length < 65536)
    (hpack : pack method artifacts = .ok bundle)
    (hbound : bundle.bytes.length < Archive.placeBound) :
    Archive.entries? bundle.bytes =
      some (artifacts.map fun a => ⟨a.name, method.packing, a.content⟩) := by
  have hsome : artifacts ≠ [] := by
    rintro rfl
    cases hpack
  rw [pack_of_nodup method hsome hdistinct] at hpack
  cases hpack
  have hwritable : Archive.Writable (artifacts.map (entryOf method)) := by
    refine ⟨?_, ?_, hbound⟩
    · rw [map_name_entryOf]
      exact hdistinct
    · intro e he
      obtain ⟨a, ha, rfl⟩ := List.mem_map.mp he
      exact hshort a ha
  rw [Archive.entries?_write hwritable, List.map_map]
  rfl

/-- Artifacts with different names can be packed in both ways, and the archive has exactly their
names and contents, in their order, as the bundle tells. No archive in memory is as long as the
bound. -/
theorem packing_is_lossless (method : Archive.Method) (artifacts : List Artifact)
    (hsome : artifacts ≠ []) (hdistinct : (artifacts.map Artifact.name).Nodup)
    (hshort : ∀ a ∈ artifacts, (Utf8.encode a.name).length < 65536) :
    ∃ bundle, pack method artifacts = .ok bundle ∧
      bundle.entries = artifacts.map Artifact.name ∧
      bundle.entries.length = artifacts.length ∧
      (bundle.bytes.length < Archive.placeBound →
        ∃ members, Archive.entries? bundle.bytes = some members ∧
          members.map (fun m => (m.name, m.content)) =
            artifacts.map (fun a => (a.name, a.content)) ∧
          members.map Archive.Member.name = bundle.entries) := by
  have hpack := pack_of_nodup method hsome hdistinct
  refine ⟨_, hpack, rfl, List.length_map .., fun hbound => ?_⟩
  refine ⟨_, entries?_pack hdistinct hshort hpack hbound, ?_, ?_⟩
  · rw [List.map_map]
    rfl
  · rw [List.map_map]
    rfl

/-- Artifacts with an empty content, a name beyond ASCII, and a content that begins as the end
record of an archive does. -/
def sampleArtifacts : List Artifact :=
  [⟨"empty.txt", []⟩, ⟨"Zoë.txt", Archive.endSignature ++ [0, 0]⟩]

theorem packing_is_lossless_endSignature :
    ∃ bundle members, pack .deflated sampleArtifacts = .ok bundle ∧
      bundle.entries = ["empty.txt", "Zoë.txt"] ∧
      Archive.entries? bundle.bytes = some members ∧
      members.map (fun m => (m.name, m.content)) =
        [("empty.txt", []), ("Zoë.txt", Archive.endSignature ++ [0, 0])] := by
  obtain ⟨bundle, hpack, hentries, -, hmembers⟩ := packing_is_lossless .deflated sampleArtifacts
    (by decide) (by decide) (by decide +kernel)
  have hsize : (pack .deflated sampleArtifacts).toOption.all
      (fun b => b.bytes.length < Archive.placeBound) = true := by
    decide +kernel
  rw [hpack] at hsize
  obtain ⟨members, hread, hpairs, -⟩ := hmembers (of_decide_eq_true hsize)
  exact ⟨bundle, members, hpack, hentries, hread, hpairs⟩

end MailMerge.Bundle
