import MailMerge.Proofs.ArchiveRecords
import MailMerge.Proofs.StoredBlocks

/-!
# Reading a written archive

An archive is found from its end, its headers are read one after another, and each header leads
back to the data of its entry. So a written archive has the entries that were written, in their
order (`entries?_write`), and each of them is found by its name (`content_write`).
-/

namespace MailMerge.Archive

open LittleEndian (bytes read? read_bytes)

/-- Entries that an archive can hold: their names differ and fit into their fields, and the archive
ends below the greatest place. -/
structure Writable (entries : List Entry) : Prop where
  distinct : (entries.map Entry.name).Nodup
  short : ∀ e ∈ entries, e.HasShortName
  bounded : (write entries).length < placeBound

/-- The headers of entries, the first of which is at `offset`. -/
def headersFrom (offset : Nat) : List Entry → List Header
  | [] => []
  | e :: rest => e.header offset :: headersFrom (offset + e.localPart.length) rest

lemma map_name_headersFrom (offset : Nat) (entries : List Entry) :
    (headersFrom offset entries).map Header.name = entries.map Entry.name := by
  induction entries generalizing offset with
  | nil => rfl
  | cons e rest ih => simp [headersFrom, Entry.header, ih]

lemma length_le_length_packed (e : Entry) : e.content.length ≤ e.packed.length := by
  unfold Entry.packed
  cases e.method with
  | stored => exact Nat.le_refl _
  | deflated => exact length_le_length_deflate e.content

lemma length_packed_lt (e : Entry) : e.packed.length < e.localPart.length := by
  simp only [Entry.localPart, entrySignature, List.length_append, List.length_cons]
  omega

lemma localParts_cons (e : Entry) (rest : List Entry) :
    localParts (e :: rest) = e.localPart ++ localParts rest :=
  List.flatMap_cons

section Directory

lemma headers?_directory (strict : Bool) {entries : List Entry}
    (hshort : ∀ e ∈ entries, e.HasShortName) {offset : Nat}
    (hplace : offset + (localParts entries).length < placeBound) (behind : Bytes) :
    headers? strict entries.length (directory offset entries ++ behind) =
      some (headersFrom offset entries) := by
  induction entries generalizing offset with
  | nil => rfl
  | cons e rest ih =>
    have hpacked := length_packed_lt e
    have hsize := length_le_length_packed e
    rw [localParts_cons, List.length_append] at hplace
    rw [List.length_cons, headers?, directory, List.append_assoc,
      header?_directoryPart strict e (hshort e (by simp)) (by omega) (by omega) (by omega)]
    simp only [some_bind]
    rw [ih (fun d hd => hshort d (by simp [hd])) (by omega)]
    rfl

lemma offset_lt_of_mem_headersFrom {entries : List Entry} {offset bound : Nat}
    (hplace : offset + (localParts entries).length < bound) :
    ∀ h ∈ headersFrom offset entries, h.offset < bound := by
  induction entries generalizing offset with
  | nil => simp [headersFrom]
  | cons e rest ih =>
    intro h hh
    rw [localParts_cons, List.length_append] at hplace
    rcases List.mem_cons.mp hh with rfl | hh
    · change offset < bound
      omega
    · exact ih (by omega) h hh

lemma headerSize_le_length_directoryPart (e : Entry) (offset : Nat) :
    headerSize ≤ (e.directoryPart offset).length := by
  simp only [headerSize, Entry.directoryPart, Entry.sharedFields, directorySignature,
    List.length_append, LittleEndian.length_bytes, length_narrow, List.length_cons]
  omega

lemma length_directory (entries : List Entry) (offset : Nat) :
    entries.length * headerSize ≤ (directory offset entries).length := by
  induction entries generalizing offset with
  | nil => simp
  | cons e rest ih =>
    have hpart := headerSize_le_length_directoryPart e offset
    have hrest := ih (offset + e.localPart.length)
    rw [directory, List.length_append, List.length_cons, Nat.succ_mul]
    omega

lemma length_write (entries : List Entry) :
    (localParts entries).length + (directory 0 entries).length + 22 ≤ (write entries).length := by
  have hend : 22 ≤ (endPart entries.length (directory 0 entries).length
      (localParts entries).length).length := by
    unfold endPart
    split <;> simp [length_endRecord]
    omega
  simp only [write, List.length_append]
  omega

lemma isDirectory_directory {entries : List Entry} (hbound : (write entries).length < placeBound) :
    IsDirectory (directory 0 entries) entries.length (localParts entries).length where
  headers := length_directory entries 0
  place := by
    have h := length_write entries
    omega
  signed := by
    intro h
    cases entries with
    | nil => simp at h
    | cons e rest =>
      simp only [directory, Entry.directoryPart, List.append_assoc]
      exact ⟨_, rfl⟩
  empty := by
    intro h
    rw [List.length_eq_zero_iff.mp h]
    exact ⟨rfl, rfl⟩

end Directory

section Opening

lemma openFrom?_of_openAt? {strict : Bool} {bs : Bytes} {place : Nat} {a : Opened}
    (h : openAt? strict bs place = some a) : openFrom? strict bs place = some a := by
  cases place with
  | zero => exact h
  | succ place => rw [openFrom?, h]

/-- A written archive opens at its very end, with the headers of its entries. -/
theorem open?_write (strict : Bool) {entries : List Entry} (h : Writable entries) :
    open? strict (write entries) = some ⟨write entries, 0, headersFrom 0 entries⟩ := by
  have hlength := length_write entries
  have hbound := h.bounded
  have hlisting := listing?_endPart (isDirectory_directory hbound)
  have hheaders : headers? strict entries.length (directory 0 entries ++
      endPart entries.length (directory 0 entries).length (localParts entries).length) =
      some (headersFrom 0 entries) := headers?_directory strict h.short (by omega) _
  have hdrop : (write entries).drop (localParts entries).length = directory 0 entries ++
      endPart entries.length (directory 0 entries).length (localParts entries).length := by
    rw [write, List.append_assoc, List.drop_left]
  have hplaces : (headersFrom 0 entries).all (fun h => h.offset + 0 < placeBound) = true := by
    have hoffsets : ∀ h ∈ headersFrom 0 entries, h.offset < placeBound :=
      offset_lt_of_mem_headersFrom (by omega)
    simpa using hoffsets
  rw [open?, if_neg (by omega)]
  apply openFrom?_of_openAt?
  rw [openAt?, write, hlisting, ← write, some_bind]
  dsimp only
  rw [hdrop, hheaders, some_bind, if_pos hplaces]

end Opening

section Entries

lemma addHeader_of_not_mem {h : Header} {hs : List Header} (hnew : h.name ∉ hs.map Header.name) :
    addHeader h hs = hs ++ [h] := by
  induction hs with
  | nil => rfl
  | cons g rest ih =>
    rw [List.map_cons, List.mem_cons, not_or] at hnew
    rw [addHeader, if_neg (Ne.symm hnew.1), ih hnew.2, List.cons_append]

lemma foldl_addHeader {hs acc : List Header} (hdistinct : ((acc ++ hs).map Header.name).Nodup) :
    hs.foldl (fun acc h => addHeader h acc) acc = acc ++ hs := by
  induction hs generalizing acc with
  | nil => simp
  | cons h rest ih =>
    have hnew : h.name ∉ acc.map Header.name := by
      rw [List.map_append, List.nodup_append] at hdistinct
      intro hmem
      exact hdistinct.2.2 _ hmem h.name (by simp) rfl
    rw [List.foldl_cons, addHeader_of_not_mem hnew, ih (by simpa using hdistinct)]
    simp

/-- Where no name stands twice, no header takes the place of another. -/
lemma members_eq_headers {a : Opened} (hdistinct : (a.headers.map Header.name).Nodup) :
    a.members = a.headers := by
  rw [Opened.members, foldl_addHeader (by simpa using hdistinct), List.nil_append]

/-- The fields of an entry's own header between its signature and the length of the name. -/
def Entry.numbers (e : Entry) : Bytes :=
  bytes 2 e.neededVersion ++ bytes 2 e.flags ++ bytes 2 e.method.code ++ bytes 2 0 ++
    bytes 2 entryDate ++ bytes 4 (crc32 e.content).toNat ++ narrow e.packed.length ++
    narrow e.content.length

lemma length_numbers (e : Entry) : e.numbers.length = 22 := by
  simp [Entry.numbers, length_narrow]

lemma localPart_eq (e : Entry) : e.localPart = entrySignature ++ (e.numbers ++
    (bytes 2 (Utf8.encode e.name).length ++ (bytes 2 0 ++ (Utf8.encode e.name ++ e.packed)))) := by
  simp only [Entry.localPart, Entry.sharedFields, Entry.numbers, List.append_assoc]

lemma behindHeader?_localPart {a : Opened} {e : Entry} {h : Header} {rest : Bytes}
    (hname : e.HasShortName) (hplace : a.bytes.drop (a.start + h.offset) = e.localPart ++ rest) :
    a.behindHeader? h = some (e.packed ++ rest) := by
  have hname' : (Utf8.encode e.name).length < Nat.pow 256 2 := hname
  have hzero : 0 < Nat.pow 256 2 := by decide
  have hdrop (bs : Bytes) : (e.numbers ++ bs).drop 22 = bs := List.drop_left' (length_numbers e)
  have hlong : ¬(e.numbers ++ (bytes 2 (Utf8.encode e.name).length ++
      (bytes 2 0 ++ (Utf8.encode e.name ++ (e.packed ++ rest))))).length < 26 := by
    simp only [List.length_append, length_numbers, LittleEndian.length_bytes]
    omega
  rw [Opened.behindHeader?, hplace, localPart_eq]
  simp only [List.append_assoc, signed?_append, some_bind, if_neg hlong,
    hdrop, read_bytes hname', read_bytes hzero, Nat.add_zero, List.drop_left]
  rfl

lemma ofCode?_code (m : Method) : Packing.ofCode? m.code = some m.packing := by
  cases m <;> rfl

lemma even_flags (e : Entry) : e.flags % 2 = 0 := by
  unfold Entry.flags
  split <;> rfl

lemma packed?_localPart {a : Opened} {e : Entry} {offset : Nat} {rest : Bytes}
    (hname : e.HasShortName) (hplace : a.bytes.drop (a.start + offset) = e.localPart ++ rest) :
    a.packed? (e.header offset) =
      some ⟨e.method.packing, e.packed, e.content.length, (crc32 e.content).toNat⟩ := by
  have hbehind := behindHeader?_localPart (h := e.header offset) hname hplace
  rw [Opened.packed?, if_neg (by simp [Entry.header, even_flags]), hbehind]
  simp [Entry.header, ofCode?_code]

lemma unpack?_packed (e : Entry) :
    Packed.unpack? ⟨e.method.packing, e.packed, e.content.length, (crc32 e.content).toNat⟩ =
      some e.content := by
  rw [Packed.unpack?, Entry.packed]
  cases e.method with
  | stored => simp [Packing.unpack?, Method.packing]
  | deflated => simp [Packing.unpack?, Method.packing, inflate_deflate]

/-- An entry as it is read back. -/
def Entry.member (e : Entry) : Member :=
  ⟨e.name, e.method.packing, e.content⟩

/-- The headers of entries lead to the parts that stand behind any other bytes. -/
lemma member?_headersFrom {a : Opened} {entries : List Entry}
    (hshort : ∀ e ∈ entries, e.HasShortName) {offset : Nat} {rest : Bytes}
    (hplace : a.bytes.drop (a.start + offset) = localParts entries ++ rest) :
    (headersFrom offset entries).mapM a.member? = some (entries.map Entry.member) := by
  induction entries generalizing offset with
  | nil => rfl
  | cons e entries ih =>
    rw [localParts_cons, List.append_assoc] at hplace
    have hnext : a.bytes.drop (a.start + (offset + e.localPart.length)) =
        localParts entries ++ rest := by
      rw [← Nat.add_assoc, ← List.drop_drop, hplace, List.drop_left]
    have hhead : a.member? (e.header offset) = some e.member := by
      rw [Opened.member?, packed?_localPart (hshort e (by simp)) hplace, Option.bind_some,
        unpack?_packed]
      rfl
    rw [headersFrom, List.mapM_cons, hhead, ih (fun d hd => hshort d (by simp [hd])) hnext]
    rfl

lemma members_write {strict : Bool} {entries : List Entry} (h : Writable entries) {a : Opened}
    (ha : open? strict (write entries) = some a) : a.members = headersFrom 0 entries := by
  rw [open?_write strict h] at ha
  cases ha
  apply members_eq_headers
  rw [map_name_headersFrom]
  exact h.distinct

/-- A written archive has the entries that were written, in their order. -/
theorem entries?_write {entries : List Entry} (h : Writable entries) :
    entries? (write entries) = some (entries.map Entry.member) := by
  have hopen := open?_write true h
  have hplace : (write entries).drop (0 + 0) = localParts entries ++ (directory 0 entries ++
      endPart entries.length (directory 0 entries).length (localParts entries).length) := by
    rw [List.drop_zero, write, List.append_assoc]
  rw [entries?, hopen]
  dsimp only
  rw [members_write h hopen]
  exact member?_headersFrom h.short hplace

lemma headersFrom_append (offset : Nat) (front entries : List Entry) :
    headersFrom offset (front ++ entries) =
      headersFrom offset front ++ headersFrom (offset + (localParts front).length) entries := by
  induction front generalizing offset with
  | nil => simp [headersFrom, localParts]
  | cons e front ih =>
    rw [List.cons_append, headersFrom, ih, localParts_cons, List.length_append, headersFrom,
      List.cons_append, Nat.add_assoc]

lemma find?_headersFrom {front : List Entry} {e : Entry} (hnew : e.name ∉ front.map Entry.name)
    (offset : Nat) (rest : List Entry) :
    (headersFrom offset (front ++ e :: rest)).find? (fun h => h.name == e.name) =
      some (e.header (offset + (localParts front).length)) := by
  have hfront : (headersFrom offset front).find? (fun h => h.name == e.name) = none := by
    rw [List.find?_eq_none]
    intro h hh hname
    rw [← map_name_headersFrom offset] at hnew
    exact hnew (List.mem_map.mpr ⟨h, hh, by simpa using hname⟩)
  rw [headersFrom_append, List.find?_append, hfront, headersFrom, Option.none_or,
    List.find?_cons_of_pos (by simp [Entry.header])]

/-- Every entry of a written archive is found by its name, with its content. -/
theorem content_write {strict : Bool} {entries : List Entry} (h : Writable entries) {a : Opened}
    (ha : open? strict (write entries) = some a) {e : Entry} (he : e ∈ entries) :
    a.content e.name = .ok e.content := by
  obtain ⟨front, rest, rfl⟩ := List.append_of_mem he
  have hmembers := members_write h ha
  have hshort : e.HasShortName := h.short e he
  have hnew : e.name ∉ front.map Entry.name := by
    intro hmem
    have hdistinct := h.distinct
    rw [List.map_append, List.nodup_append] at hdistinct
    exact hdistinct.2.2 _ hmem e.name (by simp) rfl
  rw [open?_write strict h] at ha
  cases ha
  have hplace : (write (front ++ e :: rest)).drop (0 + (0 + (localParts front).length)) =
      e.localPart ++ (localParts rest ++ (directory 0 (front ++ e :: rest) ++
        endPart (front ++ e :: rest).length (directory 0 (front ++ e :: rest)).length
          (localParts (front ++ e :: rest)).length)) := by
    rw [Nat.zero_add, Nat.zero_add, write]
    simp only [localParts, List.flatMap_append, List.flatMap_cons, List.append_assoc,
      List.drop_left]
  rw [Opened.content, hmembers, find?_headersFrom hnew, Option.bind_some,
    packed?_localPart hshort hplace]
  dsimp only
  rw [unpack?_packed]

end Entries

end MailMerge.Archive
