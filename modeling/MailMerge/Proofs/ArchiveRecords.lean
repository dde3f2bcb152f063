import MailMerge.Archive.Reader
import MailMerge.Archive.Writer
import MailMerge.Proofs.LenientText
import Mathlib.Tactic.Lemma

/-!
# Records of written archives

Each record of a written archive is read back from in front of any other bytes: the directory's
header of an entry (`header?_directoryPart`), the numbers of the end record and of the wide record
(`listing?_endPart`). Numbers are as large as 64 bits allow.
-/

namespace MailMerge.Archive

open LittleEndian (bytes read? read_bytes)

/-- A read that succeeds hands on what it has read. It is stated of the reader's own `>>=`, whose
rest `simp` does not enter as often as that of `Option.bind`. -/
lemma some_bind {α β : Type} (a : α) (f : α → Option β) : (some a >>= f) = f a := rfl

/-- The header that the directory of an archive has for an entry at a place. -/
def Entry.header (e : Entry) (offset : Nat) : Header where
  flags := e.flags
  method := e.method.code
  checksum := (crc32 e.content).toNat
  packedSize := e.packed.length
  size := e.content.length
  offset := offset
  nameBytes := Utf8.encode e.name
  name := e.name
  comment := []
  sealed := false

/-- A name whose length fits into its field. -/
def Entry.HasShortName (e : Entry) : Prop :=
  (Utf8.encode e.name).length < 65536

lemma pow_256_2 : Nat.pow 256 2 = 65536 := rfl

lemma pow_256_4 : Nat.pow 256 4 = 4294967296 := rfl

lemma pow_256_8 : Nat.pow 256 8 = placeBound := rfl

lemma signed?_append (signature rest : Bytes) :
    signed? signature (signature ++ rest) = some rest := by
  have h : signature.isPrefixOf (signature ++ rest) = true := by simp
  rw [signed?, if_pos h, List.drop_left]

lemma read?_narrow (n : Nat) (rest : Bytes) :
    read? 4 (narrow n ++ rest) = some (min n narrowLimit, rest) := by
  have h : narrowLimit = 4294967295 := rfl
  rw [narrow, read_bytes]
  rw [pow_256_4]
  omega

lemma length_wide (n : Nat) : (wide n).length = if n < narrowLimit then 0 else 8 := by
  unfold wide
  split <;> simp

/-- The length of the wide fields of three numbers. -/
def wideLength (a b c : Nat) : Nat :=
  (wide a).length + (wide b).length + (wide c).length

/-- A field of three numbers holds all there are, so a shorter one names its numbers by their
narrow fields. -/
lemma isWide_narrow {a b c n : Nat} (hn : n ∈ [a, b, c]) :
    Header.isWide (min n narrowLimit) (wideLength a b c) = decide (narrowLimit ≤ n) := by
  have hlimit : narrowLimit = 0xFFFFFFFF := rfl
  have ha := length_wide a
  have hb := length_wide b
  have hc := length_wide c
  have hcases : n = a ∨ n = b ∨ n = c := by simpa using hn
  rw [Header.isWide, ← hlimit, wideLength, Bool.eq_iff_iff]
  simp only [Bool.or_eq_true, decide_eq_true_eq]
  split at ha <;> split at hb <;> split at hc <;> omega

lemma length_filter_isWide (a b c : Nat) :
    8 * ([min a narrowLimit, min b narrowLimit, min c narrowLimit].filter fun n =>
      Header.isWide n (wideLength a b c)).length = wideLength a b c := by
  have ha := isWide_narrow (a := a) (b := b) (c := c) (n := a) (by simp)
  have hb := isWide_narrow (a := a) (b := b) (c := c) (n := b) (by simp)
  have hc := isWide_narrow (a := a) (b := b) (c := c) (n := c) (by simp)
  rw [List.filter_cons, List.filter_cons, List.filter_cons, ha, hb, hc]
  simp only [List.filter_nil, wideLength, length_wide]
  by_cases h1 : narrowLimit ≤ a <;> by_cases h2 : narrowLimit ≤ b <;>
    by_cases h3 : narrowLimit ≤ c <;> simp [h1, h2, h3, Nat.not_lt.mpr, Nat.lt_of_not_le]

lemma read?_wide {a b c n : Nat} (hn : n ∈ [a, b, c]) (hbound : n < placeBound) (rest : Bytes) :
    (if Header.isWide (min n narrowLimit) (wideLength a b c) then read? 8 (wide n ++ rest)
      else some (min n narrowLimit, wide n ++ rest)) = some (n, rest) := by
  rw [isWide_narrow hn]
  by_cases h : narrowLimit ≤ n
  · rw [if_pos (by simpa using h), wide, if_neg (by omega), read_bytes (pow_256_8 ▸ hbound)]
  · rw [if_neg (by simpa using h), wide, if_pos (by omega), Nat.min_eq_left (by omega)]
    rfl

lemma readLarge_of_reads {h : Header} {length size packedSize offset : Nat} {bs bs' bs'' : Bytes}
    (hsize : (if Header.isWide h.size length then read? 8 bs else some (h.size, bs)) =
      some (size, bs'))
    (hpacked : (if Header.isWide h.packedSize length then read? 8 bs'
      else some (h.packedSize, bs')) = some (packedSize, bs''))
    (hoffset : (if Header.isWide h.offset length then read? 8 bs'' else some (h.offset, bs'')) =
      some (offset, []))
    (hcount : 8 * ([h.size, h.packedSize, h.offset].filter fun n =>
      Header.isWide n length).length = length) :
    h.readLarge length bs =
      .more { h with size := size, packedSize := packedSize, offset := offset } [] := by
  simp only [Header.readLarge, hsize, hpacked, hoffset, hcount]
  simp

/-- The header as its own fields give it, with large numbers left to the wide field. -/
def Entry.narrowHeader (e : Entry) (offset : Nat) : Header :=
  { e.header offset with
    packedSize := min e.packed.length narrowLimit
    size := min e.content.length narrowLimit
    offset := min offset narrowLimit }

lemma length_wideNumbers (e : Entry) (offset : Nat) :
    (e.wideNumbers offset).length = wideLength e.content.length e.packed.length offset := by
  simp [Entry.wideNumbers, wideLength, Nat.add_assoc]

lemma readLarge_wideNumbers (e : Entry) {offset : Nat} (hsize : e.content.length < placeBound)
    (hpacked : e.packed.length < placeBound) (hoffset : offset < placeBound) :
    (e.narrowHeader offset).readLarge (e.wideNumbers offset).length (e.wideNumbers offset) =
      .more (e.header offset) [] := by
  rw [length_wideNumbers, Entry.wideNumbers, List.append_assoc]
  have hlast := read?_wide (a := e.content.length) (b := e.packed.length) (c := offset) (by simp)
    hoffset []
  rw [List.append_nil] at hlast
  exact readLarge_of_reads (read?_wide (by simp) hsize _) (read?_wide (by simp) hpacked _) hlast
    (length_filter_isWide _ _ _)

lemma length_wideNumbers_le (e : Entry) (offset : Nat) :
    (e.wideNumbers offset).length ≤ 24 := by
  have h1 := length_wide e.content.length
  have h2 := length_wide e.packed.length
  have h3 := length_wide offset
  rw [length_wideNumbers, wideLength]
  split at h1 <;> split at h2 <;> split at h3 <;> omega

lemma readFields_nil (strict : Bool) (fuel : Nat) (h : Header) :
    Header.readFields strict fuel h [] = some h := by
  cases fuel <;> rfl

lemma readFields_wideField (strict : Bool) (e : Entry) {offset : Nat}
    (hsize : e.content.length < placeBound) (hpacked : e.packed.length < placeBound)
    (hoffset : offset < placeBound) :
    (e.narrowHeader offset).readFields strict ((e.wideField offset).length + 1)
      (e.wideField offset) = some (e.header offset) := by
  have hlarge := readLarge_wideNumbers e hsize hpacked hoffset
  by_cases h : (e.wideNumbers offset).isEmpty
  · have hlength : wideLength e.content.length e.packed.length offset = 0 := by
      rw [← length_wideNumbers, List.isEmpty_iff.mp h, List.length_nil]
    have hnarrow : e.narrowHeader offset = e.header offset := by
      have h1 := length_wide e.content.length
      have h2 := length_wide e.packed.length
      have h3 := length_wide offset
      unfold wideLength at hlength
      have hsize' : min e.content.length narrowLimit = e.content.length := by
        split at h1 <;> omega
      have hpacked' : min e.packed.length narrowLimit = e.packed.length := by
        split at h2 <;> omega
      have hoffset' : min offset narrowLimit = offset := by split at h3 <;> omega
      rw [Entry.narrowHeader, hsize', hpacked', hoffset']
      rfl
    rw [Entry.wideField, if_pos h, readFields_nil, hnarrow]
  · have hlength : (e.wideNumbers offset).length < Nat.pow 256 2 :=
      Nat.lt_of_le_of_lt (length_wideNumbers_le e offset) (by decide)
    rw [Entry.wideField, if_neg h, Header.readFields, List.append_assoc,
      read_bytes (by decide)]
    dsimp only
    rw [read_bytes hlength]
    dsimp only
    rw [Header.readField, if_pos rfl, hlarge]
    exact readFields_nil ..

lemma char?_ascii (page : CodePage) {c : Char} (h : c.toNat < 128) :
    page.char? (UInt8.ofNat c.toNat) = some c := by
  have hb := Utf8.toNat_ofNat_of_lt (n := c.toNat) (by omega)
  have hlt : UInt8.ofNat c.toNat < 128 := UInt8.lt_iff_toNat_lt.mpr (by rw [hb]; exact h)
  rw [CodePage.char?, if_pos hlt, hb, Char.ofNat_toNat]

lemma map_char?_encode (page : CodePage) {cs : List Char} (h : ∀ c ∈ cs, c.toNat < 128) :
    (cs.flatMap String.utf8EncodeChar).map (fun b => (page.char? b).getD ' ') = cs := by
  induction cs with
  | nil => rfl
  | cons c cs ih =>
    have hc := h c (by simp)
    have hone : String.utf8EncodeChar c = [UInt8.ofNat c.toNat] := by
      have hv : c.val.toNat ≤ 0x7f := Nat.le_of_lt_succ hc
      rw [String.utf8EncodeChar, if_pos hv]
      rfl
    rw [List.flatMap_cons, hone, List.map_append, ih fun d hd => h d (by simp [hd])]
    simp [char?_ascii page hc]

lemma decodeName_encode (e : Entry) : decodeName e.flags (Utf8.encode e.name) = e.name := by
  by_cases h : e.name.toList.all fun c => c.toNat < 128
  · have hflags : e.flags = 0 := by rw [Entry.flags, if_pos h]
    have hascii : ∀ c ∈ e.name.toList, c.toNat < 128 := by simpa using h
    rw [hflags, decodeName, if_neg (by decide), Utf8.encode_eq_flatMap,
      map_char?_encode _ hascii, String.ofList_toList]
  · have hflags : e.flags = textFlag := by rw [Entry.flags, if_neg h]
    rw [hflags, decodeName, if_pos (by decide), Utf8.decodeLossy_encode]

lemma decodeName_nil (flags : Nat) : decodeName flags [] = "" := by
  unfold decodeName
  split <;> rfl

lemma encode_empty : Utf8.encode "" = [] := by
  rw [Utf8.encode_eq_flatMap]
  simp

lemma flags_lt (e : Entry) : e.flags < 65536 := by
  unfold Entry.flags
  split <;> decide

lemma code_lt (m : Method) : m.code < 65536 := by
  cases m <;> decide

lemma read?_append {width : Nat} {front : Bytes} (h : front.length = width) (rest : Bytes) :
    read? width (front ++ rest) = some (LittleEndian.value front, rest) := by
  subst h
  induction front with
  | nil => rfl
  | cons b front ih => simp [read?, LittleEndian.value, ih]

lemma read?_pair (m n : Nat) (rest : Bytes) : read? 4 (bytes 2 m ++ (bytes 2 n ++ rest)) =
    some (LittleEndian.value (bytes 2 m ++ bytes 2 n), rest) := by
  rw [← List.append_assoc]
  exact read?_append (by simp) rest

lemma length_wideField_le (e : Entry) (offset : Nat) : (e.wideField offset).length ≤ 28 := by
  have h := length_wideNumbers_le e offset
  unfold Entry.wideField
  split
  · simp
  · simp only [List.length_append, LittleEndian.length_bytes]
    omega

/-- The directory's header of an entry is read back, whatever follows it. -/
lemma header?_directoryPart (strict : Bool) (e : Entry) {offset : Nat} (hname : e.HasShortName)
    (hsize : e.content.length < placeBound) (hpacked : e.packed.length < placeBound)
    (hoffset : offset < placeBound) (rest : Bytes) :
    header? strict (e.directoryPart offset ++ rest) = some (e.header offset, rest) := by
  have hfields := readFields_wideField strict e hsize hpacked hoffset
  have hwide : (e.wideField offset).length < Nat.pow 256 2 :=
    Nat.lt_of_le_of_lt (length_wideField_le e offset) (by decide)
  have hname' : (Utf8.encode e.name).length < Nat.pow 256 2 := hname
  have hcrc : (crc32 e.content).toNat < Nat.pow 256 4 := UInt32.toNat_lt _
  have hmethod : (e.header offset).method ≠ sealedMethod := by
    cases h : e.method <;> simp [Entry.header, h, Method.code, sealedMethod]
  have hattributes (bs : Bytes) : read? 8 (bytes 2 0 ++ (bytes 2 0 ++ (bytes 4 0 ++ bs))) =
      some (LittleEndian.value (bytes 2 0 ++ bytes 2 0 ++ bytes 4 0), bs) := by
    rw [← List.append_assoc, ← List.append_assoc]
    exact read?_append (by simp) bs
  simp only [header?, Entry.directoryPart, Entry.sharedFields, List.append_assoc, signed?_append,
    read?_pair, read_bytes (pow_256_2 ▸ flags_lt e), read_bytes (pow_256_2 ▸ code_lt e.method),
    read_bytes hcrc, read?_narrow, read_bytes hname', read_bytes hwide,
    hattributes, read_bytes (show 0 < Nat.pow 256 2 by decide), some_bind]
  rw [if_neg (by simp)]
  simp only [List.drop_left, List.take_left, List.take_zero, List.drop_zero, decodeName_encode,
    decodeName_nil, encode_empty]
  change ((e.narrowHeader offset).readFields strict _ _).bind _ = _
  rw [hfields, Option.bind_some]
  simp [hmethod]

lemma length_narrow (n : Nat) : (narrow n).length = 4 := LittleEndian.length_bytes ..

lemma length_endRecord (count size offset : Nat) : (endRecord count size offset).length = 22 := by
  simp [endRecord, length_narrow, endSignature]

lemma length_wideRecord (count size offset : Nat) : (wideRecord count size offset).length = 56 := by
  simp [wideRecord, wideSignature]

lemma length_locator (place : Nat) : (locator place).length = locatorSize := by
  simp [locator, locatorSignature, locatorSize]

/-- The end record of a directory behind the entries, as it is read. -/
def narrowEnd (count offset : Nat) : EndRecord :=
  ⟨min count countLimit, min count countLimit, min offset narrowLimit, true⟩

lemma endRecord?_endRecord (count size offset : Nat) :
    endRecord? (endRecord count size offset) = some (narrowEnd count offset) := by
  have hcount : min count countLimit < Nat.pow 256 2 :=
    Nat.lt_of_le_of_lt (Nat.min_le_right ..) (by decide)
  have hzero : 0 < Nat.pow 256 2 := by decide
  have hlast := read_bytes hzero []
  rw [List.append_nil] at hlast
  simp only [endRecord?, endRecord, List.append_assoc, signed?_append, read_bytes hzero,
    read_bytes hcount, read?_narrow, hlast, some_bind]
  simp [narrowEnd]

lemma locator?_locator {place : Nat} (hplace : place < placeBound) (rest : Bytes) :
    locator? (locator place ++ rest) = some ⟨0, place, 1⟩ := by
  simp only [locator?, locator, List.append_assoc, signed?_append,
    read_bytes (show 0 < Nat.pow 256 4 by decide), read_bytes (show 1 < Nat.pow 256 4 by decide),
    read_bytes (pow_256_8 ▸ hplace), some_bind]
  rfl

lemma wideRecord?_wideRecord {count size offset : Nat} (hcount : count * headerSize ≤ size)
    (hplace : offset + size < placeBound) (rest : Bytes) :
    wideRecord? ⟨0, offset + size, 1⟩ (offset + size) 56 (wideRecord count size offset ++ rest) =
      some ⟨count, count, offset, true⟩ := by
  have hcount' : count < Nat.pow 256 8 := by
    rw [headerSize] at hcount
    rw [pow_256_8]
    omega
  have hsize : size < Nat.pow 256 8 := by
    rw [pow_256_8]
    omega
  have hoffset : offset < Nat.pow 256 8 := by
    rw [pow_256_8]
    omega
  simp only [wideRecord?, wideRecord, List.append_assoc, signed?_append,
    read_bytes (show 44 < Nat.pow 256 8 by decide), read?_pair,
    read_bytes (show 0 < Nat.pow 256 4 by decide), read_bytes hcount', read_bytes hsize,
    read_bytes hoffset, some_bind]
  rw [if_pos (by simp; omega)]
  rfl

/-- A directory at a place with as many headers as a count tells. -/
structure IsDirectory (listing : Bytes) (count offset : Nat) : Prop where
  headers : count * headerSize ≤ listing.length
  place : offset + listing.length < placeBound
  signed : 0 < count → ∃ rest, listing = directorySignature ++ rest
  empty : count = 0 → offset = 0 ∧ listing = []

lemma isNarrow_narrowEnd (count offset : Nat) :
    (narrowEnd count offset).isNarrow = decide (countLimit ≤ count ∨ narrowLimit ≤ offset) := by
  have hcount : countLimit = 0xFFFF := rfl
  have hnarrow : narrowLimit = 0xFFFFFFFF := rfl
  rw [narrowEnd, EndRecord.isNarrow, Bool.eq_iff_iff]
  simp only [Bool.or_eq_true, decide_eq_true_eq]
  omega

section

variable {parts listing : Bytes} {count : Nat}

lemma listing?_narrowEnd (h : IsDirectory listing count parts.length)
    (hfits : count < countLimit ∧ parts.length < narrowLimit) (behind : Bytes) (place : Nat)
    (hplace : parts.length + listing.length ≤ place) (hempty : count = 0 → place = 0) :
    (narrowEnd count parts.length).listing? (parts ++ listing ++ behind) place =
      some ⟨count, parts.length, 0⟩ := by
  have hrecord : narrowEnd count parts.length = ⟨count, count, parts.length, true⟩ := by
    rw [narrowEnd, Nat.min_eq_left (by omega), Nat.min_eq_left (by omega)]
  rw [hrecord]
  by_cases hcount : count = 0
  · have hparts := (h.empty hcount).1
    simp [EndRecord.listing?, hcount, hempty hcount, hparts]
  · obtain ⟨rest, hrest⟩ := h.signed (by omega)
    have hsize : 0 < listing.length := by simp [hrest, directorySignature]
    have hfound : findSignature directorySignature (place - parts.length)
        ((parts ++ listing ++ behind).drop parts.length) = some 0 := by
      obtain ⟨n, hn⟩ : ∃ n, place - parts.length = n + 1 := ⟨place - parts.length - 1, by omega⟩
      rw [hn, List.append_assoc, List.drop_left, hrest, findSignature, if_pos (by simp)]
    have hlt : ¬ place ≤ parts.length := by omega
    simp only [EndRecord.listing?, if_neg hcount, if_neg hlt, hfound]
    rfl

lemma listing?_locator (h : IsDirectory listing count parts.length) (behind : Bytes) :
    Locator.listing? ⟨0, parts.length + listing.length, 1⟩
      (parts ++ listing ++ (wideRecord count listing.length parts.length ++ behind))
      (parts.length + listing.length + 56) = some ⟨count, parts.length, 0⟩ := by
  have hdrop : (parts ++ listing ++ (wideRecord count listing.length parts.length ++ behind)).drop
      (parts.length + listing.length) = wideRecord count listing.length parts.length ++ behind := by
    rw [← List.length_append, List.drop_left]
  have hrecord := wideRecord?_wideRecord h.headers h.place behind
  have hfound : findWide ⟨0, parts.length + listing.length, 1⟩ (parts.length + listing.length) 56
      (wideRecord count listing.length parts.length ++ behind) =
      some (⟨count, count, parts.length, true⟩, parts.length + listing.length) := by
    rw [findWide, hrecord]
  have hlt : ¬ parts.length + listing.length + 56 ≤ parts.length + listing.length := by omega
  simp only [Locator.listing?, Nat.add_sub_cancel_left, hdrop, hfound]
  simp

lemma place_endRecord (front : Bytes) (size offset : Nat) :
    (front ++ endRecord count size offset).length - 22 = front.length := by
  rw [List.length_append, length_endRecord]
  omega

lemma listing?_endRecord (h : IsDirectory listing count parts.length)
    (hneeds : ¬ needsWide count listing.length parts.length) :
    listing? (parts ++ listing ++ endRecord count listing.length parts.length)
      (parts ++ listing).length = some ⟨count, parts.length, 0⟩ := by
  have hfits : count < countLimit ∧ parts.length < narrowLimit := by
    simp only [needsWide, Bool.or_eq_true, decide_eq_true_eq, not_or] at hneeds
    omega
  have hnarrow : (narrowEnd count parts.length).isNarrow = false := by
    rw [isNarrow_narrowEnd]
    exact decide_eq_false (by omega)
  rw [listing?, List.drop_left, endRecord?_endRecord]
  simp only [hnarrow, Bool.false_and, Bool.false_eq_true, if_false]
  exact listing?_narrowEnd h hfits _ _ (by simp) (fun hcount => by simp [h.empty hcount])

/-- Behind a wide record the narrow one counts only where its numbers are the true ones. -/
lemma listing?_wideRecord (h : IsDirectory listing count parts.length)
    (hneeds : needsWide count listing.length parts.length) :
    listing? (parts ++ listing ++ wideRecord count listing.length parts.length ++
        locator (parts.length + listing.length) ++
        endRecord count listing.length parts.length)
      (parts ++ listing ++ wideRecord count listing.length parts.length ++
        locator (parts.length + listing.length)).length = some ⟨count, parts.length, 0⟩ := by
  have hplace : (parts ++ listing ++ wideRecord count listing.length parts.length ++
      locator (parts.length + listing.length)).length - locatorSize =
      (parts ++ listing ++ wideRecord count listing.length parts.length).length := by
    rw [List.length_append, length_locator, Nat.add_sub_cancel]
  have hlength : (parts ++ listing ++ wideRecord count listing.length parts.length).length =
      parts.length + listing.length + 56 := by
    rw [List.length_append, List.length_append, length_wideRecord]
  rw [listing?, List.drop_left, endRecord?_endRecord]
  dsimp only
  by_cases hnarrow : (narrowEnd count parts.length).isNarrow
  · -- A number is at its limit, so the wide record is looked for behind its locator.
    have hfar : locatorSize ≤ (parts ++ listing ++
        wideRecord count listing.length parts.length ++
        locator (parts.length + listing.length)).length := by
      rw [List.length_append, length_locator]
      omega
    have hlocated : (parts ++ listing ++ wideRecord count listing.length parts.length ++
        locator (parts.length + listing.length) ++
        endRecord count listing.length parts.length).drop
        (parts ++ listing ++ wideRecord count listing.length parts.length).length =
        locator (parts.length + listing.length) ++
          endRecord count listing.length parts.length := by
      rw [List.append_assoc (parts ++ listing ++ wideRecord ..), List.drop_left]
    rw [hnarrow, decide_eq_true hfar, Bool.and_self, if_pos rfl, hplace, hlocated,
      locator?_locator h.place]
    dsimp only
    rw [hlength, List.append_assoc (parts ++ listing), List.append_assoc (parts ++ listing)]
    exact listing?_locator h _
  · have hfits : count < countLimit ∧ parts.length < narrowLimit := by
      rw [isNarrow_narrowEnd] at hnarrow
      simp only [decide_eq_true_eq, not_or] at hnarrow
      omega
    rw [Bool.not_eq_true] at hnarrow
    simp only [hnarrow, Bool.false_and, Bool.false_eq_true, if_false]
    rw [List.append_assoc (parts ++ listing), List.append_assoc (parts ++ listing)]
    refine listing?_narrowEnd h hfits _ _ ?_ fun hcount => ?_
    · rw [List.length_append, List.length_append]
      omega
    · obtain ⟨hparts, hlisting⟩ := h.empty hcount
      rw [hcount, hparts, hlisting] at hneeds
      exact absurd hneeds (by decide)

/-- The end of an archive leads to its directory, with a wide record and without one. -/
theorem listing?_endPart (h : IsDirectory listing count parts.length) :
    listing? (parts ++ listing ++ endPart count listing.length parts.length)
      ((parts ++ listing ++ endPart count listing.length parts.length).length - 22) =
      some ⟨count, parts.length, 0⟩ := by
  unfold endPart
  split
  · next hneeds =>
    rw [← List.append_assoc, ← List.append_assoc, place_endRecord]
    exact listing?_wideRecord h hneeds
  · next hneeds =>
    rw [place_endRecord]
    exact listing?_endRecord h hneeds

end

end MailMerge.Archive
