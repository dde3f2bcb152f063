import MailMerge.Proofs.LenientText
import MailMerge.Proofs.TableRecords
import MailMerge.Table

/-!
# Reading quoted tables

A table is written with every field in quotes, a quote inside a field being doubled. Reading gives
every row back with its cells unchanged, whatever characters they have and whichever line ends stand
behind the rows (`quoted_tables_are_read_back`).

A line end of two bytes ends a record at its first one; the second is in front of the next record,
where it counts as a blank line.
-/

namespace MailMerge.Csv

inductive LineEnd where
  | lineFeed
  | returnLineFeed
  deriving DecidableEq, Repr

def LineEnd.chars : LineEnd → List Char
  | lineFeed => ['\n']
  | returnLineFeed => ['\r', '\n']

/-- A row of a table and what ends its line. -/
structure Line where
  cells : List String
  lineEnd : LineEnd
  hasCell : cells ≠ []

section Writing

def doubled (c : Char) : List Char :=
  if c = '"' then ['"', '"'] else [c]

/-- A field in quotes, with the quotes inside it doubled. -/
def quotedField (cell : String) : List Char :=
  '"' :: (cell.toList.flatMap doubled ++ ['"'])

def Line.chars (l : Line) : List Char :=
  Text.join [','] (l.cells.map quotedField) ++ l.lineEnd.chars

/-- A header and rows as a text. -/
def quotedTable (header : Line) (rows : List Line) : String :=
  String.ofList ((header :: rows).flatMap Line.chars)

end Writing

section Bytes

/-- The bytes of characters. -/
def bytesOf (cs : List Char) : Bytes :=
  cs.flatMap String.utf8EncodeChar

lemma bytesOf_append (cs ds : List Char) : bytesOf (cs ++ ds) = bytesOf cs ++ bytesOf ds :=
  List.flatMap_append

lemma bytesOf_cons (c : Char) (cs : List Char) :
    bytesOf (c :: cs) = String.utf8EncodeChar c ++ bytesOf cs :=
  List.flatMap_cons

lemma encode_ofList (cs : List Char) : Utf8.encode (String.ofList cs) = bytesOf cs := by
  rw [Utf8.encode_eq_flatMap, String.toList_ofList, bytesOf]

lemma bytesOf_toList (s : String) : bytesOf s.toList = Utf8.encode s :=
  (Utf8.encode_eq_flatMap s).symm

lemma ne_quote_of_mem {c : Char} (hc : c ≠ '"') {b : UInt8} (hb : b ∈ String.utf8EncodeChar c) :
    b ≠ quote := by
  intro hquote
  have hvalue : c.val.toNat ≠ 34 := fun h => hc (Char.toNat_inj.mp h)
  have hbyte : b.toNat = 34 := by rw [hquote]; rfl
  unfold String.utf8EncodeChar at hb
  dsimp only at hb
  split at hb
  · rw [List.mem_singleton.mp hb, UInt8.toNat_ofNat'] at hbyte
    omega
  -- All bytes of longer characters are 128 or more.
  · split at hb
    · simp only [List.mem_cons, List.not_mem_nil, or_false] at hb
      rcases hb with rfl | rfl <;> rw [UInt8.toNat_ofNat'] at hbyte <;> omega
    · split at hb
      · simp only [List.mem_cons, List.not_mem_nil, or_false] at hb
        rcases hb with rfl | rfl | rfl <;> rw [UInt8.toNat_ofNat'] at hbyte <;> omega
      · simp only [List.mem_cons, List.not_mem_nil, or_false] at hb
        rcases hb with rfl | rfl | rfl | rfl <;> rw [UInt8.toNat_ofNat'] at hbyte <;> omega

end Bytes

section Fields

variable {mode : Mode} {field : Bytes} {fields : List Bytes}

lemma readRecord_quoted {bs : Bytes} (h : ∀ b ∈ bs, b ≠ quote) (rest : Bytes) :
    readRecord .quoted field fields (bs ++ rest) =
      readRecord .quoted (bs.reverse ++ field) fields rest := by
  induction bs generalizing field with
  | nil => rfl
  | cons b bs ih =>
    have hb := h b (by simp)
    rw [List.cons_append, readRecord]
    simp only [if_neg hb]
    rw [ih fun b' hb' => h b' (by simp [hb']), List.reverse_cons, List.append_assoc,
      List.singleton_append]

lemma readRecord_doubled (c : Char) (rest : Bytes) :
    readRecord .quoted field fields (bytesOf (doubled c) ++ rest) =
      readRecord .quoted ((String.utf8EncodeChar c).reverse ++ field) fields rest := by
  by_cases hc : c = '"'
  · subst hc
    rfl
  · have hsingle : bytesOf (doubled c) = String.utf8EncodeChar c := by
      rw [doubled, if_neg hc, bytesOf, List.flatMap_singleton]
    rw [hsingle]
    exact readRecord_quoted (fun b hb => ne_quote_of_mem hc hb) rest

lemma readRecord_flatMap_doubled (cs : List Char) (rest : Bytes) :
    readRecord .quoted field fields (bytesOf (cs.flatMap doubled) ++ rest) =
      readRecord .quoted ((bytesOf cs).reverse ++ field) fields rest := by
  induction cs generalizing field with
  | nil => rfl
  | cons c cs ih =>
    rw [List.flatMap_cons, bytesOf_append, List.append_assoc, readRecord_doubled, ih, bytesOf_cons,
      List.reverse_append, List.append_assoc]

/-- A field in quotes is read up to its closing quote. -/
lemma readRecord_quotedField (hmode : mode = .recordStart ∨ mode = .fieldStart) (cell : String)
    (rest : Bytes) :
    readRecord mode [] fields (bytesOf (quotedField cell) ++ rest) =
      readRecord .quoteSeen (Utf8.encode cell).reverse fields rest := by
  have hfield : bytesOf (quotedField cell) ++ rest =
      quote :: (bytesOf (cell.toList.flatMap doubled) ++ quote :: rest) := by
    rw [quotedField, bytesOf_cons, bytesOf_append, List.append_assoc, List.append_assoc]
    rfl
  have hopen (bs : Bytes) : readRecord mode [] fields (quote :: bs) =
      readRecord .quoted [] fields bs := by
    rcases hmode with rfl | rfl
    · rfl
    · rfl
  have hclose (bs : Bytes) : readRecord .quoted (Utf8.encode cell).reverse fields (quote :: bs) =
      readRecord .quoteSeen (Utf8.encode cell).reverse fields bs := rfl
  rw [hfield, hopen, readRecord_flatMap_doubled, bytesOf_toList, List.append_nil, hclose]

end Fields

section Records

/-- What is left of a line end when its first byte has ended a record. -/
def LineEnd.behind : LineEnd → Bytes
  | lineFeed => []
  | returnLineFeed => [10]

lemma readRecord_comma (field : Bytes) (fields : List Bytes) (rest : Bytes) :
    readRecord .quoteSeen field fields (bytesOf [','] ++ rest) =
      readRecord .fieldStart [] (field.reverse :: fields) rest := rfl

lemma readRecord_lineEnd (field : Bytes) (fields : List Bytes) (e : LineEnd) (rest : Bytes) :
    readRecord .quoteSeen field fields (bytesOf e.chars ++ rest) =
      some ((field.reverse :: fields).reverse, e.behind ++ rest) := by
  cases e with
  | lineFeed => rfl
  | returnLineFeed => rfl

lemma readRecord_behind (e : LineEnd) (rest : Bytes) :
    readRecord .recordStart [] [] (e.behind ++ rest) = readRecord .recordStart [] [] rest := by
  cases e with
  | lineFeed => rfl
  | returnLineFeed => rfl

lemma readRecord_cells {cells : List String} (h : cells ≠ []) (e : LineEnd) (rest : Bytes)
    {mode : Mode} (hmode : mode = .recordStart ∨ mode = .fieldStart) (fields : List Bytes) :
    readRecord mode [] fields
        (bytesOf (Text.join [','] (cells.map quotedField)) ++ (bytesOf e.chars ++ rest)) =
      some (fields.reverse ++ cells.map Utf8.encode, e.behind ++ rest) := by
  induction cells generalizing mode fields with
  | nil => exact absurd rfl h
  | cons cell cells ih =>
    cases cells with
    | nil =>
      have hlast : Text.join [','] ([cell].map quotedField) = quotedField cell := rfl
      rw [hlast, readRecord_quotedField hmode, readRecord_lineEnd, List.reverse_reverse]
      simp
    | cons next cells =>
      have hmore : Text.join [','] ((cell :: next :: cells).map quotedField) =
          quotedField cell ++ ([','] ++ Text.join [','] ((next :: cells).map quotedField)) := by
        rw [List.map_cons, Text.join_cons_of_ne_nil _ _ (by simp), List.append_assoc]
      rw [hmore, bytesOf_append, bytesOf_append, List.append_assoc, List.append_assoc,
        readRecord_quotedField hmode, readRecord_comma, ih (by simp) (.inr rfl),
        List.reverse_reverse]
      simp

lemma readRecord_line (l : Line) (rest : Bytes) :
    readRecord .recordStart [] [] (bytesOf l.chars ++ rest) =
      some (l.cells.map Utf8.encode, l.lineEnd.behind ++ rest) := by
  rw [Line.chars, bytesOf_append, List.append_assoc]
  exact readRecord_cells l.hasCell l.lineEnd rest (.inl rfl) []

lemma decodeFields_encode (place : Place) (i : Nat) (cells : List String) :
    decodeFields place i (cells.map Utf8.encode) = .ok cells := by
  induction cells generalizing i with
  | nil => rfl
  | cons cell cells ih =>
    rw [List.map_cons, decodeFields, Utf8.decode_encode]
    dsimp only
    rw [ih]
    rfl

/-- Every line is read as one record, behind what is left of the line end before it. -/
lemma records_lines (lines : List Line) (e : LineEnd) {fuel : Nat} (h : lines.length < fuel)
    (place : Place) :
    records fuel place (e.behind ++ bytesOf (lines.flatMap Line.chars)) =
      lines.map fun l => .ok l.cells := by
  induction lines generalizing e fuel place with
  | nil =>
    obtain ⟨n, rfl⟩ := Nat.exists_eq_add_of_lt h
    rw [records, readRecord_behind]
    rfl
  | cons l lines ih =>
    obtain ⟨n, rfl⟩ : ∃ n, fuel = n + 1 := ⟨fuel - 1, by omega⟩
    have hn : lines.length < n := by
      rw [List.length_cons] at h
      omega
    rw [records, List.flatMap_cons, bytesOf_append, readRecord_behind, readRecord_line]
    dsimp only
    rw [decodeFields_encode]
    dsimp only
    rw [ih l.lineEnd hn, List.map_cons]

lemma rows_ok (line : Nat) (lines : List Line) :
    rows line (lines.map fun l => .ok l.cells) = .ok (lines.map Line.cells) := by
  induction lines generalizing line with
  | nil => rfl
  | cons l lines ih =>
    rw [List.map_cons, rows, ih]
    rfl

end Records

section Tables

lemma exists_bytesOf_lines (l : Line) (lines : List Line) :
    ∃ rest, bytesOf ((l :: lines).flatMap Line.chars) = quote :: rest := by
  obtain ⟨cell, cells, hcells⟩ := List.exists_cons_of_ne_nil l.hasCell
  have hjoin : ∃ cs, Text.join [','] (l.cells.map quotedField) = quotedField cell ++ cs := by
    rw [hcells]
    cases cells with
    | nil => exact ⟨[], (List.append_nil _).symm⟩
    | cons next cells =>
      refine ⟨[','] ++ Text.join [','] ((next :: cells).map quotedField), ?_⟩
      rw [List.map_cons, Text.join_cons_of_ne_nil _ _ (by simp), List.append_assoc]
  obtain ⟨cs, hcs⟩ := hjoin
  rw [List.flatMap_cons, Line.chars, hcs, quotedField, List.cons_append, List.cons_append,
    List.cons_append, bytesOf_cons]
  exact ⟨_, rfl⟩

lemma length_le_length_bytesOf (lines : List Line) :
    lines.length ≤ (bytesOf (lines.flatMap Line.chars)).length := by
  induction lines with
  | nil => simp
  | cons l lines ih =>
    obtain ⟨rest, hrest⟩ := exists_bytesOf_lines l []
    rw [List.flatMap_singleton] at hrest
    rw [List.flatMap_cons, bytesOf_append, List.length_append, hrest, List.length_cons,
      List.length_cons]
    omega

lemma read_of_records {bytes : Bytes} (hmark : byteOrderMark.isPrefixOf bytes = false)
    {header : List String} {table : List (List String)}
    {found : List (Except Fault (List String))}
    (hrecords : records (bytes.length + 1) ⟨0, 0, 0⟩ bytes = .ok header :: found)
    (hrows : rows 2 found = .ok table) :
    read bytes = .ok (header.map Text.trimmed, table) := by
  simp only [read, hmark, Bool.false_eq_true, if_false, List.drop_zero, hrecords, hrows]
  rfl

lemma read_byteOrderMark {bytes : Bytes} (hmark : byteOrderMark.isPrefixOf bytes = false) :
    read (byteOrderMark ++ bytes) = read bytes := by
  have hfront : byteOrderMark.isPrefixOf (byteOrderMark ++ bytes) = true := rfl
  have hdrop : (byteOrderMark ++ bytes).drop 3 = bytes := rfl
  simp only [read, hfront, hdrop, hmark, Bool.false_eq_true, if_true, if_false]

lemma isPrefixOf_quotedTable (header : Line) (lines : List Line) :
    byteOrderMark.isPrefixOf (Utf8.encode (quotedTable header lines)) = false := by
  obtain ⟨rest, hrest⟩ := exists_bytesOf_lines header lines
  rw [quotedTable, encode_ofList, hrest]
  rfl

/-- The header of a quoted table is read with its names trimmed, and its rows as they are. -/
theorem read_quotedTable (header : Line) (lines : List Line) :
    read (Utf8.encode (quotedTable header lines)) =
      .ok (header.cells.map Text.trimmed, lines.map Line.cells) := by
  have hlength := length_le_length_bytesOf (header :: lines)
  have hrecords := records_lines (header :: lines) .lineFeed (Nat.lt_succ_of_le hlength) ⟨0, 0, 0⟩
  rw [← encode_ofList, ← quotedTable] at hrecords
  exact read_of_records (isPrefixOf_quotedTable header lines) hrecords (rows_ok 2 lines)

/-- A quoted table has one record for each row, with the named columns that the row reaches and
its cells unchanged, and so it has with a byte order mark in front of it. -/
theorem quoted_tables_are_read_back (header : Line) (lines : List Line) :
    ∃ records,
      TableReader.spreadsheet.read (Utf8.encode (quotedTable header lines)) "csv" = .ok records ∧
      TableReader.spreadsheet.read (byteOrderMark ++ Utf8.encode (quotedTable header lines)) "csv" =
        .ok records ∧
      List.Forall₂ (fun l r => Record.IsRecordOf header.cells l.cells r) lines records := by
  have hcsv (bytes : Bytes) : TableReader.spreadsheet.read bytes "csv" =
      (read bytes).map fun table => table.2.map (Record.ofRow table.1) := rfl
  refine ⟨lines.map fun l => Record.ofRow (header.cells.map Text.trimmed) l.cells, ?_, ?_, ?_⟩
  · rw [hcsv, read_quotedTable]
    simp [Except.map]
  · rw [hcsv, read_byteOrderMark (isPrefixOf_quotedTable header lines), read_quotedTable]
    simp [Except.map]
  · rw [List.forall₂_map_right_iff, List.forall₂_same]
    exact fun l _ => Record.isRecordOf_ofRow header.cells l.cells

example : quotedTable ⟨["name", "say \"hi\""], .returnLineFeed, by decide⟩
    [⟨["a,b"], .lineFeed, by decide⟩] = "\"name\",\"say \"\"hi\"\"\"\r\n\"a,b\"\n" := by
  decide +kernel

end Tables

end MailMerge.Csv
