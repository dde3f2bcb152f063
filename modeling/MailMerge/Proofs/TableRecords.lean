import MailMerge.Proofs.FieldLookup
import MailMerge.Sheet.Cell
import Mathlib.Data.List.Zip

/-!
# Records of table rows

The record of a row has the names of the columns that the row reaches, and gives to each of them the
cell of the last such column (`isRecordOf_ofRow`).
-/

namespace MailMerge

namespace Fields

variable {α : Type} {name : String} {value : α} {pairs : List (String × α)}

lemma isSome_get?_setAll (name : String) (fields pairs : List (String × α)) :
    (get? name (setAll fields pairs)).isSome = true ↔
      name ∈ pairs.map Prod.fst ∨ (get? name fields).isSome = true := by
  induction pairs generalizing fields with
  | nil => simp [setAll]
  | cons p pairs ih =>
    rw [setAll_cons, ih, get?_set, List.map_cons, List.mem_cons]
    by_cases hp : p.1 = name
    · simp [hp]
    · simp [hp, Ne.symm hp]

lemma get?_setAll_of_not_mem (h : name ∉ pairs.map Prod.fst) (fields : List (String × α)) :
    get? name (setAll fields pairs) = get? name fields := by
  induction pairs generalizing fields with
  | nil => rfl
  | cons p pairs ih =>
    rw [List.map_cons, List.mem_cons, not_or] at h
    rw [setAll_cons, ih h.2, get?_set, if_neg (Ne.symm h.1)]

lemma get?_setAll_of_last {front back : List (String × α)}
    (h : name ∉ back.map Prod.fst) (fields : List (String × α)) :
    get? name (setAll fields (front ++ (name, value) :: back)) = some value := by
  have hfront : setAll fields (front ++ (name, value) :: back) =
      setAll (set name value (setAll fields front)) back := by
    rw [setAll, List.foldl_append]
    rfl
  rw [hfront, get?_setAll_of_not_mem h, get?_set, if_pos rfl]

end Fields

namespace Record

/-- The name of a column, which has no blank characters at its ends. -/
def columnName? (header : List String) (i : Nat) : Option String :=
  header[i]?.map Text.trimmed

/-- A record has the named columns of a header that a row reaches, and of each name the cell of the
last column. -/
structure IsRecordOf (header row : List String) (r : Record) : Prop where
  names : ∀ name, r.contains name = true ↔
    name ≠ "" ∧ ∃ i, columnName? header i = some name ∧ i < row.length
  values : ∀ i name cell, name ≠ "" → columnName? header i = some name → row[i]? = some cell →
    (∀ j, i < j → j < row.length → columnName? header j ≠ some name) → r.get? name = some cell

/-- The cells of a row under the names of their columns. -/
def namedCells (names row : List String) : List (String × String) :=
  (names.zip row).filter fun p => p.1 ≠ ""

lemma get?_ofRow (names row : List String) (name : String) :
    (ofRow names row).get? name = Fields.get? name (Fields.setAll [] (namedCells names row)) := rfl

lemma mem_namedCells_iff {names row : List String} {name : String} :
    name ∈ (namedCells names row).map Prod.fst ↔
      name ≠ "" ∧ ∃ i, names[i]? = some name ∧ i < row.length := by
  rw [namedCells, List.mem_map]
  constructor
  · rintro ⟨⟨n, cell⟩, hcell, rfl⟩
    obtain ⟨hmem, hne⟩ := List.mem_filter.mp hcell
    obtain ⟨i, hi⟩ := List.mem_iff_getElem?.mp hmem
    obtain ⟨hname, hrow⟩ := List.getElem?_zip_eq_some.mp hi
    obtain ⟨hlt, -⟩ := List.getElem?_eq_some_iff.mp hrow
    exact ⟨by simpa using hne, i, hname, hlt⟩
  · rintro ⟨hne, i, hname, hlt⟩
    have hpair : (names.zip row)[i]? = some (name, row[i]) :=
      List.getElem?_zip_eq_some.mpr ⟨hname, List.getElem?_eq_getElem hlt⟩
    exact ⟨(name, row[i]), List.mem_filter.mpr ⟨List.mem_of_getElem? hpair, by simpa using hne⟩, rfl⟩

lemma namedCells_eq_append {names row : List String} {i : Nat} {name cell : String}
    (hname : names[i]? = some name) (hcell : row[i]? = some cell) (hne : name ≠ "") :
    ∃ front, namedCells names row =
      front ++ (name, cell) :: namedCells (names.drop (i + 1)) (row.drop (i + 1)) := by
  have hpair : (names.zip row)[i]? = some (name, cell) :=
    List.getElem?_zip_eq_some.mpr ⟨hname, hcell⟩
  obtain ⟨hlt, hget⟩ := List.getElem?_eq_some_iff.mp hpair
  refine ⟨((names.zip row).take i).filter fun p => p.1 ≠ "", ?_⟩
  have hdrop : (names.zip row).drop (i + 1) = (names.drop (i + 1)).zip (row.drop (i + 1)) :=
    List.drop_zipWith
  have hsplit : names.zip row = (names.zip row).take i ++
      (name, cell) :: (names.drop (i + 1)).zip (row.drop (i + 1)) := by
    rw [← hdrop, ← hget, ← List.drop_eq_getElem_cons hlt, List.take_append_drop]
  rw [namedCells]
  conv_lhs => rw [hsplit]
  rw [List.filter_append, List.filter_cons_of_pos (by simpa using hne), namedCells]

theorem isRecordOf_ofRow (header row : List String) :
    IsRecordOf header row (ofRow (header.map Text.trimmed) row) := by
  refine ⟨fun name => ?_, fun i name cell hne hname hcell hlast => ?_⟩
  · rw [contains, get?_ofRow, Fields.isSome_get?_setAll, mem_namedCells_iff]
    simp [columnName?, Fields.get?]
  · have hname' : (header.map Text.trimmed)[i]? = some name := by rw [List.getElem?_map]; exact hname
    obtain ⟨front, hcells⟩ := namedCells_eq_append hname' hcell hne
    rw [get?_ofRow, hcells]
    apply Fields.get?_setAll_of_last
    rw [mem_namedCells_iff]
    rintro ⟨-, j, hj, hlt⟩
    rw [List.length_drop] at hlt
    rw [List.getElem?_drop, List.getElem?_map] at hj
    exact hlast (i + 1 + j) (by omega) (by omega) hj

end Record

end MailMerge
