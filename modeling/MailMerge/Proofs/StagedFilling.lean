import MailMerge.Proofs.FieldLookup
import MailMerge.Proofs.TemplateFilling

/-!
# Filling in stages

In a text whose opening braces all begin tokens, values without opening braces neither make a token
nor break one. So records filled in one after another give what one record gives that has the fields
of all of them, and after each stage just the names without a value are left
(`filling_in_stages_is_filling_at_once`).
-/

namespace MailMerge

/-- Fills the records in one after another. -/
def fillInTurn (text : String) (records : List Record) : String :=
  records.foldl fill text

namespace Record

/-- The fields of all records; of several values for a name the earliest one stays. -/
def earliest (records : List Record) : Record :=
  records.foldr (fun r later => later.extend r) empty

lemma get?_earliest (records : List Record) (name : String) :
    (earliest records).get? name = records.findSome? (·.get? name) := by
  induction records with
  | nil => rfl
  | cons r records ih =>
    have hfirst : earliest (r :: records) = (earliest records).extend r := rfl
    rw [hfirst, get?_extend, ih, List.findSome?_cons]
    cases r.get? name with
    | none => rfl
    | some value => rfl

lemma contains_earliest (records : List Record) (name : String) :
    (earliest records).contains name = records.any (·.contains name) := by
  rw [contains, get?_earliest, List.isSome_findSome?]
  rfl

lemma get?_earliest_singletons (pairs : List (String × String)) (name : String) :
    (earliest (pairs.map fun p => ofList [p])).get? name = Fields.get? name pairs := by
  rw [get?_earliest]
  induction pairs with
  | nil => rfl
  | cons p pairs ih =>
    rw [List.map_cons, List.findSome?_cons, ih, Fields.get?]
    by_cases h : p.1 = name
    · have hfound : (ofList [p]).get? name = some p.2 := by
        rw [get?_ofList (by simp), Fields.get?, if_pos h]
      rw [hfound, if_pos h]
    · have hmissing : (ofList [p]).get? name = none := by
        rw [get?_ofList (by simp), Fields.get?, if_neg h, Fields.get?]
      rw [hmissing, if_neg h]

end Record

lemma Record.lacks_earliest {c : Char} {records : List Record} (h : ∀ r ∈ records, r.Lacks c) :
    (earliest records).Lacks c := by
  intro f hf
  have hvalue := get?_eq_some_iff.mpr hf
  rw [get?_earliest] at hvalue
  obtain ⟨r, hr, hfound⟩ := List.exists_of_findSome?_eq_some hvalue
  exact h r hr f (get?_eq_some_iff.mp hfound)

namespace Part

/-- A token, or a text without opening braces. -/
def IsClosed : Part → Prop
  | literal cs => '\x7b' ∉ cs
  | token t => t.IsSound

/-- The part with a record filled in: a token that has a value becomes its text. -/
def settled (r : Record) : Part → Part
  | literal cs => literal cs
  | token t =>
    match r.get? (String.ofList t.name) with
    | some value => literal value.toList
    | none => token t

lemma chars_settled (r : Record) (p : Part) : (p.settled r).chars = p.filled r := by
  cases p with
  | literal cs => rfl
  | token t =>
    rw [settled, filled]
    cases r.get? (String.ofList t.name) with
    | none => rfl
    | some value => rfl

lemma IsClosed.settled {p : Part} (h : p.IsClosed) {r : Record} (hr : r.Lacks '\x7b') :
    (p.settled r).IsClosed := by
  cases p with
  | literal cs => exact h
  | token t =>
    rw [Part.settled]
    split
    · next value hvalue => exact hr _ (Record.get?_eq_some_iff.mp hvalue)
    · exact h

lemma settled_settled (r r' : Record) (p : Part) :
    (p.settled r).settled r' = p.settled (r'.extend r) := by
  cases p with
  | literal cs => rfl
  | token t =>
    rw [settled, settled, Record.get?_extend]
    cases r.get? (String.ofList t.name) with
    | none => rfl
    | some value => rfl

lemma settled_empty (p : Part) : p.settled Record.empty = p := by
  cases p with
  | literal cs => rfl
  | token t => rfl

lemma filterMap_settled (r : Record) (parts : List Part) :
    (parts.map (settled r)).filterMap name? =
      (parts.filterMap name?).filter fun name => !r.contains name := by
  rw [List.filterMap_map, List.filter_filterMap]
  congr 1
  funext p
  cases p with
  | literal cs => rfl
  | token t =>
    rw [Function.comp_apply, settled]
    cases h : r.get? (String.ofList t.name) with
    | none => simp [name?, Record.contains, Option.filter, h]
    | some value => simp [name?, Record.contains, Option.filter, h]

/-- What closed parts make up has no tokens but those among them. -/
lemma isCutOf_of_isClosed {parts : List Part} (h : ∀ p ∈ parts, p.IsClosed) :
    IsCutOf parts (parts.flatMap chars) := by
  refine ⟨rfl, ?_⟩
  induction parts with
  | nil => simp [occurrences, Occurrence.not_standsIn_nil]
  | cons p parts ih =>
    intro o
    have hrest := ih fun q hq => h q (List.mem_cons_of_mem _ hq)
    have hp := h p List.mem_cons_self
    rw [List.flatMap_cons]
    cases p with
    | literal cs =>
      rw [chars, Occurrence.standsIn_literal_iff hp]
      simp [occurrences, hrest]
    | token t =>
      rw [chars, Occurrence.standsIn_token_iff (Token.read?_chars hp _)]
      simp [occurrences, hrest]

end Part

lemma isClosed_of_mem_cut {cs : List Char} (h : OnlyInTokens '\x7b' cs) {p : Part}
    (hp : p ∈ cut cs) : p.IsClosed := by
  cases p with
  | literal front =>
    exact fun hbrace => onlyInTokens_iff.mp h (List.mem_flatMap.mpr ⟨_, hp, hbrace⟩)
  | token t => exact (isCutOf_cut cs).isSound hp

section Stages

variable {parts : List Part}

/-- One stage: the closed parts of a text become the closed parts of the filled text. -/
lemma fill_closed (h : ∀ p ∈ parts, p.IsClosed) (r : Record) :
    fill (String.ofList (parts.flatMap Part.chars)) r =
      String.ofList ((parts.map (Part.settled r)).flatMap Part.chars) := by
  have hcut := Part.isCutOf_of_isClosed h
  rw [← String.toList_ofList (l := parts.flatMap Part.chars)] at hcut
  rw [← String.toList_inj, hcut.toList_fill, String.toList_ofList, List.flatMap_map]
  exact List.flatMap_congr fun p _ => (Part.chars_settled r p).symm

lemma map_settled_isClosed (h : ∀ p ∈ parts, p.IsClosed) {r : Record} (hr : r.Lacks '\x7b') :
    ∀ p ∈ parts.map (Part.settled r), p.IsClosed := by
  intro p hp
  obtain ⟨q, hq, rfl⟩ := List.mem_map.mp hp
  exact (h q hq).settled hr

/-- All stages: the parts are settled with the earliest values. -/
lemma fillInTurn_closed (h : ∀ p ∈ parts, p.IsClosed) {records : List Record}
    (hrecords : ∀ r ∈ records, r.Lacks '\x7b') :
    fillInTurn (String.ofList (parts.flatMap Part.chars)) records =
      String.ofList ((parts.map (Part.settled (.earliest records))).flatMap Part.chars) := by
  -- The cut of the text is never computed again: the parts of one stage are those of the next.
  induction records generalizing parts with
  | nil =>
    have hsettled : parts.map (Part.settled (.earliest [])) = parts :=
      List.map_id'' Part.settled_empty parts
    rw [hsettled]
    rfl
  | cons r records ih =>
    have hr := hrecords r List.mem_cons_self
    have hstage : (parts.map (Part.settled r)).map (Part.settled (.earliest records)) =
        parts.map (Part.settled (.earliest (r :: records))) := by
      rw [List.map_map]
      exact List.map_congr_left fun p _ => Part.settled_settled r _ p
    rw [fillInTurn, List.foldl_cons, fill_closed h r, ← fillInTurn,
      ih (map_settled_isClosed h hr) fun r' hr' => hrecords r' (List.mem_cons_of_mem _ hr'), hstage]

end Stages

section Texts

variable {text : String}

lemma ofList_flatMap_cut (text : String) :
    String.ofList ((cut text.toList).flatMap Part.chars) = text := by
  rw [flatMap_chars_cut, String.ofList_toList]

lemma fillInTurn_eq (htext : OnlyInTokens '\x7b' text.toList) {records : List Record}
    (hrecords : ∀ r ∈ records, r.Lacks '\x7b') :
    fillInTurn text records = fill text (.earliest records) := by
  have hclosed := fun p (hp : p ∈ cut text.toList) => isClosed_of_mem_cut htext hp
  have hturn := fillInTurn_closed hclosed hrecords
  have honce := fill_closed hclosed (.earliest records)
  rw [ofList_flatMap_cut] at hturn honce
  rw [hturn, honce]

lemma placeholders_fillInTurn (htext : OnlyInTokens '\x7b' text.toList) {records : List Record}
    (hrecords : ∀ r ∈ records, r.Lacks '\x7b') :
    placeholders (fillInTurn text records) =
      (placeholders text).filter fun name => !records.any (·.contains name) := by
  have hclosed := fun p (hp : p ∈ cut text.toList) => isClosed_of_mem_cut htext hp
  have hturn := fillInTurn_closed hclosed hrecords
  have hsettled := map_settled_isClosed hclosed (Record.lacks_earliest hrecords)
  rw [ofList_flatMap_cut] at hturn
  rw [hturn, placeholders_eq, String.toList_ofList,
    (Part.isCutOf_of_isClosed hsettled).tokenNames_eq, Part.filterMap_settled, placeholders]
  simp only [Record.contains_earliest]

lemma fillInTurn_singletons (htext : OnlyInTokens '\x7b' text.toList) {r : Record}
    (hr : r.Lacks '\x7b') {pairs : List (String × String)} (hpairs : pairs.Perm r.fields) :
    fillInTurn text (pairs.map fun p => .ofList [p]) = fill text r := by
  have hrecords : ∀ r' ∈ pairs.map fun p => Record.ofList [p], r'.Lacks '\x7b' := by
    intro r' hr'
    obtain ⟨p, hp, rfl⟩ := List.mem_map.mp hr'
    intro f hf
    obtain rfl : f = p := List.mem_singleton.mp hf
    exact hr f (hpairs.mem_iff.mp hp)
  rw [fillInTurn_eq htext hrecords]
  refine fill_congr fun name _ => ?_
  rw [Record.get?_earliest_singletons, Fields.get?_of_perm (Fields.nodup_of_sorted r.sorted) hpairs]
  rfl

end Texts

/-- Into a text of which all opening braces are in tokens, records without opening braces in their
values are filled one after another as if they were one record, in which the earliest of them that
has a name gives its value; and after each stage the placeholders are those whose names no record so
far has. In particular the fields of a record can be filled in one by one, in any order. -/
theorem filling_in_stages_is_filling_at_once (text : String)
    (htext : OnlyInTokens '\x7b' text.toList) :
    (∀ records : List Record, (∀ r ∈ records, r.Lacks '\x7b') →
      fillInTurn text records = fill text (.earliest records) ∧
      (∀ name, (Record.earliest records).get? name = records.findSome? (·.get? name)) ∧
      ∀ n, placeholders (fillInTurn text (records.take n)) =
        (placeholders text).filter fun name => !(records.take n).any (·.contains name)) ∧
    (∀ r : Record, r.Lacks '\x7b' → ∀ pairs : List (String × String), pairs.Perm r.fields →
      fillInTurn text (pairs.map fun p => .ofList [p]) = fill text r) := by
  constructor
  · intro records hrecords
    refine ⟨fillInTurn_eq htext hrecords, Record.get?_earliest records, fun n => ?_⟩
    exact placeholders_fillInTurn htext fun r hr => hrecords r (List.mem_of_mem_take hr)
  · intro r hr pairs hpairs
    exact fillInTurn_singletons htext hr hpairs

/-- Two adjacent tokens, and one of the first one's name again behind a closing brace. -/
def repeatedName : String :=
  "\x7b\x7ba\x7d\x7d\x7b\x7b b \x7d\x7d\x7d-\x7b\x7ba\x7d\x7d"

theorem filling_in_stages_is_filling_at_once_repeatedName :
    OnlyInTokens '\x7b' repeatedName.toList ∧
    (∀ r ∈ [Record.ofList [("b", "\x7d\x7d")], .ofList [("a", "1"), ("b", "2")]],
      r.Lacks '\x7b') ∧
    fillInTurn repeatedName [.ofList [("b", "\x7d\x7d")], .ofList [("a", "1"), ("b", "2")]] =
      "1\x7d\x7d\x7d-1" ∧
    placeholders (fillInTurn repeatedName [.ofList [("b", "\x7d\x7d")]]) = ["a", "a"] ∧
    fillInTurn repeatedName [.ofList [("b", "2")], .ofList [("a", "1")]] = "12\x7d-1" := by
  have htext : OnlyInTokens '\x7b' repeatedName.toList := by decide +kernel
  have hvalues : ∀ r ∈ [Record.ofList [("b", "\x7d\x7d")], .ofList [("a", "1"), ("b", "2")]],
      r.Lacks '\x7b' := by
    decide +kernel
  obtain ⟨hrecords, hfields⟩ := filling_in_stages_is_filling_at_once repeatedName htext
  obtain ⟨honce, -, hleft⟩ := hrecords _ hvalues
  have hone := hfields (.ofList [("a", "1"), ("b", "2")]) (by decide +kernel)
    [("b", "2"), ("a", "1")] (by decide +kernel)
  exact ⟨htext, hvalues, honce.trans (by decide +kernel), (hleft 1).trans (by decide +kernel),
    hone.trans (by decide +kernel)⟩

end MailMerge
