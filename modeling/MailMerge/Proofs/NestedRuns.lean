import MailMerge.Proofs.RunSplitting

/-!
# Runs inside runs

A run may hold other runs, as a text box does. The reader keeps whether a run is open and not how
many are, so with the end of an inner run the outer one has ended for it, and what still follows in
the outer run is not read. A document is taken here as any row of nested elements; the main
statement tells which of its text is read (`bodyText_of_nested_elements`).
-/

namespace MailMerge.Document

open Markup

section Forests

/-- What is no element and no text. -/
inductive IsAside : List Char → Prop
  | comment {body : List Char} (hbody : ¬"-->".toList <:+: body) : IsAside (comment body)
  | processing {body : List Char} (hne : body ≠ []) (hbody : '>' ∉ body) : IsAside (processing body)
  | doctype {body : List Char} (hopen : '<' ∉ body) (hclose : '>' ∉ body)
      (hword : ∃ c ∈ body, isSpace c = false) : IsAside (doctype body)

/-- The elements of a run that stand for white space. -/
def spaceNames : List (List Char) :=
  ["w:tab".toList, "w:br".toList, "w:cr".toList]

/-- Texts, elements and comments in a row, with others inside the elements. What stands for white
space is written as one tag. -/
inductive Forest where
  | nil
  | text (content : RunText) (rest : Forest)
  | aside (markup : List Char) (hmarkup : IsAside markup) (rest : Forest)
  | single (name : List Char) (hname : IsName name) (attributes : Attributes) (rest : Forest)
  | element (name : List Char) (hname : IsName name) (hspace : name ∉ spaceNames) (tags : Tags)
      (content rest : Forest)

namespace Forest

def markup : Forest → List Char
  | nil => []
  | text content rest => content.raw ++ rest.markup
  | aside markup _ rest => markup ++ rest.markup
  | single name _ attributes rest => emptyTag name attributes ++ rest.markup
  | element name _ _ tags content rest => tags.around name content.markup ++ rest.markup

/-- What an element shows that is written as one tag. -/
def shownSingle (inRun : Bool) (name : List Char) : List Char :=
  if name = "w:p".toList then ['\n', '\n']
  else if inRun then
    if name = "w:tab".toList then ['\t']
    else if name = "w:br".toList || name = "w:cr".toList then ['\n']
    else []
  else []

def shownEnd (name : List Char) : List Char :=
  if name = "w:p".toList then ['\n', '\n'] else []

/-- There is a text element around a place with a run around it; the elements around the place are
given from the inside to the outside. -/
def inRunText : List (List Char) → Bool
  | [] => false
  | name :: outer => name = "w:t".toList && outer.contains "w:r".toList || inRunText outer

/-- The text of all runs: the texts of their text elements, their tabs and breaks, and two line ends
for each paragraph. The elements around the forest are given from the inside to the outside. -/
def runText (around : List (List Char)) : Forest → List Char
  | nil => []
  | text content rest => (if inRunText around then content.text else []) ++ rest.runText around
  | aside _ _ rest => rest.runText around
  | single name _ _ rest => shownSingle (around.contains "w:r".toList) name ++ rest.runText around
  | element name _ _ _ content rest =>
    content.runText (name :: around) ++ shownEnd name ++ rest.runText around

/-- There is an element with two tags of this name. -/
def holds (name : List Char) : Forest → Bool
  | nil => false
  | text _ rest | aside _ _ rest | single _ _ _ rest => rest.holds name
  | element other _ _ _ content rest => other = name || content.holds name || rest.holds name

section Reading

/-- What the reader makes of a forest. -/
def walk : Forest → Document.Reading → Document.Reading
  | nil, r => r
  | text content rest, r => rest.walk (if r.inText then r.add content.text else r)
  | aside _ _ rest, r => rest.walk r
  | single name _ _ rest, r => rest.walk (r.single name)
  | element name _ _ _ content rest, r => rest.walk ((content.walk (r.opened name)).closed name)

lemma eventsFrom_aside {stack : List (List Char)} {markup : List Char} (h : IsAside markup)
    (rest : List Char) :
    eventsFrom .document stack (markup ++ rest) = .aside :: eventsFrom .document stack rest := by
  cases h with
  | comment hbody => exact eventsFrom_comment hbody rest
  | processing hne hbody => exact eventsFrom_processing hne hbody rest
  | doctype hopen hclose hword => exact eventsFrom_doctype (balanced_of_not_mem hopen hclose) hword rest

lemma read_markup (f : Forest) (stack : List (List Char)) (r : Document.Reading)
    (rest : List Char) :
    read r (eventsFrom .document stack (f.markup ++ rest)) =
      read (f.walk r) (eventsFrom .document stack rest) := by
  induction f generalizing stack r rest with
  | nil => rfl
  | text content others ih =>
    rw [markup, List.append_assoc, walk]
    by_cases htext : r.inText = true
    · rw [read_text htext, ih, if_pos htext]
    · rw [if_neg htext, ← ih]
      have htext' : r.inText = false := by simpa using htext
      exact adds_text content.unbracketed r rfl htext' _
  | aside markup hmarkup others ih =>
    rw [Forest.markup, List.append_assoc, eventsFrom_aside hmarkup, read, ih, walk]
  | single name hname attributes others ih =>
    rw [markup, List.append_assoc, read_empty hname, ih, walk]
  | element name hname hspace tags content others ihcontent ihothers =>
    rw [markup, List.append_assoc, read_around hname tags, ihothers, walk]
    exact fun cs => ihcontent _ _ _

lemma bodyText_eq_walk (f : Forest) :
    bodyText f.markup = .ok (f.walk .start).text.reverse := by
  have hread := f.read_markup [] .start []
  rw [List.append_nil, eventsFrom, read] at hread
  rw [bodyText, events, hread]
  rfl

end Reading

section Scopes

/-- Where a place is with regard to elements of one name: outside of them, inside one, or inside one
that the reader has lost, because another one has ended in it. -/
inductive Scope where
  | outside
  | inside
  | lost
  deriving DecidableEq

namespace Scope

/-- The scope behind the end of another element of the name. -/
def ended : Scope → Scope
  | inside => lost
  | s => s

end Scope

/-- A piece of the text of all runs, and whether the reader comes to it in its run. -/
structure Fragment where
  isRead : Bool
  chars : List Char

def Scope.fragment (s : Scope) (chars : List Char) : List Fragment :=
  match s with
  | outside => []
  | inside => [⟨true, chars⟩]
  | lost => [⟨false, chars⟩]

/-- Where a place is with regard to runs and to text elements of runs. -/
structure Place where
  run : Scope
  text : Scope

namespace Place

def top : Place :=
  ⟨.outside, .outside⟩

/-- The place at the beginning of an element. A text element of a lost run is lost as well, unless
it stands in another one. -/
def within (p : Place) (name : List Char) : Place :=
  if name = "w:r".toList then { p with run := .inside }
  else if name = "w:t".toList then
    { p with text :=
        match p.run, p.text with
        | .inside, _ => .inside
        | .lost, .outside => .lost
        | _, text => text }
  else p

/-- The place behind an element. -/
def behind (p : Place) (name : List Char) (content : Forest) : Place where
  run := if name = "w:r".toList || content.holds "w:r".toList then p.run.ended else p.run
  text := if name = "w:t".toList || content.holds "w:t".toList then p.text.ended else p.text

end Place

/-- The pieces of the text of all runs, in their order. -/
def fragments (p : Place) : Forest → List Fragment
  | nil => []
  | text content rest => p.text.fragment content.text ++ rest.fragments p
  | aside _ _ rest => rest.fragments p
  | single name _ _ rest =>
    (if name = "w:p".toList then [⟨true, ['\n', '\n']⟩]
      else p.run.fragment (shownSingle true name)) ++ rest.fragments p
  | element name _ _ _ content rest =>
    content.fragments (p.within name) ++
      ⟨true, shownEnd name⟩ :: rest.fragments (p.behind name content)

/-- What the reader comes to of some pieces. -/
def readChars (fragments : List Fragment) : List Char :=
  (fragments.filter Fragment.isRead).flatMap Fragment.chars

lemma readChars_append (front back : List Fragment) :
    readChars (front ++ back) = readChars front ++ readChars back := by
  rw [readChars, List.filter_append, List.flatMap_append]
  rfl

/-- The reader is in the state that belongs to a place. -/
structure Stands (r : Document.Reading) (p : Place) : Prop where
  run : r.inRun = decide (p.run = .inside)
  text : r.inText = decide (p.text = .inside)

variable {r : Document.Reading} {p : Place} {name : List Char}

lemma opened_of_ne (hrun : name ≠ "w:r".toList) (htext : name ≠ "w:t".toList)
    (r : Document.Reading) : r.opened name = r := by
  rw [Reading.opened, if_neg hrun, decide_eq_false htext, Bool.false_and,
    if_neg Bool.false_ne_true]

lemma text_opened (r : Document.Reading) (name : List Char) : (r.opened name).text = r.text := by
  unfold Reading.opened
  split
  · rfl
  · split <;> rfl

lemma Stands.opened (h : Stands r p) (name : List Char) :
    Stands (r.opened name) (p.within name) := by
  obtain ⟨hrun, htext⟩ := h
  by_cases hr : name = "w:r".toList
  · rw [Reading.opened, Place.within, if_pos hr, if_pos hr]
    exact ⟨rfl, htext⟩
  · by_cases ht : name = "w:t".toList
    · obtain ⟨run, text⟩ := p
      rw [Reading.opened, Place.within, if_neg hr, if_neg hr, if_pos ht, decide_eq_true ht, hrun]
      cases run with
      | inside => exact ⟨rfl, rfl⟩
      | outside => exact ⟨hrun, htext⟩
      | lost => cases text <;> exact ⟨hrun, htext⟩
    · rw [opened_of_ne hr ht, Place.within, if_neg hr, if_neg ht]
      exact ⟨hrun, htext⟩

lemma closed_opened (r : Document.Reading) (name : List Char) (runEnded textEnded : Bool)
    (text : List Char) :
    Reading.closed
        ⟨(r.opened name).inRun && !runEnded, (r.opened name).inText && !textEnded, text⟩ name =
      ⟨r.inRun && !(decide (name = "w:r".toList) || runEnded),
        r.inText && !(decide (name = "w:t".toList) || textEnded),
        (shownEnd name).reverse ++ text⟩ := by
  by_cases hr : name = "w:r".toList
  · subst hr
    simp [Reading.closed, Reading.opened, shownEnd]
  · by_cases ht : name = "w:t".toList
    · subst ht
      cases hrun : r.inRun <;> simp [Reading.closed, Reading.opened, shownEnd, hrun]
    · rw [opened_of_ne hr ht, Reading.closed, if_neg ht, if_neg hr, decide_eq_false hr,
        decide_eq_false ht, shownEnd]
      by_cases hp : name = "w:p".toList
      · rw [if_pos hp, if_pos hp]
        rfl
      · rw [if_neg hp, if_neg hp]
        rfl

lemma decide_ended (s : Scope) (b : Bool) :
    (decide (s = .inside) && !b) = decide ((if b then s.ended else s) = .inside) := by
  cases s <;> cases b <;> rfl

lemma Stands.behind (h : Stands r p) (name : List Char) (content : Forest) (text : List Char) :
    Stands ⟨r.inRun && !(decide (name = "w:r".toList) || content.holds "w:r".toList),
      r.inText && !(decide (name = "w:t".toList) || content.holds "w:t".toList), text⟩
      (p.behind name content) where
  run := by
    rw [h.run, decide_ended]
    rfl
  text := by
    rw [h.text, decide_ended]
    rfl

lemma Stands.add (h : Stands r p) (chars : List Char) : Stands (r.add chars) p :=
  ⟨h.run, h.text⟩

lemma readChars_fragment (s : Scope) (chars : List Char) :
    readChars (s.fragment chars) = if s = .inside then chars else [] := by
  cases s <;> simp [Scope.fragment, readChars]

lemma single_eq (h : Stands r p) (name : List Char) :
    r.single name = r.add (readChars (if name = "w:p".toList then [⟨true, ['\n', '\n']⟩]
      else p.run.fragment (shownSingle true name))) := by
  by_cases hp : name = "w:p".toList
  · rw [Reading.single, if_pos hp, if_pos hp]
    rfl
  · rw [Reading.single, if_neg hp, if_neg hp, readChars_fragment, h.run, shownSingle, if_neg hp,
      if_pos rfl]
    by_cases hinside : p.run = .inside
    · rw [if_pos hinside, decide_eq_true hinside, if_pos rfl]
      split
      · rfl
      · split <;> rfl
    · rw [if_neg hinside, decide_eq_false hinside, if_neg Bool.false_ne_true]
      rfl

/-- The reader reads the pieces that it comes to, and loses the runs and the text elements in which
others have ended. -/
lemma walk_eq (f : Forest) (h : Stands r p) :
    f.walk r = ⟨r.inRun && !f.holds "w:r".toList, r.inText && !f.holds "w:t".toList,
      (readChars (f.fragments p)).reverse ++ r.text⟩ := by
  induction f generalizing r p with
  | nil => simp [walk, holds, fragments, readChars]
  | text content rest ih =>
    have hread : (if r.inText then r.add content.text else r) =
        r.add (readChars (p.text.fragment content.text)) := by
      rw [readChars_fragment, h.text]
      by_cases hinside : p.text = .inside
      · simp [hinside]
      · simp [hinside, Reading.add]
    rw [walk, hread, ih (h.add _), holds, holds, fragments, readChars_append]
    simp [Reading.add]
  | aside _ _ rest ih => rw [walk, ih h, holds, holds, fragments]
  | single name hname attributes rest ih =>
    rw [walk, single_eq h, ih (h.add _), holds, holds, fragments, readChars_append]
    simp [Reading.add]
  | element name hname hspace tags content rest ihcontent ihrest =>
    rw [walk, ihcontent (h.opened name), closed_opened, text_opened,
      ihrest (h.behind name content _), fragments, readChars_append, holds, holds]
    simp [readChars, Bool.and_assoc]

/-- The elements around a place. -/
structure Place.Around (p : Place) (around : List (List Char)) : Prop where
  run : around.contains "w:r".toList = decide (p.run ≠ .outside)
  text : inRunText around = decide (p.text ≠ .outside)

lemma Place.around_top : top.Around [] :=
  ⟨rfl, rfl⟩

lemma Place.Around.within {around : List (List Char)} (h : p.Around around) (name : List Char) :
    (p.within name).Around (name :: around) := by
  obtain ⟨hrun, htext⟩ := h
  obtain ⟨run, text⟩ := p
  by_cases hr : name = "w:r".toList
  · subst hr
    exact ⟨rfl, htext⟩
  · have hsame : (name :: around).contains "w:r".toList = around.contains "w:r".toList := by
      rw [List.contains_cons, beq_eq_false_iff_ne.2 (Ne.symm hr), Bool.false_or]
    by_cases ht : name = "w:t".toList
    · rw [Place.within, if_neg hr, if_pos ht]
      refine ⟨hsame.trans hrun, ?_⟩
      rw [inRunText, decide_eq_true ht, hrun, htext]
      cases run <;> cases text <;> rfl
    · rw [Place.within, if_neg hr, if_neg ht]
      refine ⟨hsame.trans hrun, ?_⟩
      rw [inRunText, decide_eq_false ht, htext]
      rfl

lemma ended_ne_outside_iff (s : Scope) (b : Bool) :
    (if b then s.ended else s) ≠ .outside ↔ s ≠ .outside := by
  cases s <;> cases b <;> decide

lemma Place.Around.behind {around : List (List Char)} (h : p.Around around) (name : List Char)
    (content : Forest) : (p.behind name content).Around around where
  run := h.run.trans (decide_eq_decide.2 (ended_ne_outside_iff p.run _).symm)
  text := h.text.trans (decide_eq_decide.2 (ended_ne_outside_iff p.text _).symm)

lemma flatMap_fragment (s : Scope) (chars : List Char) :
    (s.fragment chars).flatMap Fragment.chars = if s ≠ .outside then chars else [] := by
  cases s <;> simp [Scope.fragment]

lemma flatMap_fragments (f : Forest) {around : List (List Char)} (h : p.Around around) :
    (f.fragments p).flatMap Fragment.chars = f.runText around := by
  induction f generalizing p around with
  | nil => rfl
  | text content rest ih =>
    rw [fragments, List.flatMap_append, flatMap_fragment, ih h, runText, h.text]
    simp only [decide_eq_true_eq]
  | aside _ _ rest ih => exact ih h
  | single name hname attributes rest ih =>
    rw [fragments, List.flatMap_append, ih h, runText, h.run]
    by_cases hp : name = "w:p".toList
    · rw [if_pos hp, shownSingle, if_pos hp]
      rfl
    · have hshown (inRun : Bool) : shownSingle inRun name =
          if inRun then shownSingle true name else [] := by
        cases inRun with
        | false =>
          rw [shownSingle, if_neg hp]
          rfl
        | true => rfl
      rw [if_neg hp, flatMap_fragment, hshown (decide _)]
      simp only [decide_eq_true_eq]
  | element name hname hspace tags content rest ihcontent ihrest =>
    rw [fragments, List.flatMap_append, List.flatMap_cons, ihcontent (h.within name),
      ihrest (h.behind name content), runText, List.append_assoc]

lemma readChars_cons (x : Fragment) (pieces : List Fragment) :
    readChars (x :: pieces) = (if x.isRead then x.chars else []) ++ readChars pieces := by
  cases hread : x.isRead <;> simp [readChars, hread]

lemma length_readChars_le (pieces : List Fragment) :
    (readChars pieces).length ≤ (pieces.flatMap Fragment.chars).length := by
  induction pieces with
  | nil => exact Nat.le_refl 0
  | cons x pieces ih =>
    rw [readChars_cons, List.flatMap_cons, List.length_append, List.length_append]
    split
    · exact Nat.add_le_add_left ih _
    · exact Nat.add_le_add (Nat.zero_le _) ih

lemma readChars_eq_iff {pieces : List Fragment} :
    readChars pieces = pieces.flatMap Fragment.chars ↔
      ∀ x ∈ pieces, x.isRead = false → x.chars = [] := by
  induction pieces with
  | nil => simp [readChars]
  | cons x pieces ih =>
    rw [readChars_cons, List.flatMap_cons, List.forall_mem_cons, ← ih]
    cases hread : x.isRead with
    | true => simp
    | false =>
      rw [if_neg Bool.false_ne_true, List.nil_append]
      constructor
      · intro hsame
        have hlength := congrArg List.length hsame
        have hle := length_readChars_le pieces
        rw [List.length_append] at hlength
        have hnone : x.chars = [] := List.length_eq_zero_iff.1 (by omega)
        rw [hnone, List.nil_append] at hsame
        exact ⟨fun _ => hnone, hsame⟩
      · rintro ⟨hnone, hsame⟩
        rw [hnone rfl, List.nil_append, hsame]

end Scopes

section Flat

/-- No run stands in a run, and no text element in a text element. -/
def Flat : Forest → Prop
  | nil => True
  | text _ rest | aside _ _ rest | single _ _ _ rest => rest.Flat
  | element name _ _ _ content rest =>
    (name = "w:r".toList → content.holds "w:r".toList = false) ∧
      (name = "w:t".toList → content.holds "w:t".toList = false) ∧ content.Flat ∧ rest.Flat

/-- At this place nothing is lost, and nothing of the forest can make it so. -/
structure Place.Clear (p : Place) (f : Forest) : Prop where
  run : p.run ≠ .lost
  text : p.text ≠ .lost
  runFree : p.run = .inside → f.holds "w:r".toList = false
  textFree : p.text = .inside → f.holds "w:t".toList = false

variable {p : Place}

lemma isRead_of_fragment {s : Scope} (h : s ≠ .lost) {chars : List Char} {x : Fragment}
    (hx : x ∈ s.fragment chars) : x.isRead = true := by
  cases s with
  | outside => cases hx
  | inside =>
    rw [List.mem_singleton.1 hx]
  | lost => exact absurd rfl h

lemma ended_eq_self {s : Scope} (hlost : s ≠ .lost) {b : Bool} (h : s = .inside → b = false) :
    (if b then s.ended else s) = s := by
  cases s with
  | outside => cases b <;> rfl
  | inside => rw [h rfl, if_neg Bool.false_ne_true]
  | lost => exact absurd rfl hlost

lemma Place.clear_top (f : Forest) : top.Clear f where
  run := by decide
  text := by decide
  runFree hinside := absurd hinside (by decide)
  textFree hinside := absurd hinside (by decide)

section Element

variable {name : List Char} {hname : IsName name} {hspace : name ∉ spaceNames} {tags : Tags}
  {content rest : Forest}

/-- Nothing ends in the element that could lose what is behind it. -/
lemma Place.Clear.behind_eq (h : p.Clear (element name hname hspace tags content rest)) :
    p.behind name content = p := by
  obtain ⟨hrun, htext, hrunFree, htextFree⟩ := h
  simp only [holds, Bool.or_eq_false_iff] at hrunFree htextFree
  rw [Place.behind, ended_eq_self hrun fun h => by simpa using (hrunFree h).1,
    ended_eq_self htext fun h => by simpa using (htextFree h).1]

lemma Place.Clear.within (h : p.Clear (element name hname hspace tags content rest))
    (hrunFlat : name = "w:r".toList → content.holds "w:r".toList = false)
    (htextFlat : name = "w:t".toList → content.holds "w:t".toList = false) :
    (p.within name).Clear content := by
  obtain ⟨hrun, htext, hrunFree, htextFree⟩ := h
  simp only [holds, Bool.or_eq_false_iff] at hrunFree htextFree
  by_cases hr : name = "w:r".toList
  · rw [Place.within, if_pos hr]
    exact ⟨nofun, htext, fun _ => hrunFlat hr, fun h => (htextFree h).1.2⟩
  · rw [Place.within, if_neg hr]
    by_cases ht : name = "w:t".toList
    · rw [if_pos ht]
      refine ⟨hrun, ?_, fun h => (hrunFree h).1.2, fun _ => htextFlat ht⟩
      obtain ⟨run, text⟩ := p
      cases run with
      | outside => exact htext
      | inside => exact nofun
      | lost => exact absurd rfl hrun
    · rw [if_neg ht]
      exact ⟨hrun, htext, fun h => (hrunFree h).1.2, fun h => (htextFree h).1.2⟩

lemma Place.Clear.tail (h : p.Clear (element name hname hspace tags content rest)) :
    p.Clear rest := by
  obtain ⟨hrun, htext, hrunFree, htextFree⟩ := h
  simp only [holds, Bool.or_eq_false_iff] at hrunFree htextFree
  exact ⟨hrun, htext, fun h => (hrunFree h).2, fun h => (htextFree h).2⟩

end Element

lemma isRead_of_flat (f : Forest) (hflat : f.Flat) (hclear : p.Clear f) :
    ∀ x ∈ f.fragments p, x.isRead = true := by
  induction f generalizing p with
  | nil => exact nofun
  | text content rest ih =>
    intro x hx
    rcases List.mem_append.1 hx with hx | hx
    · exact isRead_of_fragment hclear.text hx
    · exact ih hflat ⟨hclear.run, hclear.text, hclear.runFree, hclear.textFree⟩ x hx
  | aside _ _ rest ih =>
    exact ih hflat ⟨hclear.run, hclear.text, hclear.runFree, hclear.textFree⟩
  | single name hname attributes rest ih =>
    intro x hx
    rcases List.mem_append.1 hx with hx | hx
    · by_cases hp : name = "w:p".toList
      · rw [if_pos hp] at hx
        rw [List.mem_singleton.1 hx]
      · rw [if_neg hp] at hx
        exact isRead_of_fragment hclear.run hx
    · exact ih hflat ⟨hclear.run, hclear.text, hclear.runFree, hclear.textFree⟩ x hx
  | element name hname hspace tags content rest ihcontent ihrest =>
    obtain ⟨hrunFlat, htextFlat, hcontent, hrest⟩ := hflat
    intro x hx
    rw [fragments, hclear.behind_eq] at hx
    rcases List.mem_append.1 hx with hx | hx
    · exact ihcontent hcontent (hclear.within hrunFlat htextFlat) x hx
    · rcases List.mem_cons.1 hx with rfl | hx
      · rfl
      · exact ihrest hrest hclear.tail x hx

end Flat

/-- Of a document with any elements in each other, the pieces of the text of its runs are read,
save those that stand in a run in which another one has ended before, or in a text element in which
another one has. So the text of all runs is read if and only if nothing stands in these, and always
if no run is in a run and no text element in another. -/
theorem bodyText_of_nested_elements (f : Forest) :
    bodyText f.markup = .ok (readChars (f.fragments .top)) ∧
    f.runText [] = (f.fragments .top).flatMap Fragment.chars ∧
    (bodyText f.markup = .ok (f.runText []) ↔
      ∀ x ∈ f.fragments .top, x.isRead = false → x.chars = []) ∧
    (f.Flat → bodyText f.markup = .ok (f.runText [])) := by
  have hread : bodyText f.markup = .ok (readChars (f.fragments .top)) := by
    have hstart : Stands .start .top := ⟨rfl, rfl⟩
    rw [bodyText_eq_walk, walk_eq f hstart]
    simp [Reading.start]
  have hall : f.runText [] = (f.fragments .top).flatMap Fragment.chars :=
    (flatMap_fragments f Place.around_top).symm
  have hiff : bodyText f.markup = .ok (f.runText []) ↔
      ∀ x ∈ f.fragments .top, x.isRead = false → x.chars = [] := by
    rw [hread, hall, Except.ok.injEq, readChars_eq_iff]
  refine ⟨hread, hall, hiff, fun hflat => hiff.2 fun x hx hlost => ?_⟩
  rw [isRead_of_flat f hflat (Place.clear_top f) x hx] at hlost
  cases hlost

/-- An element of this name with nothing behind it. -/
def only (name : List Char) (hname : IsName name ∧ name ∉ spaceNames) (content : Forest) : Forest :=
  element name hname.1 hname.2 .plain content nil

/-- The attribute that tells what the names of a document belong to. -/
def nameSpace : Attributes where
  chars := " xmlns:w=".toList ++ '"' :: (['x'] ++ '"' :: [])
  quoted := (quoted_of_forall (by simp)).append (.value (.inl rfl) (by decide) .nil)
  apart := by simp [isSpace]
  unslashed := by decide

/-- A text box in a run, and a token behind the box in the same run. -/
def textBox : Forest :=
  element "w:document".toList (by decide) (by decide) { Tags.plain with attributes := nameSpace }
    (only "w:body".toList (by decide) <| only "w:p".toList (by decide) <|
      only "w:r".toList (by decide) <|
        element "w:pict".toList (by decide) (by decide) .plain
          (only "w:txbxContent".toList (by decide) <| only "w:p".toList (by decide) <|
            only "w:r".toList (by decide) <| only "w:t".toList (by decide) <|
              text (.of "box".toList) nil)
          (only "w:t".toList (by decide) <| text (.of "\x7b\x7bname\x7d\x7d".toList) nil))
    nil

/-- The token behind the text box is lost. -/
theorem not_bodyText_eq_runText :
    textBox.markup = ("<w:document xmlns:w=\"x\"><w:body><w:p><w:r><w:pict><w:txbxContent><w:p>" ++
      "<w:r><w:t>box</w:t></w:r></w:p></w:txbxContent></w:pict>" ++
      "<w:t>\x7b\x7bname\x7d\x7d</w:t></w:r></w:p></w:body></w:document>").toList ∧
    bodyText textBox.markup = .ok "box\n\n\n\n".toList ∧
    textBox.runText [] = "box\n\n\x7b\x7bname\x7d\x7d\n\n".toList ∧
    ¬∀ f : Forest, bodyText f.markup = .ok (f.runText []) := by
  have hread : bodyText textBox.markup = .ok "box\n\n\n\n".toList := by
    rw [bodyText_eq_walk]
    decide +kernel
  have hall : textBox.runText [] = "box\n\n\x7b\x7bname\x7d\x7d\n\n".toList := by
    decide +kernel
  refine ⟨by decide +kernel, hread, hall, fun h => ?_⟩
  have hsame := h textBox
  rw [hread, hall] at hsame
  exact absurd hsame (by decide)

end Forest

end Forests

end MailMerge.Document
