import MailMerge.Proofs.NestedRuns

/-!
# Spellings of empty elements

An element without content is written as one tag or as two. The reader takes white space only from
single tags, and ends a run or a text element only at a tag that says so; it does not see that the
two spellings are the same. The main statement tells where the spelling shows
(`spelling_of_empty_elements`): in the white space of a run, in a run inside a run and in a text
element inside a text element, and nowhere else.
-/

namespace MailMerge.Document

open Markup Forest

section Hedges

inductive IsSkipped : List Char → Prop
  | aside {markup : List Char} (h : IsAside markup) : IsSkipped markup
  | characterData {body : List Char} (hbody : ¬"]]>".toList <:+: body) :
      IsSkipped (characterData body)
  | doctype {body : List Char} (hbody : Balanced body) (hword : ∃ c ∈ body, isSpace c = false) :
      IsSkipped (doctype body)

/-- What holds no element. The reader knows no references but its own ones, and gives up at an
instruction with a closing bracket in it. -/
inductive Leaf where
  | text (content : RunText)
  | reference (name : List Char) (hplain : ∀ c ∈ name, c ≠ '<' ∧ c ≠ '&' ∧ c ≠ ';')
      (hunknown : entity? .document name = none)
  | skipped (markup : List Char) (hskipped : IsSkipped markup)
  | instruction (body : List Char) (hbracket : '>' ∈ body) (hend : ¬"?>".toList <:+: body)

def Leaf.markup : Leaf → List Char
  | text content => content.raw
  | reference name _ _ => '&' :: (name ++ [';'])
  | skipped markup _ => markup
  | instruction body _ _ => processing body

/-- Texts, elements and other markup in a row, with others inside the elements. -/
inductive Hedge where
  | nil
  | leaf (l : Leaf) (rest : Hedge)
  | single (name : List Char) (hname : IsName name) (attributes : Attributes) (rest : Hedge)
  | element (name : List Char) (hname : IsName name) (tags : Tags) (content rest : Hedge)

def Hedge.markup : Hedge → List Char
  | nil => []
  | leaf l rest => l.markup ++ rest.markup
  | single name _ attributes rest => emptyTag name attributes ++ rest.markup
  | element name _ tags content rest => tags.around name content.markup ++ rest.markup

end Hedges

section Walks

def Leaf.walk : Leaf → Reading → Except Fault Reading
  | text content, r => .ok (if r.inText then r.add content.text else r)
  | reference _ _ _, r => if r.inText then .error .badText else .ok r
  | skipped _ _, r => .ok r
  | instruction _ _ _, _ => .error .malformed

/-- What the reader makes of a hedge. -/
def Hedge.walk : Hedge → Reading → Except Fault Reading
  | nil, r => .ok r
  | leaf l rest, r => (l.walk r).bind rest.walk
  | single name _ _ rest, r => rest.walk (r.single name)
  | element name _ _ content rest, r =>
    (content.walk (r.opened name)).bind fun r => rest.walk (r.closed name)

variable {stack : List (List Char)}

lemma read_skipped {markup : List Char} (h : IsSkipped markup) (r : Reading) (rest : List Char) :
    read r (eventsFrom .document stack (markup ++ rest)) =
      read r (eventsFrom .document stack rest) := by
  cases h with
  | aside h => rw [eventsFrom_aside h, read]
  | characterData hbody => rw [eventsFrom_characterData hbody, read]
  | doctype hbody hword => rw [eventsFrom_doctype hbody hword, read]

lemma unescape?_unknown {name : List Char} (hplain : ∀ c ∈ name, c ≠ '<' ∧ c ≠ '&' ∧ c ≠ ';')
    (hunknown : entity? .document name = none) (more : List Char) :
    unescape? .document ('&' :: (name ++ ';' :: more)) = none := by
  have hname : entityName? (name ++ ';' :: more) = some (name, more) := by
    clear hunknown
    induction name with
    | nil => simp [entityName?]
    | cons c name ih =>
      rw [List.forall_mem_cons] at hplain
      rw [List.cons_append, entityName?, if_neg hplain.1.2.2, if_neg hplain.1.2.1, ih hplain.2]
      rfl
  rw [unescape?, if_pos rfl]
  split
  · rfl
  · next found after h =>
    rw [hname, Option.some.injEq, Prod.mk.injEq] at h
    rw [← h.1, hunknown]

lemma Leaf.read_markup (l : Leaf) (r : Reading) (rest : List Char) :
    read r (eventsFrom .document stack (l.markup ++ rest)) =
      (l.walk r).bind fun r => read r (eventsFrom .document stack rest) := by
  have hout (htext : ¬r.inText = true) {raw : List Char} (hraw : '<' ∉ raw) :
      read r (eventsFrom .document stack (raw ++ rest)) =
        read r (eventsFrom .document stack rest) := by
    have htext' : r.inText = false := by simpa using htext
    exact adds_text hraw r rfl htext' rest
  cases l with
  | text content =>
    by_cases htext : r.inText = true
    · rw [markup, read_text htext, walk, if_pos htext]
      rfl
    · rw [markup, hout htext content.unbracketed, walk, if_neg htext]
      rfl
  | reference name hplain hunknown =>
    have hraw : '<' ∉ '&' :: (name ++ [';']) := by
      simpa using fun h => (hplain '<' h).1 rfl
    by_cases htext : r.inText = true
    · have hfault := unescape?_unknown hplain hunknown (rest.takeWhile (· ≠ '<'))
      rw [markup, eventsFrom_append (by simp) hraw, read, if_pos htext, List.cons_append,
        List.append_assoc, List.singleton_append, hfault, walk, if_pos htext]
      rfl
    · rw [markup, hout htext hraw, walk, if_neg htext]
      rfl
  | skipped markup hskipped =>
    rw [Leaf.markup, read_skipped hskipped]
    rfl
  | instruction body hbracket hend =>
    rw [markup, eventsFrom_processing_of_bracket hbracket hend, read]
    rfl

/-- A written hedge is read tree by tree, up to the first fault. -/
lemma Hedge.read_markup (f : Hedge) (r : Reading) (rest : List Char) :
    read r (eventsFrom .document stack (f.markup ++ rest)) =
      (f.walk r).bind fun r => read r (eventsFrom .document stack rest) := by
  induction f generalizing stack r rest with
  | nil => rfl
  | leaf l others ih =>
    rw [markup, List.append_assoc, l.read_markup, walk]
    cases l.walk r with
    | error fault => rfl
    | ok r => exact ih r rest
  | single name hname attributes others ih =>
    rw [markup, List.append_assoc, read_empty hname, ih, walk]
  | element name hname tags content others ihcontent ihothers =>
    rw [markup, Tags.around, List.append_assoc, List.append_assoc, List.append_assoc,
      eventsFrom_openingTag hname, read, ihcontent, walk]
    cases content.walk (r.opened name) with
    | error fault => rfl
    | ok r =>
      change read r (eventsFrom .document (name :: stack) (closingTag name tags.gap ++ _)) = _
      rw [eventsFrom_closingTag hname tags.blank, read, ihothers]
      rfl

lemma Hedge.bodyText_eq (f : Hedge) :
    bodyText f.markup = (f.walk .start).map fun r => r.text.reverse := by
  have hread := @Hedge.read_markup [] f .start []
  rw [List.append_nil, eventsFrom] at hread
  rw [bodyText, events, hread]
  cases f.walk .start <;> rfl

end Walks

section Spellings

/-- Hedges that differ only in how empty elements are spelled, with allowed names at allowed places.
The elements around a place are given from the inside to the outside. -/
inductive Respelled (allowed : List (List Char) → List Char → Prop) :
    List (List Char) → Hedge → Hedge → Prop
  | nil {around : List (List Char)} : Respelled allowed around .nil .nil
  | leaf {around : List (List Char)} {rest rest' : Hedge} (l : Leaf)
      (hrest : Respelled allowed around rest rest') :
      Respelled allowed around (.leaf l rest) (.leaf l rest')
  | single {around : List (List Char)} {rest rest' : Hedge} {name : List Char} (hname : IsName name)
      (attributes : Attributes) (hrest : Respelled allowed around rest rest') :
      Respelled allowed around (.single name hname attributes rest)
        (.single name hname attributes rest')
  | element {around : List (List Char)} {content content' rest rest' : Hedge} {name : List Char}
      (hname : IsName name) (tags : Tags)
      (hcontent : Respelled allowed (name :: around) content content')
      (hrest : Respelled allowed around rest rest') :
      Respelled allowed around (.element name hname tags content rest)
        (.element name hname tags content' rest')
  | twoTags {around : List (List Char)} {rest rest' : Hedge} {name : List Char}
      (hname : IsName name) (tags : Tags) (hallowed : allowed around name)
      (hrest : Respelled allowed around rest rest') :
      Respelled allowed around (.single name hname tags.attributes rest)
        (.element name hname tags .nil rest')
  | oneTag {around : List (List Char)} {rest rest' : Hedge} {name : List Char}
      (hname : IsName name) (tags : Tags) (hallowed : allowed around name)
      (hrest : Respelled allowed around rest rest') :
      Respelled allowed around (.element name hname tags .nil rest)
        (.single name hname tags.attributes rest')

/-- The spelling of an empty element shows at a place. -/
def Shows (around : List (List Char)) (name : List Char) : Prop :=
  (name ∈ "w:r".toList :: spaceNames ∧ around.contains "w:r".toList = true) ∨
    (name = "w:t".toList ∧ inRunText around = true)

/-- An open run, and an open text element of a run, stands around the reader. -/
structure Within (r : Reading) (around : List (List Char)) : Prop where
  run : r.inRun = true → around.contains "w:r".toList = true
  text : r.inText = true → inRunText around = true

variable {r r' : Reading} {around : List (List Char)} {name : List Char}

lemma mem_spaceNames : name ∈ spaceNames ↔
    name = "w:tab".toList ∨ name = "w:br".toList ∨ name = "w:cr".toList := by
  simp [spaceNames]

lemma within_start : Within .start [] :=
  ⟨nofun, nofun⟩

lemma Within.add (h : Within r around) (chars : List Char) : Within (r.add chars) around :=
  ⟨h.run, h.text⟩

lemma single_eq_add (r : Reading) (name : List Char) :
    r.single name = r.add (shownSingle r.inRun name) := by
  unfold Reading.single shownSingle
  repeat' split
  all_goals rfl

lemma opened_eq (r : Reading) (name : List Char) :
    r.opened name = ⟨r.inRun || decide (name = "w:r".toList),
      r.inText || (decide (name = "w:t".toList) && r.inRun), r.text⟩ := by
  by_cases hr : name = "w:r".toList
  · subst hr
    simp [Reading.opened]
  · by_cases ht : name = "w:t".toList
    · subst ht
      obtain ⟨inRun, inText, text⟩ := r
      cases inRun <;> simp [Reading.opened]
    · rw [opened_of_ne hr ht, decide_eq_false hr, decide_eq_false ht]
      simp

lemma closed_eq (r : Reading) (name : List Char) :
    r.closed name = ⟨r.inRun && !decide (name = "w:r".toList),
      r.inText && !decide (name = "w:t".toList), (shownEnd name).reverse ++ r.text⟩ := by
  by_cases ht : name = "w:t".toList
  · subst ht
    simp [Reading.closed, shownEnd]
  · by_cases hr : name = "w:r".toList
    · subst hr
      simp [Reading.closed, shownEnd]
    · rw [Reading.closed, if_neg ht, if_neg hr, decide_eq_false hr, decide_eq_false ht, shownEnd]
      by_cases hp : name = "w:p".toList
      · simp [hp, Reading.add]
      · rw [if_neg hp, if_neg hp]
        simp

lemma closed_opened_eq (r : Reading) (name : List Char) :
    (r.opened name).closed name = ⟨r.inRun && !decide (name = "w:r".toList),
      r.inText && !decide (name = "w:t".toList), (shownEnd name).reverse ++ r.text⟩ := by
  rw [opened_eq, closed_eq]
  cases decide (name = "w:r".toList) <;> cases decide (name = "w:t".toList) <;> simp

lemma Within.opened (h : Within r around) (name : List Char) :
    Within (r.opened name) (name :: around) := by
  rw [opened_eq]
  constructor
  · intro hrun
    rcases Bool.or_eq_true_iff.mp hrun with hrun | hname
    · rw [List.contains_cons, h.run hrun, Bool.or_true]
    · rw [List.contains_cons, of_decide_eq_true hname, beq_self_eq_true, Bool.true_or]
  · intro htext
    rcases Bool.or_eq_true_iff.mp htext with htext | hname
    · rw [inRunText, h.text htext, Bool.or_true]
    · rw [Bool.and_eq_true] at hname
      rw [inRunText, hname.1, h.run hname.2]
      rfl

lemma Within.closed (h : Within r (name :: around)) : Within (r.closed name) around := by
  rw [closed_eq]
  constructor
  · intro hrun
    rw [Bool.and_eq_true, Bool.not_eq_true', decide_eq_false_iff_not] at hrun
    have haround := h.run hrun.1
    rw [List.contains_cons, beq_eq_false_iff_ne.mpr (Ne.symm hrun.2), Bool.false_or] at haround
    exact haround
  · intro htext
    rw [Bool.and_eq_true, Bool.not_eq_true', decide_eq_false_iff_not] at htext
    have haround := h.text htext.1
    rw [inRunText, decide_eq_false htext.2, Bool.false_and, Bool.false_or] at haround
    exact haround

lemma Leaf.within_walk (l : Leaf) (h : Within r around) (hwalk : l.walk r = .ok r') :
    Within r' around := by
  cases l with
  | text content =>
    cases hwalk
    split
    · exact h.add _
    · exact h
  | reference name hplain hunknown =>
    rw [walk] at hwalk
    split at hwalk
    · cases hwalk
    · cases hwalk
      exact h
  | skipped markup hskipped =>
    cases hwalk
    exact h
  | instruction body hbracket hend => cases hwalk

lemma Hedge.within_walk (f : Hedge) (h : Within r around) (hwalk : f.walk r = .ok r') :
    Within r' around := by
  induction f generalizing r r' around with
  | nil =>
    cases hwalk
    exact h
  | leaf l rest ih =>
    rw [walk] at hwalk
    cases hfirst : l.walk r with
    | error fault =>
      rw [hfirst] at hwalk
      cases hwalk
    | ok between =>
      rw [hfirst] at hwalk
      exact ih (l.within_walk h hfirst) hwalk
  | single name hname attributes rest ih =>
    rw [walk, single_eq_add] at hwalk
    exact ih (h.add _) hwalk
  | element name hname tags content rest ihcontent ihrest =>
    rw [walk] at hwalk
    cases hfirst : content.walk (r.opened name) with
    | error fault =>
      rw [hfirst] at hwalk
      cases hwalk
    | ok between =>
      rw [hfirst] at hwalk
      exact ihrest (ihcontent (h.opened name) hfirst).closed hwalk

lemma shownSingle_eq_shownEnd {inRun : Bool} (h : inRun = true → name ∉ spaceNames) :
    shownSingle inRun name = shownEnd name := by
  rw [shownSingle, shownEnd]
  by_cases hp : name = "w:p".toList
  · rw [if_pos hp, if_pos hp]
  · rw [if_neg hp, if_neg hp]
    cases inRun with
    | false => rfl
    | true =>
      have hspace := h rfl
      simp only [mem_spaceNames, not_or] at hspace
      obtain ⟨htab, hbreak, hreturn⟩ := hspace
      rw [if_pos rfl, if_neg htab, decide_eq_false hbreak, decide_eq_false hreturn]
      rfl

lemma closed_opened_eq_single (h : Within r around) (hshows : ¬Shows around name) :
    (r.opened name).closed name = r.single name := by
  rw [Shows, not_or, not_and', not_and'] at hshows
  have hrun : r.inRun = true → name ∉ "w:r".toList :: spaceNames :=
    fun hopen => hshows.1 (h.run hopen)
  have htext : r.inText = true → name ≠ "w:t".toList := fun hopen => hshows.2 (h.text hopen)
  have hshown : shownSingle r.inRun name = shownEnd name :=
    shownSingle_eq_shownEnd fun hopen hspace => hrun hopen (List.mem_cons_of_mem _ hspace)
  have hkeepsRun : (r.inRun && !decide (name = "w:r".toList)) = r.inRun := by
    cases hopen : r.inRun with
    | false => rfl
    | true =>
      have hne : name ≠ "w:r".toList := fun hname => hrun hopen (hname ▸ List.mem_cons_self)
      rw [decide_eq_false hne]
      rfl
  have hkeepsText : (r.inText && !decide (name = "w:t".toList)) = r.inText := by
    cases hopen : r.inText with
    | false => rfl
    | true =>
      rw [decide_eq_false (htext hopen)]
      rfl
  rw [closed_opened_eq, single_eq_add, hkeepsRun, hkeepsText, hshown]
  rfl

/-- Where no spelling shows, respelled hedges are read alike. -/
lemma Respelled.walk_eq {f g : Hedge}
    (hfg : Respelled (fun around name => ¬Shows around name) around f g) (h : Within r around) :
    g.walk r = f.walk r := by
  induction hfg generalizing r with
  | nil => rfl
  | leaf l _ ih =>
    rw [Hedge.walk, Hedge.walk]
    cases hfirst : l.walk r with
    | error fault => rfl
    | ok between => exact ih (l.within_walk h hfirst)
  | single hname attributes _ ih =>
    rw [Hedge.walk, Hedge.walk, single_eq_add]
    exact ih (h.add _)
  | element hname tags _ _ ihcontent ihrest =>
    rw [Hedge.walk, Hedge.walk, ihcontent (h.opened _)]
    -- Behind the element there stands around the reader what stood around it before.
    cases hfirst : Hedge.walk _ (r.opened _) with
    | error fault => rfl
    | ok between => exact ihrest (Hedge.within_walk _ (h.opened _) hfirst).closed
  | twoTags hname tags hallowed _ ih =>
    change Hedge.walk _ ((r.opened _).closed _) = Hedge.walk _ (r.single _)
    rw [closed_opened_eq_single h hallowed, single_eq_add]
    exact ih (h.add _)
  | oneTag hname tags hallowed _ ih =>
    change Hedge.walk _ (r.single _) = Hedge.walk _ ((r.opened _).closed _)
    rw [closed_opened_eq_single h hallowed, single_eq_add]
    exact ih (h.add _)

end Spellings

section Places

variable {allowed : List (List Char) → List Char → Prop} {around : List (List Char)}
  {name : List Char}

lemma Respelled.refl (f : Hedge) : Respelled allowed around f f := by
  induction f generalizing around with
  | nil => exact .nil
  | leaf l rest ih => exact .leaf l ih
  | single name hname attributes rest ih => exact .single hname attributes ih
  | element name hname tags content rest ihcontent ihrest =>
    exact .element hname tags ihcontent ihrest

/-- The reader's state behind the tags that open these elements, and nothing else. -/
def entered : List (List Char) → Reading
  | [] => .start
  | name :: outer => (entered outer).opened name

lemma entered_eq (around : List (List Char)) :
    entered around = ⟨around.contains "w:r".toList, inRunText around, []⟩ := by
  induction around with
  | nil => rfl
  | cons name outer ih =>
    have hname : ("w:r".toList == name) = decide (name = "w:r".toList) := by
      rw [beq_eq_decide]
      exact decide_eq_decide.mpr eq_comm
    rw [entered, ih, opened_eq, List.contains_cons, inRunText, hname]
    simp only [Bool.or_comm]

/-- A tab and a letter, of which a run shows the one and a text element the other. -/
def probe : Hedge :=
  .single "w:tab".toList (by decide) .none (.leaf (.text (.of ['x'])) .nil)

lemma walk_probe (r : Reading) :
    ∃ r', probe.walk r = .ok r' ∧
      r'.text.length = r.text.length + r.inRun.toNat + r.inText.toNat := by
  obtain ⟨inRun, inText, text⟩ := r
  refine ⟨_, rfl, ?_⟩
  cases inRun <;> cases inText <;> rfl

lemma Shows.isName (h : Shows around name) : IsName name := by
  rcases h with ⟨hname, -⟩ | ⟨rfl, -⟩
  · rw [List.mem_cons, mem_spaceNames] at hname
    rcases hname with rfl | rfl | rfl | rfl <;> decide
  · decide

/-- In a place where the spelling shows it makes a difference. -/
lemma exists_texts_ne (hname : IsName name) (h : Shows around name) :
    ∃ r r', (Hedge.single name hname Tags.plain.attributes probe).walk (entered around) = .ok r ∧
      (Hedge.element name hname .plain .nil probe).walk (entered around) = .ok r' ∧
      r'.text ≠ r.text := by
  obtain ⟨r, hr, hone⟩ := walk_probe ((entered around).single name)
  obtain ⟨r', hr', htwo⟩ := walk_probe (((entered around).opened name).closed name)
  refine ⟨r, r', hr, hr', fun hsame => ?_⟩
  -- If the texts were the same, the probe would show as much behind two tags as behind one.
  rw [single_eq_add, entered_eq] at hone
  rw [hsame, hone, closed_opened_eq, entered_eq] at htwo
  rcases h with ⟨hrunName, hrun⟩ | ⟨rfl, htext⟩
  · rw [hrun] at htwo
    generalize inRunText around = inText at htwo
    rw [List.mem_cons, mem_spaceNames] at hrunName
    rcases hrunName with rfl | rfl | rfl | rfl <;> cases inText <;>
      exact absurd htwo (by decide)
  · rw [htext] at htwo
    generalize around.contains "w:r".toList = inRun at htwo
    cases inRun <;> exact absurd htwo (by decide)

lemma exists_bodyText_ne (hnames : ∀ n ∈ around, IsName n) {f g : Hedge}
    (hfg : Respelled allowed around f g) {r r' : Reading} (hf : f.walk (entered around) = .ok r)
    (hg : g.walk (entered around) = .ok r') (hne : r'.text ≠ r.text) :
    ∃ f g, Respelled allowed [] f g ∧ bodyText g.markup ≠ bodyText f.markup := by
  induction around generalizing f g r r' with
  | nil =>
    refine ⟨f, g, hfg, fun hsame => hne ?_⟩
    change f.walk .start = _ at hf
    change g.walk .start = _ at hg
    rw [f.bodyText_eq, g.bodyText_eq, hf, hg] at hsame
    exact List.reverse_injective (Except.ok.inj hsame)
  | cons name outer ih =>
    -- The innermost element is put around both, and its end adds the same to both texts.
    rw [List.forall_mem_cons] at hnames
    have hf' : (Hedge.element name hnames.1 .plain f .nil).walk (entered outer) =
        .ok (r.closed name) := by
      rw [Hedge.walk, ← entered, hf]
      rfl
    have hg' : (Hedge.element name hnames.1 .plain g .nil).walk (entered outer) =
        .ok (r'.closed name) := by
      rw [Hedge.walk, ← entered, hg]
      rfl
    refine ih hnames.2 (.element hnames.1 .plain hfg .nil) hf' hg' fun hsame => hne ?_
    rw [closed_eq, closed_eq] at hsame
    exact List.append_cancel_left hsame

lemma Respelled.imp {allowed' : List (List Char) → List Char → Prop}
    (h : ∀ around name, (∀ n ∈ around, IsName n) → allowed around name → allowed' around name)
    (hnames : ∀ n ∈ around, IsName n) {f g : Hedge} (hfg : Respelled allowed around f g) :
    Respelled allowed' around f g := by
  induction hfg with
  | nil => exact .nil
  | leaf l _ ih => exact .leaf l (ih hnames)
  | single hname attributes _ ih => exact .single hname attributes (ih hnames)
  | element hname tags _ _ ihcontent ihrest =>
    have hinside := List.forall_mem_cons.mpr ⟨hname, hnames⟩
    exact .element hname tags (ihcontent hinside) (ihrest hnames)
  | twoTags hname tags hallowed _ ih =>
    exact .twoTags hname tags (h _ _ hnames hallowed) (ih hnames)
  | oneTag hname tags hallowed _ ih =>
    exact .oneTag hname tags (h _ _ hnames hallowed) (ih hnames)

end Places

section Spaces

/-- The hedge without the white space that is written as two tags. -/
def Hedge.unspaced : Hedge → Hedge
  | nil => nil
  | leaf l rest => leaf l rest.unspaced
  | single name hname attributes rest => single name hname attributes rest.unspaced
  | element name hname tags nil rest =>
    if name ∈ spaceNames then rest.unspaced else element name hname tags nil rest.unspaced
  | element name hname tags content rest =>
    element name hname tags content.unspaced rest.unspaced

lemma closed_opened_space {name : List Char} (h : name ∈ spaceNames) (r : Reading) :
    (r.opened name).closed name = r := by
  rw [closed_opened_eq]
  rcases mem_spaceNames.mp h with rfl | rfl | rfl <;> simp [shownEnd]

lemma Hedge.walk_unspaced (f : Hedge) (r : Reading) : f.unspaced.walk r = f.walk r := by
  fun_induction Hedge.unspaced f generalizing r with
  | case1 => rfl
  | case2 l rest ih =>
    have hrest : rest.unspaced.walk = rest.walk := funext ih
    rw [walk, walk, hrest]
  | case3 name hname attributes rest ih => exact ih _
  | case4 name hname tags rest hspace ih =>
    change _ = rest.walk ((r.opened name).closed name)
    rw [ih, closed_opened_space hspace]
  | case5 name hname tags rest hspace ih => exact ih _
  | case6 name hname tags content rest hcontent ihcontent ihrest =>
    rw [walk, walk, ihcontent]
    cases content.walk (r.opened name) with
    | error fault => rfl
    | ok r => exact ihrest _

end Spaces

/-- Empty elements can be respelled without any change in what is read, in all documents, exactly if
they are respelled only where the spelling does not show. White space that is written as two tags
is not read at all. -/
theorem spelling_of_empty_elements (allowed : List (List Char) → List Char → Prop) :
    ((∀ f g, Respelled allowed [] f g → bodyText g.markup = bodyText f.markup) ↔
      ∀ around name, (∀ n ∈ around, IsName n) → allowed around name → ¬Shows around name) ∧
    ∀ f : Hedge, bodyText f.unspaced.markup = bodyText f.markup := by
  refine ⟨⟨fun hsilent around name hnames hallowed hshows => ?_, fun hallowed f g hfg => ?_⟩,
    fun f => ?_⟩
  · obtain ⟨r, r', hf, hg, hne⟩ := exists_texts_ne hshows.isName hshows
    obtain ⟨f, g, hfg, hdiffers⟩ := exists_bodyText_ne hnames
      (.twoTags hshows.isName .plain hallowed (.refl probe)) hf hg hne
    exact hdiffers (hsilent f g hfg)
  · have hsilent : Respelled (fun around name => ¬Shows around name) [] f g :=
      hfg.imp hallowed (by simp)
    rw [g.bodyText_eq, f.bodyText_eq, hsilent.walk_eq within_start]
  · rw [f.unspaced.bodyText_eq, f.bodyText_eq, f.walk_unspaced]

lemma isName_document : IsName "w:document".toList := by decide

/-- A run of two letters with something between them. -/
def letters (between : Hedge → Hedge) : Hedge :=
  let letter (c : Char) (rest : Hedge) : Hedge :=
    .element "w:t".toList (by decide) .plain (.leaf (.text (.of [c])) .nil) rest
  let run : Hedge :=
    .element "w:r".toList (by decide) .plain (letter 'a' (between (letter 'b' .nil))) .nil
  .element "w:document".toList isName_document { Tags.plain with attributes := nameSpace }
    (.element "w:body".toList (by decide) .plain
      (.element "w:p".toList (by decide) .plain run .nil) .nil) .nil

/-- A tab is lost with the change of its spelling. -/
theorem not_bodyText_eq_of_respelled :
    let tab := letters (.single "w:tab".toList (by decide) .none)
    let lost := letters (.element "w:tab".toList (by decide) .plain .nil)
    tab.markup = ("<w:document xmlns:w=\"x\"><w:body><w:p><w:r><w:t>a</w:t><w:tab/><w:t>b</w:t>" ++
      "</w:r></w:p></w:body></w:document>").toList ∧
    lost.markup = ("<w:document xmlns:w=\"x\"><w:body><w:p><w:r><w:t>a</w:t><w:tab></w:tab>" ++
      "<w:t>b</w:t></w:r></w:p></w:body></w:document>").toList ∧
    bodyText tab.markup = .ok "a\tb\n\n".toList ∧ bodyText lost.markup = .ok "ab\n\n".toList ∧
    ¬∀ f g, Respelled (fun _ _ => True) [] f g → bodyText g.markup = bodyText f.markup := by
  intro tab lost
  have htab : bodyText tab.markup = .ok "a\tb\n\n".toList := by
    rw [Hedge.bodyText_eq]
    decide +kernel
  have hlost : bodyText lost.markup = .ok "ab\n\n".toList := by
    rw [Hedge.bodyText_eq]
    decide +kernel
  have hspelling (rest : Hedge) : Respelled (fun _ _ => True)
      ["w:r".toList, "w:p".toList, "w:body".toList, "w:document".toList]
      (.single "w:tab".toList (by decide) .none rest)
      (.element "w:tab".toList (by decide) .plain .nil rest) :=
    .twoTags (by decide) .plain trivial (.refl rest)
  have hrespelled : Respelled (fun _ _ => True) [] tab lost :=
    .element _ _ (.element _ _ (.element _ _ (.element _ _ (.element _ _ (.refl _) (hspelling _))
      .nil) .nil) .nil) .nil
  refine ⟨by decide +kernel, by decide +kernel, htab, hlost, fun h => ?_⟩
  have hsame := h tab lost hrespelled
  rw [htab, hlost] at hsame
  exact absurd hsame (by decide)

end MailMerge.Document
