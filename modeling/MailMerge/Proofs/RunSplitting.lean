import MailMerge.Proofs.DocumentRoundTrip
import MailMerge.Token
import Mathlib.Logic.Relation

/-!
# Texts split over runs

A writer of documents may cut a text anywhere, in a run or between two of them, also inside a
token. A document is taken here as its paragraphs and runs are written, with formatting between
them; its text does not tell how it was cut.
-/

namespace MailMerge.Document

open Markup

section Silence

/-- The elements that are seen where a run is open, and where none is. -/
def visible (inRun : Bool) : List (List Char) :=
  ["w:p".toList, "w:r".toList] ++
    if inRun then ["w:t".toList, "w:tab".toList, "w:br".toList, "w:cr".toList] else []

/-- Markup without visible elements, such as formatting with its tab stops. -/
inductive Silent (inRun : Bool) : List Char → Prop
  | nil : Silent inRun []
  | append {front back : List Char} (hfront : Silent inRun front) (hback : Silent inRun back) :
      Silent inRun (front ++ back)
  | text {cs : List Char} (hbracket : '<' ∉ cs) : Silent inRun cs
  | comment {body : List Char} (hbody : ¬"-->".toList <:+: body) : Silent inRun (comment body)
  | processing {body : List Char} (hne : body ≠ []) (hbody : '>' ∉ body) :
      Silent inRun (processing body)
  | doctype {body : List Char} (hopen : '<' ∉ body) (hclose : '>' ∉ body)
      (hword : ∃ c ∈ body, isSpace c = false) : Silent inRun (doctype body)
  | empty {name : List Char} (hname : IsName name) (hhidden : name ∉ visible inRun)
      (attributes : Attributes) : Silent inRun (emptyTag name attributes)
  | element {name content : List Char} (hname : IsName name) (hhidden : name ∉ visible inRun)
      (tags : Tags) (hcontent : Silent inRun content) : Silent inRun (tags.around name content)

structure Silence (inRun : Bool) where
  markup : List Char
  silent : Silent inRun markup

def Silence.none {inRun : Bool} : Silence inRun :=
  ⟨[], .nil⟩

variable {stack : List (List Char)} {inRun : Bool}

/-- An element is read as its content between two changes of the state. -/
lemma read_around {name content : List Char} (hname : IsName name) (tags : Tags) {r r' : Reading}
    (hcontent : ∀ rest, read (r.opened name) (eventsFrom .document (name :: stack)
      (content ++ '<' :: rest)) = read r' (eventsFrom .document (name :: stack) ('<' :: rest)))
    (rest : List Char) :
    read r (eventsFrom .document stack (tags.around name content ++ rest)) =
      read (r'.closed name) (eventsFrom .document stack rest) := by
  have hend : closingTag name tags.gap ++ rest =
      '<' :: ((closingTag name tags.gap).tail ++ rest) := rfl
  rw [Tags.around, List.append_assoc, List.append_assoc, eventsFrom_openingTag hname, read, hend,
    hcontent, ← hend, eventsFrom_closingTag hname tags.blank, read]

lemma read_empty {name : List Char} (hname : IsName name) (attributes : Attributes) (r : Reading)
    (rest : List Char) :
    read r (eventsFrom .document stack (emptyTag name attributes ++ rest)) =
      read (r.single name) (eventsFrom .document stack rest) := by
  rw [eventsFrom_emptyTag hname, read]

lemma read_dropWhile {r : Reading} (htext : r.inText = false) (rest : List Char) :
    read r (eventsFrom .document stack (rest.dropWhile (· ≠ '<'))) =
      read r (eventsFrom .document stack rest) := by
  rcases rest with _ | ⟨c, rest⟩
  · rfl
  · by_cases hc : c = '<'
    · rw [hc, List.dropWhile_cons_of_neg (by simp)]
    · rw [List.dropWhile_cons_of_pos (by simpa using hc), eventsFrom, read, if_neg (by simp [htext])]
      · rintro rfl
        exact absurd rfl hc
      · intro d ds h
        exact absurd h hc

lemma adds_text {cs : List Char} (hbracket : '<' ∉ cs) : Adds stack inRun cs [] := by
  intro r _ htext rest
  have hall : ∀ c ∈ cs, decide (c ≠ '<') = true := by
    intro c hc
    rw [decide_eq_true_eq]
    rintro rfl
    exact hbracket hc
  rw [← read_dropWhile htext, List.dropWhile_append_of_pos hall, read_dropWhile htext]
  rfl

lemma opened_hidden {name : List Char} (h : name ∉ visible inRun) {r : Reading}
    (hrun : r.inRun = inRun) : r.opened name = r := by
  cases inRun <;> simp_all [visible, Reading.opened]

lemma single_hidden {name : List Char} (h : name ∉ visible inRun) {r : Reading}
    (hrun : r.inRun = inRun) : r.single name = r := by
  cases inRun <;> simp_all [visible, Reading.single]

lemma closed_hidden {name : List Char} (h : name ∉ visible inRun) {r : Reading}
    (htext : r.inText = false) : r.closed name = r := by
  cases inRun <;> simp_all [visible, Reading.closed]
  rintro rfl
  simp [← htext]

lemma Adds.around {name markup text : List Char} (hname : IsName name)
    (hhidden : name ∉ visible inRun) (tags : Tags) (h : Adds (name :: stack) inRun markup text) :
    Adds stack inRun (tags.around name markup) text := by
  intro r hrun htext rest
  have hcontent : ∀ cs, read (r.opened name) (eventsFrom .document (name :: stack)
      (markup ++ '<' :: cs)) = read (r.add text) (eventsFrom .document (name :: stack)
      ('<' :: cs)) := by
    intro cs
    rw [opened_hidden hhidden hrun]
    exact h r hrun htext ('<' :: cs)
  have hclosed : (r.add text).closed name = r.add text := closed_hidden hhidden htext
  rw [read_around hname tags hcontent, hclosed]

lemma adds_silent {markup : List Char} (h : Silent inRun markup) : Adds stack inRun markup [] := by
  induction h generalizing stack with
  | nil => exact adds_nil
  | append _ _ ihfront ihback => exact ihfront.append ihback
  | text hbracket => exact adds_text hbracket
  | comment hbody =>
    intro r _ _ rest
    rw [eventsFrom_comment hbody, read]
    rfl
  | processing hne hbody =>
    intro r _ _ rest
    rw [eventsFrom_processing hne hbody, read]
    rfl
  | doctype hopen hclose hword =>
    intro r _ _ rest
    rw [eventsFrom_doctype (balanced_of_not_mem hopen hclose) hword, read]
    rfl
  | empty hname hhidden attributes =>
    intro r hrun _ rest
    rw [read_empty hname, single_hidden hhidden hrun]
    rfl
  | element hname hhidden tags _ ih => exact ih.around hname hhidden tags

end Silence

section Parts

/-- An escaped text as it is written, in any of the ways to escape it. -/
structure RunText where
  raw : List Char
  text : List Char
  unbracketed : '<' ∉ raw
  stands : unescape? .document raw = some text

def RunText.of (text : List Char) : RunText :=
  ⟨escape text, text, bracket_not_mem_escape text, unescape?_escape .document text⟩

/-- The empty elements of a run that stand for white space. -/
inductive Space where
  | tab
  | lineBreak
  | carriageReturn

def Space.name : Space → List Char
  | .tab => "w:tab".toList
  | .lineBreak => "w:br".toList
  | .carriageReturn => "w:cr".toList

def Space.shown : Space → List Char
  | .tab => ['\t']
  | .lineBreak => ['\n']
  | .carriageReturn => ['\n']

/-- What a run holds. -/
inductive Piece where
  | text (tags : Tags) (content : RunText)
  | noText (attributes : Attributes)
  | space (kind : Space) (attributes : Attributes)
  | silent (silence : Silence true)

def Piece.markup : Piece → List Char
  | .text tags content => tags.around "w:t".toList content.raw
  | .noText attributes => emptyTag "w:t".toList attributes
  | .space kind attributes => emptyTag kind.name attributes
  | .silent silence => silence.markup

def Piece.shown : Piece → List Char
  | .text _ content => content.text
  | .noText _ => []
  | .space kind _ => kind.shown
  | .silent _ => []

/-- What a paragraph holds: runs, and its formatting in front of them. -/
inductive Content where
  | run (tags : Tags) (pieces : List Piece)
  | noRun (attributes : Attributes)
  | silent (silence : Silence false)

def Content.markup : Content → List Char
  | .run tags pieces => tags.around "w:r".toList (pieces.flatMap Piece.markup)
  | .noRun attributes => emptyTag "w:r".toList attributes
  | .silent silence => silence.markup

def Content.shown : Content → List Char
  | .run _ pieces => pieces.flatMap Piece.shown
  | .noRun _ => []
  | .silent _ => []

/-- What a body holds. -/
inductive Block where
  | paragraph (tags : Tags) (contents : List Content)
  | noParagraph (attributes : Attributes)
  | silent (silence : Silence false)

def Block.markup : Block → List Char
  | .paragraph tags contents => tags.around "w:p".toList (contents.flatMap Content.markup)
  | .noParagraph attributes => emptyTag "w:p".toList attributes
  | .silent silence => silence.markup

def Block.shown : Block → List Char
  | .paragraph _ contents => contents.flatMap Content.shown ++ ['\n', '\n']
  | .noParagraph _ => ['\n', '\n']
  | .silent _ => []

/-- A main part: its body in the root element, and what stands around the two. -/
structure Main where
  prolog : Silence false
  root : Tags
  front : Silence false
  body : Tags
  blocks : List Block
  back : Silence false
  epilog : Silence false

def Main.markup (m : Main) : List Char :=
  m.prolog.markup ++
    (m.root.around "w:document".toList
      (m.front.markup ++ (m.body.around "w:body".toList (m.blocks.flatMap Block.markup) ++
        m.back.markup)) ++ m.epilog.markup)

def Main.shown (m : Main) : List Char :=
  m.blocks.flatMap Block.shown

end Parts

section Shown

variable {stack : List (List Char)}

lemma read_text {r : Reading} (htext : r.inText = true)
    (content : RunText) (rest : List Char) :
    read r (eventsFrom .document stack (content.raw ++ rest)) =
      read (r.add content.text) (eventsFrom .document stack rest) := by
  by_cases hne : content.raw = []
  · have hnil := content.stands
    rw [hne, unescape?, Option.some.injEq] at hnil
    rw [hne, ← hnil]
    rfl
  · have htext' : (r.add content.text).inText = true := htext
    rw [eventsFrom_append hne content.unbracketed, read, if_pos htext,
      unescape?_append content.stands]
    rcases rest with _ | ⟨c, rest⟩
    · simp [unescape?]
    · by_cases hc : c = '<'
      · rw [hc, List.takeWhile_cons_of_neg (by simp), List.dropWhile_cons_of_neg (by simp),
          unescape?]
        simp
      · have hrest : eventsFrom .document stack (c :: rest) =
            .text (c :: rest.takeWhile (· ≠ '<')) ::
              eventsFrom .document stack (rest.dropWhile (· ≠ '<')) :=
          eventsFrom_append (List.cons_ne_nil c []) (by simpa using Ne.symm hc) rest
        rw [List.takeWhile_cons_of_pos (by simpa using hc),
          List.dropWhile_cons_of_pos (by simpa using hc), hrest, read, if_pos htext']
        cases unescape? .document (c :: rest.takeWhile (· ≠ '<')) with
        | none => rfl
        | some more => simp [add_add]

lemma adds_piece (piece : Piece) : Adds stack true piece.markup piece.shown := by
  intro r hrun htext rest
  cases piece with
  | text tags content =>
    have hopened : r.opened "w:t".toList = { r with inText := true } := by
      simp [Reading.opened, hrun]
    have hclosed : (Reading.add { r with inText := true } content.text).closed "w:t".toList =
        r.add content.text := by
      simp [Reading.closed, Reading.add, htext]
    rw [Piece.markup, read_around (by decide) tags, hclosed]
    · rfl
    · intro rest
      rw [hopened]
      exact read_text rfl content ('<' :: rest)
  | noText attributes =>
    rw [Piece.markup, read_empty (by decide)]
    simp [Reading.single, Piece.shown, Reading.add]
  | space kind attributes =>
    have hname : IsName kind.name := by
      cases kind <;> decide
    rw [Piece.markup, read_empty hname]
    cases kind <;> simp [Reading.single, Space.name, Piece.shown, Space.shown, hrun]
  | silent silence => exact adds_silent silence.silent r hrun htext rest

lemma adds_content (content : Content) : Adds stack false content.markup content.shown := by
  intro r hrun htext rest
  cases content with
  | run tags pieces =>
    have hpieces : Adds ("w:r".toList :: stack) true (pieces.flatMap Piece.markup)
        (pieces.flatMap Piece.shown) := adds_flatMap adds_piece pieces
    have hopened : r.opened "w:r".toList = { r with inRun := true } := rfl
    have hclosed (cs : List Char) : (Reading.add { r with inRun := true } cs).closed "w:r".toList =
        r.add cs := by
      simp [Reading.closed, Reading.add, hrun]
    rw [Content.markup, read_around (by decide) tags, hclosed, Content.shown]
    · intro rest
      rw [hopened]
      exact hpieces { r with inRun := true } rfl htext _
  | noRun attributes =>
    rw [Content.markup, read_empty (by decide)]
    simp [Reading.single, Content.shown, Reading.add]
  | silent silence => exact adds_silent silence.silent r hrun htext rest

lemma adds_block (block : Block) : Adds stack false block.markup block.shown := by
  intro r hrun htext rest
  cases block with
  | paragraph tags contents =>
    have hcontents : Adds ("w:p".toList :: stack) false (contents.flatMap Content.markup)
        (contents.flatMap Content.shown) := adds_flatMap adds_content contents
    have hopened : r.opened "w:p".toList = r := rfl
    have hclosed (cs : List Char) : (r.add cs).closed "w:p".toList = r.add (cs ++ ['\n', '\n']) := by
      rw [← add_add]
      rfl
    rw [Block.markup, read_around (by decide) tags, hclosed]
    · rfl
    · intro rest
      rw [hopened]
      exact hcontents r hrun htext _
  | noParagraph attributes =>
    rw [Block.markup, read_empty (by decide)]
    rfl
  | silent silence => exact adds_silent silence.silent r hrun htext rest

lemma adds_main (m : Main) : Adds [] false m.markup m.shown := by
  have hblocks : Adds bodyStack false (m.blocks.flatMap Block.markup) m.shown :=
    adds_flatMap adds_block m.blocks
  have hbody := hblocks.around (by decide) (by decide) m.body
  have hroot := ((adds_silent m.front.silent).append
    (hbody.append (adds_silent m.back.silent))).around (by decide) (by decide) m.root
  have hall := (adds_silent m.prolog.silent).append (hroot.append (adds_silent m.epilog.silent))
  rw [List.nil_append, List.nil_append, List.append_nil, List.append_nil] at hall
  exact hall

/-- The text of a document is that of its paragraphs, two line ends behind each. -/
theorem bodyText_markup (m : Main) : bodyText m.markup = .ok m.shown := by
  have hread := adds_main m .start rfl rfl []
  rw [List.append_nil, eventsFrom, read] at hread
  rw [bodyText, events, hread]
  simp [Except.map, Reading.add, Reading.start]

end Shown

section Cuts

/-- A text element becomes two, in its run or in two adjacent runs, of which the second may repeat
the formatting. -/
inductive Cut : Content → List Content → Prop
  | within {tags inner inner' inner'' : Tags} {before after : List Piece} {whole left right : RunText}
      (hcut : left.text ++ right.text = whole.text) :
      Cut (.run tags (before ++ .text inner whole :: after))
        [.run tags (before ++ .text inner' left :: .text inner'' right :: after)]
  | across {tags tags' tags'' inner inner' inner'' : Tags} {before after : List Piece}
      {whole left right : RunText} (formatting : Silence true)
      (hcut : left.text ++ right.text = whole.text) :
      Cut (.run tags (before ++ .text inner whole :: after))
        [.run tags' (before ++ [.text inner' left]),
          .run tags'' (.silent formatting :: .text inner'' right :: after)]

/-- One text of a document is cut. -/
inductive CutOnce : Main → Main → Prop
  | cut {m : Main} {tags : Tags} {above below : List Block} {before after contents : List Content}
      {content : Content} (hcut : Cut content contents)
      (hblocks : m.blocks = above ++ .paragraph tags (before ++ content :: after) :: below) :
      CutOnce m { m with
        blocks := above ++ .paragraph tags (before ++ contents ++ after) :: below }

/-- Every text can be cut at every place in both ways. -/
lemma exists_cut (tags inner : Tags) (before after : List Piece) (whole : RunText) (n : Nat) :
    ∃ left right, left.text = whole.text.take n ∧ right.text = whole.text.drop n ∧
      Cut (.run tags (before ++ .text inner whole :: after))
        [.run tags (before ++ .text inner left :: .text inner right :: after)] ∧
      Cut (.run tags (before ++ .text inner whole :: after))
        [.run tags (before ++ [.text inner left]),
          .run tags (.silent .none :: .text inner right :: after)] := by
  have hcut : (RunText.of (whole.text.take n)).text ++ (RunText.of (whole.text.drop n)).text =
      whole.text := List.take_append_drop n whole.text
  exact ⟨.of (whole.text.take n), .of (whole.text.drop n), rfl, rfl, .within hcut,
    .across .none hcut⟩

lemma Cut.shown {content : Content} {contents : List Content} (h : Cut content contents) :
    contents.flatMap Content.shown = content.shown := by
  cases h with
  | within hcut => simp [Content.shown, Piece.shown, ← hcut]
  | across formatting hcut => simp [Content.shown, Piece.shown, ← hcut]

lemma CutOnce.shown {m m' : Main} (h : CutOnce m m') : m'.shown = m.shown := by
  obtain ⟨hcut, hblocks⟩ := h
  simp [Main.shown, hblocks, Block.shown, hcut.shown]

/-- However often a document is cut, it shows the same. -/
lemma shown_of_cuts {m m' : Main} (h : Relation.ReflTransGen CutOnce m m') : m'.shown = m.shown := by
  induction h with
  | refl => rfl
  | tail _ hlast ih => rw [hlast.shown, ih]

/-- The text of a document is what its runs show, paragraph by paragraph, and neither it nor its
tokens tell how the texts are cut into elements and runs. -/
theorem text_of_split_runs (m : Main) :
    bodyText m.markup = .ok m.shown ∧
      ∀ m', Relation.ReflTransGen CutOnce m m' →
        bodyText m'.markup = bodyText m.markup ∧
          (bodyText m'.markup).map (fun text => placeholders (String.ofList text)) =
            .ok (placeholders (String.ofList m.shown)) := by
  refine ⟨bodyText_markup m, ?_⟩
  intro m' hcuts
  have hshown := shown_of_cuts hcuts
  have hsame : bodyText m'.markup = bodyText m.markup := by
    rw [bodyText_markup, bodyText_markup, hshown]
  refine ⟨hsame, ?_⟩
  rw [hsame, bodyText_markup]
  rfl

/-- The formatting of a paragraph with a tab stop. -/
def tabStop : Silence false :=
  ⟨Tags.plain.around "w:pPr".toList
    (Tags.plain.around "w:tabs".toList (emptyTag "w:tab".toList .none)),
    .element (by decide) (by decide) _
      (.element (by decide) (by decide) _ (.empty (by decide) (by decide) _))⟩

/-- A document of one paragraph with a tab stop. -/
def letter (contents : List Content) : Main :=
  ⟨.none, .plain, .none, .plain, [.paragraph .plain (.silent tabStop :: contents)], .none, .none⟩

theorem text_of_split_runs_insideToken :
    let whole := letter [.run .plain [.text .plain (.of "\x7b\x7bname\x7d\x7d".toList)]]
    let halves := letter [.run .plain [.text .plain (.of "\x7b\x7bna".toList)],
      .run .plain [.silent .none, .text .plain (.of "me\x7d\x7d".toList)]]
    Relation.ReflTransGen CutOnce whole halves ∧
      bodyText whole.markup = .ok "\x7b\x7bname\x7d\x7d\n\n".toList ∧
      bodyText halves.markup = bodyText whole.markup ∧
      (bodyText halves.markup).map (fun text => placeholders (String.ofList text)) =
        .ok ["name"] := by
  intro whole halves
  have hcut : Cut (.run .plain ([] ++ .text .plain (.of "\x7b\x7bname\x7d\x7d".toList) :: []))
      [.run .plain ([] ++ [.text .plain (.of "\x7b\x7bna".toList)]),
        .run .plain [.silent .none, .text .plain (.of "me\x7d\x7d".toList)]] := .across .none rfl
  have hblocks : whole.blocks = [] ++ .paragraph .plain ([.silent tabStop] ++
      .run .plain [.text .plain (.of "\x7b\x7bname\x7d\x7d".toList)] :: []) :: [] := rfl
  have hcuts : Relation.ReflTransGen CutOnce whole halves := .single (.cut hcut hblocks)
  have htext := text_of_split_runs whole
  obtain ⟨hsame, hnames⟩ := htext.2 halves hcuts
  have hshown : whole.shown = "\x7b\x7bname\x7d\x7d\n\n".toList := by decide +kernel
  have hname : placeholders (String.ofList "\x7b\x7bname\x7d\x7d\n\n".toList) = ["name"] := by
    decide +kernel
  rw [hshown] at htext hnames
  rw [hname] at hnames
  exact ⟨hcuts, htext.1, hsame, hnames⟩

end Cuts

end MailMerge.Document
