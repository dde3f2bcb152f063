import MailMerge.Document
import MailMerge.Proofs.ArchiveRoundTrip
import MailMerge.Proofs.EscapedText
import MailMerge.Proofs.NormalText
import MailMerge.Proofs.WrittenTags

/-!
# Reading a written document

A text is cut at blank lines, line ends and tabs when it is written as a document, and each cut
leaves markup that is read as what was cut out. So a document has the text it was written from and
two line ends for its last paragraph.

Markup is read in front of any other markup: `Adds` says what a piece of markup adds to the text
read so far.
-/

namespace MailMerge.Document

open Markup

/-- Markup that adds `text` to what is read inside open elements, in a run or outside of one. -/
def Adds (stack : List (List Char)) (inRun : Bool) (markup text : List Char) : Prop :=
  ∀ r : Reading, r.inRun = inRun → r.inText = false → ∀ rest,
    read r (eventsFrom .document stack (markup ++ rest)) =
      read (r.add text) (eventsFrom .document stack rest)

section Adds

variable {stack : List (List Char)} {inRun : Bool}

lemma add_add (r : Reading) (cs ds : List Char) : (r.add cs).add ds = r.add (cs ++ ds) := by
  simp [Reading.add]

lemma adds_nil : Adds stack inRun [] [] := by
  intro r _ _ rest
  rfl

lemma Adds.append {markup text markup' text' : List Char} (h : Adds stack inRun markup text)
    (h' : Adds stack inRun markup' text') :
    Adds stack inRun (markup ++ markup') (text ++ text') := by
  intro r hrun htext rest
  rw [List.append_assoc, h r hrun htext, h' (r.add text) hrun htext, add_add]

lemma adds_flatMap {α : Type} {f g : α → List Char} (h : ∀ p, Adds stack inRun (f p) (g p))
    (ps : List α) : Adds stack inRun (ps.flatMap f) (ps.flatMap g) := by
  induction ps with
  | nil => exact adds_nil
  | cons p ps ih => exact (h p).append ih

lemma adds_join {f : List Char → List Char} {sepMarkup sep : List Char}
    (hpiece : ∀ p, Adds stack inRun (f p) p) (hsep : Adds stack inRun sepMarkup sep)
    (ps : List (List Char)) :
    Adds stack inRun (Text.join sepMarkup (ps.map f)) (Text.join sep ps) := by
  induction ps with
  | nil => exact adds_nil
  | cons p ps ih =>
    cases ps with
    | nil => exact hpiece p
    | cons q ps => exact ((hpiece p).append hsep).append ih

end Adds

section Pieces

variable {stack : List (List Char)}

lemma adds_cellMarkup (cell : List Char) : Adds stack true (cellMarkup cell) cell := by
  intro r hrun htext rest
  unfold cellMarkup
  by_cases hempty : cell = []
  · rw [hempty]
    rfl
  · have hopen : eventsFrom .document stack
        ("<w:t xml:space=\"preserve\">".toList ++ (escape cell ++ ("</w:t>".toList ++ rest))) =
        .opened "w:t".toList " xml:space=\"preserve\"".toList :: eventsFrom .document
          ("w:t".toList :: stack) (escape cell ++ ("</w:t>".toList ++ rest)) :=
      eventsFrom_tag rfl rfl
    have hcell : eventsFrom .document ("w:t".toList :: stack)
        (escape cell ++ ("</w:t>".toList ++ rest)) = .text (escape cell) ::
          eventsFrom .document ("w:t".toList :: stack) ("</w:t>".toList ++ rest) :=
      eventsFrom_text (escape_ne_nil hempty) (bracket_not_mem_escape cell) _
    have hclose : eventsFrom .document ("w:t".toList :: stack) ("</w:t>".toList ++ rest) =
        .closed "w:t".toList :: eventsFrom .document stack rest :=
      eventsFrom_tag rfl (nest_closed ..)
    rw [if_neg (by simpa using hempty), List.append_assoc, List.append_assoc, hopen, hcell, hclose]
    simp [read, Reading.opened, Reading.closed, Reading.add, hrun, htext, unescape?_escape]

lemma adds_tab : Adds stack true "<w:tab/>".toList ['\t'] := by
  intro r hrun htext rest
  have htag : eventsFrom .document stack ("<w:tab/>".toList ++ rest) =
      .single "w:tab".toList [] :: eventsFrom .document stack rest := eventsFrom_tag rfl rfl
  rw [htag]
  simp [read, Reading.single, hrun]

lemma adds_break : Adds stack true "<w:br/>".toList ['\n'] := by
  intro r hrun htext rest
  have htag : eventsFrom .document stack ("<w:br/>".toList ++ rest) =
      .single "w:br".toList [] :: eventsFrom .document stack rest := eventsFrom_tag rfl rfl
  rw [htag]
  simp [read, Reading.single, hrun]

lemma adds_lineMarkup (line : List Char) : Adds stack true (lineMarkup line) line := by
  have h : Adds stack true (lineMarkup line) (Text.join ['\t'] (Text.pieces '\t' line)) :=
    adds_join adds_cellMarkup adds_tab _
  rw [Text.join_pieces] at h
  exact h

/-- A paragraph adds its block and two line ends. -/
lemma adds_paragraphMarkup (block : List Char) :
    Adds stack false (paragraphMarkup block) (block ++ ['\n', '\n']) := by
  intro r hrun htext rest
  unfold paragraphMarkup
  by_cases hempty : block = []
  · have htag : eventsFrom .document stack ("<w:p/>".toList ++ rest) =
        .single "w:p".toList [] :: eventsFrom .document stack rest := eventsFrom_tag rfl rfl
    rw [if_pos (by simpa using hempty), htag, hempty]
    simp [read, Reading.single]
  · have hlines : Adds ("w:r".toList :: "w:p".toList :: stack) true
        (Text.join "<w:br/>".toList ((Text.pieces '\n' block).map lineMarkup))
        (Text.join ['\n'] (Text.pieces '\n' block)) := adds_join adds_lineMarkup adds_break _
    rw [Text.join_pieces] at hlines
    have hparagraph (cs : List Char) : eventsFrom .document stack ("<w:p>".toList ++ cs) =
        .opened "w:p".toList [] :: eventsFrom .document ("w:p".toList :: stack) cs :=
      eventsFrom_tag rfl rfl
    have hrun' (cs : List Char) : eventsFrom .document ("w:p".toList :: stack)
        ("<w:r>".toList ++ cs) =
        .opened "w:r".toList [] ::
          eventsFrom .document ("w:r".toList :: "w:p".toList :: stack) cs :=
      eventsFrom_tag rfl rfl
    have hcloseRun (cs : List Char) : eventsFrom .document ("w:r".toList :: "w:p".toList :: stack)
        ("</w:r>".toList ++ cs) =
        .closed "w:r".toList :: eventsFrom .document ("w:p".toList :: stack) cs :=
      eventsFrom_tag rfl (nest_closed ..)
    have hclose (cs : List Char) : eventsFrom .document ("w:p".toList :: stack)
        ("</w:p>".toList ++ cs) = .closed "w:p".toList :: eventsFrom .document stack cs :=
      eventsFrom_tag rfl (nest_closed ..)
    have hfront : "<w:p><w:r>".toList = "<w:p>".toList ++ "<w:r>".toList := rfl
    have hback : "</w:r></w:p>".toList = "</w:r>".toList ++ "</w:p>".toList := rfl
    rw [if_neg (by simpa using hempty), hfront, hback]
    simp only [List.append_assoc]
    have hopened : (r.opened "w:p".toList).opened "w:r".toList = { r with inRun := true } := rfl
    rw [hparagraph, hrun', read, read, hopened, hlines { r with inRun := true } rfl htext,
      hcloseRun, hclose]
    simp [read, Reading.closed, Reading.add, ← hrun]

end Pieces

section Body

lemma flatMap_lineEnds (sep : List Char) {blocks : List (List Char)} (h : blocks ≠ []) :
    blocks.flatMap (· ++ sep) = Text.join sep blocks ++ sep := by
  induction blocks with
  | nil => exact absurd rfl h
  | cons block blocks ih =>
    by_cases hlast : blocks = []
    · rw [hlast]
      simp [Text.join]
    · rw [List.flatMap_cons, ih hlast, Text.join_cons_of_ne_nil _ _ hlast]
      simp

/-- The open elements between the head and the tail of a main part. -/
def bodyStack : List (List Char) := ["w:body".toList, "w:document".toList]

/-- What the tag that opens a main part says about the prefix of its names. -/
def prefixAttribute : List Char :=
  " xmlns:w=\"http://schemas.openxmlformats.org/wordprocessingml/2006/main\"".toList

/-- The tag that opens a main part. -/
def documentTag : List Char := "<w:document".toList ++ prefixAttribute ++ ['>']

set_option maxRecDepth 4000 in
lemma head_toList : head.toList =
    "<?xml version=\"1.0\" encoding=\"UTF-8\" standalone=\"yes\"?>".toList ++
      (['\n'] ++ (documentTag ++ "<w:body>".toList)) := by
  decide +kernel

set_option maxRecDepth 4000 in
lemma mark_documentTag (rest : List Char) : mark .document (documentTag.tail ++ rest) =
    some (.opened "w:document".toList prefixAttribute, rest) := rfl

lemma eventsFrom_head (rest : List Char) :
    eventsFrom .document [] (head.toList ++ rest) =
      .aside :: .text ['\n'] :: .opened "w:document".toList prefixAttribute ::
        .opened "w:body".toList [] :: eventsFrom .document bodyStack rest := by
  have hdeclaration (cs : List Char) : eventsFrom .document []
      ("<?xml version=\"1.0\" encoding=\"UTF-8\" standalone=\"yes\"?>".toList ++ cs) =
      .aside :: eventsFrom .document [] cs := eventsFrom_tag rfl rfl
  have hline (cs : List Char) : eventsFrom .document [] (['\n'] ++ (documentTag ++ cs)) =
      .text ['\n'] :: eventsFrom .document [] (documentTag ++ cs) :=
    eventsFrom_text (by decide) (by decide) _
  have hdocument (cs : List Char) : eventsFrom .document [] (documentTag ++ cs) =
      .opened "w:document".toList prefixAttribute ::
        eventsFrom .document ["w:document".toList] cs :=
    eventsFrom_tag (mark_documentTag cs) rfl
  have hbody (cs : List Char) : eventsFrom .document ["w:document".toList]
      ("<w:body>".toList ++ cs) = .opened "w:body".toList [] :: eventsFrom .document bodyStack cs :=
    eventsFrom_tag rfl rfl
  rw [head_toList]
  simp only [List.append_assoc]
  rw [hdeclaration, hline, hdocument, hbody]

lemma read_tail (r : Reading) (hrun : r.inRun = false) :
    read r (eventsFrom .document bodyStack tail.toList) = .ok r := by
  have hparts : tail.toList = "<w:sectPr/>".toList ++ ("</w:body>".toList ++
      ("</w:document>".toList ++ [])) := by
    decide
  have hsection (cs : List Char) : eventsFrom .document bodyStack ("<w:sectPr/>".toList ++ cs) =
      .single "w:sectPr".toList [] :: eventsFrom .document bodyStack cs := eventsFrom_tag rfl rfl
  have hbody (cs : List Char) : eventsFrom .document bodyStack ("</w:body>".toList ++ cs) =
      .closed "w:body".toList :: eventsFrom .document ["w:document".toList] cs :=
    eventsFrom_tag rfl (nest_closed ..)
  have hdocument : eventsFrom .document ["w:document".toList] ("</w:document>".toList ++ []) =
      .closed "w:document".toList :: eventsFrom .document [] [] :=
    eventsFrom_tag rfl (nest_closed ..)
  rw [hparts, hsection, hbody, hdocument, eventsFrom]
  simp [read, Reading.single, Reading.closed, hrun]

/-- A main part has the text it was written from and two line ends. -/
theorem bodyText_mainMarkup (text : List Char) :
    bodyText (mainMarkup text) = .ok (text ++ ['\n', '\n']) := by
  have hbody : Adds bodyStack false ((Text.blocks text).flatMap paragraphMarkup)
      ((Text.blocks text).flatMap (· ++ ['\n', '\n'])) := adds_flatMap adds_paragraphMarkup _
  rw [flatMap_lineEnds _ (Text.blocks_ne_nil text), Text.join_blocks] at hbody
  rw [bodyText, events, mainMarkup, List.append_assoc, eventsFrom_head]
  have hstart : read .start (eventsFrom .document bodyStack
      ((Text.blocks text).flatMap paragraphMarkup ++ tail.toList)) =
      .ok (Reading.start.add (text ++ ['\n', '\n'])) := by
    rw [hbody .start rfl rfl, read_tail _ rfl]
  change (read .start (eventsFrom .document bodyStack _)).map _ = _
  rw [hstart]
  simp [Except.map, Reading.add, Reading.start]

end Body

section Archive

lemma writable_parts {text : String} (h : (render text).length < Archive.placeBound) :
    Archive.Writable (parts text) where
  distinct := by
    change ["[Content_Types].xml", "_rels/.rels", mainPart].Nodup
    decide
  short := by
    intro e he
    have hname : e.name ∈ ["[Content_Types].xml", "_rels/.rels", mainPart] :=
      List.mem_map_of_mem (f := Archive.Entry.name) he
    have hall : ∀ name ∈ ["[Content_Types].xml", "_rels/.rels", mainPart],
        (Utf8.encode name).length < 65536 := by
      decide
    exact hall _ hname
  bounded := h

/-- Reading a document gives the text it was written from and two line ends. -/
theorem extract_render {text : String} (h : (render text).length < Archive.placeBound) :
    extract (render text) = .ok (text ++ "\n\n") := by
  have hwritable := writable_parts h
  have hopen := Archive.open?_write true hwritable
  have hmain : ⟨mainPart, .deflated, Utf8.encode (String.ofList (mainMarkup text.toList))⟩ ∈
      parts text := by
    simp [parts]
  have hcontent := Archive.content_write hwritable hopen hmain
  have htext : String.ofList (text.toList ++ ['\n', '\n']) = text ++ "\n\n" := by
    rw [String.ofList_append, String.ofList_toList]
  rw [extract, render, hopen]
  dsimp only at hcontent ⊢
  rw [hcontent]
  dsimp only
  rw [Utf8.decode_encode]
  dsimp only
  rw [String.toList_ofList, bodyText_mainMarkup]
  dsimp only
  rw [htext]

/-- Extraction undoes rendering on every text, up to two line ends, which are no part of a normal
form, so different texts have different documents. No bytes in memory are as many as the bound. -/
theorem extraction_undoes_rendering (text : String)
    (h : (render text).length < Archive.placeBound) :
    extract (render text) = .ok (text ++ "\n\n") ∧
      (extract (render text)).map normalizeText = .ok (normalizeText text) ∧
      ∀ other, render other = render text → other = text := by
  have hextract := extract_render h
  refine ⟨hextract, ?_, ?_⟩
  · rw [hextract, Except.map, normalizeText_append_lineEnds]
  · intro other hsame
    have hlength : (render other).length < Archive.placeBound := by
      rw [hsame]
      exact h
    have hother := extract_render hlength
    rw [hsame, hextract, Except.ok.injEq] at hother
    rw [← String.toList_inj]
    have hlists := congrArg String.toList hother
    rw [String.toList_append, String.toList_append] at hlists
    exact (List.append_cancel_right hlists).symm

theorem extraction_undoes_rendering_markup :
    extract (render "a<b\n\n\tc") = .ok ("a<b\n\n\tc" ++ "\n\n") ∧
      (extract (render "a<b\n\n\tc")).map normalizeText = .ok (normalizeText "a<b\n\n\tc") ∧
      ∀ other, render other = render "a<b\n\n\tc" → other = "a<b\n\n\tc" :=
  extraction_undoes_rendering "a<b\n\n\tc" (by decide +kernel)

end Archive

end MailMerge.Document
