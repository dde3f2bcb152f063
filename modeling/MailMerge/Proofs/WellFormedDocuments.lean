import MailMerge.Proofs.DocumentRoundTrip

/-!
# Well-formed documents

The grammar of XML, without document types, and where a written document stands in it. Its tags are
balanced and its text is escaped whatever the text is, but characters are written as they are: a
document is well-formed if and only if its text has XML characters only
(`main_part_is_well_formed_iff`).
-/

namespace MailMerge

namespace Xml

open Markup (isSpace hexNumber?)

section Characters

def IsCharacter (c : Char) : Prop :=
  c = '\t' ∨ c = '\n' ∨ c = '\r' ∨ 0x20 ≤ c.toNat ∧ c.toNat ≤ 0xD7FF ∨
    0xE000 ≤ c.toNat ∧ c.toNat ≤ 0xFFFD ∨ 0x10000 ≤ c.toNat ∧ c.toNat ≤ 0x10FFFF

instance (c : Char) : Decidable (IsCharacter c) := by
  unfold IsCharacter
  infer_instance

def IsCharacters (cs : List Char) : Prop :=
  ∀ c ∈ cs, IsCharacter c

instance (cs : List Char) : Decidable (IsCharacters cs) :=
  List.decidableBAll _ cs

@[simp] lemma isCharacters_nil : IsCharacters [] :=
  List.forall_mem_nil _

@[simp] lemma isCharacters_cons {c : Char} {cs : List Char} :
    IsCharacters (c :: cs) ↔ IsCharacter c ∧ IsCharacters cs :=
  List.forall_mem_cons

@[simp] lemma isCharacters_append {cs ds : List Char} :
    IsCharacters (cs ++ ds) ↔ IsCharacters cs ∧ IsCharacters ds :=
  List.forall_mem_append

/-- The numbers of the letters that a name may begin with. -/
def nameStarts : List (Nat × Nat) :=
  [(0x3A, 0x3A), (0x41, 0x5A), (0x5F, 0x5F), (0x61, 0x7A), (0xC0, 0xD6), (0xD8, 0xF6),
    (0xF8, 0x2FF), (0x370, 0x37D), (0x37F, 0x1FFF), (0x200C, 0x200D), (0x2070, 0x218F),
    (0x2C00, 0x2FEF), (0x3001, 0xD7FF), (0xF900, 0xFDCF), (0xFDF0, 0xFFFD), (0x10000, 0xEFFFF)]

/-- The numbers of the other characters of names. -/
def nameExtras : List (Nat × Nat) :=
  [(0x2D, 0x2E), (0x30, 0x39), (0xB7, 0xB7), (0x300, 0x36F), (0x203F, 0x2040)]

def isIn (ranges : List (Nat × Nat)) (c : Char) : Bool :=
  ranges.any fun (first, last) => first ≤ c.toNat && c.toNat ≤ last

def isName : List Char → Bool
  | [] => false
  | c :: cs => isIn nameStarts c && cs.all (isIn (nameStarts ++ nameExtras))

def IsBlank (cs : List Char) : Prop :=
  ∀ c ∈ cs, isSpace c = true

instance (cs : List Char) : Decidable (IsBlank cs) :=
  List.decidableBAll _ cs

end Characters

section Grammar

/-- A reference to a character, by one of the five names or by its number. -/
inductive IsReference : List Char → Prop
  | name {name : List Char}
      (hname : name ∈ ["lt".toList, "gt".toList, "amp".toList, "apos".toList, "quot".toList]) :
      IsReference ('&' :: (name ++ [';']))
  | decimal {digits : List Char} {c : Char} (hdigits : Digits.toNat? digits = some c.toNat)
      (hc : IsCharacter c) : IsReference ('&' :: '#' :: (digits ++ [';']))
  | hexadecimal {digits : List Char} {c : Char} (hdigits : hexNumber? digits = some c.toNat)
      (hc : IsCharacter c) : IsReference ('&' :: '#' :: 'x' :: (digits ++ [';']))

/-- A name and a quoted value, with a blank in front. -/
inductive IsSetting (name : List Char) (values : List Char → Prop) : List Char → Prop
  | mk {gap before after value : List Char} {quote : Char} (hne : gap ≠ []) (hgap : IsBlank gap)
      (hbefore : IsBlank before) (hafter : IsBlank after) (hquote : quote = '"' ∨ quote = '\'')
      (hinside : quote ∉ value) (hvalue : values value) :
      IsSetting name values
        (gap ++ name ++ before ++ '=' :: (after ++ quote :: (value ++ [quote])))

inductive IsValue : List Char → Prop
  | nil : IsValue []
  | plain {c : Char} {cs : List Char} (hopen : c ≠ '<') (hand : c ≠ '&') (rest : IsValue cs) :
      IsValue (c :: cs)
  | reference {r cs : List Char} (hr : IsReference r) (rest : IsValue cs) : IsValue (r ++ cs)

/-- Attributes, of which no two have the same name. -/
inductive IsAttributes : List (List Char) → List Char → Prop
  | nil : IsAttributes [] []
  | cons {name setting rest : List Char} {names : List (List Char)} (hname : isName name = true)
      (hsetting : IsSetting name IsValue setting) (hnew : name ∉ names)
      (hrest : IsAttributes names rest) : IsAttributes (name :: names) (setting ++ rest)

inductive IsMisc : List Char → Prop
  | comment {body : List Char} (hbody : ¬"--".toList <:+: body ++ ['-']) :
      IsMisc ("<!--".toList ++ body ++ "-->".toList)
  | instruction {target body : List Char} (htarget : isName target = true)
      (hreserved : target.map Char.toLower ≠ "xml".toList)
      (hapart : ∀ c ∈ body.head?, isSpace c = true) (hbody : ¬"?>".toList <:+: body) :
      IsMisc ("<?".toList ++ target ++ body ++ "?>".toList)

/-- Text that is written as it is. -/
structure IsText (cs : List Char) : Prop where
  unopened : '<' ∉ cs
  unreferred : '&' ∉ cs
  unended : ¬"]]>".toList <:+: cs

mutual

inductive IsElement : List Char → Prop
  | empty {name attributes gap : List Char} {names : List (List Char)} (hname : isName name = true)
      (hattributes : IsAttributes names attributes) (hgap : IsBlank gap) :
      IsElement ('<' :: (name ++ attributes ++ gap ++ ['/', '>']))
  | full {name attributes gap content gap' : List Char} {names : List (List Char)}
      (hname : isName name = true) (hattributes : IsAttributes names attributes)
      (hgap : IsBlank gap) (hcontent : IsContent content) (hgap' : IsBlank gap') :
      IsElement ('<' :: (name ++ attributes ++ gap ++
        '>' :: (content ++ '<' :: '/' :: (name ++ gap' ++ ['>']))))

/-- Texts with other things between any two of them. -/
inductive IsContent : List Char → Prop
  | text {cs : List Char} (hcs : IsText cs) : IsContent cs
  | item {cs item rest : List Char} (hcs : IsText cs) (hitem : IsItem item)
      (hrest : IsContent rest) : IsContent (cs ++ (item ++ rest))

inductive IsItem : List Char → Prop
  | element {item : List Char} (h : IsElement item) : IsItem item
  | reference {item : List Char} (h : IsReference item) : IsItem item
  | misc {item : List Char} (h : IsMisc item) : IsItem item
  | characterData {body : List Char} (hbody : ¬"]]>".toList <:+: body) :
      IsItem ("<![CDATA[".toList ++ body ++ "]]>".toList)

end

def IsVersion (value : List Char) : Prop :=
  ∃ digits, value = "1.".toList ++ digits ∧ digits ≠ [] ∧ digits.all Char.isDigit = true

def IsEncodingName : List Char → Prop
  | [] => False
  | c :: cs => c.isAlpha = true ∧
      cs.all (fun d => d.isAlphanum || d == '.' || d == '_' || d == '-') = true

def IsAnswer (value : List Char) : Prop :=
  value = "yes".toList ∨ value = "no".toList

inductive IsDeclaration : List Char → Prop
  | mk {version encoding standalone gap : List Char}
      (hversion : IsSetting "version".toList IsVersion version)
      (hencoding : encoding = [] ∨ IsSetting "encoding".toList IsEncodingName encoding)
      (hstandalone : standalone = [] ∨ IsSetting "standalone".toList IsAnswer standalone)
      (hgap : IsBlank gap) :
      IsDeclaration ("<?xml".toList ++ version ++ encoding ++ standalone ++ gap ++ "?>".toList)

/-- Blanks, comments and instructions in a row. -/
inductive IsSurroundings : List Char → Prop
  | nil : IsSurroundings []
  | blank {c : Char} {cs : List Char} (hc : isSpace c = true) (rest : IsSurroundings cs) :
      IsSurroundings (c :: cs)
  | misc {markup cs : List Char} (h : IsMisc markup) (rest : IsSurroundings cs) :
      IsSurroundings (markup ++ cs)

/-- One element, with a declaration and other things around it. -/
inductive IsDocument : List Char → Prop
  | mk {declaration before root after : List Char}
      (hdeclaration : declaration = [] ∨ IsDeclaration declaration)
      (hbefore : IsSurroundings before) (hroot : IsElement root) (hafter : IsSurroundings after) :
      IsDocument (declaration ++ before ++ root ++ after)

/-- A document of the grammar in which every character is one of XML. -/
structure IsWellFormed (markup : List Char) : Prop where
  characters : IsCharacters markup
  document : IsDocument markup

end Grammar

section Items

/-- Markup that may stand in front of any content. -/
def IsItems (markup : List Char) : Prop :=
  ∀ rest, IsContent rest → IsContent (markup ++ rest)

lemma isBlank_nil : IsBlank [] := by
  simp [IsBlank]

lemma isText_nil : IsText [] :=
  ⟨by simp, by simp, by decide⟩

lemma isContent_nil : IsContent [] :=
  .text isText_nil

lemma IsElement.isItems {markup : List Char} (h : IsElement markup) : IsItems markup := by
  intro rest hrest
  have hcontent := IsContent.item isText_nil (.element h) hrest
  rwa [List.nil_append] at hcontent

lemma IsItems.isContent {markup : List Char} (h : IsItems markup) : IsContent markup := by
  have hcontent := h [] isContent_nil
  rwa [List.append_nil] at hcontent

lemma isItems_nil : IsItems [] :=
  fun _ hrest => hrest

lemma IsItems.append {front back : List Char} (hfront : IsItems front) (hback : IsItems back) :
    IsItems (front ++ back) := by
  intro rest hrest
  rw [List.append_assoc]
  exact hfront _ (hback rest hrest)

lemma isItems_flatMap {α : Type} {f : α → List Char} (h : ∀ a, IsItems (f a)) (as : List α) :
    IsItems (as.flatMap f) := by
  induction as with
  | nil => exact isItems_nil
  | cons a as ih => exact (h a).append ih

lemma isItems_join {sep : List Char} (hsep : IsItems sep) {ps : List (List Char)}
    (hps : ∀ p ∈ ps, IsItems p) : IsItems (Text.join sep ps) := by
  induction ps with
  | nil => exact isItems_nil
  | cons p ps ih =>
    rw [List.forall_mem_cons] at hps
    cases ps with
    | nil => exact hps.1
    | cons q ps => exact (hps.1.append hsep).append (ih hps.2)

lemma isElement_around {name attributes content : List Char} {names : List (List Char)}
    (hname : isName name = true) (hattributes : IsAttributes names attributes)
    (hcontent : IsContent content) :
    IsElement ('<' :: (name ++ attributes ++ ['>']) ++ content ++
      '<' :: '/' :: (name ++ ['>'])) := by
  have h := IsElement.full hname hattributes isBlank_nil hcontent isBlank_nil
  simpa using h

lemma isElement_empty {name : List Char} (hname : isName name = true) :
    IsElement ('<' :: (name ++ ['/', '>'])) := by
  have h := IsElement.empty hname .nil isBlank_nil
  simpa using h

end Items

end Xml

namespace Document

open Markup Xml

section Grammar

lemma isText_of_plain {cs : List Char} (h : ∀ c ∈ cs, c ≠ '<' ∧ c ≠ '&' ∧ c ≠ '>') : IsText cs where
  unopened hopen := (h _ hopen).1 rfl
  unreferred hand := (h _ hand).2.1 rfl
  unended hend := (h '>' (hend.subset (by decide))).2.2 rfl

lemma escapedChar_cases (c : Char) :
    IsReference (escapedChar c) ∨ escapedChar c = [c] ∧ c ≠ '<' ∧ c ≠ '&' ∧ c ≠ '>' := by
  have hnamed {name : List Char} (hname : name ∈ ["lt".toList, "gt".toList, "amp".toList,
      "apos".toList, "quot".toList]) : IsReference ('&' :: (name ++ [';'])) := .name hname
  unfold escapedChar
  split
  · exact .inl (hnamed (List.mem_cons_self))
  · exact .inl (@hnamed "gt".toList (by decide))
  · exact .inl (@hnamed "amp".toList (by decide))
  · exact .inl (@hnamed "apos".toList (by decide))
  · exact .inl (@hnamed "quot".toList (by decide))
  · next hlt hgt hamp _ _ => exact .inr ⟨rfl, hlt, hamp, hgt⟩

lemma isContent_append_escape {front : List Char}
    (hfront : ∀ c ∈ front, c ≠ '<' ∧ c ≠ '&' ∧ c ≠ '>') (cs : List Char) :
    IsContent (front ++ escape cs) := by
  -- A text ends at the next reference only, so the plain characters before are carried along.
  induction cs generalizing front with
  | nil =>
    rw [escape, List.flatMap_nil, List.append_nil]
    exact .text (isText_of_plain hfront)
  | cons c cs ih =>
    rw [escape, List.flatMap_cons, ← escape]
    rcases escapedChar_cases c with hreference | ⟨hsame, hplain⟩
    · have hrest : IsContent (escape cs) := @ih [] (by simp)
      exact .item (isText_of_plain hfront) (.reference hreference) hrest
    · rw [hsame, ← List.append_assoc]
      refine ih fun d hd => ?_
      rcases List.mem_append.mp hd with hd | hd
      · exact hfront d hd
      · rw [List.mem_singleton.mp hd]
        exact hplain

lemma isValue_of_plain {cs : List Char} (hopen : '<' ∉ cs) (hand : '&' ∉ cs) : IsValue cs := by
  induction cs with
  | nil => exact .nil
  | cons c cs ih =>
    rw [List.mem_cons, not_or] at hopen hand
    exact .plain (Ne.symm hopen.1) (Ne.symm hand.1) (ih hopen.2 hand.2)

lemma isSetting_quoted {name value : List Char} {values : List Char → Prop} (hvalue : values value)
    (hinside : '"' ∉ value) :
    IsSetting name values (' ' :: (name ++ '=' :: '"' :: (value ++ ['"']))) := by
  have h := @IsSetting.mk name values [' '] [] [] value '"' (by decide) (by decide) (by decide)
    (by decide) (.inl rfl) hinside hvalue
  simpa using h

lemma isAttributes_single {name value : List Char} (hname : isName name = true)
    (hopen : '<' ∉ value) (hand : '&' ∉ value) (hinside : '"' ∉ value) :
    IsAttributes [name] (' ' :: (name ++ '=' :: '"' :: (value ++ ['"']))) := by
  have hsetting := @isSetting_quoted name value IsValue (isValue_of_plain hopen hand) hinside
  have h := IsAttributes.cons hname hsetting List.not_mem_nil .nil
  rwa [List.append_nil] at h

lemma isItems_cellMarkup (cell : List Char) : IsItems (cellMarkup cell) := by
  unfold cellMarkup
  split
  · exact isItems_nil
  · have hcontent : IsContent (escape cell) := @isContent_append_escape [] (by simp) cell
    have hattributes := @isAttributes_single "xml:space".toList "preserve".toList (by decide)
      (by decide) (by decide) (by decide)
    have helement : IsElement
        ("<w:t xml:space=\"preserve\">".toList ++ escape cell ++ "</w:t>".toList) :=
      @isElement_around "w:t".toList _ _ _ (by decide) hattributes hcontent
    exact helement.isItems

lemma isItems_lineMarkup (line : List Char) : IsItems (lineMarkup line) := by
  have htab : IsElement "<w:tab/>".toList := @isElement_empty "w:tab".toList (by decide)
  refine isItems_join htab.isItems fun p hp => ?_
  obtain ⟨cell, -, rfl⟩ := List.mem_map.mp hp
  exact isItems_cellMarkup cell

lemma isItems_paragraphMarkup (block : List Char) : IsItems (paragraphMarkup block) := by
  unfold paragraphMarkup
  split
  · exact (@isElement_empty "w:p".toList (by decide)).isItems
  · have hbreak : IsElement "<w:br/>".toList := @isElement_empty "w:br".toList (by decide)
    have hlines : IsItems (Text.join "<w:br/>".toList
        ((Text.pieces '\n' block).map lineMarkup)) := by
      refine isItems_join hbreak.isItems fun p hp => ?_
      obtain ⟨line, -, rfl⟩ := List.mem_map.mp hp
      exact isItems_lineMarkup line
    generalize Text.join "<w:br/>".toList _ = lines at hlines ⊢
    have hrun : IsElement ("<w:r>".toList ++ lines ++ "</w:r>".toList) :=
      @isElement_around "w:r".toList [] _ _ (by decide) .nil hlines.isContent
    have hparagraph : IsElement ("<w:p>".toList ++
        ("<w:r>".toList ++ lines ++ "</w:r>".toList) ++ "</w:p>".toList) :=
      @isElement_around "w:p".toList [] _ _ (by decide) .nil hrun.isItems.isContent
    have hshape : "<w:p><w:r>".toList ++ lines ++ "</w:r></w:p>".toList =
        "<w:p>".toList ++ ("<w:r>".toList ++ lines ++ "</w:r>".toList) ++ "</w:p>".toList := by
      simp
    rw [hshape]
    exact hparagraph.isItems

lemma isDeclaration_declaration :
    IsDeclaration "<?xml version=\"1.0\" encoding=\"UTF-8\" standalone=\"yes\"?>".toList := by
  have hversion : IsVersion "1.0".toList := ⟨['0'], rfl, by decide, by decide⟩
  have hencoding : IsEncodingName "UTF-8".toList := ⟨by decide, by decide⟩
  have hanswer : IsAnswer "yes".toList := .inl rfl
  exact @IsDeclaration.mk _ _ _ [] (isSetting_quoted hversion (by decide))
    (.inr (isSetting_quoted hencoding (by decide))) (.inr (isSetting_quoted hanswer (by decide)))
    (by decide)

lemma tail_toList : tail.toList =
    "<w:sectPr/>".toList ++ ("</w:body>".toList ++ "</w:document>".toList) := by
  decide

lemma mainMarkup_eq (text : List Char) : mainMarkup text =
    "<?xml version=\"1.0\" encoding=\"UTF-8\" standalone=\"yes\"?>".toList ++ ['\n'] ++
      (documentTag ++ ("<w:body>".toList ++ ((Text.blocks text).flatMap paragraphMarkup ++
        "<w:sectPr/>".toList) ++ "</w:body>".toList) ++ "</w:document>".toList) := by
  simp only [mainMarkup, head_toList, tail_toList, List.append_assoc]

lemma isDocument_mainMarkup (text : List Char) : IsDocument (mainMarkup text) := by
  have hparagraphs : IsItems ((Text.blocks text).flatMap paragraphMarkup) :=
    isItems_flatMap isItems_paragraphMarkup _
  have hsection : IsElement "<w:sectPr/>".toList := @isElement_empty "w:sectPr".toList (by decide)
  have hitems := hparagraphs.append hsection.isItems
  rw [mainMarkup_eq]
  generalize (Text.blocks text).flatMap paragraphMarkup ++ "<w:sectPr/>".toList = items
    at hitems ⊢
  have hbody : IsElement ("<w:body>".toList ++ items ++ "</w:body>".toList) :=
    @isElement_around "w:body".toList [] _ _ (by decide) .nil hitems.isContent
  have hattributes : IsAttributes ["xmlns:w".toList] prefixAttribute :=
    @isAttributes_single "xmlns:w".toList
      "http://schemas.openxmlformats.org/wordprocessingml/2006/main".toList (by decide)
      (by decide) (by decide) (by decide)
  have hroot : IsElement (documentTag ++ ("<w:body>".toList ++ items ++ "</w:body>".toList) ++
      "</w:document>".toList) :=
    @isElement_around "w:document".toList _ _ _ (by decide) hattributes hbody.isItems.isContent
  have hline : IsSurroundings ['\n'] := .blank (by decide) .nil
  have hdocument := IsDocument.mk (.inr isDeclaration_declaration) hline hroot .nil
  rwa [List.append_nil] at hdocument

end Grammar

section Characters

lemma isCharacters_escape (cs : List Char) : IsCharacters (escape cs) ↔ IsCharacters cs := by
  induction cs with
  | nil => rfl
  | cons c cs ih =>
    have hchar : IsCharacters (escapedChar c) ↔ IsCharacter c := by
      unfold escapedChar
      split
      any_goals decide
      simp
    rw [escape, List.flatMap_cons, ← escape, isCharacters_append, ih, hchar, isCharacters_cons]

lemma isCharacters_flatMap {α : Type} {f : α → List Char} (as : List α) :
    IsCharacters (as.flatMap f) ↔ ∀ a ∈ as, IsCharacters (f a) :=
  List.forall_mem_flatMap

lemma isCharacters_join {sep : List Char} (hsep : IsCharacters sep) (ps : List (List Char)) :
    IsCharacters (Text.join sep ps) ↔ ∀ p ∈ ps, IsCharacters p := by
  induction ps with
  | nil => simp [Text.join, IsCharacters]
  | cons p ps ih =>
    rw [List.forall_mem_cons, ← ih]
    cases ps with
    | nil => simp [Text.join, IsCharacters]
    | cons q ps => simp [Text.join, hsep]

lemma isCharacters_join_map {f : List Char → List Char} {sepMarkup sep : List Char}
    (hsepMarkup : IsCharacters sepMarkup) (hsep : IsCharacters sep)
    (hf : ∀ p, IsCharacters (f p) ↔ IsCharacters p) (ps : List (List Char)) :
    IsCharacters (Text.join sepMarkup (ps.map f)) ↔ IsCharacters (Text.join sep ps) := by
  rw [isCharacters_join hsepMarkup, isCharacters_join hsep, List.forall_mem_map]
  simp only [hf]

lemma isCharacters_cellMarkup (cell : List Char) :
    IsCharacters (cellMarkup cell) ↔ IsCharacters cell := by
  have hopen : IsCharacters "<w:t xml:space=\"preserve\">".toList := by decide
  have hclose : IsCharacters "</w:t>".toList := by decide
  unfold cellMarkup
  split
  · next hempty =>
    rw [List.isEmpty_iff.mp hempty]
  · rw [isCharacters_append, isCharacters_append, isCharacters_escape]
    simp only [hopen, hclose, true_and, and_true]

lemma isCharacters_lineMarkup (line : List Char) :
    IsCharacters (lineMarkup line) ↔ IsCharacters line := by
  have h : IsCharacters (lineMarkup line) ↔
      IsCharacters (Text.join ['\t'] (Text.pieces '\t' line)) :=
    isCharacters_join_map (by decide) (by decide) isCharacters_cellMarkup _
  rwa [Text.join_pieces] at h

lemma isCharacters_paragraphMarkup (block : List Char) :
    IsCharacters (paragraphMarkup block) ↔ IsCharacters block := by
  have hopen : IsCharacters "<w:p><w:r>".toList := by decide
  have hclose : IsCharacters "</w:r></w:p>".toList := by decide
  have hempty : IsCharacters "<w:p/>".toList := by decide
  have hlines : IsCharacters (Text.join "<w:br/>".toList
      ((Text.pieces '\n' block).map lineMarkup)) ↔
        IsCharacters (Text.join ['\n'] (Text.pieces '\n' block)) :=
    isCharacters_join_map (by decide) (by decide) isCharacters_lineMarkup _
  rw [Text.join_pieces] at hlines
  unfold paragraphMarkup
  split
  · next hnil =>
    rw [List.isEmpty_iff.mp hnil]
    exact iff_of_true hempty isCharacters_nil
  · rw [isCharacters_append, isCharacters_append, hlines]
    simp only [hopen, hclose, true_and, and_true]

/-- Characters of the text are written, in one way or another, and no bad ones are added. -/
lemma isCharacters_mainMarkup (text : List Char) :
    IsCharacters (mainMarkup text) ↔ IsCharacters text := by
  have hhead : IsCharacters head.toList := by decide +kernel
  have htail : IsCharacters tail.toList := by decide
  have hblocks : IsCharacters ((Text.blocks text).flatMap paragraphMarkup) ↔
      IsCharacters (Text.join ['\n', '\n'] (Text.blocks text)) := by
    rw [isCharacters_join (by decide), isCharacters_flatMap]
    simp only [isCharacters_paragraphMarkup]
  rw [Text.join_blocks] at hblocks
  rw [mainMarkup, isCharacters_append, isCharacters_append, hblocks]
  simp only [hhead, htail, true_and, and_true]

end Characters

lemma isWellFormed_mainMarkup (text : List Char) :
    IsWellFormed (mainMarkup text) ↔ IsCharacters text := by
  constructor
  · intro h
    exact (isCharacters_mainMarkup text).mp h.characters
  · intro h
    exact ⟨(isCharacters_mainMarkup text).mpr h, isDocument_mainMarkup text⟩

/-- The main part of a document is one of the grammar, and it is well-formed for texts of XML
characters only. -/
theorem main_part_is_well_formed_iff (text : String) :
    ⟨mainPart, .deflated, Utf8.encode (String.ofList (mainMarkup text.toList))⟩ ∈ parts text ∧
      IsDocument (mainMarkup text.toList) ∧
      (IsWellFormed (mainMarkup text.toList) ↔ ∀ c ∈ text.toList, IsCharacter c) := by
  have hpart : ⟨mainPart, .deflated, Utf8.encode (String.ofList (mainMarkup text.toList))⟩ ∈
      parts text := by
    simp [parts]
  exact ⟨hpart, isDocument_mainMarkup _, isWellFormed_mainMarkup _⟩

/-- A control character is written into the document. -/
theorem not_isWellFormed_of_control :
    ¬ ∀ text : String, IsWellFormed (mainMarkup text.toList) := by
  intro h
  have hcontrol : IsCharacters "a\u0001b".toList :=
    (isWellFormed_mainMarkup _).mp (h "a\u0001b")
  have hbad : ¬IsCharacters "a\u0001b".toList := by decide
  exact hbad hcontrol

end Document

end MailMerge
