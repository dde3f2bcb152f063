import MailMerge.Proofs.JsonStrings
import MailMerge.Proofs.TokenReading
import Mathlib.Data.List.Chain
import Mathlib.Data.List.Forall2

/-!
# Spellings of JSON tokens

The tokens of a JSON text may be written in many ways: there may be space around each of them, a
character of a string may be written as it is, behind a backslash, or as one or two numbers, and an
exponent has a mark of either case and may have a plus sign. Whichever way is taken, the tokens are
read as they were meant (`tokens?_of_spells`).
-/

namespace MailMerge.Json

section Strings

/-- The letters that stand for characters behind a backslash. -/
def shortEscapes : List (Char × Char) :=
  [('"', '"'), ('\\', '\\'), ('/', '/'), ('b', '\x08'), ('f', '\x0c'), ('n', '\n'), ('r', '\r'),
    ('t', '\t')]

/-- A hexadecimal digit of either case. -/
def IsHexDigit (n : Nat) (c : Char) : Prop :=
  n < 16 ∧ (c = Nat.digitChar n ∨ c = (Nat.digitChar n).toUpper)

namespace StringPart

/-- How a part of a string may be written. -/
inductive IsSpelled : StringPart → List Char → Prop
  | plain {c : Char} (hquote : c ≠ '"') (hback : c ≠ '\\') (hcontrol : 32 ≤ c.toNat) :
      IsSpelled (.char c) [c]
  | short {e c : Char} (h : (e, c) ∈ shortEscapes) : IsSpelled (.char c) ['\\', e]
  | unit {a b c d : Char} {i j k l : Nat} (ha : IsHexDigit i a) (hb : IsHexDigit j b)
      (hc : IsHexDigit k c) (hd : IsHexDigit l d) :
      IsSpelled (.unit (i * 4096 + j * 256 + k * 16 + l)) ['\\', 'u', a, b, c, d]

/-- The parts of a string say these characters: each as it is or as its units of 16 bits, of which
characters past the first `0x10000` have two. -/
inductive Says : List StringPart → List Char → Prop
  | nil : Says [] []
  | char (c : Char) {parts : List StringPart} {cs : List Char} (h : Says parts cs) :
      Says (.char c :: parts) (c :: cs)
  | unit {c : Char} (hc : c.toNat < 0x10000) {parts : List StringPart} {cs : List Char}
      (h : Says parts cs) : Says (.unit c.toNat :: parts) (c :: cs)
  | pair {c : Char} (hc : 0x10000 ≤ c.toNat) {parts : List StringPart} {cs : List Char}
      (h : Says parts cs) :
      Says (.unit (0xD800 + (c.toNat - 0x10000) / 0x400) ::
        .unit (0xDC00 + (c.toNat - 0x10000) % 0x400) :: parts) (c :: cs)

lemma hexValue?_of_isHexDigit {n : Nat} {c : Char} (h : IsHexDigit n c) : hexValue? c = some n := by
  have hall : ∀ m < 16, hexValue? (Nat.digitChar m) = some m ∧
      hexValue? (Nat.digitChar m).toUpper = some m := by
    decide
  rcases h with ⟨hn, rfl | rfl⟩
  · exact (hall n hn).1
  · exact (hall n hn).2

lemma shortEscape?_of_mem {e c : Char} (h : (e, c) ∈ shortEscapes) : shortEscape? e = some c := by
  have hall : ∀ p ∈ shortEscapes, shortEscape? p.1 = some p.2 := by decide
  exact hall _ h

lemma stringParts_of_short {e c : Char} (h : (e, c) ∈ shortEscapes) (rest : List Char) :
    stringParts ('\\' :: e :: rest) = (stringParts rest).map fun p => (.char c :: p.1, p.2) := by
  have hu : e ≠ 'u' := by
    have hall : ∀ p ∈ shortEscapes, p.1 ≠ 'u' := by decide
    exact hall _ h
  rw [stringParts]
  · rw [shortEscape?_of_mem h]
  · rintro a b c d more rfl
    exact absurd rfl hu

lemma IsSpelled.stringParts {part : StringPart} {cs : List Char} (h : part.IsSpelled cs)
    (rest : List Char) :
    stringParts (cs ++ rest) = (stringParts rest).map fun p => (part :: p.1, p.2) := by
  cases h with
  | plain hquote hback hcontrol => exact stringParts_of_plain hquote hback hcontrol rest
  | short h => exact stringParts_of_short h rest
  | @unit a b c d i j k l ha hb hc hd =>
    have hunit : unit? a b c d = some (i * 4096 + j * 256 + k * 16 + l) := by
      rw [unit?, hexValue?_of_isHexDigit ha, hexValue?_of_isHexDigit hb, hexValue?_of_isHexDigit hc,
        hexValue?_of_isHexDigit hd]
      simp only [Option.bind_eq_bind, Option.bind_some, Option.pure_def, Option.some.injEq]
      omega
    rw [List.cons_append, List.cons_append, List.cons_append, List.cons_append, List.cons_append,
      List.cons_append, List.nil_append, Json.stringParts, hunit]

lemma stringParts_of_forall₂ {parts : List StringPart} {texts : List (List Char)}
    (h : List.Forall₂ IsSpelled parts texts) (rest : List Char) :
    Json.stringParts (texts.flatten ++ '"' :: rest) = some (parts, rest) := by
  induction h with
  | nil => rfl
  | cons hpart _ ih =>
    rw [List.flatten_cons, List.append_assoc, hpart.stringParts, ih]
    rfl

lemma joinParts_of_says {parts : List StringPart} {cs : List Char} (h : Says parts cs) :
    joinParts parts = some cs := by
  induction h with
  | nil => rfl
  | char c _ ih => rw [joinParts, ih, Option.map_some]
  | @unit c hc _ _ _ ih =>
    have hvalid : c.toNat < 0xD800 ∨ 0xDFFF < c.toNat := by
      rcases c.valid with h | h
      · exact .inl h
      · exact .inr h.1
    rw [joinParts.eq_def]
    simp only [Bool.or_eq_true, decide_eq_true_eq, if_pos hvalid, ih, Option.map_some,
      Char.ofNat_toNat]
  | @pair c hc _ _ _ ih =>
    have hc' : c.toNat < 0x110000 := by
      rcases c.valid with h | h
      · exact Nat.lt_trans h (by decide)
      · exact h.2
    have hsum : 0x10000 + (0xD800 + (c.toNat - 0x10000) / 0x400 - 0xD800) * 0x400 +
        (0xDC00 + (c.toNat - 0x10000) % 0x400 - 0xDC00) = c.toNat := by
      omega
    rw [joinParts.eq_def]
    dsimp only
    rw [if_neg (by simp only [Bool.or_eq_true, decide_eq_true_eq]; omega), if_neg (by omega),
      if_pos (by simp only [Bool.and_eq_true, decide_eq_true_eq]; omega), ih, hsum,
      Char.ofNat_toNat]
    rfl

lemma toNat_ofNat_of_isValidChar {n : Nat} (h : n.isValidChar) : (Char.ofNat n).toNat = n := by
  rw [Char.ofNat, dif_pos h]
  rfl

lemma says_of_joinParts {parts : List StringPart} (hbound : ∀ n, .unit n ∈ parts → n < 0x10000)
    {cs : List Char} (h : joinParts parts = some cs) : Says parts cs := by
  fun_induction joinParts parts generalizing cs with
  | case1 =>
    cases h
    exact .nil
  | case2 c parts ih =>
    obtain ⟨rest, hrest, rfl⟩ := Option.map_eq_some_iff.mp h
    exact .char c (ih (fun n hn => hbound n (List.mem_cons_of_mem _ hn)) hrest)
  | case3 n parts hn ih =>
    obtain ⟨rest, hrest, rfl⟩ := Option.map_eq_some_iff.mp h
    have hsmall := hbound n List.mem_cons_self
    have hvalid : n.isValidChar := by
      simp only [Bool.or_eq_true, decide_eq_true_eq] at hn
      exact hn.imp id fun hn => ⟨hn, by omega⟩
    have hnat : (Char.ofNat n).toNat = n := toNat_ofNat_of_isValidChar hvalid
    have hmeans := Says.unit (c := Char.ofNat n) (by omega)
      (ih (fun n hn => hbound n (List.mem_cons_of_mem _ hn)) hrest)
    rw [hnat] at hmeans
    exact hmeans
  | case4 => cases h
  | case5 n hn hn' m parts hm ih =>
    obtain ⟨rest, hrest, rfl⟩ := Option.map_eq_some_iff.mp h
    simp only [Bool.or_eq_true, Bool.and_eq_true, decide_eq_true_eq] at hn hm
    have hnat : (Char.ofNat (0x10000 + (n - 0xD800) * 0x400 + (m - 0xDC00))).toNat =
        0x10000 + (n - 0xD800) * 0x400 + (m - 0xDC00) :=
      toNat_ofNat_of_isValidChar (.inr ⟨by omega, by omega⟩)
    have hmeans := Says.pair (c := Char.ofNat (0x10000 + (n - 0xD800) * 0x400 + (m - 0xDC00)))
      (by omega) (ih (fun n hn => hbound n (by simp [hn])) hrest)
    rw [hnat] at hmeans
    have hhigh :
        0xD800 + (0x10000 + (n - 0xD800) * 0x400 + (m - 0xDC00) - 0x10000) / 0x400 = n := by
      omega
    have hlow : 0xDC00 + (0x10000 + (n - 0xD800) * 0x400 + (m - 0xDC00) - 0x10000) % 0x400 = m := by
      omega
    rw [hhigh, hlow] at hmeans
    exact hmeans
  | case6 => cases h
  | case7 => cases h

lemma unit_lt_of_isSpelled {n : Nat} {cs : List Char} (h : IsSpelled (.unit n) cs) :
    n < 0x10000 := by
  obtain ⟨⟩ | ⟨⟩ | ⟨⟨hi, -⟩, ⟨hj, -⟩, ⟨hk, -⟩, ⟨hl, -⟩⟩ := h
  omega

lemma unit_lt_of_forall₂ {parts : List StringPart} {texts : List (List Char)}
    (h : List.Forall₂ IsSpelled parts texts) : ∀ n, .unit n ∈ parts → n < 0x10000 := by
  induction h with
  | nil => exact nofun
  | cons hpart _ ih =>
    intro n hn
    rcases List.mem_cons.mp hn with rfl | hn
    · exact unit_lt_of_isSpelled hpart
    · exact ih n hn

lemma map_joinParts {parts : List StringPart} {texts : List (List Char)} {s : Option String}
    (hparts : List.Forall₂ IsSpelled parts texts)
    (hmeans : ∀ cs, s = some (String.ofList cs) ↔ Says parts cs) :
    (joinParts parts).map String.ofList = s := by
  cases hjoin : joinParts parts with
  | some cs =>
    exact ((hmeans cs).mpr (says_of_joinParts (unit_lt_of_forall₂ hparts) hjoin)).symm
  | none =>
    cases s with
    | none => rfl
    | some s =>
      have hs := joinParts_of_says ((hmeans s.toList).mp (by rw [String.ofList_toList]))
      rw [hjoin] at hs
      cases hs

end StringPart

end Strings

section Numerals

/-- How the exponent of a numeral may be written. -/
inductive IsExponent : Option (Bool × List Char) → List Char → Prop
  | absent : IsExponent none []
  | plain {mark : Char} {ds : List Char} (hmark : mark = 'e' ∨ mark = 'E') (hsome : ds ≠ [])
      (hds : ∀ d ∈ ds, Digits.isDigit d = true) : IsExponent (some (false, ds)) (mark :: ds)
  | plus {mark : Char} {ds : List Char} (hmark : mark = 'e' ∨ mark = 'E') (hsome : ds ≠ [])
      (hds : ∀ d ∈ ds, Digits.isDigit d = true) : IsExponent (some (false, ds)) (mark :: '+' :: ds)
  | minus {mark : Char} {ds : List Char} (hmark : mark = 'e' ∨ mark = 'E') (hsome : ds ≠ [])
      (hds : ∀ d ∈ ds, Digits.isDigit d = true) : IsExponent (some (true, ds)) (mark :: '-' :: ds)

/-- Digits in front of a point: at least one, and no zero in front of others. -/
structure IsWhole (ds : List Char) : Prop where
  digits : ∀ d ∈ ds, Digits.isDigit d = true
  some : ds ≠ []
  zero : ∀ rest, ds = '0' :: rest → rest = []

/-- How a numeral may be written. -/
inductive Numeral.IsSpelled : Numeral → List Char → Prop
  | mk {negative : Bool} {whole decimals : List Char} {exponent : Option (Bool × List Char)}
      {behind : List Char} (hwhole : IsWhole whole)
      (hdecimals : ∀ d ∈ decimals, Digits.isDigit d = true)
      (hexponent : IsExponent exponent behind) :
      IsSpelled ⟨negative, whole, decimals, exponent⟩
        ((if negative then ['-'] else []) ++ whole ++
          (if decimals = [] then [] else '.' :: decimals) ++ behind)

/-- A text that does not go on with a numeral in front of it. -/
def Stops (rest : List Char) : Prop :=
  ∀ c ∈ rest.head?, Digits.isDigit c = false ∧ c ≠ '.' ∧ c ≠ 'e' ∧ c ≠ 'E'

lemma takeWhile_digits {ds rest : List Char} (hds : ∀ d ∈ ds, Digits.isDigit d = true)
    (hrest : ∀ c ∈ rest.head?, Digits.isDigit c = false) :
    (ds ++ rest).takeWhile Digits.isDigit = ds ∧ (ds ++ rest).dropWhile Digits.isDigit = rest := by
  cases rest with
  | nil =>
    rw [List.takeWhile_append_of_pos hds, List.dropWhile_append_of_pos hds]
    exact ⟨List.append_nil ds, rfl⟩
  | cons c rest =>
    have hc := hrest c rfl
    exact ⟨Token.takeWhile_append_cons hds hc rest, Token.dropWhile_append_cons hds hc rest⟩

lemma wholePart?_append {whole rest : List Char} (h : IsWhole whole)
    (hrest : ∀ c ∈ rest.head?, Digits.isDigit c = false) :
    wholePart? (whole ++ rest) = some (whole, rest) := by
  obtain ⟨htake, hdrop⟩ := takeWhile_digits h.digits hrest
  unfold wholePart?
  rw [htake, hdrop]
  dsimp only
  split
  · next hnil => exact absurd rfl h.some
  · next hzero => cases h.zero _ rfl
  · rfl

lemma decimals?_append {decimals rest : List Char}
    (hdecimals : ∀ d ∈ decimals, Digits.isDigit d = true)
    (hrest : ∀ c ∈ rest.head?, Digits.isDigit c = false ∧ c ≠ '.') :
    decimals? ((if decimals = [] then [] else '.' :: decimals) ++ rest) =
      some (decimals, rest) := by
  by_cases hnone : decimals = []
  · rw [if_pos hnone, hnone, List.nil_append]
    unfold decimals?
    split
    · exact absurd rfl (hrest '.' rfl).2
    · rfl
  · obtain ⟨htake, hdrop⟩ := takeWhile_digits hdecimals fun c hc => (hrest c hc).1
    rw [if_neg hnone, List.cons_append, decimals?, htake, hdrop]
    exact if_neg (by simpa using hnone)

lemma exponentDigits?_append {negative : Bool} {ds rest : List Char} (hsome : ds ≠ [])
    (hds : ∀ d ∈ ds, Digits.isDigit d = true) (hrest : Stops rest) :
    exponentDigits? negative (ds ++ rest) = some (some (negative, ds), rest) := by
  obtain ⟨htake, hdrop⟩ := takeWhile_digits hds fun c hc => (hrest c hc).1
  unfold exponentDigits?
  rw [htake, hdrop]
  exact if_neg (by simpa using hsome)

lemma exponent?_append {exponent : Option (Bool × List Char)} {behind rest : List Char}
    (h : IsExponent exponent behind) (hrest : Stops rest) :
    exponent? (behind ++ rest) = some (exponent, rest) := by
  cases h with
  | absent =>
    cases rest with
    | nil => rfl
    | cons c rest =>
      obtain ⟨-, -, he, hE⟩ := hrest c rfl
      exact if_neg (by simp [he, hE])
  | plain hmark hsome hds =>
    obtain ⟨d, more, rfl⟩ := List.exists_cons_of_ne_nil hsome
    have hd := hds d List.mem_cons_self
    refine (if_pos (by simpa using hmark)).trans ?_
    rw [List.append_eq]
    split
    · next heq => cases heq; exact absurd hd (by decide)
    · next heq => cases heq; exact absurd hd (by decide)
    · exact exponentDigits?_append hsome hds hrest
  | plus hmark hsome hds =>
    exact (if_pos (by simpa using hmark)).trans (exponentDigits?_append hsome hds hrest)
  | minus hmark hsome hds =>
    exact (if_pos (by simpa using hmark)).trans (exponentDigits?_append hsome hds hrest)

lemma IsExponent.head {exponent : Option (Bool × List Char)} {behind rest : List Char}
    (h : IsExponent exponent behind) (hrest : Stops rest) :
    ∀ c ∈ (behind ++ rest).head?, Digits.isDigit c = false ∧ c ≠ '.' := by
  have hmark : ∀ mark, mark = 'e' ∨ mark = 'E' → Digits.isDigit mark = false ∧ mark ≠ '.' := by
    rintro _ (rfl | rfl) <;> decide
  cases h with
  | absent => exact fun c hc => ⟨(hrest c hc).1, (hrest c hc).2.1⟩
  | plain h _ _ => simpa using hmark _ h
  | plus h _ _ => simpa using hmark _ h
  | minus h _ _ => simpa using hmark _ h

lemma unsigned?_append (negative : Bool) {whole decimals behind rest : List Char}
    {exponent : Option (Bool × List Char)} (hwhole : IsWhole whole)
    (hdecimals : ∀ d ∈ decimals, Digits.isDigit d = true) (hexponent : IsExponent exponent behind)
    (hrest : Stops rest) :
    unsigned? negative
      (whole ++ ((if decimals = [] then [] else '.' :: decimals) ++ (behind ++ rest))) =
        some (⟨negative, whole, decimals, exponent⟩, rest) := by
  have hbehind := hexponent.head hrest
  have hpoint : ∀ c ∈ ((if decimals = [] then [] else '.' :: decimals) ++
      (behind ++ rest)).head?, Digits.isDigit c = false := by
    split
    · exact fun c hc => (hbehind c hc).1
    · simp only [List.cons_append, List.head?_cons, Option.mem_some_iff, forall_eq']
      decide
  rw [unsigned?, wholePart?_append hwhole hpoint]
  simp only [Option.bind_eq_bind, Option.bind_some, decimals?_append hdecimals hbehind,
    exponent?_append hexponent hrest, Option.pure_def]

lemma numeral?_of_head {c : Char} {cs : List Char} (h : c ≠ '-') :
    numeral? (c :: cs) = unsigned? false (c :: cs) := by
  rw [numeral?]
  intro _ heq
  exact h (List.cons.inj heq).1

lemma Numeral.IsSpelled.numeral? {n : Numeral} {cs rest : List Char} (h : n.IsSpelled cs)
    (hrest : Stops rest) : numeral? (cs ++ rest) = some (n, rest) := by
  obtain @⟨negative, whole, decimals, exponent, behind, hwhole, hdecimals, hexponent⟩ := h
  have hread := unsigned?_append negative hwhole hdecimals hexponent hrest
  cases negative with
  | true => simpa [Json.numeral?] using hread
  | false =>
    obtain ⟨d, more, rfl⟩ := List.exists_cons_of_ne_nil hwhole.some
    have hd : d ≠ '-' := by
      rintro rfl
      exact absurd (hwhole.digits _ List.mem_cons_self) (by decide)
    rw [← hread]
    simp only [Bool.false_eq_true, if_false, List.nil_append, List.cons_append, List.append_assoc]
    exact numeral?_of_head hd

end Numerals

section Tokens

/-- How a token may be written. -/
inductive Token.IsSpelled : Token → List Char → Prop
  | openArray : IsSpelled .openArray ['[']
  | closeArray : IsSpelled .closeArray [']']
  | openObject : IsSpelled .openObject ['\x7b']
  | closeObject : IsSpelled .closeObject ['\x7d']
  | comma : IsSpelled .comma [',']
  | colon : IsSpelled .colon [':']
  | null : IsSpelled .null ['n', 'u', 'l', 'l']
  | yes : IsSpelled (.bool true) ['t', 'r', 'u', 'e']
  | no : IsSpelled (.bool false) ['f', 'a', 'l', 's', 'e']
  | number {n : Numeral} {cs : List Char} (h : n.IsSpelled cs) : IsSpelled (.number n) cs
  | string {parts : List StringPart} {texts : List (List Char)} {s : Option String}
      (hparts : List.Forall₂ StringPart.IsSpelled parts texts)
      (hmeans : ∀ cs, s = some (String.ofList cs) ↔ StringPart.Says parts cs) :
      IsSpelled (.string s) ('"' :: (texts.flatten ++ ['"']))

/-- A text is written as these tokens with space around them. -/
inductive Spells : List Token → List Char → Prop
  | nil {space : List Char} (hspace : ∀ c ∈ space, isSpace c = true) : Spells [] space
  | cons {space cs rest : List Char} {t : Token} {ts : List Token}
      (hspace : ∀ c ∈ space, isSpace c = true) (ht : t.IsSpelled cs) (hrest : Spells ts rest) :
      Spells (t :: ts) (space ++ (cs ++ rest))

lemma spells_space {space rest : List Char} {ts : List Token}
    (hspace : ∀ c ∈ space, isSpace c = true) (hrest : Spells ts rest) :
    Spells ts (space ++ rest) := by
  cases hrest with
  | nil h => exact .nil fun c hc => (List.mem_append.mp hc).elim (hspace c) (h c)
  | @cons space' cs rest t ts h ht hrest =>
    rw [← List.append_assoc]
    exact .cons (fun c hc => (List.mem_append.mp hc).elim (hspace c) (h c)) ht hrest

lemma spells_blank {c : Char} {rest : List Char} {ts : List Token} (hc : isSpace c = true)
    (hrest : Spells ts rest) : Spells ts (c :: rest) := by
  have hspace : ∀ d ∈ [c], isSpace d = true := by simpa using hc
  exact spells_space hspace hrest

lemma spells_token {t : Token} {cs : List Char} {ts : List Token} {rest : List Char}
    (ht : t.IsSpelled cs) (hrest : Spells ts rest) : Spells (t :: ts) (cs ++ rest) := by
  have hnone : ∀ c ∈ ([] : List Char), isSpace c = true := nofun
  exact .cons hnone ht hrest

def Token.isNumber : Token → Bool
  | .number _ => true
  | _ => false

/-- No number stands right behind a number. -/
def Separated (ts : List Token) : Prop :=
  ts.IsChain fun t u => t.isNumber = true → u.isNumber = false

/-- What a numeral may begin with. -/
def BeginsNumeral (c : Char) : Prop :=
  c = '-' ∨ Digits.isDigit c = true

lemma Numeral.IsSpelled.exists_cons {n : Numeral} {cs : List Char} (h : n.IsSpelled cs) :
    ∃ c rest, cs = c :: rest ∧ BeginsNumeral c := by
  obtain @⟨negative, whole, decimals, exponent, behind, hwhole, -, -⟩ := h
  obtain ⟨d, more, rfl⟩ := List.exists_cons_of_ne_nil hwhole.some
  cases negative with
  | true => exact ⟨_, _, rfl, .inl rfl⟩
  | false => exact ⟨_, _, rfl, .inr (hwhole.digits d List.mem_cons_self)⟩

lemma token?_of_beginsNumeral {c : Char} {cs : List Char} (h : BeginsNumeral c) :
    token? (c :: cs) = (numeral? (c :: cs)).map fun p => (.number p.1, p.2) := by
  have hother : ∀ mark ∈ ['[', ']', '\x7b', '\x7d', ',', ':', 'n', 't', 'f', '"'], c ≠ mark := by
    rintro mark hmark rfl
    have hall : ∀ mark ∈ ['[', ']', '\x7b', '\x7d', ',', ':', 'n', 't', 'f', '"'],
        mark ≠ '-' ∧ Digits.isDigit mark = false := by
      simp only [List.mem_cons, List.not_mem_nil, or_false, forall_eq_or_imp, forall_eq]
      decide
    rcases h with rfl | h
    · exact (hall _ hmark).1 rfl
    · rw [(hall _ hmark).2] at h
      cases h
  simp only [List.mem_cons, List.not_mem_nil, or_false, forall_eq_or_imp, forall_eq] at hother
  rw [token?]
  all_goals simp [hother]

lemma Token.IsSpelled.token? {t : Token} {cs rest : List Char} (h : t.IsSpelled cs)
    (hrest : t.isNumber = true → Stops rest) : token? (cs ++ rest) = some (t, rest) := by
  cases h with
  | number h =>
    obtain ⟨c, more, rfl, hc⟩ := h.exists_cons
    rw [List.cons_append, token?_of_beginsNumeral hc, ← List.cons_append, h.numeral? (hrest rfl)]
    rfl
  | @string parts texts s hparts hmeans =>
    rw [List.cons_append, List.append_assoc, List.singleton_append, Json.token?,
      StringPart.stringParts_of_forall₂ hparts, ← StringPart.map_joinParts hparts hmeans]
    rfl
  | _ => rfl

lemma not_beginsNumeral_of_isSpace {c : Char} (h : isSpace c = true) :
    Digits.isDigit c = false ∧ c ≠ '-' ∧ c ≠ '.' ∧ c ≠ 'e' ∧ c ≠ 'E' := by
  simp only [isSpace, Bool.or_eq_true, beq_iff_eq] at h
  rcases h with ((rfl | rfl) | rfl) | rfl <;> decide

lemma isSpace_of_beginsNumeral {c : Char} (h : BeginsNumeral c) : isSpace c = false := by
  cases hspace : isSpace c with
  | false => rfl
  | true =>
    obtain ⟨hdigit, hminus, -⟩ := not_beginsNumeral_of_isSpace hspace
    rcases h with rfl | h
    · exact absurd rfl hminus
    · rw [hdigit] at h
      cases h

lemma Token.IsSpelled.exists_cons {t : Token} {cs : List Char} (h : t.IsSpelled cs) :
    ∃ c rest, cs = c :: rest ∧ isSpace c = false := by
  cases h with
  | number h =>
    obtain ⟨c, rest, rfl, hc⟩ := h.exists_cons
    exact ⟨c, rest, rfl, isSpace_of_beginsNumeral hc⟩
  | _ => exact ⟨_, _, rfl, by decide⟩

lemma tokens?_of_space {space : List Char} (h : ∀ c ∈ space, isSpace c = true)
    (rest : List Char) : tokens? (space ++ rest) = tokens? rest := by
  induction space with
  | nil => rfl
  | cons c space ih =>
    rw [List.cons_append, tokens?, if_pos (h c List.mem_cons_self),
      ih fun d hd => h d (List.mem_cons_of_mem _ hd)]

/-- A token is read in front of what does not go on with it, and reading goes on behind it. -/
lemma Token.IsSpelled.tokens? {t : Token} {cs rest : List Char} (h : t.IsSpelled cs)
    (hrest : t.isNumber = true → Stops rest) :
    tokens? (cs ++ rest) = (Json.tokens? rest).map (t :: ·) := by
  have hread := h.token? hrest
  obtain ⟨c, more, rfl, hc⟩ := h.exists_cons
  refine tokens?_of_token hc hread ?_
  rw [List.append_eq, List.length_append]
  exact Nat.le_add_left _ _

/-- What stands behind a number does not go on with it: space, the end, or another kind of token. -/
lemma Spells.stops {ts : List Token} {cs : List Char} (h : Spells ts cs)
    (hts : ∀ t ∈ ts.head?, t.isNumber = false) : Stops cs := by
  have hspace : ∀ c, isSpace c = true → Digits.isDigit c = false ∧ c ≠ '.' ∧ c ≠ 'e' ∧ c ≠ 'E' := by
    intro c hc
    obtain ⟨hdigit, -, hothers⟩ := not_beginsNumeral_of_isSpace hc
    exact ⟨hdigit, hothers⟩
  cases h with
  | nil h => exact fun c hc => hspace c (h c (List.mem_of_mem_head? hc))
  | @cons space cs rest t ts h ht _ =>
    cases space with
    | cons c space => simpa [Stops] using hspace c (h c List.mem_cons_self)
    | nil =>
      have hother := hts t rfl
      cases ht with
      | number => cases hother
      | _ =>
        simp only [Stops, List.nil_append, List.cons_append, List.head?_cons, Option.mem_some_iff,
          forall_eq']
        decide

/-- A text that is written as tokens is read as these tokens. -/
theorem tokens?_of_spells {ts : List Token} {cs : List Char} (h : Spells ts cs)
    (hts : Separated ts) : tokens? cs = some ts := by
  induction h with
  | @nil space hspace =>
    have hread := tokens?_of_space hspace []
    rwa [List.append_nil, tokens?] at hread
  | @cons space cs rest t ts hspace ht hrest ih =>
    rw [Separated, List.isChain_cons] at hts
    have hstops : t.isNumber = true → Stops rest := fun hnumber =>
      hrest.stops fun u hu => hts.1 u hu hnumber
    rw [tokens?_of_space hspace, ht.tokens? hstops, ih hts.2]
    rfl

end Tokens

end MailMerge.Json
