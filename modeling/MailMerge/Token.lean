import MailMerge.Text.Blank

/-!
# Placeholder tokens

A token is `\x7b\x7b`, blank characters, a name of ASCII letters, digits, points, hyphens and
underscores, blank characters, and `\x7d\x7d`. Reading a text from the left cuts it into tokens and
the literal texts between them.
-/

namespace MailMerge

def isNameChar (c : Char) : Bool :=
  ('A' ≤ c && c ≤ 'Z') || ('a' ≤ c && c ≤ 'z') || ('0' ≤ c && c ≤ '9') ||
    c == '.' || c == '_' || c == '-'

/-- A token with the blank characters around its name. -/
structure Token where
  before : List Char
  name : List Char
  after : List Char
  deriving DecidableEq, Repr

namespace Token

/-- The token as it stands in the text. -/
def chars (t : Token) : List Char :=
  '\x7b' :: '\x7b' :: (t.before ++ t.name ++ t.after ++ ['\x7d', '\x7d'])

/-- The token that a text begins with, and the text after it. -/
def read? : List Char → Option (Token × List Char)
  | '\x7b' :: '\x7b' :: cs =>
    let rest := cs.dropWhile Text.isBlank
    let name := rest.takeWhile isNameChar
    let rest' := rest.dropWhile isNameChar
    match name, rest'.dropWhile Text.isBlank with
    | _ :: _, '\x7d' :: '\x7d' :: rest'' =>
      some (⟨cs.takeWhile Text.isBlank, name, rest'.takeWhile Text.isBlank⟩, rest'')
    | _, _ => none
  | _ => none

theorem eq_append_of_read? {cs : List Char} {t : Token} {rest : List Char}
    (h : read? cs = some (t, rest)) : cs = t.chars ++ rest := by
  unfold read? at h
  split at h
  · next cs =>
    dsimp only at h
    split at h
    · next c name rest'' hname hrest =>
      obtain ⟨rfl, rfl⟩ := Prod.mk.inj (Option.some.inj h)
      have h1 := List.takeWhile_append_dropWhile (p := Text.isBlank) (l := cs)
      have h2 := List.takeWhile_append_dropWhile (p := isNameChar)
        (l := cs.dropWhile Text.isBlank)
      have h3 := List.takeWhile_append_dropWhile (p := Text.isBlank)
        (l := (cs.dropWhile Text.isBlank).dropWhile isNameChar)
      rw [hrest] at h3
      rw [← h3] at h2
      rw [← h2] at h1
      simpa [chars] using h1.symm
    · simp at h
  · simp at h

theorem length_of_read? {cs : List Char} {t : Token} {rest : List Char}
    (h : read? cs = some (t, rest)) : rest.length < cs.length := by
  rw [eq_append_of_read? h]
  simp [chars]
  omega

end Token

/-- A part of a text: a run of other characters or a token. -/
inductive Part where
  | literal (chars : List Char)
  | token (t : Token)
  deriving DecidableEq, Repr

namespace Part

def chars : Part → List Char
  | literal cs => cs
  | token t => t.chars

/-- The name of a token, none for a literal. -/
def name? : Part → Option String
  | literal _ => none
  | token t => some (String.ofList t.name)

end Part

/-- Puts one more character in front of the parts. -/
def extendLiteral (c : Char) : List Part → List Part
  | .literal cs :: parts => .literal (c :: cs) :: parts
  | parts => .literal [c] :: parts

/-- The tokens of a text, found from the left, and the literals between them. -/
def cut (cs : List Char) : List Part :=
  match h : Token.read? cs with
  | some (t, rest) =>
    have := Token.length_of_read? h
    .token t :: cut rest
  | none =>
    match cs with
    | [] => []
    | c :: rest => extendLiteral c (cut rest)
termination_by cs.length

/-- The names of all tokens of a text, in order. -/
def placeholders (text : String) : List String :=
  (cut text.toList).filterMap Part.name?

/-- The names of the tokens of a text, each once, at its first place. -/
def distinctPlaceholders (text : String) : List String :=
  (placeholders text).eraseDups

end MailMerge
