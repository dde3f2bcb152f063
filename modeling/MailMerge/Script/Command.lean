import MailMerge.Script.Octets

/-!
# Commands of scripts

What a script says, as a tree: commands are made of words, and words of pieces that are plain
text or stand for values. Commands occur inside words as well, where their output is the value.
-/

namespace MailMerge.Script

/-- How the value of a name is used. -/
inductive Use where
  | plain
  | length
  /-- Another word where the value is missing. -/
  | otherwise (orEmpty : Bool)
  /-- The same, and the name takes that value. -/
  | assigned (orEmpty : Bool)
  /-- A report where the value is missing. -/
  | demanded (orEmpty : Bool)
  /-- Another word where the value is there. -/
  | whenGiven (orEmpty : Bool)
  /-- What matches a pattern is cut off the front or the back. -/
  | cut (front longest : Bool)
  /-- Braces that hold no use of a value. -/
  | malformed
  deriving DecidableEq, Repr

/-- What a redirection does with its channel. -/
inductive Leading where
  | fromFile
  | toFile
  /-- The same, over a file that may not be written again. -/
  | overFile
  | toEnd
  | both
  /-- To what another channel is led to. -/
  | toChannel
  /-- The channel reads a text that stands in the script, kept under this number. -/
  | fromScript (document : Nat)
  deriving DecidableEq, Repr

mutual

inductive Piece where
  | text (cs : Octets) (quoted : Bool)
  | value (name : Octets) (use : Use) (word : List Piece) (quoted : Bool)
  | output (body : List Command) (quoted : Bool)
  | number (formula : List Piece) (quoted : Bool)
  /-- The folder of a user, whose name is empty for the script's own. -/
  | home (user : Octets)
  /-- Keeps a word whose quotation is empty. -/
  | anchor

inductive Redirect where
  | mk (channel : Nat) (leading : Leading) (target : List Piece)

inductive Command where
  /-- A call, on a line of the script. -/
  | call (line : Nat) (assigned : List (Octets × List Piece)) (words : List (List Piece))
      (redirects : List Redirect)
  | pipe (parts : List Command)
  | negated (c : Command)
  | whenOk (first second : Command)
  | whenFailed (first second : Command)
  | behind (line : Nat) (c : Command)
  | group (body : List Command)
  | inside (line : Nat) (body : List Command)
  | choice (condition yes no : List Command)
  | loop (whileOk : Bool) (condition body : List Command)
  | each (line : Nat) (name : Octets) (words : List (List Piece)) (body : List Command)
  | select (line : Nat) (word : List Piece) (cases : List (List (List Piece) × List Command))
  | define (line : Nat) (name : Octets) (body : Command)
  | redirected (line : Nat) (c : Command) (redirects : List Redirect)

end

abbrev Word := List Piece

/-- The name and value that a word assigns. -/
def Word.assignment? : Word → Option (Octets × Word)
  | .text cs false :: rest =>
    match Text.cutFirst '=' cs with
    | some (name, value) => if isName name then some (name, .text value false :: rest) else none
    | none => none
  | _ => none

/-- A user's name behind a tilde at the front of a text; `isLast` tells whether the text ends its
word. -/
def homed (colons isLast : Bool) (cs : Octets) : Word :=
  match cs with
  | '~' :: rest =>
    let user := rest.takeWhile fun c => c ≠ '/' && !(colons && c = ':')
    let behind := rest.drop user.length
    if behind = [] then if isLast then [.home user] else [.text cs false]
    else [.home user, .text behind false]
  | cs => [.text cs false]

/-- The word with the folder of a user at its front. -/
def Word.withHome : Word → Word
  | .text cs false :: rest => homed false rest.isEmpty cs ++ rest
  | w => w

/-- The word with the folders of users behind its colons too, as in values that are assigned. -/
def Word.withHomes : Word → Word
  | .text cs false :: rest =>
    let pieces := Text.pieces ':' cs
    let parts := pieces.zipIdx.flatMap fun (p, i) =>
      let isLast := rest.isEmpty || i + 1 < pieces.length
      (if i = 0 then [] else [Piece.text [':'] false]) ++ homed true isLast p
    parts ++ rest
  | w => w

/-- The text of a word that is written out plainly, without any quotation. -/
def Word.plain? : Word → Option Octets
  | [.text cs false] => some cs
  | _ => none

end MailMerge.Script
