import MailMerge.Script.Command

/-!
# Texts of scripts while they are read

The text that is left, the line that it starts on, and what was seen on the way: texts that belong
to redirections stand behind the line that calls for them, so they are kept under numbers.
-/

namespace MailMerge.Script

/-- Why a text is no script. -/
inductive SyntaxFault where
  | unexpected (found : String) (expected : Option String)
  | openQuotation
  | openBrace
  | openFormula
  | openBackquote
  | loopName
  | functionName
  deriving DecidableEq, Repr

def SyntaxFault.message : SyntaxFault → String
  | unexpected found none => found ++ " unexpected"
  | unexpected found (some expected) => s!"{found} unexpected (expecting {expected})"
  | openQuotation => "Unterminated quoted string"
  | openBrace => "Missing '\x7d'"
  | openFormula => "Missing '))'"
  | openBackquote => "EOF in backquote substitution"
  | loopName => "Bad for loop variable"
  | functionName => "Bad function name"

inductive Token where
  | word (w : Word)
  | sign (text : String)
  /-- A redirection, of a channel if one is given. -/
  | redirect (channel : Option Nat) (sign : String)
  | lineEnd
  | textEnd

/-- A text that a redirection calls for, up to a line that ends it. -/
structure Awaited where
  number : Nat
  ending : Octets
  verbatim : Bool
  withoutTabs : Bool

/-- An alias whose text is being read: the length of the text behind it, and whether the word there
may be an alias as well. -/
structure Replaced where
  name : Octets
  behind : Nat
  goesOn : Bool

structure Source where
  line : Nat
  rest : List Char
  pushed : Option Token
  /-- The texts of redirections, by their numbers. -/
  documents : Array Word
  awaited : List Awaited
  aliases : List (Octets × Octets)
  /-- Aliases whose texts are being read. -/
  replaced : List Replaced

abbrev Reader := EStateM SyntaxFault Source

def keywords : List String :=
  ["!", "case", "do", "done", "elif", "else", "esac", "fi", "for", "if", "in", "then", "until",
    "while", "\x7b", "\x7d"]

/-- The keyword that a token is where keywords may stand. -/
def Token.keyword? : Token → Option String
  | .word w =>
    (Word.plain? w).bind fun cs =>
      let s := String.ofList cs
      if keywords.contains s then some s else none
  | _ => none

/-- A token in a report; `keyed` tells whether it stands where keywords may. -/
def Token.description (keyed : Bool) (t : Token) : String :=
  match t with
  | .sign s => s!"\"{s}\""
  | .redirect .. => "redirection"
  | .lineEnd => "newline"
  | .textEnd => "end of file"
  | .word _ =>
    match if keyed then t.keyword? else none with
    | some s => s!"\"{s}\""
    | none => "word"

/-- A text without the line ends that a backslash takes away at its front, and their number. -/
def skipJoins : List Char → Nat × List Char
  | '\\' :: '\n' :: rest =>
    let (n, rest) := skipJoins rest
    (n + 1, rest)
  | rest => (0, rest)

namespace Reader

/-- The next character, lines joined. -/
def peek : Reader (Option Char) :=
  modifyGet fun s =>
    let (n, rest) := skipJoins s.rest
    (rest.head?, { s with rest := rest, line := s.line + n })

def advance : Reader Unit :=
  modify fun s =>
    match s.rest with
    | c :: rest => { s with rest := rest, line := if c = '\n' then s.line + 1 else s.line }
    | [] => s

/-- Takes the next character, lines joined. -/
def next : Reader (Option Char) := do
  let c ← peek
  advance
  return c

/-- Takes the next character as it stands. -/
def nextRaw : Reader (Option Char) := do
  let c := (← get).rest.head?
  advance
  return c

/-- Takes the next character if it is this one. -/
def skip (c : Char) : Reader Bool := do
  if (← peek) = some c then
    advance
    return true
  else
    return false

/-- The characters that pass a test, lines joined. -/
def takeWhile (test : Char → Bool) : Nat → Reader Octets
  | 0 => return []
  | fuel + 1 => do
    match ← peek with
    | some c =>
      if test c then
        advance
        return c :: (← takeWhile test fuel)
      else
        return []
    | none => return []

def takeAll (test : Char → Bool) : Reader Octets := do
  takeWhile test ((← get).rest.length + 1)

/-- The text up to a single quotation mark. -/
def singleQuoted : Nat → List Char → Reader Octets
  | 0, _ => throw .openQuotation
  | fuel + 1, taken => do
    match ← nextRaw with
    | none => throw .openQuotation
    | some '\'' => return taken.reverse
    | some c => singleQuoted fuel (c :: taken)

/-- The text up to a backquote, with the backslashes that protect it taken away. -/
def backquotedText (quoted : Bool) : Nat → List Char → Reader Octets
  | 0, _ => throw .openBackquote
  | fuel + 1, taken => do
    match ← next with
    | none => throw .openBackquote
    | some '\x60' => return taken.reverse
    | some '\\' =>
      match ← next with
      | none => throw .openBackquote
      | some c =>
        if c = '\\' || c = '\x60' || c = '$' || (quoted && c = '"') then
          backquotedText quoted fuel (c :: taken)
        else backquotedText quoted fuel (c :: '\\' :: taken)
    | some c => backquotedText quoted fuel (c :: taken)

def push (t : Token) : Reader Unit :=
  modify fun s => { s with pushed := some t }

end Reader

/-- Puts a character behind pieces that are held in reverse, with their texts reversed. -/
def addChar (c : Char) (quoted : Bool) : Word → Word
  | .text cs q :: rest =>
    if q = quoted then .text (c :: cs) q :: rest else .text [c] quoted :: .text cs q :: rest
  | pieces => .text [c] quoted :: pieces

def addText (cs : Octets) (quoted : Bool) (w : Word) : Word :=
  cs.foldl (fun w c => addChar c quoted w) w

/-- The pieces in their order. -/
def finish (w : Word) : Word :=
  w.foldl (fun done p =>
    match p with
    | .text cs q => .text cs.reverse q :: done
    | p => p :: done) []

/-- The word without its quotation marks, and whether it has any. -/
def Word.unquoted : Word → Octets × Bool
  | [] => ([], false)
  | .text cs q :: rest =>
    let (text, quoted) := unquoted rest
    (cs ++ text, q || quoted)
  | .anchor :: rest => ((unquoted rest).1, true)
  | _ :: rest => unquoted rest

end MailMerge.Script
