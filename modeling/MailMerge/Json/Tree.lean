import MailMerge.Number.Reading

/-!
# JSON texts

A JSON text is cut into tokens, and the tokens are put together by a machine that keeps a stack of
the containers still open. The tree keeps what the text says: fields in their order with
repetitions, numbers digit by digit, and strings whose escapes name no character as such, so a
reader that skips a value need not judge it.
-/

namespace MailMerge.Json

/-- A number as written. -/
structure Numeral where
  negative : Bool
  whole : List Char
  decimals : List Char
  /-- Whether the exponent is negative, and its digits. -/
  exponent : Option (Bool × List Char)
  deriving DecidableEq, Repr

/-- A string is none if an escape in it is half of a surrogate pair. -/
inductive Token where
  | openArray
  | closeArray
  | openObject
  | closeObject
  | comma
  | colon
  | null
  | bool (b : Bool)
  | number (n : Numeral)
  | string (s : Option String)
  deriving DecidableEq, Repr

/-- A character of a string, or a 16-bit unit written as an escape. -/
inductive StringPart where
  | char (c : Char)
  | unit (n : Nat)
  deriving DecidableEq, Repr

def isSpace (c : Char) : Bool :=
  c == ' ' || c == '\n' || c == '\t' || c == '\r'

def hexValue? (c : Char) : Option Nat :=
  if '0' ≤ c && c ≤ '9' then some (c.toNat - 48)
  else if 'a' ≤ c && c ≤ 'f' then some (c.toNat - 87)
  else if 'A' ≤ c && c ≤ 'F' then some (c.toNat - 55)
  else none

def unit? (a b c d : Char) : Option Nat := do
  return (((← hexValue? a) * 16 + (← hexValue? b)) * 16 + (← hexValue? c)) * 16 + (← hexValue? d)

/-- The character that a one-letter escape stands for. -/
def shortEscape? (c : Char) : Option Char :=
  match c with
  | '"' => some '"'
  | '\\' => some '\\'
  | '/' => some '/'
  | 'b' => some '\x08'
  | 'f' => some '\x0c'
  | 'n' => some '\n'
  | 'r' => some '\r'
  | 't' => some '\t'
  | _ => none

/-- The parts of a string up to its closing quote, and the text after it. -/
def stringParts : List Char → Option (List StringPart × List Char)
  | [] => none
  | '"' :: rest => some ([], rest)
  | '\\' :: 'u' :: a :: b :: c :: d :: rest =>
    match unit? a b c d with
    | none => none
    | some n => (stringParts rest).map fun (ps, r) => (.unit n :: ps, r)
  | '\\' :: e :: rest =>
    match shortEscape? e with
    | none => none
    | some c => (stringParts rest).map fun (ps, r) => (.char c :: ps, r)
  | c :: rest =>
    if c == '\\' || c.toNat < 32 then none
    else (stringParts rest).map fun (ps, r) => (.char c :: ps, r)

/-- The characters of string parts: a leading surrogate needs a trailing one right behind it, and
a trailing one stands nowhere else. -/
def joinParts : List StringPart → Option (List Char)
  | [] => some []
  | .char c :: ps => (joinParts ps).map (c :: ·)
  | .unit n :: ps =>
    if n < 0xD800 || 0xDFFF < n then (joinParts ps).map (Char.ofNat n :: ·)
    else if 0xDC00 ≤ n then none
    else
      match ps with
      | .unit m :: more =>
        if 0xDC00 ≤ m && m ≤ 0xDFFF then
          (joinParts more).map (Char.ofNat (0x10000 + (n - 0xD800) * 0x400 + (m - 0xDC00)) :: ·)
        else none
      | _ => none

/-- The digits at the front, which may not begin with a zero unless that is all of them. -/
def wholePart? (cs : List Char) : Option (List Char × List Char) :=
  let ds := cs.takeWhile Digits.isDigit
  match ds with
  | [] => none
  | '0' :: _ :: _ => none
  | _ => some (ds, cs.dropWhile Digits.isDigit)

def decimals? : List Char → Option (List Char × List Char)
  | '.' :: cs =>
    let ds := cs.takeWhile Digits.isDigit
    if ds.isEmpty then none else some (ds, cs.dropWhile Digits.isDigit)
  | cs => some ([], cs)

/-- The digits of an exponent behind its sign. -/
def exponentDigits? (negative : Bool) (cs : List Char) :
    Option (Option (Bool × List Char) × List Char) :=
  let ds := cs.takeWhile Digits.isDigit
  if ds.isEmpty then none else some (some (negative, ds), cs.dropWhile Digits.isDigit)

def exponent? : List Char → Option (Option (Bool × List Char) × List Char)
  | [] => some (none, [])
  | c :: cs =>
    if c == 'e' || c == 'E' then
      match cs with
      | '+' :: ds => exponentDigits? false ds
      | '-' :: ds => exponentDigits? true ds
      | ds => exponentDigits? false ds
    else some (none, c :: cs)

def unsigned? (negative : Bool) (cs : List Char) : Option (Numeral × List Char) := do
  let (whole, cs) ← wholePart? cs
  let (decimals, cs) ← decimals? cs
  let (exponent, cs) ← exponent? cs
  return (⟨negative, whole, decimals, exponent⟩, cs)

def numeral? : List Char → Option (Numeral × List Char)
  | '-' :: cs => unsigned? true cs
  | cs => unsigned? false cs

/-- The token that a text begins with; the text begins with no space. -/
def token? : List Char → Option (Token × List Char)
  | '[' :: rest => some (.openArray, rest)
  | ']' :: rest => some (.closeArray, rest)
  | '\x7b' :: rest => some (.openObject, rest)
  | '\x7d' :: rest => some (.closeObject, rest)
  | ',' :: rest => some (.comma, rest)
  | ':' :: rest => some (.colon, rest)
  | 'n' :: 'u' :: 'l' :: 'l' :: rest => some (.null, rest)
  | 't' :: 'r' :: 'u' :: 'e' :: rest => some (.bool true, rest)
  | 'f' :: 'a' :: 'l' :: 's' :: 'e' :: rest => some (.bool false, rest)
  | '"' :: rest =>
    (stringParts rest).map fun (ps, r) => (.string ((joinParts ps).map String.ofList), r)
  | cs => (numeral? cs).map fun (n, r) => (.number n, r)

/-- The tokens of a text; every token takes at least one character. -/
def tokens? : List Char → Option (List Token)
  | [] => some []
  | c :: cs =>
    if isSpace c then tokens? cs
    else
      match token? (c :: cs) with
      | none => none
      | some (t, rest) =>
        if rest.length ≤ cs.length then (tokens? rest).map (t :: ·) else none
termination_by cs => cs.length

/-- A JSON value as its text gives it. -/
inductive Tree where
  | null
  | bool (b : Bool)
  | number (n : Numeral)
  | string (s : Option String)
  | array (items : List Tree)
  | object (fields : List (Option String × Tree))
  deriving Repr

/-- A container still open, its last item first. -/
inductive Frame where
  | items (done : List Tree)
  | fields (done : List (Option String × Tree))
  /-- An object whose field of this name waits for its value. -/
  | field (done : List (Option String × Tree)) (name : Option String)

/-- What may come next. -/
inductive Expected where
  | value
  | valueOrEnd
  | nameOrEnd
  | name
  | colon
  | separator
  deriving DecidableEq, Repr

inductive State where
  | reading (expected : Expected) (stack : List Frame)
  | finished (tree : Tree)

/-- Gives a finished value to the innermost open container. -/
def put (tree : Tree) : List Frame → Option State
  | [] => some (.finished tree)
  | .items done :: stack => some (.reading .separator (.items (tree :: done) :: stack))
  | .field done name :: stack =>
    some (.reading .separator (.fields ((name, tree) :: done) :: stack))
  | .fields _ :: _ => none

def closeArray : List Frame → Option State
  | .items done :: stack => put (.array done.reverse) stack
  | _ => none

def closeObject : List Frame → Option State
  | .fields done :: stack => put (.object done.reverse) stack
  | _ => none

/-- A token where a value begins. -/
def begin (stack : List Frame) : Token → Option State
  | .openArray => some (.reading .valueOrEnd (.items [] :: stack))
  | .openObject => some (.reading .nameOrEnd (.fields [] :: stack))
  | .null => put .null stack
  | .bool b => put (.bool b) stack
  | .number n => put (.number n) stack
  | .string s => put (.string s) stack
  | _ => none

def name (stack : List Frame) : Token → Option State
  | .string s =>
    match stack with
    | .fields done :: rest => some (.reading .colon (.field done s :: rest))
    | _ => none
  | _ => none

def separate : List Frame → Option State
  | .items done :: stack => some (.reading .value (.items done :: stack))
  | .fields done :: stack => some (.reading .name (.fields done :: stack))
  | _ => none

def step : State → Token → Option State
  | .finished _, _ => none
  | .reading .value stack, t => begin stack t
  | .reading .valueOrEnd stack, t => if t = .closeArray then closeArray stack else begin stack t
  | .reading .nameOrEnd stack, t => if t = .closeObject then closeObject stack else name stack t
  | .reading .name stack, t => name stack t
  | .reading .colon stack, t => if t = .colon then some (.reading .value stack) else none
  | .reading .separator stack, t =>
    match t with
    | .comma => separate stack
    | .closeArray => closeArray stack
    | .closeObject => closeObject stack
    | _ => none

def run : State → List Token → Option State
  | state, [] => some state
  | state, t :: ts =>
    match step state t with
    | some next => run next ts
    | none => none

/-- The tree of a whole JSON text. -/
def Tree.ofText? (text : String) : Option Tree := do
  let ts ← tokens? text.toList
  match ← run (.reading .value []) ts with
  | .finished tree => some tree
  | .reading .. => none

end MailMerge.Json
