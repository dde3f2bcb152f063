import MailMerge.Text.Split
import MailMerge.Json.Value

/-!
# JSON printers

The compact form has no space outside strings; the indented form puts every item on a line of its
own, two columns further in. Strings escape the quote, the backslash and control characters.
-/

namespace MailMerge.Json

def hexDigit (n : Nat) : Char :=
  if n < 10 then Char.ofNat (48 + n) else Char.ofNat (87 + n)

def escapedChar (c : Char) : List Char :=
  match c with
  | '"' => ['\\', '"']
  | '\\' => ['\\', '\\']
  | '\x08' => ['\\', 'b']
  | '\x0c' => ['\\', 'f']
  | '\n' => ['\\', 'n']
  | '\r' => ['\\', 'r']
  | '\t' => ['\\', 't']
  | _ =>
    if c.toNat < 32 then ['\\', 'u', '0', '0', hexDigit (c.toNat / 16), hexDigit (c.toNat % 16)]
    else [c]

/-- The text of a string between quotes. -/
def quoted (s : String) : List Char :=
  '"' :: (s.toList.flatMap escapedChar ++ ['"'])

def Number.text : Number → List Char
  | .integer n => if n < 0 then '-' :: Digits.ofNat n.natAbs else Digits.ofNat n.natAbs
  | .real x => x.text .json

mutual

def Value.compact : Value → List Char
  | .null => "null".toList
  | .bool true => "true".toList
  | .bool false => "false".toList
  | .number n => n.text
  | .string s => quoted s
  | .array items => '[' :: (Value.compactItems items ++ [']'])
  | .object fields => '\x7b' :: (Value.compactFields fields ++ ['\x7d'])

def Value.compactItems : List Value → List Char
  | [] => []
  | [v] => Value.compact v
  | v :: w :: rest => Value.compact v ++ ',' :: Value.compactItems (w :: rest)

def Value.compactFields : List (String × Value) → List Char
  | [] => []
  | [(name, v)] => quoted name ++ ':' :: Value.compact v
  | (name, v) :: f :: rest =>
    quoted name ++ ':' :: (Value.compact v ++ ',' :: Value.compactFields (f :: rest))

end

def lineStart (depth : Nat) : List Char :=
  '\n' :: List.replicate (2 * depth) ' '

mutual

def Value.indented (depth : Nat) : Value → List Char
  | .array [] => ['[', ']']
  | .object [] => ['\x7b', '\x7d']
  | .array items => '[' :: (Value.indentedItems (depth + 1) items ++ lineStart depth ++ [']'])
  | .object fields =>
    '\x7b' :: (Value.indentedFields (depth + 1) fields ++ lineStart depth ++ ['\x7d'])
  | v => v.compact

def Value.indentedItems (depth : Nat) : List Value → List Char
  | [] => []
  | [v] => lineStart depth ++ Value.indented depth v
  | v :: w :: rest =>
    lineStart depth ++ Value.indented depth v ++ ',' :: Value.indentedItems depth (w :: rest)

def Value.indentedFields (depth : Nat) : List (String × Value) → List Char
  | [] => []
  | [(name, v)] => lineStart depth ++ quoted name ++ ':' :: ' ' :: Value.indented depth v
  | (name, v) :: f :: rest =>
    lineStart depth ++ quoted name ++ ':' :: ' ' :: (Value.indented depth v ++
      ',' :: Value.indentedFields depth (f :: rest))

end

end MailMerge.Json
