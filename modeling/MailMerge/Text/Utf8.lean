/-!
# UTF-8

Reading bytes as text. Bytes that are no UTF-8 are described by the place of the first fault and
the length of the faulty sequence, or read leniently with a replacement character for each
faulty sequence.
-/

namespace MailMerge

abbrev Bytes := List UInt8

namespace Utf8

/-- The first place where bytes stop being UTF-8: how many bytes before it are fine, and the
length of the faulty sequence, or none when the bytes end inside a character. -/
structure Fault where
  index : Nat
  length : Option Nat
  deriving DecidableEq, Repr

def Fault.message (fault : Fault) : String :=
  match fault.length with
  | some n => s!"invalid utf-8 sequence of {n} bytes from index {fault.index}"
  | none => s!"incomplete utf-8 byte sequence from index {fault.index}"

/-- What the bytes at some place begin with: a whole character, a faulty sequence of so many
bytes, or a character that the end of the bytes cuts off. -/
inductive Front where
  | whole (size : Nat)
  | faulty (size : Nat)
  | cut
  deriving DecidableEq, Repr

def isTail (b : UInt8) : Bool :=
  0x80 ≤ b && b ≤ 0xBF

/-- Length of the character that a first byte announces; zero for a byte that begins none. -/
def announced (b : UInt8) : Nat :=
  if b < 0x80 then 1
  else if 0xC2 ≤ b && b ≤ 0xDF then 2
  else if 0xE0 ≤ b && b ≤ 0xEF then 3
  else if 0xF0 ≤ b && b ≤ 0xF4 then 4
  else 0

/-- The second bytes allowed after a first byte: overlong forms, surrogates and values past the
last code point show here. -/
def isSecond (first second : UInt8) : Bool :=
  if first == 0xE0 then 0xA0 ≤ second && second ≤ 0xBF
  else if first == 0xED then 0x80 ≤ second && second ≤ 0x9F
  else if first == 0xF0 then 0x90 ≤ second && second ≤ 0xBF
  else if first == 0xF4 then 0x80 ≤ second && second ≤ 0x8F
  else isTail second

/-- Counts tail bytes until `size` is reached, with `seen` bytes accepted so far. -/
def tails (size seen : Nat) : Bytes → Front
  | [] => if seen < size then .cut else .whole size
  | b :: rest =>
    if seen < size then
      if isTail b then tails size (seen + 1) rest else .faulty seen
    else .whole size

def front (b : UInt8) (rest : Bytes) : Front :=
  match announced b with
  | 0 => .faulty 1
  | 1 => .whole 1
  | size =>
    match rest with
    | [] => .cut
    | c :: more => if isSecond b c then tails size 2 more else .faulty 1

/-- The code point of a whole character. -/
def codePoint : Bytes → Nat
  | [a] => a.toNat
  | [a, b] => (a.toNat % 32) * 64 + b.toNat % 64
  | [a, b, c] => (a.toNat % 16) * 4096 + (b.toNat % 64) * 64 + c.toNat % 64
  | [a, b, c, d] =>
    (a.toNat % 8) * 262144 + (b.toNat % 64) * 4096 + (c.toNat % 64) * 64 + d.toNat % 64
  | _ => 0xFFFD

def firstFault (fuel index : Nat) (bytes : Bytes) : Fault :=
  match fuel, bytes with
  | 0, _ => ⟨index, none⟩
  | _, [] => ⟨index, none⟩
  | fuel + 1, b :: rest =>
    match front b rest with
    | .whole size => firstFault fuel (index + size) ((b :: rest).drop size)
    | .faulty size => ⟨index, some size⟩
    | .cut => ⟨index, none⟩

def replaceFaults (fuel : Nat) (bytes : Bytes) : List Char :=
  match fuel, bytes with
  | 0, _ => []
  | _, [] => []
  | fuel + 1, b :: rest =>
    match front b rest with
    | .whole size =>
      Char.ofNat (codePoint ((b :: rest).take size)) ::
        replaceFaults fuel ((b :: rest).drop size)
    | .faulty size => '\uFFFD' :: replaceFaults fuel ((b :: rest).drop size)
    | .cut => ['\uFFFD']

/-- The bytes of a text. -/
def encode (s : String) : Bytes :=
  s.toUTF8.data.toList

/-- The text with these bytes. -/
def decode (bytes : Bytes) : Except Fault String :=
  match String.fromUTF8? ⟨bytes.toArray⟩ with
  | some s => .ok s
  | none => .error (firstFault bytes.length 0 bytes)

/-- The text with these bytes, each faulty sequence read as U+FFFD. -/
def decodeLossy (bytes : Bytes) : String :=
  String.ofList (replaceFaults bytes.length bytes)

theorem decode_encode (s : String) : decode (encode s) = .ok s := by
  have h : String.fromUTF8? ⟨(encode s).toArray⟩ = some s := by
    have hb : (⟨(encode s).toArray⟩ : ByteArray) = s.toUTF8 := by simp [encode]
    rw [hb]
    simp [String.fromUTF8?, String.fromUTF8, String.toUTF8, s.isValidUTF8]
  rw [decode, h]

end Utf8

end MailMerge
