import MailMerge.Files.Path
import MailMerge.Text.Utf8

/-!
# Bytes as characters

A script and all it works on are bytes, whatever text they may stand for. Every byte is held as
the character with its number, so that scripts can be read and compared like other texts; nothing
is lost on the way (`toBytes_ofBytes`).
-/

namespace MailMerge.Script

/-- Characters that stand for bytes. -/
abbrev Octets := List Char

def ofBytes (bytes : Bytes) : Octets :=
  bytes.map fun b => Char.ofNat b.toNat

def toBytes (cs : Octets) : Bytes :=
  cs.map fun c => UInt8.ofNat c.toNat

theorem toBytes_ofBytes (bytes : Bytes) : toBytes (ofBytes bytes) = bytes := by
  have h (b : UInt8) : UInt8.ofNat (Char.ofNat b.toNat).toNat = b := by
    have hb : b.toNat < 256 := b.toNat_lt
    have hv : b.toNat.isValidChar := .inl (by omega)
    have hc : (Char.ofNat b.toNat).toNat = b.toNat := by
      rw [Char.ofNat, dif_pos hv]
      rfl
    rw [hc]
    exact UInt8.ofNat_toNat
  induction bytes with
  | nil => rfl
  | cons b rest ih =>
    have ih' : toBytes (rest.map fun b => Char.ofNat b.toNat) = rest := ih
    rw [ofBytes, List.map_cons, toBytes, List.map_cons, h]
    exact congrArg (b :: ·) ih'

/-- Whether bytes come no later than others in the order of their numbers. -/
def atMost (a b : Octets) : Bool := !decide (b < a)

/-- The bytes of a text. -/
def octets (s : String) : Octets :=
  ofBytes (Utf8.encode s)

/-- The text that bytes stand for. -/
def textOf (cs : Octets) : String :=
  Utf8.decodeLossy (toBytes cs)

def pathOf (cs : Octets) : Path :=
  ⟨textOf cs⟩

/-- A number in decimal digits. -/
def decimal (n : Nat) : Octets :=
  Nat.toDigits 10 n

def decimalInt (n : Int) : Octets :=
  if n < 0 then '-' :: decimal n.natAbs else decimal n.natAbs

/-- The lines of a text, without their ends; a last line may lack its end. -/
def linesOf (cs : Octets) : List Octets :=
  let pieces := Text.pieces '\n' cs
  if pieces.getLast? = some [] then pieces.dropLast else pieces

/-- Lines with an end behind each. -/
def unlines (lines : List Octets) : Octets :=
  lines.flatMap fun l => l ++ ['\n']

def isNameStart (c : Char) : Bool :=
  c.isAlpha || c == '_'

def isNamePart (c : Char) : Bool :=
  c.isAlphanum || c == '_'

/-- The text can be the name of a variable. -/
def isName (cs : Octets) : Bool :=
  cs.head?.any isNameStart && cs.all isNamePart

end MailMerge.Script
