import MailMerge.Archive.Zstandard.Checksum
import MailMerge.Archive.Zstandard.Sequences

/-!
# Frames

The data is a row of frames, and of others that are skipped. A frame has a header, which may tell
the size of its content, and blocks: bytes as they are, one byte many times, or literals with
sequences. A checksum of the content may follow.
-/

namespace MailMerge.Archive.Zstandard

open LittleEndian (read?)

/-- How far copies reach, the size of the content where it is told, and whether a checksum
follows. -/
structure FrameHeader where
  window : Nat
  size : Option Nat
  isChecked : Bool
  deriving DecidableEq, Repr

/-- The greatest reach of copies. -/
def windowLimit : Nat := 134217729

/-- The reach that a byte stands for: a power of two and so many eighths of it more. -/
def windowOf (b : UInt8) : Nat :=
  let base := Nat.pow 2 (10 + b.toNat / 8)
  base + base / 8 * (b.toNat % 8)

/-- The size of a number that two bits of a header tell. -/
def sizeWidth (form : Nat) (single : Bool) : Nat :=
  match form with
  | 0 => if single then 1 else 0
  | 1 => 2
  | 2 => 4
  | _ => 8

def dictionaryWidth (form : Nat) : Nat :=
  if form = 3 then 4 else form

/-- The header of a frame behind its mark. A frame that needs a dictionary cannot be read. -/
def frameHeader? : Bytes → Option (FrameHeader × Bytes)
  | [] => none
  | flags :: bytes => do
    let n := flags.toNat
    let single := n.testBit 5
    let (window, bytes) ← read? (if single then 0 else 1) bytes
    let (dictionary, bytes) ← read? (dictionaryWidth (n % 4)) bytes
    let width := sizeWidth (n / 64) single
    let (size, bytes) ← read? width bytes
    let size := if width = 2 then size + 256 else size
    let window := if single then size else windowOf (UInt8.ofNat window)
    if n.testBit 3 || dictionary ≠ 0 || windowLimit < window then none
    else return (⟨window, if width = 0 then none else some size, n.testBit 2⟩, bytes)

/-- A block of a kind behind its header: the output with it, what it leaves for later blocks, and
the bytes after it. -/
def block? (kind size limit : Nat) (m : Memory) (output : Array UInt8) (bytes : Bytes) :
    Option (Array UInt8 × Memory × Bytes) :=
  if limit < size then none
  else
    match kind with
    | 0 =>
      if bytes.length < size then none
      else some (output ++ bytes.take size, m, bytes.drop size)
    | 1 =>
      match bytes with
      | b :: rest => some (output ++ Array.replicate size b, m, rest)
      | [] => none
    | 2 =>
      if bytes.length < size then none
      else
        (readBlock? m output (bytes.take size)).map fun (output, m) =>
          (output, m, bytes.drop size)
    | _ => none

/-- The content of a frame's blocks behind the output so far, and the bytes after them. -/
def blocks? (limit fuel : Nat) (m : Memory) (output : Array UInt8) (bytes : Bytes) :
    Option (Array UInt8 × Bytes) :=
  match fuel with
  | 0 => none
  | fuel + 1 => do
    let (header, bytes) ← read? 3 bytes
    let size := output.size
    let (next, m, bytes) ← block? (header / 2 % 4) (header / 8) limit m output bytes
    if size + limit < next.size then none
    else if header % 2 = 1 then return (next, bytes)
    else blocks? limit fuel m next bytes

/-- The content of a frame behind its mark, and the bytes after it. -/
def frame? (bytes : Bytes) : Option (Bytes × Bytes) := do
  let (header, bytes) ← frameHeader? bytes
  let (output, bytes) ←
    blocks? (min header.window Literals.blockLimit) (bytes.length + 1) .start #[] bytes
  let content := output.toList
  if header.size.getD content.length ≠ content.length then none
  else if header.isChecked then
    let (sum, bytes) ← read? 4 bytes
    if sum = (checksum content).toNat % Nat.pow 2 32 then return (content, bytes) else none
  else return (content, bytes)

def frameMark : Nat := 0xFD2FB528

/-- The marks of frames to skip, of which the last four bits are free. -/
def skipMark : Nat := 0x184D2A5

/-- A frame's content, which is empty for one to skip, and the bytes after it. -/
def anyFrame? (bytes : Bytes) : Option (Bytes × Bytes) := do
  let (mark, rest) ← read? 4 bytes
  if mark = frameMark then frame? rest
  else if mark / 16 = skipMark then
    let (size, rest) ← read? 4 rest
    if rest.length < size then none else return ([], rest.drop size)
  else none

def frames? (fuel : Nat) (bytes : Bytes) : Option Bytes :=
  match fuel with
  | 0 => none
  | fuel + 1 => do
    let (content, rest) ← anyFrame? bytes
    if rest.isEmpty then return content else return content ++ (← frames? fuel rest)

/-- The bytes that frames stand for, none if one of them is corrupt or there are none. -/
def unpack? (bytes : Bytes) : Option Bytes :=
  frames? bytes.length bytes

end MailMerge.Archive.Zstandard
