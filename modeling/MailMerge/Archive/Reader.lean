import MailMerge.Archive.Directory
import MailMerge.Archive.Packing

/-!
# Reading archives

Entries are found by the headers of the directory. Of several entries of one name the last one
counts, at the place of the first. An entry is read as a whole, or piece by piece up to the first
fault in it, for readers that stop before the fault.
-/

namespace MailMerge.Archive

open LittleEndian (read?)

/-- Adds a header; one of a name that is there takes its place. -/
def addHeader (h : Header) : List Header → List Header
  | [] => [h]
  | g :: rest => if g.name = h.name then h :: rest else g :: addHeader h rest

/-- The data of an entry as it is kept. -/
structure Packed where
  packing : Packing
  data : Bytes
  size : Nat
  checksum : Nat
  deriving Repr

/-- What an entry gives up to its first fault, and whether there is none. -/
structure Unpacked where
  content : Bytes
  sound : Bool
  deriving DecidableEq, Repr

namespace Packed

/-- The content, whose checksum must be the given one. -/
def unpack? (p : Packed) : Option Bytes :=
  (p.packing.unpack? p.size p.data).filter fun content => (crc32 content).toNat = p.checksum

/-- What arrives at a reader that asks for `piece` bytes at a time. A wrong checksum shows at the
end only, and so does the early end of deflated data. -/
def arriving (p : Packed) (piece : Nat) : Unpacked :=
  if p.packing = .deflated then
    let i := inflate .plain p.data
    match i.ending with
    | .whole => ⟨i.content, (crc32 i.content).toNat = p.checksum⟩
    | .cutOff => ⟨i.content, false⟩
    | .corrupt => ⟨i.arrived piece p.data, false⟩
  else
    match p.packing.unpack? p.size p.data with
    | none => ⟨[], false⟩
    | some content => ⟨content, (crc32 content).toNat = p.checksum⟩

end Packed

namespace Opened

/-- The headers with one for each name. -/
def members (a : Opened) : List Header :=
  a.headers.foldl (fun hs h => addHeader h hs) []

def names (a : Opened) : List String :=
  a.members.map Header.name

/-- The bytes behind the entry's own header, none if it is not where it should be. -/
def behindHeader? (a : Opened) (h : Header) : Option Bytes := do
  let bytes ← signed? entrySignature (a.bytes.drop (a.start + h.offset))
  let bytes ← if bytes.length < 26 then none else some (bytes.drop 22)
  let (nameLength, bytes) ← read? 2 bytes
  let (extraLength, bytes) ← read? 2 bytes
  return bytes.drop (nameLength + extraLength)

/-- The data of an entry, none if it is encrypted or kept in an unknown way. -/
def packed? (a : Opened) (h : Header) : Option Packed :=
  if h.flags % 2 = 1 || h.sealed then none
  else
    match a.behindHeader? h, Packing.ofCode? h.method with
    | some bytes, some packing => some ⟨packing, bytes.take h.packedSize, h.size, h.checksum⟩
    | _, _ => none

end Opened

/-- Why an entry of an archive cannot be read. -/
inductive EntryFault where
  /-- There is no entry of the name, or it is kept in a way that is not known. -/
  | absent
  | corrupt
  deriving DecidableEq, Repr

/-- The content of the entry of a name. -/
def Opened.content (a : Opened) (name : String) : Except EntryFault Bytes :=
  match (a.members.find? fun h => h.name == name).bind a.packed? with
  | none => .error .absent
  | some p =>
    match p.unpack? with
    | some content => .ok content
    | none => .error .corrupt

/-- An entry as it is read. -/
structure Member where
  name : String
  packing : Packing
  content : Bytes
  deriving DecidableEq, Repr

/-- The entry that a header describes, if its data can be read. -/
def Opened.member? (a : Opened) (h : Header) : Option Member :=
  (a.packed? h).bind fun p => p.unpack?.map fun content => ⟨h.name, p.packing, content⟩

/-- All entries of an archive, none if there is no archive or one of them cannot be read. -/
def entries? (bytes : Bytes) : Option (List Member) :=
  match open? true bytes with
  | none => none
  | some a => a.members.mapM a.member?

end MailMerge.Archive
