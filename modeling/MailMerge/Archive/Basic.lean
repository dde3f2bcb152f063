import MailMerge.Archive.Crc32
import MailMerge.Archive.LittleEndian

/-!
# ZIP archives

The records of an archive: each entry has a header of its own before its data, the directory at
the end repeats the headers with the places of the entries, and an end record tells where the
directory is.
-/

namespace MailMerge.Archive

/-- How the data of an entry is kept. -/
inductive Method where
  | stored
  | deflated
  deriving DecidableEq, Repr

def Method.code : Method → Nat
  | stored => 0
  | deflated => 8

structure Entry where
  name : String
  method : Method
  content : Bytes
  deriving DecidableEq, Repr

def entrySignature : Bytes := [0x50, 0x4B, 3, 4]

def directorySignature : Bytes := [0x50, 0x4B, 1, 2]

def endSignature : Bytes := [0x50, 0x4B, 5, 6]

def wideSignature : Bytes := [0x50, 0x4B, 6, 6]

def locatorSignature : Bytes := [0x50, 0x4B, 6, 7]

/-- The flag of a name in UTF-8. -/
def textFlag : Nat := 0x800

end MailMerge.Archive
