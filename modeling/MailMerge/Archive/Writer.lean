import MailMerge.Archive.Basic
import MailMerge.Archive.Deflate

/-!
# Writing archives

Entries are written in order, all dated at the beginning of 1980. Names beyond ASCII are marked as
UTF-8. Numbers that are too large for their fields stand in wide fields: sizes and places in a
field behind the name, the numbers of the end record in a wide record before it.
-/

namespace MailMerge.Archive

open LittleEndian (bytes)

/-- The 1st of January 1980. -/
def entryDate : Nat := 0x21

/-- The greatest value of four bytes, which stands for every number that is not below it. -/
def narrowLimit : Nat := 0xFFFFFFFF

/-- The greatest value of two bytes, which stands for every count that is not below it. -/
def countLimit : Nat := 0xFFFF

/-- The four bytes of a number. -/
def narrow (n : Nat) : Bytes :=
  bytes 4 (min n narrowLimit)

/-- The eight bytes of a number that four bytes do not hold. -/
def wide (n : Nat) : Bytes :=
  if n < narrowLimit then [] else bytes 8 n

namespace Entry

def packed (e : Entry) : Bytes :=
  match e.method with
  | .stored => e.content
  | .deflated => deflate e.content

def flags (e : Entry) : Nat :=
  if e.name.toList.all fun c => c.toNat < 128 then 0 else textFlag

def neededVersion (e : Entry) : Nat :=
  match e.method with
  | .stored => 10
  | .deflated => 20

/-- The fields that an entry's own header and its directory header share. -/
def sharedFields (e : Entry) : Bytes :=
  bytes 2 e.neededVersion ++ bytes 2 e.flags ++ bytes 2 e.method.code ++ bytes 2 0 ++
    bytes 2 entryDate ++ bytes 4 (crc32 e.content).toNat ++ narrow e.packed.length ++
    narrow e.content.length ++ bytes 2 (Utf8.encode e.name).length

/-- The header, the name and the data of an entry. -/
def localPart (e : Entry) : Bytes :=
  entrySignature ++ e.sharedFields ++ bytes 2 0 ++ Utf8.encode e.name ++ e.packed

/-- The numbers of an entry at a place that are too large for the directory's header. -/
def wideNumbers (e : Entry) (offset : Nat) : Bytes :=
  wide e.content.length ++ wide e.packed.length ++ wide offset

/-- The field of the directory's header that holds the large numbers, if there are any. -/
def wideField (e : Entry) (offset : Nat) : Bytes :=
  if (e.wideNumbers offset).isEmpty then []
  else bytes 2 1 ++ bytes 2 (e.wideNumbers offset).length ++ e.wideNumbers offset

/-- The directory's header for an entry at a place. -/
def directoryPart (e : Entry) (offset : Nat) : Bytes :=
  directorySignature ++ bytes 2 20 ++ e.sharedFields ++ bytes 2 (e.wideField offset).length ++
    bytes 2 0 ++ bytes 2 0 ++ bytes 2 0 ++ bytes 4 0 ++ narrow offset ++ Utf8.encode e.name ++
    e.wideField offset

end Entry

def localParts (entries : List Entry) : Bytes :=
  entries.flatMap Entry.localPart

/-- The directory of entries the first of which is at `offset`. -/
def directory (offset : Nat) : List Entry → Bytes
  | [] => []
  | e :: rest => e.directoryPart offset ++ directory (offset + e.localPart.length) rest

/-- The numbers of a directory do not fit into the fields of an end record. -/
def needsWide (count directorySize directoryOffset : Nat) : Bool :=
  countLimit ≤ count || narrowLimit ≤ max directorySize directoryOffset

/-- The record whose fields are wide enough for every directory. -/
def wideRecord (count directorySize directoryOffset : Nat) : Bytes :=
  wideSignature ++ bytes 8 44 ++ bytes 2 45 ++ bytes 2 45 ++ bytes 4 0 ++ bytes 4 0 ++
    bytes 8 count ++ bytes 8 count ++ bytes 8 directorySize ++ bytes 8 directoryOffset

/-- The locator of the wide record at a place. -/
def locator (place : Nat) : Bytes :=
  locatorSignature ++ bytes 4 0 ++ bytes 8 place ++ bytes 4 1

def endRecord (count directorySize directoryOffset : Nat) : Bytes :=
  endSignature ++ bytes 2 0 ++ bytes 2 0 ++ bytes 2 (min count countLimit) ++
    bytes 2 (min count countLimit) ++ narrow directorySize ++ narrow directoryOffset ++ bytes 2 0

/-- What stands behind the directory. -/
def endPart (count directorySize directoryOffset : Nat) : Bytes :=
  if needsWide count directorySize directoryOffset then
    wideRecord count directorySize directoryOffset ++
      (locator (directoryOffset + directorySize) ++ endRecord count directorySize directoryOffset)
  else endRecord count directorySize directoryOffset

/-- The bytes of an archive with these entries. -/
def write (entries : List Entry) : Bytes :=
  let parts := localParts entries
  let listing := directory 0 entries
  parts ++ listing ++ endPart entries.length listing.length parts.length

end MailMerge.Archive
