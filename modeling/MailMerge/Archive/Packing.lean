import MailMerge.Archive.Basic
import MailMerge.Archive.BlockSort
import MailMerge.Archive.Deflate
import MailMerge.Archive.Prediction.Decoder
import MailMerge.Archive.Xz
import MailMerge.Archive.Zstandard.Frame

/-!
# Ways to keep data

The data of an entry is kept as it is or packed in one of several ways, each with a code of its
own. All of them can be unpacked, and two are also written.
-/

namespace MailMerge.Archive

inductive Packing where
  | stored
  | deflated
  | widelyDeflated
  | blockSorted
  | lzma
  | zstandard
  | xz
  | predicted
  deriving DecidableEq, Repr

namespace Packing

/-- The codes of the ways that are known. -/
def codes : List (Nat × Packing) :=
  [(0, stored), (8, deflated), (9, widelyDeflated), (12, blockSorted), (14, lzma), (93, zstandard),
    (95, xz), (98, predicted)]

def ofCode? (code : Nat) : Option Packing :=
  (codes.find? fun p => p.1 = code).map Prod.snd

/-- The ways that every reader of documents knows. -/
def isCommon (p : Packing) : Bool :=
  p = stored || p = deflated

/-- The content of `size` bytes that data stands for, none if the data is corrupt. -/
def unpack? (p : Packing) (size : Nat) (data : Bytes) : Option Bytes :=
  match p with
  | stored => some data
  | deflated =>
    let i := inflate .plain data
    if i.ending = .whole then some i.content else none
  | widelyDeflated =>
    let i := inflate .wide data
    if i.ending = .corrupt then none else some i.content
  | blockSorted => BlockSort.unpack? data
  | lzma => Lzma.unpack? size data
  | zstandard => Zstandard.unpack? data
  | xz => Xz.unpack? data
  | predicted => Prediction.unpack? data

end Packing

/-- A way to write data as a way to keep it. -/
def Method.packing : Method → Packing
  | stored => .stored
  | deflated => .deflated

end MailMerge.Archive
