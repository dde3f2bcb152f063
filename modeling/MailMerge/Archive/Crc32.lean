import MailMerge.Text.Utf8

/-!
# Checksums

The cyclic redundancy check of 32 bits, taken bit by bit over the reversed polynomial.
-/

namespace MailMerge.Archive

def crcShift (c : UInt32) : UInt32 :=
  if c &&& 1 = 1 then (c >>> 1) ^^^ 0xEDB88320 else c >>> 1

def crcByte (c : UInt32) (b : UInt8) : UInt32 :=
  Nat.repeat crcShift 8 (c ^^^ b.toUInt32)

def crc32 (bytes : Bytes) : UInt32 :=
  bytes.foldl crcByte 0xFFFFFFFF ^^^ 0xFFFFFFFF

end MailMerge.Archive
