import MailMerge.Archive.LittleEndian

/-!
# Checksums of frames

The checksum of a frame's content: stripes of four lanes are worked into four sums, what is left
over into the sum of these, and at the end the bits are mixed.
-/

namespace MailMerge.Archive.Zstandard

def prime1 : UInt64 := 0x9E3779B185EBCA87
def prime2 : UInt64 := 0xC2B2AE3D27D4EB4F
def prime3 : UInt64 := 0x165667B19E3779F9
def prime4 : UInt64 := 0x85EBCA77C2B2AE63
def prime5 : UInt64 := 0x27D4EB2F165667C5

def rotate (x n : UInt64) : UInt64 :=
  (x <<< n) ||| (x >>> (64 - n))

/-- Works a lane into a sum. -/
def absorb (sum lane : UInt64) : UInt64 :=
  rotate (sum + lane * prime2) 31 * prime1

structure Lanes where
  a : UInt64
  b : UInt64
  c : UInt64
  d : UInt64

def Lanes.start : Lanes :=
  ⟨prime1 + prime2, prime2, 0, 0 - prime1⟩

/-- The number in the first `width` bytes. -/
def lane (width : Nat) (bytes : Bytes) : UInt64 :=
  UInt64.ofNat (LittleEndian.value (bytes.take width))

def Lanes.add (s : Lanes) (stripe : Bytes) : Lanes :=
  ⟨absorb s.a (lane 8 stripe), absorb s.b (lane 8 (stripe.drop 8)),
    absorb s.c (lane 8 (stripe.drop 16)), absorb s.d (lane 8 (stripe.drop 24))⟩

/-- The four sums as one. -/
def Lanes.merge (s : Lanes) : UInt64 :=
  let all := rotate s.a 1 + rotate s.b 7 + rotate s.c 12 + rotate s.d 18
  [s.a, s.b, s.c, s.d].foldl (fun h x => (h ^^^ absorb 0 x) * prime1 + prime4) all

/-- Works so many stripes in; the bytes behind them are given back. -/
def Lanes.addStripes : Nat → Lanes → Bytes → Lanes × Bytes
  | 0, s, bytes => (s, bytes)
  | n + 1, s, bytes => addStripes n (s.add bytes) (bytes.drop 32)

/-- Works what is left over in, by eight, four and single bytes. -/
def finish (h : UInt64) (bytes : Bytes) : UInt64 :=
  if 8 ≤ bytes.length then
    finish (rotate (h ^^^ absorb 0 (lane 8 bytes)) 27 * prime1 + prime4) (bytes.drop 8)
  else if 4 ≤ bytes.length then
    finish (rotate (h ^^^ (lane 4 bytes * prime1)) 23 * prime2 + prime3) (bytes.drop 4)
  else bytes.foldl (fun h b => rotate (h ^^^ (b.toUInt64 * prime5)) 11 * prime1) h
termination_by bytes.length
decreasing_by all_goals simp only [List.length_drop]; omega

def mix (h : UInt64) : UInt64 :=
  let h := (h ^^^ (h >>> 33)) * prime2
  let h := (h ^^^ (h >>> 29)) * prime3
  h ^^^ (h >>> 32)

def checksum (bytes : Bytes) : UInt64 :=
  let stripes := bytes.length / 32
  let (lanes, rest) := Lanes.addStripes stripes .start bytes
  let h := if stripes = 0 then prime5 else lanes.merge
  mix (finish (h + UInt64.ofNat bytes.length) rest)

end MailMerge.Archive.Zstandard
