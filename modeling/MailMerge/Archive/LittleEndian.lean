import MailMerge.Text.Utf8

/-!
# Little-endian numbers

Numbers of a fixed count of bytes, the lowest byte first. Reading undoes writing for every number
that fits (`read_bytes`).
-/

namespace MailMerge.LittleEndian

/-- The lowest `width` bytes of a number. -/
def bytes : Nat → Nat → Bytes
  | 0, _ => []
  | width + 1, n => UInt8.ofNat n :: bytes width (n / 256)

def value : Bytes → Nat
  | [] => 0
  | b :: rest => b.toNat + 256 * value rest

/-- The number in the first `width` bytes, and the bytes after it. -/
def read? : Nat → Bytes → Option (Nat × Bytes)
  | 0, rest => some (0, rest)
  | _ + 1, [] => none
  | width + 1, b :: rest =>
    (read? width rest).map fun (n, more) => (b.toNat + 256 * n, more)

@[simp]
theorem length_bytes (width n : Nat) : (bytes width n).length = width := by
  induction width generalizing n with
  | zero => rfl
  | succ width ih => simp [bytes, ih]

theorem read_bytes {width n : Nat} (h : n < Nat.pow 256 width) (rest : Bytes) :
    read? width (bytes width n ++ rest) = some (n, rest) := by
  induction width generalizing n with
  | zero =>
    have : n = 0 := by simpa using h
    simp [bytes, read?, this]
  | succ width ih =>
    have hd : n / 256 < Nat.pow 256 width := by
      rw [Nat.div_lt_iff_lt_mul (by decide)]
      simpa [Nat.pow_succ] using h
    simp only [bytes, List.cons_append, read?, ih hd, Option.map_some, UInt8.toNat_ofNat']
    congr 2
    omega

end MailMerge.LittleEndian
