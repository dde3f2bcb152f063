import MailMerge.Archive.Deflate
import Mathlib.Tactic.Lemma

/-!
# Stored blocks

Packed data consists of stored blocks only. Reading them gives the bytes back block by block, for
data of any length and both reaches of copies (`inflate_deflate`).
-/

namespace MailMerge.Archive

lemma bits?_blockHeader (final : Bool) (rest : Bytes) :
    (BitStream.ofBytes ((if final then 1 else 0) :: rest)).bits? 1 =
      some (final.toNat, ⟨List.replicate 7 false, rest⟩) := by
  cases final <;> rfl

lemma bits?_blockKind (rest : Bytes) :
    BitStream.bits? 2 ⟨List.replicate 7 false, rest⟩ = some (0, ⟨List.replicate 5 false, rest⟩) :=
  rfl

lemma inflateBlock_stored (reach : Reach) (output : Array UInt8) (s : BitStream) :
    inflateBlock reach 0 output s = inflateStored output s := rfl

lemma inflateStored_chunk (output : Array UInt8) (pending : List Bool) {chunk : Bytes}
    (hchunk : chunk.length ≤ storedLimit) (rest : Bytes) :
    inflateStored output ⟨pending, LittleEndian.bytes 2 chunk.length ++
      LittleEndian.bytes 2 (storedLimit - chunk.length) ++ chunk ++ rest⟩ =
      .more (output ++ chunk) (.ofBytes rest) := by
  have hlimit : storedLimit = 65535 := rfl
  have hlength : chunk.length < Nat.pow 256 2 := by
    rw [show Nat.pow 256 2 = 65536 from rfl]
    omega
  have hcomplement : storedLimit - chunk.length < Nat.pow 256 2 := by
    rw [show Nat.pow 256 2 = 65536 from rfl]
    omega
  have hsum : chunk.length + (storedLimit - chunk.length) = storedLimit := by omega
  simp [inflateStored, BitStream.aligned, LittleEndian.read_bytes hlength,
    LittleEndian.read_bytes hcomplement, hsum]

lemma inflateBlocks_storedBlock (reach : Reach) (fuel : Nat) (output : Array UInt8) (final : Bool)
    {chunk : Bytes} (hchunk : chunk.length ≤ storedLimit) (rest : Bytes) :
    inflateBlocks reach (fuel + 1) output (.ofBytes (storedBlock final chunk ++ rest)) =
      if final then ⟨(output ++ chunk).toList, .whole⟩
      else inflateBlocks reach fuel (output ++ chunk) (.ofBytes rest) := by
  rw [inflateBlocks, storedBlock, List.cons_append, bits?_blockHeader]
  dsimp only
  rw [bits?_blockKind]
  dsimp only
  rw [inflateBlock_stored, inflateStored_chunk output _ hchunk rest]
  cases final <;> simp

lemma length_le_length_deflate (bytes : Bytes) : bytes.length ≤ (deflate bytes).length := by
  fun_induction deflate bytes with
  | case1 bytes _ =>
    simp only [storedBlock, List.length_append, List.length_cons]
    omega
  | case2 bytes _ ih =>
    simp only [List.length_drop] at ih
    simp only [storedBlock, List.length_append, List.length_cons, List.length_take]
    omega

/-- Every block takes bytes off what is left, so fuel beyond its length is enough. -/
lemma inflateBlocks_deflate (reach : Reach) (bytes : Bytes) {fuel : Nat} (h : bytes.length < fuel)
    (output : Array UInt8) :
    inflateBlocks reach fuel output (.ofBytes (deflate bytes)) =
      ⟨output.toList ++ bytes, .whole⟩ := by
  induction fuel generalizing bytes output with
  | zero => omega
  | succ fuel ih =>
    rw [deflate]
    split
    · next hle =>
      have hb := inflateBlocks_storedBlock reach fuel output true hle []
      rw [List.append_nil] at hb
      simpa using hb
    · next hlt =>
      have hlimit : storedLimit = 65535 := rfl
      have htake : (bytes.take storedLimit).length ≤ storedLimit := List.length_take_le ..
      have hdrop : (bytes.drop storedLimit).length < fuel := by
        rw [List.length_drop]
        omega
      rw [inflateBlocks_storedBlock reach fuel output false htake, if_neg Bool.false_ne_true,
        ih _ hdrop]
      simp

/-- Packed data stands for the bytes that were packed. -/
theorem inflate_deflate (reach : Reach) (bytes : Bytes) :
    inflate reach (deflate bytes) = ⟨bytes, .whole⟩ := by
  have h := length_le_length_deflate bytes
  rw [inflate, inflateBlocks_deflate reach bytes (by omega)]
  simp

end MailMerge.Archive
