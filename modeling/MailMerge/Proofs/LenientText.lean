import MailMerge.Text.Utf8
import Mathlib.Tactic.Lemma

/-!
# Lenient reading of texts

Lenient reading replaces faulty sequences only, so it gives back every text from its bytes
(`decodeLossy_encode`). The four lengths of a character are four cases of its first byte.
-/

namespace MailMerge.Utf8

lemma encode_eq_flatMap (s : String) : encode s = s.toList.flatMap String.utf8EncodeChar := by
  have h : s.toUTF8 = (s.toList.flatMap String.utf8EncodeChar).toByteArray := by
    rw [String.toUTF8_eq_toByteArray, ← String.utf8Encode_toList, List.utf8Encode]
  rw [encode, h]
  simp

lemma announced_eq_one {b : UInt8} (h : b.toNat < 0x80) : announced b = 1 := by
  have hb : b < 0x80 := UInt8.lt_iff_toNat_lt.mpr h
  rw [announced, if_pos hb]

lemma announced_eq_two {b : UInt8} (h : 0xC2 ≤ b.toNat) (h' : b.toNat ≤ 0xDF) :
    announced b = 2 := by
  simp only [announced, UInt8.lt_iff_toNat_lt, UInt8.le_iff_toNat_le, UInt8.reduceToNat,
    Bool.and_eq_true, decide_eq_true_eq]
  rw [if_neg (by omega), if_pos ⟨h, h'⟩]

lemma announced_eq_three {b : UInt8} (h : 0xE0 ≤ b.toNat) (h' : b.toNat ≤ 0xEF) :
    announced b = 3 := by
  simp only [announced, UInt8.lt_iff_toNat_lt, UInt8.le_iff_toNat_le, UInt8.reduceToNat,
    Bool.and_eq_true, decide_eq_true_eq]
  rw [if_neg (by omega), if_neg (by omega), if_pos ⟨h, h'⟩]

lemma announced_eq_four {b : UInt8} (h : 0xF0 ≤ b.toNat) (h' : b.toNat ≤ 0xF4) :
    announced b = 4 := by
  simp only [announced, UInt8.lt_iff_toNat_lt, UInt8.le_iff_toNat_le, UInt8.reduceToNat,
    Bool.and_eq_true, decide_eq_true_eq]
  rw [if_neg (by omega), if_neg (by omega), if_neg (by omega), if_pos ⟨h, h'⟩]

lemma isTail_of_toNat {b : UInt8} (h : 0x80 ≤ b.toNat) (h' : b.toNat ≤ 0xBF) :
    isTail b = true := by
  simp [isTail, UInt8.le_iff_toNat_le, h, h']

/-- A second byte is a tail byte, with a narrower range behind four of the first bytes. -/
lemma isSecond_of_toNat {first second : UInt8} (h : 0x80 ≤ second.toNat) (h' : second.toNat ≤ 0xBF)
    (hE0 : first.toNat = 0xE0 → 0xA0 ≤ second.toNat)
    (hED : first.toNat = 0xED → second.toNat ≤ 0x9F)
    (hF0 : first.toNat = 0xF0 → 0x90 ≤ second.toNat)
    (hF4 : first.toNat = 0xF4 → second.toNat ≤ 0x8F) : isSecond first second = true := by
  simp only [isSecond, isTail, beq_iff_eq, ← UInt8.toNat_inj, UInt8.le_iff_toNat_le,
    UInt8.reduceToNat]
  split
  · simp_all
  · split
    · simp_all
    · split
      · simp_all
      · split <;> simp_all

lemma tails_done (size : Nat) (rest : Bytes) : tails size size rest = .whole size := by
  cases rest <;> simp [tails]

lemma tails_cons {size seen : Nat} {b : UInt8} (h : seen < size) (hb : isTail b = true)
    (rest : Bytes) : tails size seen (b :: rest) = tails size (seen + 1) rest := by
  simp [tails, h, hb]

lemma toNat_bounds (c : Char) : c.toNat < 0xD800 ∨ 0xDFFF < c.toNat ∧ c.toNat < 0x110000 :=
  c.valid

lemma toNat_ofNat_of_lt {n : Nat} (h : n < 256) : (UInt8.ofNat n).toNat = n := by
  rw [UInt8.toNat_ofNat']
  omega

lemma front_of_announced {b second : UInt8} {size : Nat} (h : announced b = size) (hsize : 2 ≤ size)
    (hs : isSecond b second = true) (rest : Bytes) :
    front b (second :: rest) = tails size 2 rest := by
  obtain ⟨n, rfl⟩ := Nat.exists_eq_add_of_le' hsize
  simp [front, h, hs]

/-- The bytes of a character are found again in front of any other bytes. -/
lemma front_utf8EncodeChar (c : Char) (rest : Bytes) :
    ∃ b tail, String.utf8EncodeChar c = b :: tail ∧
      front b (tail ++ rest) = .whole (tail.length + 1) ∧ codePoint (b :: tail) = c.toNat := by
  have hc := toNat_bounds c
  have hv : c.val.toNat = c.toNat := rfl
  -- A case for each number of bytes, in which the bounds of the character are those of its bytes.
  unfold String.utf8EncodeChar
  simp only [hv]
  split
  · next h1 =>
    have hb := toNat_ofNat_of_lt (n := c.toNat) (by omega)
    refine ⟨_, _, rfl, ?_, hb⟩
    rw [front, announced_eq_one (by omega)]
    rfl
  · split
    · next h1 h2 =>
      have hb := toNat_ofNat_of_lt (n := c.toNat / 64 % 32 + 192) (by omega)
      have hs := toNat_ofNat_of_lt (n := c.toNat % 64 + 128) (by omega)
      refine ⟨_, _, rfl, ?_, ?_⟩
      · rw [List.cons_append, front_of_announced (announced_eq_two (by omega) (by omega)) (by omega)
          (isSecond_of_toNat (by omega) (by omega) (by omega) (by omega) (by omega) (by omega))]
        exact tails_done 2 _
      · simp only [codePoint, hb, hs]
        omega
    · split
      · next h1 h2 h3 =>
        have hb := toNat_ofNat_of_lt (n := c.toNat / 4096 % 16 + 224) (by omega)
        have hs := toNat_ofNat_of_lt (n := c.toNat / 64 % 64 + 128) (by omega)
        have ht := toNat_ofNat_of_lt (n := c.toNat % 64 + 128) (by omega)
        refine ⟨_, _, rfl, ?_, ?_⟩
        · rw [List.cons_append, front_of_announced (announced_eq_three (by omega) (by omega))
            (by omega)
            (isSecond_of_toNat (by omega) (by omega) (by omega) (by omega) (by omega) (by omega)),
            List.cons_append, tails_cons (by omega) (isTail_of_toNat (by omega) (by omega))]
          exact tails_done 3 _
        · simp only [codePoint, hb, hs, ht]
          omega
      · next h1 h2 h3 =>
        have hb := toNat_ofNat_of_lt (n := c.toNat / 262144 % 8 + 240) (by omega)
        have hs := toNat_ofNat_of_lt (n := c.toNat / 4096 % 64 + 128) (by omega)
        have ht := toNat_ofNat_of_lt (n := c.toNat / 64 % 64 + 128) (by omega)
        have hu := toNat_ofNat_of_lt (n := c.toNat % 64 + 128) (by omega)
        refine ⟨_, _, rfl, ?_, ?_⟩
        · rw [List.cons_append, front_of_announced (announced_eq_four (by omega) (by omega))
            (by omega)
            (isSecond_of_toNat (by omega) (by omega) (by omega) (by omega) (by omega) (by omega)),
            List.cons_append, tails_cons (by omega) (isTail_of_toNat (by omega) (by omega)),
            List.cons_append, tails_cons (by omega) (isTail_of_toNat (by omega) (by omega))]
          exact tails_done 4 _
        · simp only [codePoint, hb, hs, ht, hu]
          omega

lemma replaceFaults_utf8EncodeChar (fuel : Nat) (c : Char) (rest : Bytes) :
    replaceFaults (fuel + 1) (String.utf8EncodeChar c ++ rest) = c :: replaceFaults fuel rest := by
  obtain ⟨b, tail, he, hf, hp⟩ := front_utf8EncodeChar c rest
  rw [he, List.cons_append, replaceFaults, hf]
  have htake : (b :: (tail ++ rest)).take (tail.length + 1) = b :: tail := by simp
  have hdrop : (b :: (tail ++ rest)).drop (tail.length + 1) = rest := by simp
  simp only [htake, hdrop, hp, Char.ofNat_toNat]

/-- Every character takes bytes off what is left, so as much fuel as there are bytes is enough. -/
lemma replaceFaults_flatMap (cs : List Char) {fuel : Nat} (h : cs.length ≤ fuel) :
    replaceFaults fuel (cs.flatMap String.utf8EncodeChar) = cs := by
  induction cs generalizing fuel with
  | nil => cases fuel <;> simp [replaceFaults]
  | cons c cs ih =>
    cases fuel with
    | zero => simp at h
    | succ fuel =>
      rw [List.flatMap_cons, replaceFaults_utf8EncodeChar, ih (by simpa using h)]

lemma length_le_length_encode (s : String) : s.toList.length ≤ (encode s).length := by
  rw [encode_eq_flatMap]
  induction s.toList with
  | nil => simp
  | cons c cs ih =>
    have hc := c.utf8Size_pos
    simp only [List.flatMap_cons, List.length_cons, List.length_append,
      String.length_utf8EncodeChar]
    omega

/-- Bytes of a text have no faulty sequence, so nothing is replaced in them. -/
theorem decodeLossy_encode (s : String) : decodeLossy (encode s) = s := by
  have h := length_le_length_encode s
  rw [decodeLossy, encode_eq_flatMap] at *
  rw [replaceFaults_flatMap _ h, String.ofList_toList]

end MailMerge.Utf8
