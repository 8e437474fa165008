import VirtualRouter.Advert.Packet

/-!
# What the checksum computes

The checksum depends only on the plain sum of the words, and on that only up to the residue
modulo 65535 which keeps zero apart. A text verifies when that residue is full, and so does
every text with its own checksum put into a word that was zero.
-/

set_option autoImplicit false

namespace VirtualRouter

namespace Octets

theorem word_big16 (w : UInt16) :
    256 * (UInt8.ofNat (w.toNat / 256)).toNat + (UInt8.ofNat w.toNat).toNat = w.toNat := by
  have := w.toNat_lt
  simp only [UInt8.toNat_ofNat']
  omega

theorem word16_big16 (w : UInt16) :
    word16 (UInt8.ofNat (w.toNat / 256)) (UInt8.ofNat w.toNat) = w := by
  rw [word16, word_big16]
  exact UInt16.ofNat_toNat

end Octets

namespace Checksum

def wordSum : Octets → Nat
  | [] => 0
  | [x] => 256 * x.toNat
  | x :: y :: r => 256 * x.toNat + y.toNat + wordSum r

/-- The number up to 65535 that stands for a sum: zero for zero alone. -/
def residue (s : Nat) : Nat := if s = 0 then 0 else (s - 1) % 65535 + 1

theorem residue_le (s : Nat) : residue s ≤ 65535 := by
  unfold residue
  split <;> omega

theorem residue_residue_add (s t : Nat) : residue (residue s + t) = residue (s + t) := by
  unfold residue
  split <;> split <;> split <;> omega

theorem residue_eq_full_iff {s : Nat} (positive : 0 < s) : residue s = 65535 ↔ 65535 ∣ s := by
  unfold residue
  rw [if_neg (by omega)]
  omega

theorem residue_fold_add (s t : Nat) : residue (fold s + t) = residue (s + t) := by
  unfold residue fold
  by_cases h : s + t = 0
  · simp [show s = 0 by omega, show t = 0 by omega]
  · rw [if_neg h, if_neg (by omega)]
    omega

/-- A residue and its complement make a full residue. -/
theorem residue_add_complement (s : Nat) : residue (s + (65535 - residue s)) = 65535 := by
  by_cases h : s = 0
  · simp [residue, h]
  · have value : residue s = (s - 1) % 65535 + 1 := if_neg h
    rw [value, residue, if_neg (by omega)]
    omega

theorem residue_partialSum (d : Octets) (s : Nat) :
    residue (partialSum d s) = residue (s + wordSum d) := by
  induction d, s using partialSum.induct with
  | case1 s => simp [partialSum, wordSum]
  | case2 x s => simpa [partialSum, wordSum] using residue_fold_add (s + 256 * x.toNat) 0
  | case3 x y r s ih => rw [partialSum, ih, residue_fold_add, wordSum, Nat.add_assoc]

theorem residue_partialSum_add (d : Octets) (s : Nat) :
    residue (partialSum d 0 + s) = residue (wordSum d + s) := by
  rw [← residue_residue_add, residue_partialSum, Nat.zero_add, residue_residue_add]

theorem reduce_eq_residue (s : Nat) : reduce s = residue s := by
  fun_induction reduce s with
  | case1 s _ ih => simpa [ih] using residue_fold_add s 0
  | case2 s h =>
    unfold residue
    split <;> omega

theorem toNat_checksum (d : Octets) (seed : Nat) :
    (checksum d seed).toNat = 65535 - residue (seed + wordSum d) := by
  rw [checksum, finish, reduce_eq_residue, residue_partialSum, UInt16.toNat_ofNat']
  omega

/-- A text verifies exactly when the residue of its sum is full. -/
theorem checksum_eq_zero_iff (d : Octets) (seed : Nat) :
    checksum d seed = 0 ↔ residue (seed + wordSum d) = 65535 := by
  have := residue_le (seed + wordSum d)
  rw [← UInt16.toNat_inj, toNat_checksum, UInt16.toNat_zero]
  omega

theorem wordSum_append {a : Octets} (b : Octets) (even : a.length % 2 = 0) :
    wordSum (a ++ b) = wordSum a + wordSum b := by
  induction a using wordSum.induct with
  | case1 => simp [wordSum]
  | case2 x => simp at even
  | case3 x y r ih =>
    have shorter : r.length % 2 = 0 := by
      simp only [List.length_cons] at even
      omega
    simp only [List.cons_append, wordSum, ih shorter]
    omega

theorem wordSum_big16_append (w : UInt16) (b : Octets) :
    wordSum (Octets.big16 w ++ b) = w.toNat + wordSum b := by
  rw [wordSum_append b (by simp)]
  simp only [Octets.big16, wordSum, Octets.word_big16]
  omega

/-- A word in the middle of a text adds itself to the sum of the rest. -/
theorem wordSum_filled {a : Octets} (w : UInt16) (b : Octets) (even : a.length % 2 = 0) :
    wordSum (a ++ Octets.big16 w ++ b) = wordSum a + wordSum b + w.toNat := by
  rw [List.append_assoc, wordSum_append _ even, wordSum_big16_append]
  omega

/-- Putting the checksum into a word that was zero makes a text verify. -/
theorem checksum_filled {a : Octets} (b : Octets) (seed : Nat) (even : a.length % 2 = 0) :
    let sum := checksum (a ++ Octets.big16 0 ++ b) seed
    checksum (a ++ Octets.big16 sum ++ b) seed = 0 := by
  intro sum
  have value : sum.toNat = 65535 - residue (seed + (wordSum a + wordSum b)) := by
    rw [toNat_checksum, wordSum_filled 0 b even, UInt16.toNat_zero, Nat.add_zero]
  rw [checksum_eq_zero_iff, wordSum_filled sum b even, value, ← Nat.add_assoc]
  exact residue_add_complement _

end Checksum
end VirtualRouter
