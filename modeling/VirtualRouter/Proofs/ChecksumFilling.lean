import VirtualRouter.Proofs.ChecksumWords
import Mathlib.Data.List.GetD
import Mathlib.Data.Nat.ModEq

/-!
# Filling in a checksum

A text is sent with its checksum in a word that was zero when the checksum was taken. It then
verifies, and it does so with no word that differs from the checksum modulo 65535. Zero has two
words, and only one of them will do where the sum of everything else is zero as well.
-/

set_option autoImplicit false

namespace VirtualRouter

namespace Octets

def write (d : Octets) (i : Nat) (w : UInt16) : Octets := d.take i ++ big16 w ++ d.drop (i + 2)

theorem write_zero {d : Octets} {i : Nat} (inside : i + 2 ≤ d.length)
    (high : d.byteAt i = 0) (low : d.byteAt (i + 1) = 0) : d.write i 0 = d := by
  have pair : d.drop i = d.byteAt i :: d.byteAt (i + 1) :: d.drop (i + 2) := by
    simp only [byteAt]
    rw [List.getD_eq_getElem _ _ (by omega), List.getD_eq_getElem _ _ (by omega),
      List.getElem_cons_drop, List.getElem_cons_drop]
  calc d.write i 0 = d.take i ++ (0 :: 0 :: d.drop (i + 2)) := by
        rw [write, List.append_assoc]
        rfl
    _ = d.take i ++ d.drop i := by rw [pair, high, low]
    _ = d := List.take_append_drop i d

end Octets

namespace Checksum

def checksum? (d : Octets) (seed : UInt32) : Option UInt16 := (partialSum? d seed).bind (finish? 3)

theorem checksum?_eq_some (d : Octets) {seed : UInt32} (room : seed ≤ 0xffff0000) :
    checksum? d seed = some (checksum d seed.toNat) := by
  obtain ⟨s, sum, value⟩ := partialSum?_eq_some d room
  rw [checksum?, sum, Option.bind_some, finish?_eq_some, value, checksum]

theorem wordSum_eq_zero_iff (d : Octets) : wordSum d = 0 ↔ ∀ x ∈ d, x = 0 := by
  have octet (x : UInt8) : x.toNat = 0 ↔ x = 0 := by rw [← UInt8.toNat_inj, UInt8.toNat_zero]
  induction d using wordSum.induct with
  | case1 => simp [wordSum]
  | case2 x => simp [wordSum, ← octet]
  | case3 x y r ih =>
    have parts : (∀ z ∈ x :: y :: r, z = 0) ↔ x.toNat = 0 ∧ y.toNat = 0 ∧ wordSum r = 0 := by
      simp only [List.forall_mem_cons, ih, octet]
    rw [parts, wordSum]
    omega

/-- A word makes a sum full exactly when it is the complement of the sum modulo 65535. -/
theorem residue_add_eq_full_iff {s : Nat} (positive : 0 < s) (w : Nat) :
    residue (s + w) = 65535 ↔ w ≡ 65535 - residue s [MOD 65535] := by
  have value : residue s = (s - 1) % 65535 + 1 := if_neg (by omega)
  rw [residue_eq_full_iff (by omega), Nat.ModEq, value]
  omega

theorem residue_word_eq_full_iff (w : UInt16) : residue w.toNat = 65535 ↔ w = 0xffff := by
  have word := w.toNat_lt
  rw [← UInt16.toNat_inj]
  change _ ↔ w.toNat = 65535
  unfold residue
  split <;> omega

/-- Two words agree modulo 65535 when they are equal or the two words for zero. -/
theorem words_modEq_iff (v w : UInt16) :
    v.toNat ≡ w.toNat [MOD 65535] ↔ v = w ∨ (v = 0 ∧ w = 0xffff) ∨ (v = 0xffff ∧ w = 0) := by
  have := v.toNat_lt
  have := w.toNat_lt
  simp only [← UInt16.toNat_inj, Nat.ModEq]
  change _ ↔ v.toNat = w.toNat ∨ (v.toNat = 0 ∧ w.toNat = 65535) ∨
    (v.toNat = 65535 ∧ w.toNat = 0)
  omega

theorem checksum_ne_ones {d : Octets} {seed : Nat} (positive : 0 < seed + wordSum d) :
    checksum d seed ≠ 0xffff := by
  intro ones
  have value := toNat_checksum d seed
  rw [ones] at value
  change 65535 = _ at value
  have nothing := (residue_spec (seed + wordSum d)).2.mp (by omega)
  omega

section
variable {d : Octets} {i : Nat}

/-- A word in the place of two zero octets adds itself to the sum. -/
theorem wordSum_write (even : i % 2 = 0) (inside : i + 2 ≤ d.length) (high : d.byteAt i = 0)
    (low : d.byteAt (i + 1) = 0) (w : UInt16) : wordSum (d.write i w) = wordSum d + w.toNat := by
  have length : (d.take i).length % 2 = 0 := by
    rw [List.length_take, Nat.min_eq_left (by omega), even]
  calc wordSum (d.write i w) = wordSum (d.write i 0) + w.toNat := by
        rw [Octets.write, Octets.write, wordSum_filled w _ length, wordSum_filled 0 _ length]
        rfl
    _ = wordSum d + w.toNat := by rw [Octets.write_zero inside high low]

/-- Where a text has room for its checksum, the checksum put there makes it verify. Of all words
that could be put there, just those verify that equal the checksum modulo 65535, which are one or
both words for zero; but where seed and text are nothing but zero, only the word of ones does. No
sum of these overflows. -/
theorem filled_verifies_iff {seed : UInt32} (even : i % 2 = 0) (inside : i + 2 ≤ d.length)
    (high : d.byteAt i = 0) (low : d.byteAt (i + 1) = 0) (room : seed ≤ 0xffff0000) :
    let sum := checksum d seed.toNat
    let Verifies (w : UInt16) : Prop := checksum (d.write i w) seed.toNat = 0
    checksum? d seed = some sum ∧
    (∀ w, checksum? (d.write i w) seed = some (checksum (d.write i w) seed.toNat)) ∧
    Verifies sum ∧
    ((seed = 0 ∧ ∀ x ∈ d, x = 0) → ∀ w, Verifies w ↔ w = 0xffff) ∧
    (¬(seed = 0 ∧ ∀ x ∈ d, x = 0) →
      (∀ w, Verifies w ↔ w.toNat ≡ sum.toNat [MOD 65535]) ∧
      (sum ≠ 0 → ∀ w, Verifies w ↔ w = sum) ∧
      (sum = 0 → ∀ w, Verifies w ↔ w = 0 ∨ w = 0xffff)) := by
  intro sum Verifies
  have verifies (w : UInt16) :
      Verifies w ↔ residue (seed.toNat + wordSum d + w.toNat) = 65535 := by
    rw [Nat.add_assoc, ← wordSum_write even inside high low]
    exact checksum_eq_zero_iff _ _
  have value : sum.toNat = 65535 - residue (seed.toNat + wordSum d) := toNat_checksum d _
  have blank : (seed = 0 ∧ ∀ x ∈ d, x = 0) ↔ seed.toNat + wordSum d = 0 := by
    rw [← wordSum_eq_zero_iff, ← UInt32.toNat_inj, UInt32.toNat_zero]
    omega
  refine ⟨checksum?_eq_some d room, fun w => checksum?_eq_some _ room, ?_, ?_, ?_⟩
  · rw [verifies, value]
    exact residue_add_complement _
  · intro zero w
    rw [verifies, blank.mp zero, Nat.zero_add]
    exact residue_word_eq_full_iff w
  · intro other
    have positive : 0 < seed.toNat + wordSum d := Nat.pos_of_ne_zero (mt blank.mpr other)
    have same (w : UInt16) : Verifies w ↔ w.toNat ≡ sum.toNat [MOD 65535] := by
      rw [verifies, value]
      exact residue_add_eq_full_iff positive _
    have below : sum ≠ 0xffff := checksum_ne_ones positive
    refine ⟨same, fun positive w => ?_, fun zero w => ?_⟩
    · rw [same, words_modEq_iff]
      simp [positive, below]
    · rw [same, words_modEq_iff, zero]
      simp

end

/-- An odd text behind the largest seed, where both words for zero verify. -/
theorem filled_verifies_with_two_words :
    let d : Octets := [0xfe, 0xff, 0, 0, 0x01]
    2 % 2 = 0 ∧ 2 + 2 ≤ d.length ∧ d.byteAt 2 = 0 ∧ d.byteAt (2 + 1) = 0 ∧
    (0xffff0000 : UInt32) ≤ 0xffff0000 ∧
    ∀ w, checksum (d.write 2 w) (0xffff0000 : UInt32).toNat = 0 ↔ w = 0 ∨ w = 0xffff := by
  intro d
  have room : (0xffff0000 : UInt32) ≤ 0xffff0000 := by decide
  obtain ⟨-, -, -, -, other⟩ :=
    filled_verifies_iff (d := d) (i := 2) (by decide) (by decide) (by decide) (by decide) room
  have zero : checksum d (0xffff0000 : UInt32).toNat = 0 := by
    rw [checksum_eq_zero_iff, residue_eq_full_iff (by decide)]
    decide
  exact ⟨rfl, by decide, rfl, rfl, room, (other (by decide)).2.2 zero⟩

end Checksum
end VirtualRouter
