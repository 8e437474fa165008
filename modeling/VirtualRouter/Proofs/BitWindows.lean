import VirtualRouter.Proofs.AdvertReads
import VirtualRouter.Proofs.ChecksumSum
import Mathlib.Data.Nat.ModEq
import Mathlib.Tactic.Ring

/-!
# Windows of bits

The bits of a text in the order in which they are sent, and the numbers that consecutive ones of
them stand for. A window that is made of whole words stands for the sum of the words, modulo
65535, since 65536 is one there.
-/

set_option autoImplicit false

namespace VirtualRouter

namespace Octets

def bitAt (d : Octets) (k : Nat) : Bool := (d.byteAt (k / 8)).toNat.testBit (7 - k % 8)

/-- The number whose binary digits are the `w` bits from position `p` on. -/
def window (d : Octets) (p : Nat) : Nat → Nat
  | 0 => 0
  | w + 1 => 2 * d.window p w + (d.bitAt (p + w)).toNat

variable {d d' : Octets} {p q w : Nat}

theorem window_lt (d : Octets) (p w : Nat) : d.window p w < 2 ^ w := by
  induction w with
  | zero => exact Nat.one_pos
  | succ w ih =>
    have := Bool.toNat_le (d.bitAt (p + w))
    rw [window, Nat.pow_succ]
    omega

theorem window_add (d : Octets) (p v w : Nat) :
    d.window p (v + w) = d.window p v * 2 ^ w + d.window (p + v) w := by
  induction w with
  | zero => simp [window]
  | succ w ih =>
    rw [← Nat.add_assoc, window, ih, window, Nat.pow_succ, Nat.add_assoc p v w]
    ring

theorem window_eq_iff :
    d.window p w = d'.window q w ↔ ∀ k < w, d.bitAt (p + k) = d'.bitAt (q + k) := by
  induction w with
  | zero => simp [window]
  | succ w ih =>
    rw [Nat.forall_lt_succ_right, ← ih, window, window]
    cases d.bitAt (p + w) <;> cases d'.bitAt (q + w) <;>
      simp only [Bool.toNat_true, Bool.toNat_false, reduceCtorEq, and_false, and_true,
        iff_false] <;> omega

/-- All bits of a window have the value `z`. -/
theorem window_eq_all_iff (z : Bool) :
    d.window p w = z.toNat * (2 ^ w - 1) ↔ ∀ k < w, d.bitAt (p + k) = z := by
  induction w with
  | zero => simp [window]
  | succ w ih =>
    have := window_lt d p w
    rw [Nat.forall_lt_succ_right, ← ih, window, Nat.pow_succ]
    cases z <;> cases d.bitAt (p + w) <;>
      simp only [Bool.toNat_true, Bool.toNat_false, reduceCtorEq, and_false, and_true,
        iff_false] <;> omega

/-- The first bits of an octet are what is left of it without its last ones. -/
theorem window_front (d : Octets) (i : Nat) (inside : w ≤ 8) :
    d.window (8 * i) w = (d.byteAt i).toNat / 2 ^ (8 - w) := by
  induction w with
  | zero => exact (Nat.div_eq_of_lt (d.byteAt i).toNat_lt).symm
  | succ w ih =>
    have bit : (d.bitAt (8 * i + w)).toNat = (d.byteAt i).toNat / 2 ^ (7 - w) % 2 := by
      rw [bitAt, show (8 * i + w) / 8 = i by omega, show (8 * i + w) % 8 = w by omega,
        Nat.toNat_testBit]
    have half : (d.byteAt i).toNat / 2 ^ (8 - w) = (d.byteAt i).toNat / 2 ^ (7 - w) / 2 := by
      rw [Nat.div_div_eq_div_mul, ← pow_succ, show 7 - w + 1 = 8 - w by omega]
    rw [window, ih (by omega), bit, half, Nat.div_add_mod, show 8 - (w + 1) = 7 - w by omega]

theorem window_octet (d : Octets) (i : Nat) : d.window (8 * i) 8 = (d.byteAt i).toNat := by
  rw [window_front d i (Nat.le_refl 8), Nat.sub_self, Nat.pow_zero, Nat.div_one]

theorem bitAt_drop (d : Octets) (i k : Nat) : bitAt (d.drop i) k = d.bitAt (8 * i + k) := by
  rw [bitAt, bitAt, byteAt_drop, show (8 * i + k) / 8 = i + k / 8 by omega,
    show (8 * i + k) % 8 = k % 8 by omega]

theorem bitAt_take {m k : Nat} (inside : k < 8 * m) : bitAt (d.take m) k = d.bitAt k := by
  rw [bitAt, bitAt, byteAt_take (by omega)]

theorem bitAt_beyond {k : Nat} (beyond : 8 * d.length ≤ k) : d.bitAt k = false := by
  have none : d.length ≤ k / 8 := by omega
  rw [bitAt, byteAt, List.getD_eq_getElem?_getD, List.getElem?_eq_none none]
  exact Nat.zero_testBit _

theorem ext_bitAt (length : d'.length = d.length) (same : ∀ k, d'.bitAt k = d.bitAt k) :
    d' = d := by
  apply List.ext_getElem length
  intro i inside' inside
  have value : (d'.byteAt i).toNat = (d.byteAt i).toNat := by
    rw [← window_octet, ← window_octet]
    exact window_eq_iff.mpr fun k _ => same _
  have octets := UInt8.toNat_inj.mp value
  simpa [byteAt, List.getD_eq_getElem?_getD, inside, inside'] using octets

/-- The words of a text of whole words are its digits to the base 65536, which is one modulo
65535. -/
theorem window_modEq_wordSum (even : d.length % 2 = 0) :
    d.window 0 (8 * d.length) ≡ Checksum.wordSum d [MOD 65535] := by
  induction d using Checksum.wordSum.induct with
  | case1 => rfl
  | case2 x => simp at even
  | case3 x y r ih =>
    have shorter : r.length % 2 = 0 := by
      simp only [List.length_cons] at even
      omega
    have first : window (x :: y :: r) 0 (8 + 8) = 256 * x.toNat + y.toNat := by
      have high := window_octet (x :: y :: r) 0
      have low := window_octet (x :: y :: r) 1
      rw [window_add, high, low]
      change x.toNat * 256 + y.toNat = _
      omega
    have behind : window (x :: y :: r) 16 (8 * r.length) = window r 0 (8 * r.length) := by
      apply window_eq_iff.mpr
      intro k _
      rw [← bitAt_drop (x :: y :: r) 2 k, Nat.zero_add]
      rfl
    have unit : 2 ^ (8 * r.length) ≡ 1 [MOD 65535] := by
      have base : 65536 ≡ 1 [MOD 65535] := by decide
      have power := base.pow (r.length / 2)
      rwa [one_pow, show 65536 = 2 ^ 16 from rfl, ← pow_mul,
        show 16 * (r.length / 2) = 8 * r.length by omega] at power
    calc window (x :: y :: r) 0 (8 * (r.length + 2))
      _ = (256 * x.toNat + y.toNat) * 2 ^ (8 * r.length) + window r 0 (8 * r.length) := by
        rw [show 8 * (r.length + 2) = 8 + 8 + 8 * r.length by omega, window_add, first, behind]
      _ ≡ (256 * x.toNat + y.toNat) * 1 + Checksum.wordSum r [MOD 65535] :=
        (unit.mul_left _).add (ih shorter)
      _ = Checksum.wordSum (x :: y :: r) := by rw [Nat.mul_one, Checksum.wordSum]

theorem wordSum_slice {i m : Nat} (inside : i + m ≤ d.length) (even : m % 2 = 0) :
    d.window (8 * i) (8 * m) ≡ Checksum.wordSum ((d.drop i).take m) [MOD 65535] := by
  have length : ((d.drop i).take m).length = m := by
    rw [List.length_take, List.length_drop]
    omega
  have same : window ((d.drop i).take m) 0 (8 * m) = d.window (8 * i) (8 * m) := by
    apply window_eq_iff.mpr
    intro k listed
    rw [Nat.zero_add, bitAt_take listed, bitAt_drop]
  have digits := window_modEq_wordSum (d := (d.drop i).take m) (by rw [length, even])
  rwa [length, same] at digits

end Octets
end VirtualRouter
