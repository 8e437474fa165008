import VirtualRouter.Proofs.IntactAdverts
import VirtualRouter.Proofs.BitWindows

/-!
# Bursts of wrong bits

Wrong bits that lie close together change the number that the covered bits stand for by a small
difference, shifted to where they lie. A power of two has an inverse modulo 65535, so that the
shift hides no difference: a burst of at most sixteen bits keeps the sum of the words only if it
puts sixteen ones for sixteen zeros, or zeros for ones. Where the burst lies among the octets and
the words does not matter.
-/

set_option autoImplicit false

namespace VirtualRouter

namespace Octets

variable {d d' : Octets} {p q w : Nat}

/-- Two texts of one length whose bits differ at most in the `w` bits from position `p` on. -/
structure Burst (d d' : Octets) (p w : Nat) : Prop where
  length : d'.length = d.length
  outside : ∀ k, k < p ∨ p + w ≤ k → d'.bitAt k = d.bitAt k

theorem burst_iff : Burst d d' p w ↔ d'.length = d.length ∧
    ∀ k < 8 * d.length, k < p ∨ p + w ≤ k → d'.bitAt k = d.bitAt k := by
  constructor
  · exact fun burst => ⟨burst.length, fun k _ => burst.outside k⟩
  · rintro ⟨length, outside⟩
    refine ⟨length, fun k apart => ?_⟩
    by_cases inside : k < 8 * d.length
    · exact outside k inside apart
    · rw [bitAt_beyond (by omega), bitAt_beyond (by omega)]

instance (d d' : Octets) (p w : Nat) : Decidable (Burst d d' p w) := decidable_of_iff' _ burst_iff

def Flipped (d d' : Octets) (p : Nat) : Prop :=
  ∃ z, (∀ k < 16, d.bitAt (p + k) = z) ∧ ∀ k < 16, d'.bitAt (p + k) = !z

namespace Burst

variable {i m : Nat}

theorem window_eq (burst : Burst d d' p w) (apart : q + m ≤ p ∨ p + w ≤ q) :
    d'.window q m = d.window q m :=
  window_eq_iff.mpr fun k _ => burst.outside _ (by omega)

theorem byteAt_eq (burst : Burst d d' p w) (apart : 8 * (i + 1) ≤ p ∨ p + w ≤ 8 * i) :
    d'.byteAt i = d.byteAt i := by
  rw [← UInt8.toNat_inj, ← window_octet, ← window_octet]
  exact burst.window_eq (by omega)

theorem slice_eq (burst : Burst d d' p w) (apart : 8 * (i + m) ≤ p ∨ p + w ≤ 8 * i) :
    (d'.drop i).take m = (d.drop i).take m := by
  apply List.ext_getElem?
  intro j
  rw [List.getElem?_take, List.getElem?_take, List.getElem?_drop, List.getElem?_drop]
  by_cases listed : j < m
  · rw [if_pos listed, if_pos listed]
    by_cases inside : i + j < d.length
    · rw [getElem?_eq_byteAt inside, getElem?_eq_byteAt (burst.length ▸ inside),
        burst.byteAt_eq (by omega)]
    · rw [List.getElem?_eq_none (by rw [burst.length]; omega), List.getElem?_eq_none (by omega)]
  · rw [if_neg listed, if_neg listed]

theorem eq_of_window_eq (burst : Burst d d' p w) (same : d'.window p w = d.window p w) :
    d' = d := by
  apply ext_bitAt burst.length
  intro k
  by_cases inside : p ≤ k ∧ k < p + w
  · have agree := window_eq_iff.mp same (k - p) (by omega)
    rwa [show p + (k - p) = k by omega] at agree
  · exact burst.outside k (by omega)

/-- The sum of the words around a burst tells only the windows apart: what lies below shifts them
by a power of two, which has an inverse. -/
theorem wordSum_modEq_iff (burst : Burst d d' p w) (inside : i + m ≤ d.length)
    (even : m % 2 = 0) (low : 8 * i ≤ p) (high : p + w ≤ 8 * (i + m)) :
    Checksum.wordSum ((d'.drop i).take m) ≡ Checksum.wordSum ((d.drop i).take m) [MOD 65535] ↔
      d'.window p w ≡ d.window p w [MOD 65535] := by
  obtain ⟨above, rfl⟩ := Nat.exists_eq_add_of_le low
  obtain ⟨below, total⟩ := Nat.exists_eq_add_of_le high
  have split (t : Octets) : t.window (8 * i) (8 * m) =
      (t.window (8 * i) above * 2 ^ w + t.window (8 * i + above) w) * 2 ^ below +
        t.window (8 * i + above + w) below := by
    rw [show 8 * m = above + w + below by omega, window_add, window_add, ← Nat.add_assoc]
  have first : d'.window (8 * i) above = d.window (8 * i) above :=
    burst.window_eq (.inl (Nat.le_refl _))
  have last : d'.window (8 * i + above + w) below = d.window (8 * i + above + w) below :=
    burst.window_eq (.inr (Nat.le_refl _))
  have inverse : Nat.gcd 65535 (2 ^ below) = 1 := Nat.Coprime.pow_right below (by decide)
  have here := wordSum_slice inside even
  have there := wordSum_slice (burst.length ▸ inside) even
  constructor
  · intro same
    have windows := there.trans (same.trans here.symm)
    rw [split, split, first, last] at windows
    exact (windows.add_right_cancel' _).cancel_right_of_coprime inverse |>.add_left_cancel' _
  · intro same
    have windows := (((same.add_left (d.window (8 * i) above * 2 ^ w)).mul_right
      (2 ^ below)).add_right (d.window (8 * i + above + w) below))
    rw [← split, ← first, ← last, ← split] at windows
    exact there.symm.trans (windows.trans here)

theorem flipped_iff :
    Flipped d d' p ↔ ∃ z : Bool, d.window p 16 = z.toNat * 65535 ∧
      d'.window p 16 = (!z).toNat * 65535 := by
  have all (t : Octets) (z : Bool) :
      (∀ k < 16, t.bitAt (p + k) = z) ↔ t.window p 16 = z.toNat * 65535 :=
    (window_eq_all_iff z).symm
  simp only [Flipped, all]

/-- Of the numbers of sixteen bits only zero and the largest are the same modulo 65535. -/
theorem window_modEq_iff (burst : Burst d d' p w) (short : w ≤ 16) :
    d'.window p w ≡ d.window p w [MOD 65535] ↔ d' = d ∨ w = 16 ∧ Flipped d d' p := by
  have small (t : Octets) : t.window p w < 65536 :=
    Nat.lt_of_lt_of_le (window_lt t p w) (Nat.pow_le_pow_right (by decide) short)
  have ours := small d
  have theirs := small d'
  rw [flipped_iff]
  constructor
  · intro same
    rw [Nat.ModEq] at same
    by_cases equal : d'.window p w = d.window p w
    · exact .inl (burst.eq_of_window_eq equal)
    have ends : d.window p w = 0 ∧ d'.window p w = 65535 ∨
        d.window p w = 65535 ∧ d'.window p w = 0 := by omega
    have full : w = 16 := by
      by_contra other
      have less : 2 ^ w ≤ 2 ^ 15 := Nat.pow_le_pow_right (by decide) (by omega)
      have := window_lt d p w
      have := window_lt d' p w
      omega
    subst full
    rcases ends with ⟨zeros, ones⟩ | ⟨ones, zeros⟩
    · exact .inr ⟨rfl, false, zeros, ones⟩
    · exact .inr ⟨rfl, true, ones, zeros⟩
  · rintro (rfl | ⟨rfl, z, mine, other⟩)
    · rfl
    · rw [mine, other]
      cases z <;> rfl

end Burst

end Octets

namespace Checksum

theorem onesSum_eq_full_iff {d : Octets} :
    onesSum d = 65535 ↔ 0 < wordSum d ∧ wordSum d ≡ 0 [MOD 65535] := by
  rw [onesSum_eq_residue, Nat.modEq_zero_iff_dvd]
  constructor
  · intro full
    have positive : 0 < wordSum d := by
      by_contra zero
      rw [Nat.eq_zero_of_not_pos zero] at full
      cases full
    exact ⟨positive, (residue_eq_full_iff positive).mp full⟩
  · rintro ⟨positive, divides⟩
    exact (residue_eq_full_iff positive).mpr divides

theorem wordSum_pos {d : Octets} (first : d.byteAt 0 ≠ 0) : 0 < wordSum d := by
  match d, first with
  | [], zero => exact absurd rfl zero
  | x :: r, nonzero =>
    have positive : x.toNat ≠ 0 := fun zero => nonzero (UInt8.toNat_inj.mp zero)
    cases r <;> simp only [wordSum] <;> omega

end Checksum

namespace Expectation
open Ipv4Header (lengthIn Whole)
open Octets (Burst Flipped)
open Checksum (wordSum)

/-- The checksum covers the bits: they are in the advertisement, or in version 3 in one of the
addresses of the datagram. -/
def Covers (x : Expectation) (d : Octets) (p w : Nat) : Prop :=
  8 * lengthIn d ≤ p ∧ p + w ≤ 8 * (lengthIn d + x.length) ∨
    x.version = .v3 ∧ 8 * 12 ≤ p ∧ p + w ≤ 8 * 20

def addressPair (d : Octets) : Octets := (d.drop 12).take 8

theorem octets_addressPair {d : Octets} (long : 20 ≤ d.length) :
    (IPv4.fromOctets d 12).octets ++ (IPv4.fromOctets d 16).octets = addressPair d := by
  have room : 4 * 2 ≤ (d.drop 12).length := by
    rw [List.length_drop]
    omega
  have whole : (addressPair d).length % 4 = 0 := by
    rw [addressPair, List.length_take]
    omega
  have read : Packet.addressesOf (addressPair d) =
      [IPv4.fromOctets d 12, IPv4.fromOctets d 16] := by
    rw [addressPair, Packet.addressesOf_take room]
    simp [List.range_succ, IPv4.fromOctets_drop]
  have written := Packet.flatMap_addressesOf whole
  rw [read] at written
  simpa using written

def besides (x : Expectation) (d : Octets) : Nat :=
  match x.version with
  | .v2 => 0
  | .v3 => wordSum (addressPair d) +
      wordSum ([0, Checksum.protocolNumber] ++ Octets.big16 (UInt16.ofNat x.length))

theorem wordSum_covered {x : Expectation} {d : Octets} (long : 20 ≤ d.length) :
    wordSum (x.covered d) = x.besides d + wordSum (x.text d) := by
  unfold covered besides
  cases x.version with
  | v2 => exact (Nat.zero_add _).symm
  | v3 =>
    have even : (addressPair d).length % 2 = 0 := by
      rw [addressPair, List.length_take, List.length_drop]
      omega
    dsimp only
    rw [Checksum.wordSum_append _ (by rw [Checksum.length_pseudoHeader]), Checksum.pseudoHeader,
      List.append_assoc, octets_addressPair long, Checksum.wordSum_append _ even]

theorem length_even (x : Expectation) : x.length % 2 = 0 := by
  unfold length Packet.encodedLength
  cases x.version <;> simp only [Packet.trailerLength] <;> omega

theorem covered_modEq_iff {x : Expectation} {d d' : Octets} {p w : Nat} (burst : Burst d d' p w)
    (covers : x.Covers d p w) (whole : Whole d) (complete : lengthIn d + x.length ≤ d.length) :
    lengthIn d' = lengthIn d ∧
      (wordSum (x.covered d') ≡ wordSum (x.covered d) [MOD 65535] ↔
        d'.window p w ≡ d.window p w [MOD 65535]) := by
  obtain ⟨long, header, -⟩ := whole
  have start : lengthIn d' = lengthIn d := by
    rw [lengthIn, lengthIn, burst.byteAt_eq]
    rcases covers with ⟨low, -⟩ | ⟨-, low, -⟩ <;> omega
  refine ⟨start, ?_⟩
  rw [wordSum_covered long, wordSum_covered (burst.length ▸ long)]
  rcases covers with ⟨low, high⟩ | ⟨version, low, high⟩
  · -- The burst is in the advertisement, behind both addresses.
    have same : x.besides d' = x.besides d := by
      have addresses : addressPair d' = addressPair d := burst.slice_eq (.inl (by omega))
      rw [besides, besides, addresses]
    rw [same, text, text, start,
      ← burst.wordSum_modEq_iff complete x.length_even low high]
    exact ⟨fun h => h.add_left_cancel' _, fun h => h.add_left _⟩
  · -- The burst is in the addresses, and the advertisement begins behind them.
    have same : x.text d' = x.text d := by
      rw [text, text, start]
      exact burst.slice_eq (.inr (by omega))
    rw [same, besides, besides, version,
      ← burst.wordSum_modEq_iff (i := 12) (m := 8) (by omega) rfl low high]
    exact ⟨fun h => (h.add_right_cancel' _).add_right_cancel' _,
      fun h => (h.add_right _).add_right _⟩

theorem wordSum_covered_pos {x : Expectation} {d : Octets} (whole : Whole d)
    (version : d.byteAt (lengthIn d) / 16 = x.version.number) : 0 < wordSum (x.covered d) := by
  have first : (x.text d).byteAt 0 = d.byteAt (lengthIn d) := byteAt_text (by
    unfold length Packet.encodedLength
    omega)
  have typed : (x.text d).byteAt 0 ≠ 0 := by
    rw [first]
    intro zero
    rw [zero] at version
    revert version
    cases x.version <;> decide
  rw [wordSum_covered whole.1]
  exact Nat.add_pos_right _ (Checksum.wordSum_pos typed)

/-- A burst of at most sixteen bits in what the checksum covers makes an accepted datagram one that
is not, unless it turns sixteen zeros into ones or the other way round. Such a one the checksum
never tells. -/
theorem bursts_caught {x : Expectation} {d d' : Octets} {a : Advert} {p w : Nat}
    (accepted : x.accept d = .ok a) (burst : Burst d d' p w) (covers : x.Covers d p w)
    (short : w ≤ 16) (different : d' ≠ d) :
    (¬(w = 16 ∧ Flipped d d' p) → ∃ r, x.accept d' = .error r) ∧
      (w = 16 ∧ Flipped d d' p → x.accept d' ≠ .error .checksum) := by
  have grammar := (((accepts_exactly_grammar x d).1 a).mp accepted).1
  have complete : lengthIn d + x.length ≤ d.length :=
    Nat.le_trans grammar.complete (Nat.min_le_right _ _)
  have sums := (covered_modEq_iff burst covers grammar.header complete).2
  rw [burst.window_modEq_iff short] at sums
  have verified := (Checksum.onesSum_eq_full_iff.mp grammar.verified).2
  constructor
  · intro visible
    cases verdict : x.accept d' with
    | error r => exact ⟨r, rfl⟩
    | ok a' =>
      have grammar' := (((accepts_exactly_grammar x d').1 a').mp verdict).1
      have verified' := (Checksum.onesSum_eq_full_iff.mp grammar'.verified).2
      rcases sums.mp (verified'.trans verified.symm) with same | hidden
      · exact absurd same different
      · exact absurd hidden visible
  · intro hidden corrupt
    obtain ⟨whole, -, version, complete', fails⟩ := (accept_eq_checksum_iff x d').mp corrupt
    have verified' := (sums.mpr (.inr hidden)).trans verified
    refine fails ((checksumOf_text_iff complete').mpr ?_)
    exact Checksum.onesSum_eq_full_iff.mpr ⟨wordSum_covered_pos whole version, verified'⟩

def arriving : Octets := datagram (Node.sample.payload 100) ⟨10, 0, 0, 2⟩ requiredTtl

def garbled : Octets := arriving.take 21 ++ [0x0e, 0x9b, 0xf1] ++ arriving.drop 24

theorem garbled_rejected : ∃ a r,
    Expectation.accept Node.sample.expectation arriving = .ok a ∧ Burst arriving garbled 172 16 ∧
      Expectation.Covers Node.sample.expectation arriving 172 16 ∧ garbled ≠ arriving ∧
      Expectation.accept Node.sample.expectation garbled = .error r := by
  have accepted : Node.sample.expectation.accept arriving =
      .ok ⟨100, ⟨10, 0, 0, 2⟩, some 1000000⟩ := by decide +kernel
  have burst : Burst arriving garbled 172 16 := by decide +kernel
  have covers : Node.sample.expectation.Covers arriving 172 16 := .inl (by decide +kernel)
  have different : garbled ≠ arriving := by decide +kernel
  have visible : ¬(16 = 16 ∧ Flipped arriving garbled 172) := by
    rintro ⟨-, z, ours, -⟩
    have constant := (ours 0 (by decide)).trans (ours 3 (by decide)).symm
    exact absurd constant (by decide +kernel)
  obtain ⟨r, rejected⟩ := (bursts_caught accepted burst covers (by decide) different).1 visible
  exact ⟨_, r, accepted, burst, covers, different, rejected⟩

def balanced (checksum : Octets) : Octets :=
  datagram ([0x21, 1, 100, 1, 0, 1] ++ checksum ++ [10, 0, 112, 252] ++ List.replicate 8 0)
    ⟨10, 0, 0, 3⟩ requiredTtl

/-- The two words that stand for zero are sixteen bits that nothing tells apart. -/
example : Expectation.accept ⟨.v2, 1, [⟨10, 0, 112, 252⟩], 1⟩ (balanced [0, 0]) =
    Expectation.accept ⟨.v2, 1, [⟨10, 0, 112, 252⟩], 1⟩ (balanced [0xff, 0xff]) := by
  decide +kernel

example : Expectation.accept ⟨.v2, 1, [⟨10, 0, 112, 252⟩], 1⟩ (balanced [0, 0]) =
    .ok ⟨100, ⟨10, 0, 0, 3⟩, none⟩ := by
  decide +kernel

end Expectation
end VirtualRouter
