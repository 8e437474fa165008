import VirtualRouter.Proofs.ChecksumSum

/-!
# The checksum in words of thirty-two bits

The checksum once more, over additions that give nothing where a sum does not fit into thirty-two
bits, and with a bound on the rounds of its last folding. A seed that leaves room for one more
word is enough for all of them to give what the checksum gives, which is the complement of the
ones'-complement sum.
-/

set_option autoImplicit false

namespace VirtualRouter
namespace Checksum

def add? (a b : UInt32) : Option UInt32 :=
  if a.toNat + b.toNat < 4294967296 then some (a + b) else none

def fold? (s : UInt32) : Option UInt32 := add? (s &&& 0xffff) (s >>> 16)

def absorb? (s word : UInt32) : Option UInt32 := (add? s word).bind fold?

def partialSum? : Octets → UInt32 → Option UInt32
  | [], s => some s
  | [x], s => absorb? s (x.toUInt32 <<< 8)
  | x :: y :: r, s => do
    let s ← absorb? s (Octets.word16 x y).toUInt32
    partialSum? r s

def finish? : Nat → UInt32 → Option UInt16
  | 0, _ => none
  | looks + 1, s =>
    if s >>> 16 = 0 then some (~~~s.toUInt16) else (fold? s).bind (finish? looks)

theorem add?_eq_some {a b : UInt32} (fits : a.toNat + b.toNat < 4294967296) :
    ∃ s, add? a b = some s ∧ s.toNat = a.toNat + b.toNat := by
  refine ⟨a + b, if_pos fits, ?_⟩
  rw [UInt32.toNat_add, Nat.mod_eq_of_lt fits]

theorem toNat_low (s : UInt32) : (s &&& 0xffff).toNat = s.toNat % 65536 := by
  rw [UInt32.toNat_and]
  exact Nat.and_two_pow_sub_one_eq_mod s.toNat 16

theorem toNat_high (s : UInt32) : (s >>> 16).toNat = s.toNat / 65536 := by
  rw [UInt32.toNat_shiftRight]
  exact Nat.shiftRight_eq_div_pow s.toNat 16

theorem high_eq_zero_iff (s : UInt32) : s >>> 16 = 0 ↔ s.toNat < 65536 := by
  rw [← UInt32.toNat_inj, toNat_high, UInt32.toNat_zero]
  omega

theorem fold_le {s : Nat} (word : s < 4294967296) : fold s ≤ 131070 := by
  unfold fold
  omega

theorem fold?_eq_some (s : UInt32) : ∃ t, fold? s = some t ∧ t.toNat = fold s.toNat := by
  have := s.toNat_lt
  have fits : (s &&& 0xffff).toNat + (s >>> 16).toNat < 4294967296 := by
    rw [toNat_low, toNat_high]
    omega
  obtain ⟨t, sum, value⟩ := add?_eq_some fits
  exact ⟨t, sum, by rw [value, toNat_low, toNat_high, fold]⟩

/-- What is left after a word leaves room for any further one. -/
theorem absorb?_eq_some {s word : UInt32} (room : s.toNat ≤ 0xffff0000)
    (small : word.toNat < 65536) :
    ∃ t, absorb? s word = some t ∧ t.toNat = fold (s.toNat + word.toNat) ∧
      t.toNat ≤ 0xffff0000 := by
  obtain ⟨sum, added, value⟩ := add?_eq_some (a := s) (b := word) (by omega)
  obtain ⟨t, folded, left⟩ := fold?_eq_some sum
  have low := fold_le sum.toNat_lt
  refine ⟨t, ?_, by rw [left, value], by omega⟩
  rw [absorb?, added, Option.bind_some, folded]

theorem toNat_word (x y : UInt8) :
    (Octets.word16 x y).toUInt32.toNat = 256 * x.toNat + y.toNat := by
  have := x.toNat_lt
  have := y.toNat_lt
  rw [UInt16.toNat_toUInt32, Octets.word16, UInt16.toNat_ofNat']
  omega

theorem toNat_oddWord (x : UInt8) : (x.toUInt32 <<< 8).toNat = 256 * x.toNat := by
  have := x.toNat_lt
  rw [UInt32.toNat_shiftLeft, UInt8.toNat_toUInt32]
  change x.toNat <<< 8 % 4294967296 = 256 * x.toNat
  rw [Nat.shiftLeft_eq]
  omega

/-- No addition of a partial sum exceeds thirty-two bits. -/
theorem partialSum?_eq_some (d : Octets) {seed : UInt32} (room : seed.toNat ≤ 0xffff0000) :
    ∃ s, partialSum? d seed = some s ∧ s.toNat = partialSum d seed.toNat := by
  induction d, seed using partialSum?.induct with
  | case1 seed => exact ⟨seed, rfl, rfl⟩
  | case2 x seed =>
    have small : (x.toUInt32 <<< 8).toNat < 65536 := by
      have := x.toNat_lt
      rw [toNat_oddWord]
      omega
    obtain ⟨s, sum, value, -⟩ := absorb?_eq_some room small
    exact ⟨s, sum, by rw [value, toNat_oddWord, partialSum]⟩
  | case3 x y r seed ih =>
    have small : (Octets.word16 x y).toUInt32.toNat < 65536 := by
      rw [UInt16.toNat_toUInt32]
      exact UInt16.toNat_lt _
    obtain ⟨s, sum, value, left⟩ := absorb?_eq_some room small
    obtain ⟨t, rest, total⟩ := ih s left
    refine ⟨t, ?_, ?_⟩
    · rw [partialSum?, sum]
      exact rest
    · rw [total, value, toNat_word, partialSum]

theorem reduce_of_le {s : Nat} (small : s < 65536) : reduce s = s := by
  rw [reduce, if_neg (Nat.not_le.mpr small)]

theorem reduce_fold (s : Nat) : reduce (fold s) = reduce s := by
  by_cases large : 65536 ≤ s
  · rw [reduce.eq_def s, if_pos large]
  · have same : fold s = s := by
      unfold fold
      omega
    rw [same]

theorem complement_eq {s : UInt32} (small : s.toNat < 65536) :
    ~~~s.toUInt16 = finish s.toNat := by
  rw [← UInt16.toNat_inj, finish, reduce_of_le small, UInt16.toNat_not, UInt32.toNat_toUInt16,
    UInt16.toNat_ofNat']
  change 65536 - 1 - s.toNat % 65536 = _
  omega

theorem finish_fold (s : Nat) : finish (fold s) = finish s := by
  rw [finish, finish, reduce_fold]

theorem finish?_of_small {s : UInt32} (looks : Nat) (small : s.toNat < 65536) :
    finish? (looks + 1) s = some (finish s.toNat) := by
  rw [finish?, if_pos ((high_eq_zero_iff s).mpr small), complement_eq small]

theorem finish?_of_large {s : UInt32} (looks : Nat) (large : 65536 ≤ s.toNat) :
    ∃ t, t.toNat = fold s.toNat ∧ finish? (looks + 1) s = finish? looks t := by
  obtain ⟨t, folded, value⟩ := fold?_eq_some s
  refine ⟨t, value, ?_⟩
  rw [finish?, if_neg (mt (high_eq_zero_iff s).mp (Nat.not_lt.mpr large)), folded,
    Option.bind_some]

/-- Two rounds of folding are enough for every word. -/
theorem finish?_eq_some (s : UInt32) : finish? 3 s = some (finish s.toNat) := by
  by_cases small : s.toNat < 65536
  · exact finish?_of_small 2 small
  obtain ⟨t, once, first⟩ := finish?_of_large 2 (Nat.not_lt.mp small)
  by_cases done : t.toNat < 65536
  · rw [first, finish?_of_small 1 done, once, finish_fold]
  obtain ⟨u, twice, second⟩ := finish?_of_large 1 (Nat.not_lt.mp done)
  have last : u.toNat < 65536 := by
    have low := fold_le s.toNat_lt
    rw [← once] at low
    rw [twice, fold]
    omega
  rw [first, second, finish?_of_small 0 last, twice, finish_fold, once, finish_fold]

theorem partialSum_append {a : Octets} (b : Octets) (s : Nat) (even : a.length % 2 = 0) :
    partialSum (a ++ b) s = partialSum b (partialSum a s) := by
  induction a, s using partialSum.induct with
  | case1 s => rfl
  | case2 x s => simp at even
  | case3 x y r s ih =>
    have shorter : r.length % 2 = 0 := by
      simp only [List.length_cons] at even
      omega
    exact ih shorter

/-- In words, the sum of the second part is not even begun where that of the first overflows. -/
theorem partialSum?_append {a : Octets} (b : Octets) (s : UInt32) (even : a.length % 2 = 0) :
    partialSum? (a ++ b) s = (partialSum? a s).bind (partialSum? b) := by
  induction a, s using partialSum?.induct with
  | case1 s => rfl
  | case2 x s => simp at even
  | case3 x y r s ih =>
    have shorter : r.length % 2 = 0 := by
      simp only [List.length_cons] at even
      omega
    rw [List.cons_append, List.cons_append, partialSum?, partialSum?]
    cases absorb? s (Octets.word16 x y).toUInt32 with
    | none => rfl
    | some t => exact ih t shorter

theorem residue_spec (s : Nat) :
    residue s % 65535 = s % 65535 ∧ (residue s = 0 ↔ s = 0) := by
  unfold residue
  split <;> omega

/-- With a seed that leaves room for one more word no addition exceeds thirty-two bits, folding
ends after at most two rounds, and the checksum is the complement of the residue that keeps zero
apart. A text of whole words may be summed before the rest, as a pseudo-header is. -/
theorem checksum_is_complement (d : Octets) {seed : UInt32} (room : seed ≤ 0xffff0000) :
    (∃ s, partialSum? d seed = some s ∧ s.toNat = partialSum d seed.toNat ∧
      finish? 3 s = some (checksum d seed.toNat)) ∧
    (∃ r ≤ 65535, (checksum d seed.toNat).toNat = 65535 - r ∧
      r % 65535 = (seed.toNat + wordSum d) % 65535 ∧ (r = 0 ↔ seed.toNat + wordSum d = 0)) ∧
    (∀ s, finish? 3 s = some (finish s.toNat)) ∧
    (d.length % 2 = 0 → ∀ b,
      (∀ s, partialSum (d ++ b) s = partialSum b (partialSum d s)) ∧
      ∀ s, partialSum? (d ++ b) s = (partialSum? d s).bind (partialSum? b)) ∧
    ∀ src dst, withPseudoHeader d src dst =
      checksum (pseudoHeader src dst (UInt16.ofNat d.length) ++ d) 0 := by
  refine ⟨?_, ?_, finish?_eq_some, fun even b => ⟨?_, ?_⟩, fun src dst => ?_⟩
  · obtain ⟨s, sum, value⟩ := partialSum?_eq_some d room
    exact ⟨s, sum, value, by rw [finish?_eq_some, value, checksum]⟩
  · exact ⟨_, residue_le _, toNat_checksum d _, residue_spec _⟩
  · exact fun s => partialSum_append b s even
  · exact fun s => partialSum?_append b s even
  · have even : (pseudoHeader src dst (UInt16.ofNat d.length)).length % 2 = 0 := by
      simp [pseudoHeader]
    rw [withPseudoHeader, checksum, checksum, partialSum_append d 0 even]

/-- Three octets behind the largest seed. -/
theorem checksum_of_largest_seed : (0xffff0000 : UInt32) ≤ 0xffff0000 ∧
    (∃ s, partialSum? [0xff, 0xff, 0x12] 0xffff0000 = some s ∧ finish? 3 s = some 0xedff) := by
  have room : (0xffff0000 : UInt32) ≤ 0xffff0000 := by decide
  obtain ⟨⟨s, sum, -, ended⟩, ⟨r, small, value, same, zero⟩, -⟩ :=
    checksum_is_complement [0xff, 0xff, 0x12] room
  have total : (0xffff0000 : UInt32).toNat + wordSum [0xff, 0xff, 0x12] = 4294971903 := by
    decide
  rw [total] at same zero
  refine ⟨room, s, sum, ended.trans ?_⟩
  congr 1
  rw [← UInt16.toNat_inj, value]
  change 65535 - r = 60927
  omega

end Checksum
end VirtualRouter
