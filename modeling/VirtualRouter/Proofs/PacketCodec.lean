import VirtualRouter.Proofs.AdvertReads

/-!
# Writing and reading packets undo each other

What is read from an encoded packet is what was written. What is written for a packet that was
read is the text it was read from, but for one of the two words that stand for zero in a
checksum: that one is never written.
-/

set_option autoImplicit false

namespace VirtualRouter

namespace Octets

theorem byteAt_append_right (a b : Octets) (i : Nat) :
    byteAt (a ++ b) (a.length + i) = byteAt b i := by
  simp only [byteAt, List.getD_eq_getElem?_getD]
  rw [List.getElem?_append_right (Nat.le_add_right _ _), Nat.add_sub_cancel_left]

theorem bigAt_append_big16 (a b : Octets) (w : UInt16) :
    bigAt (a ++ big16 w ++ b) a.length = w := by
  have first := byteAt_append_right a (big16 w ++ b) 0
  have second := byteAt_append_right a (big16 w ++ b) 1
  rw [Nat.add_zero] at first
  rw [List.append_assoc, bigAt, first, second]
  exact word16_big16 w

theorem big16_word16 (x y : UInt8) : big16 (word16 x y) = [x, y] := by
  have := x.toNat_lt
  have := y.toNat_lt
  have value : (word16 x y).toNat = 256 * x.toNat + y.toNat := by
    rw [word16, UInt16.toNat_ofNat', Nat.mod_eq_of_lt (by omega)]
  have high : UInt8.ofNat ((256 * x.toNat + y.toNat) / 256) = x := by
    rw [show (256 * x.toNat + y.toNat) / 256 = x.toNat by omega, UInt8.ofNat_toNat]
  have low : UInt8.ofNat (256 * x.toNat + y.toNat) = y := by
    rw [← UInt8.toNat_inj, UInt8.toNat_ofNat']
    omega
  rw [big16, value, high, low]

end Octets

namespace Checksum

/-- The word that makes a text verify is its complement, or the other word that stands for zero. -/
theorem complement_unique {s c : Nat} (positive : 0 < s) (word : c ≤ 65535)
    (full : residue (s + c) = 65535) :
    if c = 65535 then residue s = 65535 else 65535 - residue s = c := by
  have whole : 65535 ∣ s + c := (residue_eq_full_iff (by omega)).mp full
  have value : residue s = (s - 1) % 65535 + 1 := if_neg (by omega)
  rw [value]
  split <;> omega

end Checksum

namespace Packet
open Checksum (wordSum residue)

def coveredSum (v : Version) (d : Octets) (src dst : IPv4) : Nat :=
  match v with
  | .v2 => wordSum d
  | .v3 => wordSum (Checksum.pseudoHeader src dst (UInt16.ofNat d.length)) + wordSum d

theorem wordSum_le_coveredSum (v : Version) (d : Octets) (src dst : IPv4) :
    wordSum d ≤ coveredSum v d src dst := by
  cases v with
  | v2 => exact Nat.le_refl _
  | v3 => exact Nat.le_add_left _ _

theorem toNat_checksumOf (v : Version) (d : Octets) (src dst : IPv4) :
    (checksumOf v d src dst).toNat = 65535 - residue (coveredSum v d src dst) := by
  rw [checksumOf_eq, Checksum.toNat_checksum]
  cases v with
  | v2 => rw [seed, Nat.zero_add, coveredSum]
  | v3 => rw [seed, Checksum.residue_partialSum_add, coveredSum]

theorem checksumOf_eq_zero_iff (v : Version) (d : Octets) (src dst : IPv4) :
    checksumOf v d src dst = 0 ↔ residue (coveredSum v d src dst) = 65535 := by
  have := Checksum.residue_le (coveredSum v d src dst)
  rw [← UInt16.toNat_inj, toNat_checksumOf, UInt16.toNat_zero]
  omega

theorem wordSum_front_pos (p : Packet) : 0 < wordSum p.front := by
  have typed : 0 < (UInt8.ofNat (16 * p.version.number.toNat + 1)).toNat := by
    cases p.version <;> decide
  simp only [front, List.cons_append, wordSum]
  omega

/-- The checksum field adds its word to a sum that is never zero. -/
theorem coveredSum_encodeWith (p : Packet) (src dst : IPv4) :
    ∃ s, 0 < s ∧ ∀ w, coveredSum p.version (p.encodeWith w) src dst = s + w.toNat := by
  have even : p.front.length % 2 = 0 := by rw [length_front]
  have split (w : UInt16) :
      wordSum (p.encodeWith w) = wordSum p.front + wordSum p.back + w.toNat := by
    rw [encodeWith, Checksum.wordSum_filled w p.back even]
  have positive := wordSum_front_pos p
  unfold coveredSum
  cases v : p.version with
  | v2 => exact ⟨wordSum p.front + wordSum p.back, by omega, split⟩
  | v3 =>
    refine ⟨wordSum (Checksum.pseudoHeader src dst
      (UInt16.ofNat (encodedLength .v3 p.addresses.length))) + wordSum p.front + wordSum p.back,
      by omega, fun w => ?_⟩
    simp only [split, length_encodeWith, v]
    omega

theorem bigAt_encodeWith (p : Packet) (w : UInt16) : (p.encodeWith w).bigAt 6 = w := by
  rw [encodeWith, ← length_front p, Octets.bigAt_append_big16]

theorem bigAt_encode (p : Packet) (src dst : IPv4) :
    (p.encode src dst).bigAt 6 = checksumOf p.version (p.encodeWith 0) src dst :=
  bigAt_encodeWith p _

/-- Of the two words that stand for zero, all ones is never written. -/
theorem bigAt_encode_ne (p : Packet) (src dst : IPv4) : (p.encode src dst).bigAt 6 ≠ 0xffff := by
  obtain ⟨s, positive, covered⟩ := coveredSum_encodeWith p src dst
  have value : residue s = (s - 1) % 65535 + 1 := if_neg (by omega)
  intro ones
  have word := congrArg UInt16.toNat ones
  rw [bigAt_encode, toNat_checksumOf, covered, UInt16.toNat_zero, Nat.add_zero, value] at word
  change 65535 - ((s - 1) % 65535 + 1) = 65535 at word
  omega

theorem flatMap_addressesOf {d : Octets} (whole : d.length % 4 = 0) :
    (addressesOf d).flatMap IPv4.octets = d := by
  fun_induction addressesOf d with
  | case1 a b c e r ih =>
    have shorter : r.length % 4 = 0 := by
      simp only [List.length_cons] at whole
      omega
    rw [List.flatMap_cons, ih shorter]
    rfl
  | case2 d few =>
    match d with
    | [] => rfl
    | [_] | [_, _] | [_, _, _] => simp at whole
    | a :: b :: c :: e :: r => exact absurd rfl (few a b c e r)

theorem ofNumber?_eq_some_iff {n : UInt8} {v : Version} :
    Version.ofNumber? n = some v ↔ n = v.number := by
  unfold Version.ofNumber?
  cases v with
  | v2 => split_ifs <;> simp_all [Version.number]
  | v3 => split_ifs <;> simp_all [Version.number]

theorem parse_octets_eq_ok_iff {x₀ x₁ x₂ x₃ x₄ x₅ x₆ x₇ : UInt8} {r : Octets} {p : Packet} :
    parse (x₀ :: x₁ :: x₂ :: x₃ :: x₄ :: x₅ :: x₆ :: x₇ :: r) = .ok p ↔
      ∃ v, x₀ / 16 = v.number ∧ encodedLength v x₃.toNat ≤ 8 + r.length ∧
        p = ⟨v, x₁, x₂, authTypeIn v x₄, intervalIn v x₄ x₅, Octets.word16 x₆ x₇,
          addressesOf (r.take (4 * x₃.toNat))⟩ := by
  constructor
  · intro read
    have header : ¬r.length + 8 < 8 := by omega
    cases version : Version.ofNumber? (x₀ / 16) with
    | none => simp [parse, Octets.byteAt, header, version] at read
    | some v =>
      by_cases complete : encodedLength v x₃.toNat ≤ 8 + r.length
      · rw [parse_octets version complete] at read
        cases read
        exact ⟨v, ofNumber?_eq_some_iff.mp version, complete, rfl⟩
      · have short : r.length + 8 < encodedLength v x₃.toNat := by omega
        simp [parse, Octets.byteAt, header, version, short] at read
  · rintro ⟨v, version, complete, rfl⟩
    exact parse_octets (ofNumber?_eq_some_iff.mpr version) complete

theorem exists_octets {d : Octets} (long : 8 ≤ d.length) : ∃ x₀ x₁ x₂ x₃ x₄ x₅ x₆ x₇ r,
    d = x₀ :: x₁ :: x₂ :: x₃ :: x₄ :: x₅ :: x₆ :: x₇ :: r :=
  match d, long with
  | x₀ :: x₁ :: x₂ :: x₃ :: x₄ :: x₅ :: x₆ :: x₇ :: r, _ =>
    ⟨x₀, x₁, x₂, x₃, x₄, x₅, x₆, x₇, r, rfl⟩

/-- What reading leaves out of a packet is as writing leaves it. -/
structure Canonical (d : Octets) (p : Packet) : Prop where
  length : d.length = encodedLength p.version p.addresses.length
  type : (d.byteAt 0).toNat % 16 = 1
  reserved : p.version = .v3 → (d.byteAt 4).toNat / 16 = 0
  plain : p.version = .v2 → d.byteAt 4 = 0
  trailer : p.version = .v2 → d.drop (d.length - 8) = List.replicate 8 0

theorem intervalField_intervalIn {v : Version} {x y : UInt8}
    (reserved : v = .v3 → x.toNat / 16 = 0) (plain : v = .v2 → x = 0) :
    intervalField v (intervalIn v x y) = [x, y] := by
  cases v with
  | v2 =>
    have low : (UInt16.ofNat y.toNat).toNat = y.toNat := by
      have := y.toNat_lt
      rw [UInt16.toNat_ofNat', Nat.mod_eq_of_lt (by omega)]
    rw [plain rfl, intervalField, intervalIn, low, UInt8.ofNat_toNat]
  | v3 =>
    have := x.toNat_lt
    have := y.toNat_lt
    have clear := reserved rfl
    have kept : x % 16 = x := by
      rw [← UInt8.toNat_inj, UInt8.toNat_mod]
      change x.toNat % 16 = x.toNat
      omega
    have twelve : (Octets.word16 x y).toNat % 4096 = (Octets.word16 x y).toNat := by
      rw [Octets.word16, UInt16.toNat_ofNat']
      omega
    rw [intervalField, intervalIn, kept, twelve, UInt16.ofNat_toNat, Octets.big16_word16]

/-- The addresses fill the room that their count gives them. -/
theorem addressesOf_room {r : Octets} {n : Nat} (room : 4 * n ≤ r.length) :
    (addressesOf (r.take (4 * n))).flatMap IPv4.octets = r.take (4 * n) ∧
      (addressesOf (r.take (4 * n))).length = n := by
  have octets : (addressesOf (r.take (4 * n))).flatMap IPv4.octets = r.take (4 * n) :=
    flatMap_addressesOf (by rw [List.length_take]; omega)
  refine ⟨octets, ?_⟩
  have total := congrArg List.length octets
  rw [IPv4.length_flatMap_octets, List.length_take] at total
  omega

theorem first_of_version {v : Version} {x : UInt8} (version : x / 16 = v.number)
    (type : x.toNat % 16 = 1) : UInt8.ofNat (16 * v.number.toNat + 1) = x := by
  have high : x.toNat / 16 = v.number.toNat := by
    rw [← version, UInt8.toNat_div]
    rfl
  rw [← high, show 16 * (x.toNat / 16) + 1 = x.toNat by omega, UInt8.ofNat_toNat]

/-- Behind the addresses there is only the trailer. -/
theorem Canonical.rest {d : Octets} {p : Packet} (canonical : Canonical d p) :
    d.drop (8 + 4 * p.addresses.length) = List.replicate (trailerLength p.version) 0 := by
  obtain ⟨length, -, -, -, trailer⟩ := canonical
  rw [encodedLength] at length
  cases v : p.version with
  | v2 =>
    have start : d.length - 8 = 8 + 4 * p.addresses.length := by
      simp only [v, trailerLength] at length
      omega
    rw [← start]
    exact trailer v
  | v3 =>
    simp only [v, trailerLength] at length
    exact List.drop_eq_nil_of_le (by omega)

theorem encodeWith_of_parse {d : Octets} {p : Packet} (read : parse d = .ok p)
    (canonical : Canonical d p) : p.encodeWith (d.bigAt 6) = d := by
  have long : 8 ≤ d.length := by
    rw [canonical.length, encodedLength]
    omega
  have rest := canonical.rest
  obtain ⟨x₀, x₁, x₂, x₃, x₄, x₅, x₆, x₇, r, rfl⟩ := exists_octets long
  obtain ⟨v, version, complete, rfl⟩ := parse_octets_eq_ok_iff.mp read
  obtain ⟨-, type, reserved, plain, -⟩ := canonical
  have room : 4 * x₃.toNat ≤ r.length := by
    rw [encodedLength] at complete
    omega
  obtain ⟨octets, count⟩ := addressesOf_room room
  have field : intervalField v (intervalIn v x₄ x₅) = [x₄, x₅] :=
    intervalField_intervalIn reserved plain
  have trailer : List.replicate (trailerLength v) 0 = r.drop (4 * x₃.toNat) := by
    rw [← rest, count, ← List.drop_drop]
    rfl
  change [UInt8.ofNat (16 * v.number.toNat + 1), x₁, x₂,
      UInt8.ofNat (addressesOf (r.take (4 * x₃.toNat))).length] ++
    intervalField v (intervalIn v x₄ x₅) ++ Octets.big16 (Octets.word16 x₆ x₇) ++
    ((addressesOf (r.take (4 * x₃.toNat))).flatMap IPv4.octets ++
      List.replicate (trailerLength v) 0) = _
  rw [first_of_version version type, count, field, Octets.big16_word16, octets, trailer,
    UInt8.ofNat_toNat, List.take_append_drop]
  rfl

theorem take_encodeWith (p : Packet) (w : UInt16) : (p.encodeWith w).take 6 = p.front := by
  rw [encodeWith, List.append_assoc, ← length_front p, List.take_left]

theorem drop_encodeWith (p : Packet) (w : UInt16) : (p.encodeWith w).drop 8 = p.back := by
  have eight : (p.front ++ Octets.big16 w).length = 8 := by
    rw [List.length_append, length_front, Octets.length_big16]
  rw [encodeWith, ← eight, List.drop_left]

theorem encode_of_parse {d : Octets} {p : Packet} {src dst : IPv4} (read : parse d = .ok p)
    (canonical : Canonical d p) (verified : checksumOf p.version d src dst = 0) :
    p.encode src dst = if d.bigAt 6 = 0xffff then d.take 6 ++ [0, 0] ++ d.drop 8 else d := by
  have written := encodeWith_of_parse read canonical
  obtain ⟨s, positive, covered⟩ := coveredSum_encodeWith p src dst
  have word := (d.bigAt 6).toNat_lt
  have full : residue (s + (d.bigAt 6).toNat) = 65535 := by
    rw [← covered, written]
    exact (checksumOf_eq_zero_iff p.version d src dst).mp verified
  have filled : (checksumOf p.version (p.encodeWith 0) src dst).toNat = 65535 - residue s := by
    rw [toNat_checksumOf, covered, UInt16.toNat_zero, Nat.add_zero]
  have unique := Checksum.complement_unique positive (Nat.le_of_lt_succ word) full
  unfold encode
  by_cases ones : d.bigAt 6 = 0xffff
  · -- Both words stand for zero, and the sum of all other words is already full.
    have zero : checksumOf p.version (p.encodeWith 0) src dst = 0 := by
      rw [if_pos (by rw [ones]; rfl)] at unique
      rw [← UInt16.toNat_inj, filled, unique]
      rfl
    have before : d.take 6 = p.front := written ▸ take_encodeWith p _
    have behind : d.drop 8 = p.back := written ▸ drop_encodeWith p _
    rw [if_pos ones, zero, encodeWith, before, behind]
    rfl
  · have same : checksumOf p.version (p.encodeWith 0) src dst = d.bigAt 6 := by
      have below : (d.bigAt 6).toNat ≠ 65535 := fun h => ones (UInt16.toNat_inj.mp h)
      rw [if_neg below] at unique
      rw [← UInt16.toNat_inj, filled, unique]
    rw [if_neg ones, same, written]

/-- A canonical packet that verifies is written as it was read. Only where its checksum is all
ones, that word is written as the other one that stands for zero; it is never written itself. -/
theorem encode_undoes_parse (src dst : IPv4) :
    (∀ {d : Octets} {p : Packet}, parse d = .ok p → Canonical d p →
      checksumOf p.version d src dst = 0 →
        p.encode src dst = if d.bigAt 6 = 0xffff then d.take 6 ++ [0, 0] ++ d.drop 8 else d) ∧
    ∀ p : Packet, (p.encode src dst).bigAt 6 ≠ 0xffff :=
  ⟨encode_of_parse, fun p => bigAt_encode_ne p src dst⟩

def onesText : Octets :=
  [0x21, 1, 100, 1, 0, 1, 0xff, 0xff, 10, 0, 112, 252] ++ List.replicate 8 0

theorem encode_onesText : ∃ p, parse onesText = .ok p ∧ Canonical onesText p ∧
    checksumOf p.version onesText ⟨10, 0, 0, 2⟩ IPv4.vrrpGroup = 0 ∧
      p.encode ⟨10, 0, 0, 2⟩ IPv4.vrrpGroup =
        [0x21, 1, 100, 1, 0, 1, 0, 0, 10, 0, 112, 252] ++ List.replicate 8 0 := by
  let p : Packet := ⟨.v2, 1, 100, 0, 1, 0xffff, [⟨10, 0, 112, 252⟩]⟩
  have read : parse onesText = .ok p := rfl
  have canonical : Canonical onesText p :=
    ⟨rfl, rfl, nofun, fun _ => rfl, fun _ => rfl⟩
  have verified : checksumOf p.version onesText ⟨10, 0, 0, 2⟩ IPv4.vrrpGroup = 0 := by
    decide +kernel
  have written := (encode_undoes_parse ⟨10, 0, 0, 2⟩ IPv4.vrrpGroup).1 read canonical verified
  exact ⟨p, read, canonical, verified, written⟩

end Packet

namespace Ipv4Header

def front (total : Nat) (ttl : UInt8) : Octets :=
  [0x45, 0xc0] ++ Octets.big16 (UInt16.ofNat total) ++
    [0, 0, 0, 0, ttl, Checksum.protocolNumber]

theorem length_front (total : Nat) (ttl : UInt8) : (front total ttl).length = 10 := rfl

theorem octetsWith_eq (total : Nat) (src : IPv4) (ttl : UInt8) (sum : UInt16) :
    octetsWith total src ttl sum =
      front total ttl ++ Octets.big16 sum ++ (src.octets ++ IPv4.vrrpGroup.octets) := by
  simp [octetsWith, front]

theorem take_datagram (payload : Octets) (src : IPv4) (ttl : UInt8) :
    let total := 20 + payload.length
    (datagram payload src ttl).take 20 = octetsWith total src ttl
      (Checksum.checksum (octetsWith total src ttl 0) 0) := by
  intro total
  exact List.take_left' (length_octetsWith _ _ _ _)

theorem checksum_datagram (payload : Octets) (src : IPv4) (ttl : UInt8) :
    Checksum.checksum ((datagram payload src ttl).take 20) 0 = 0 := by
  rw [take_datagram]
  simp only [octetsWith_eq]
  exact Checksum.checksum_filled _ 0 (by rw [length_front])

theorem parse_datagram {payload : Octets} (fits : 20 + payload.length < 65536) (src : IPv4)
    (ttl : UInt8) : parse (datagram payload src ttl) =
      .ok ⟨20, 20 + payload.length, ttl, src, IPv4.vrrpGroup⟩ :=
  parse_octetsWith fits src ttl _ payload

end Ipv4Header

namespace Packet

/-- An encoded packet has its exact length and verifies; whatever follows it, all that was
written is read from it. The header of a datagram around it verifies too, and tells where the
packet starts and ends. -/
theorem parse_undoes_encode {v : Version} {interval : UInt16} {addresses : List IPv4}
    (fits : interval ≤ v.maxInterval) (count : addresses.length ≤ 255) (vrid priority : UInt8)
    (src dst : IPv4) :
    let d := (advertising v vrid priority interval addresses).encode src dst
    d.length = encodedLength v addresses.length ∧ checksumOf v d src dst = 0 ∧
    (∀ rest, parse (d ++ rest) = .ok ⟨v, vrid, priority, 0, interval, d.bigAt 6, addresses⟩) ∧
    ∀ (sender : IPv4) (ttl : UInt8),
      Ipv4Header.parse (datagram d sender ttl) =
        .ok ⟨20, 20 + d.length, ttl, sender, IPv4.vrrpGroup⟩ ∧
      Checksum.checksum ((datagram d sender ttl).take 20) 0 = 0 := by
  intro d
  let p := advertising v vrid priority interval addresses
  have length : d.length = encodedLength v addresses.length := length_encode p src dst
  have bound : 20 + d.length < 65536 := by
    rw [length]
    exact encodedLength_lt v count
  refine ⟨length, checksumOf_encode p src dst, fun rest => ?_, fun sender ttl => ?_⟩
  · rw [bigAt_encode]
    exact parse_encodeWith p _ rest rfl fits count
  · exact ⟨Ipv4Header.parse_datagram bound sender ttl, Ipv4Header.checksum_datagram d sender ttl⟩

theorem parse_of_longest_interval :
    let addresses : List IPv4 := [⟨10, 0, 0, 100⟩, ⟨10, 0, 0, 101⟩]
    let d := (advertising .v3 7 200 4095 addresses).encode ⟨10, 0, 0, 2⟩ IPv4.vrrpGroup
    (4095 : UInt16) ≤ Version.v3.maxInterval ∧ addresses.length ≤ 255 ∧ d.length = 16 ∧
      parse (d ++ [0xff]) = .ok ⟨.v3, 7, 200, 0, 4095, d.bigAt 6, addresses⟩ := by
  intro addresses d
  have fits : (4095 : UInt16) ≤ Version.v3.maxInterval := by decide
  have count : addresses.length ≤ 255 := by decide
  obtain ⟨length, -, read, -⟩ :=
    parse_undoes_encode fits count 7 200 ⟨10, 0, 0, 2⟩ IPv4.vrrpGroup
  exact ⟨fits, count, length, read [0xff]⟩

end Packet
end VirtualRouter
