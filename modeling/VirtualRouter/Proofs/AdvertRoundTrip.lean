import VirtualRouter.Proofs.ChecksumSum
import VirtualRouter.Advert.Acceptance

/-!
# From an encoded advertisement back to its content

Reading an encoded packet gives the packet back, with nothing lost of its interval and its
addresses, and its checksum verifies. So a datagram that carries it is accepted by every
router that expects the same virtual router.
-/

set_option autoImplicit false

namespace VirtualRouter

theorem IPv4.length_flatMap_octets (l : List IPv4) :
    (l.flatMap octets).length = 4 * l.length := by
  induction l with
  | nil => rfl
  | cons a l ih =>
    simp only [List.flatMap_cons, List.length_append, length_octets, ih, List.length_cons]
    omega

namespace Packet

theorem addressesOf_flatMap (l : List IPv4) : addressesOf (l.flatMap IPv4.octets) = l := by
  induction l with
  | nil => rfl
  | cons a l ih =>
    rw [List.flatMap_cons]
    change a :: addressesOf (l.flatMap IPv4.octets) = a :: l
    rw [ih]

theorem length_front (p : Packet) : p.front.length = 6 := by
  unfold front intervalField
  cases p.version <;> rfl

theorem length_encodeWith (p : Packet) (sum : UInt16) :
    (p.encodeWith sum).length = encodedLength p.version p.addresses.length := by
  simp only [encodeWith, List.length_append, length_front, Octets.length_big16, back,
    IPv4.length_flatMap_octets, List.length_replicate, encodedLength]
  omega

def seed (v : Version) (length : Nat) (src dst : IPv4) : Nat :=
  match v with
  | .v2 => 0
  | .v3 => Checksum.partialSum (Checksum.pseudoHeader src dst (UInt16.ofNat length)) 0

theorem checksumOf_eq (v : Version) (d : Octets) (src dst : IPv4) :
    checksumOf v d src dst = Checksum.checksum d (seed v d.length src dst) := by
  cases v <;> rfl

theorem checksumOf_encode (p : Packet) (src dst : IPv4) :
    checksumOf p.version (p.encode src dst) src dst = 0 := by
  have filled := Checksum.checksum_filled p.back
    (seed p.version (encodedLength p.version p.addresses.length) src dst)
    (show p.front.length % 2 = 0 by rw [length_front])
  unfold encode
  rw [checksumOf_eq, checksumOf_eq, length_encodeWith, length_encodeWith]
  simpa only [encodeWith] using filled

theorem parse_octets {v : Version} {x₀ x₁ x₂ x₃ x₄ x₅ x₆ x₇ : UInt8} {r : Octets}
    (version : Version.ofNumber? (x₀ / 16) = some v)
    (complete : encodedLength v x₃.toNat ≤ 8 + r.length) :
    parse (x₀ :: x₁ :: x₂ :: x₃ :: x₄ :: x₅ :: x₆ :: x₇ :: r) = .ok
      ⟨v, x₁, x₂, authTypeIn v x₄, intervalIn v x₄ x₅, Octets.word16 x₆ x₇,
        addressesOf (r.take (4 * x₃.toNat))⟩ := by
  have header : ¬r.length + 8 < 8 := by omega
  have long : ¬r.length + 8 < encodedLength v x₃.toNat := by omega
  cases v <;>
    simp [parse, Octets.byteAt, Octets.bigAt, version, header, long, authTypeIn, intervalIn]

theorem intervalIn_seconds {i : UInt16} (fits : i ≤ 255) (x : UInt8) :
    intervalIn .v2 x (UInt8.ofNat i.toNat) = i := by
  have bound : i.toNat ≤ 255 := UInt16.le_iff_toNat_le.mp fits
  rw [intervalIn, UInt8.toNat_ofNat', Nat.mod_eq_of_lt (by omega)]
  exact UInt16.ofNat_toNat

/-- Twelve bits hold the interval; the reserved bits above are dropped when it is read. -/
theorem intervalIn_hundredths {i : UInt16} (fits : i ≤ 4095) :
    intervalIn .v3 (UInt8.ofNat (i.toNat / 256)) (UInt8.ofNat i.toNat) = i := by
  have bound : i.toNat ≤ 4095 := UInt16.le_iff_toNat_le.mp fits
  have high : UInt8.ofNat (i.toNat / 256) % 16 = UInt8.ofNat (i.toNat / 256) := by
    rw [← UInt8.toNat_inj, UInt8.toNat_mod, UInt8.toNat_ofNat']
    change i.toNat / 256 % 2 ^ 8 % 16 = i.toNat / 256 % 2 ^ 8
    omega
  rw [intervalIn, high, Octets.word16_big16]

/-- An interval that fits into its field is read back from it. -/
theorem intervalField_read {v : Version} {i : UInt16} (fits : i ≤ v.maxInterval) :
    ∃ x y, intervalField v i = [x, y] ∧ authTypeIn v x = 0 ∧ intervalIn v x y = i := by
  cases v with
  | v2 => exact ⟨_, _, rfl, rfl, intervalIn_seconds fits 0⟩
  | v3 =>
    have bound : i.toNat ≤ 4095 := UInt16.le_iff_toNat_le.mp fits
    have kept : UInt16.ofNat (i.toNat % 4096) = i := by
      rw [Nat.mod_eq_of_lt (by omega)]
      exact UInt16.ofNat_toNat
    refine ⟨_, _, ?_, rfl, intervalIn_hundredths fits⟩
    rw [intervalField, kept, Octets.big16]

/-- An encoded packet, whatever follows it, is read as it was written. -/
theorem parse_encodeWith (p : Packet) (sum : UInt16) (rest : Octets)
    (plain : p.authType = 0) (fits : p.advertInterval ≤ p.version.maxInterval)
    (count : p.addresses.length ≤ 255) :
    parse (p.encodeWith sum ++ rest) = .ok { p with checksum := sum } := by
  obtain ⟨v, vrid, priority, authType, interval, checksum, addresses⟩ := p
  obtain ⟨x, y, field, authentication, advertised⟩ := intervalField_read fits
  have version : Version.ofNumber? (UInt8.ofNat (16 * v.number.toNat + 1) / 16) = some v := by
    cases v <;> rfl
  have counted : (UInt8.ofNat addresses.length).toNat = addresses.length := by
    rw [UInt8.toNat_ofNat']
    exact Nat.mod_eq_of_lt (by simpa using Nat.lt_succ_of_le count)
  have octets : encodeWith ⟨v, vrid, priority, authType, interval, checksum, addresses⟩ sum ++ rest =
      UInt8.ofNat (16 * v.number.toNat + 1) :: vrid :: priority :: UInt8.ofNat addresses.length ::
        x :: y :: UInt8.ofNat (sum.toNat / 256) :: UInt8.ofNat sum.toNat ::
        (addresses.flatMap IPv4.octets ++ (List.replicate (trailerLength v) 0 ++ rest)) := by
    simp [encodeWith, front, back, field, Octets.big16]
  have listed : addressesOf ((addresses.flatMap IPv4.octets ++
      (List.replicate (trailerLength v) 0 ++ rest)).take (4 * addresses.length)) = addresses := by
    rw [← IPv4.length_flatMap_octets, List.take_left, addressesOf_flatMap]
  rw [octets, parse_octets version, counted, listed, authentication, advertised,
    Octets.word16_big16]
  · exact congrArg _ (by rw [← plain])
  · simp only [counted, encodedLength, List.length_append, IPv4.length_flatMap_octets,
      List.length_replicate]
    omega

theorem length_encode (p : Packet) (src dst : IPv4) :
    (p.encode src dst).length = encodedLength p.version p.addresses.length :=
  length_encodeWith p _

theorem version_encode (p : Packet) (src dst : IPv4) :
    (p.encode src dst).byteAt 0 / 16 = p.version.number := by
  change UInt8.ofNat (16 * p.version.number.toNat + 1) / 16 = p.version.number
  cases p.version <;> rfl

/-- An octet counts so few addresses that the length of a datagram fits into its field. -/
theorem encodedLength_lt (v : Version) {n : Nat} (count : n ≤ 255) :
    20 + encodedLength v n < 65536 := by
  unfold encodedLength
  cases v <;> simp only [trailerLength] <;> omega

theorem parse_encode (p : Packet) (src dst : IPv4) (rest : Octets) (plain : p.authType = 0)
    (fits : p.advertInterval ≤ p.version.maxInterval) (count : p.addresses.length ≤ 255) :
    ∃ sum, parse (p.encode src dst ++ rest) = .ok { p with checksum := sum } :=
  ⟨_, parse_encodeWith p _ rest plain fits count⟩

end Packet

theorem Ipv4Header.length_octetsWith (total : Nat) (src : IPv4) (ttl : UInt8) (sum : UInt16) :
    (octetsWith total src ttl sum).length = 20 := rfl

theorem Ipv4Header.drop_take_payload (total : Nat) (src : IPv4) (ttl : UInt8) (sum : UInt16)
    (payload : Octets) :
    ((octetsWith total src ttl sum ++ payload).take (20 + payload.length)).drop 20 = payload := by
  rw [← length_octetsWith total src ttl sum, ← List.length_append, List.take_length,
    List.drop_left]

theorem Ipv4Header.parse_octetsWith {total : Nat} (bound : total < 65536) (src : IPv4)
    (ttl : UInt8) (sum : UInt16) (payload : Octets) :
    parse (octetsWith total src ttl sum ++ payload) =
      .ok ⟨20, total, ttl, src, IPv4.vrrpGroup⟩ := by
  have length : (octetsWith total src ttl sum ++ payload).length = 20 + payload.length := by
    rw [List.length_append, length_octetsWith]
  have words : ((octetsWith total src ttl sum ++ payload).bigAt 2).toNat = total := by
    change (Octets.word16 (UInt8.ofNat ((UInt16.ofNat total).toNat / 256))
      (UInt8.ofNat (UInt16.ofNat total).toNat)).toNat = total
    rw [Octets.word16_big16, UInt16.toNat_ofNat']
    exact Nat.mod_eq_of_lt bound
  have first : lengthIn (octetsWith total src ttl sum ++ payload) = 20 := by
    change 4 * ((0x45 : UInt8).toNat % 16) = 20
    rfl
  rw [parse, if_neg (by omega), fields, words, first]
  rfl

theorem firstMismatch_self (i : Nat) (l : List IPv4) : firstMismatch? i l l = none := by
  induction l generalizing i with
  | nil => rfl
  | cons a l ih => rw [firstMismatch?, if_pos rfl, ih]

namespace Expectation

structure Matches (x : Expectation) (p : Packet) : Prop where
  version : x.version = p.version
  router : x.vrid = p.vrid
  addresses : x.addresses = p.addresses
  interval : p.version = .v2 → x.advertInterval = p.advertInterval

def taken (p : Packet) (src : IPv4) : Advert :=
  ⟨p.priority, src,
    match p.version with
    | .v2 => none
    | .v3 => some (p.version.intervalMicros p.advertInterval)⟩

theorem acceptPacket_of_matches {x : Expectation} {p : Packet} (h : x.Matches p)
    (plain : p.authType = 0) (src : IPv4) : x.acceptPacket src p = .ok (taken p src) := by
  unfold acceptPacket taken
  rw [if_neg (by simp [h.router]), if_neg (by simp [plain]), if_neg (by simp [h.addresses]),
    h.addresses, firstMismatch_self]
  cases v : p.version with
  | v2 => simp [h.version, v, h.interval v]
  | v3 => simp [h.version, v]

theorem acceptPayload_encode {x : Expectation} {p : Packet} (h : x.Matches p)
    (plain : p.authType = 0) (fits : p.advertInterval ≤ p.version.maxInterval)
    (count : p.addresses.length ≤ 255) (ip : Ipv4Header) :
    x.acceptPayload ip (p.encode ip.src ip.dst) = .ok (taken p ip.src) := by
  have length : (p.encode ip.src ip.dst).length = x.length := by
    rw [Packet.length_encode, Expectation.length, h.version, h.addresses]
  have whole : (p.encode ip.src ip.dst).take x.length = p.encode ip.src ip.dst := by
    rw [← length, List.take_length]
  have nonempty : (p.encode ip.src ip.dst).isEmpty = false := rfl
  have nibble : (p.encode ip.src ip.dst).byteAt 0 / 16 = x.version.number := by
    rw [h.version, Packet.version_encode]
  have verified : Packet.checksumOf x.version (p.encode ip.src ip.dst) ip.src ip.dst = 0 := by
    rw [h.version, Packet.checksumOf_encode]
  obtain ⟨sum, read⟩ := Packet.parse_encode p ip.src ip.dst [] plain fits count
  rw [List.append_nil] at read
  have kept : x.Matches { p with checksum := sum } :=
    ⟨h.version, h.router, h.addresses, h.interval⟩
  unfold acceptPayload
  rw [if_neg (by simp [nonempty]), if_neg (by simp [nibble]), if_neg (by omega), whole,
    if_neg (by simp [verified]), read]
  exact acceptPacket_of_matches kept plain ip.src

/-- A datagram around an encoded packet is accepted by whoever expects such a packet. -/
theorem accept_datagram {x : Expectation} {p : Packet} (h : x.Matches p)
    (plain : p.authType = 0) (fits : p.advertInterval ≤ p.version.maxInterval)
    (count : p.addresses.length ≤ 255) (src : IPv4) :
    x.accept (datagram (p.encode src IPv4.vrrpGroup) src requiredTtl) = .ok (taken p src) := by
  have bound : 20 + (p.encode src IPv4.vrrpGroup).length < 65536 := by
    rw [Packet.length_encode]
    exact Packet.encodedLength_lt p.version count
  unfold accept datagram
  rw [Ipv4Header.parse_octetsWith bound]
  simp only [ne_eq, not_true_eq_false, if_false, List.length_append,
    Ipv4Header.length_octetsWith, Nat.min_self]
  rw [Nat.max_eq_left (by omega), Ipv4Header.drop_take_payload]
  exact acceptPayload_encode h plain fits count ⟨20, _, requiredTtl, src, IPv4.vrrpGroup⟩

end Expectation
end VirtualRouter
