import VirtualRouter.Proofs.AdvertGrammar
import VirtualRouter.Proofs.PacketCodec
import VirtualRouter.Proofs.Statistics

/-!
# Intact advertisements that are taken for corrupt

A router verifies as much of an advertisement as it would take with its own number of addresses.
An advertisement of more addresses is cut, and what is left verifies only if the words that are
left out make no difference. One of fewer addresses is too short before it is verified, and one
of as many is taken for corrupt only if it is.
-/

set_option autoImplicit false

namespace VirtualRouter

theorem IPv4.drop_flatMap_octets (l : List IPv4) (k : Nat) :
    (l.flatMap octets).drop (4 * k) = (l.drop k).flatMap octets := by
  induction k generalizing l with
  | zero => rfl
  | succ k ih =>
    cases l with
    | nil => rfl
    | cons a l => exact ih l

namespace Checksum

theorem wordSum_zeros : ∀ k, wordSum (List.replicate k 0) = 0
  | 0 => rfl
  | 1 => rfl
  | k + 2 => by
    rw [List.replicate_succ, List.replicate_succ, wordSum, wordSum_zeros k]
    rfl

theorem wordSum_pseudoHeader (src dst : IPv4) {length : Nat} (fits : length < 65536) :
    wordSum (pseudoHeader src dst (UInt16.ofNat length)) =
      wordSum (pseudoHeader src dst 0) + length := by
  have value : (UInt16.ofNat length).toNat = length := by
    rw [UInt16.toNat_ofNat', Nat.mod_eq_of_lt fits]
  have even : (src.octets ++ dst.octets ++ [0, protocolNumber]).length % 2 = 0 := by
    simp
  rw [pseudoHeader, pseudoHeader, wordSum_append _ even, wordSum_append _ even]
  have word (w : UInt16) : wordSum (Octets.big16 w) = w.toNat := by
    simpa [wordSum] using wordSum_big16_append w []
  rw [word, word, value]
  rfl

end Checksum

namespace Packet
open Checksum (wordSum residue)

/-- What the sum of an encoded packet loses when the packet is cut to the length that it has
with `n` addresses. The zero octets at the end of version 2 are as long as two addresses. -/
def leftOut (p : Packet) (n : Nat) : Nat :=
  match p.version with
  | .v2 => wordSum ((p.addresses.drop (n + 2)).flatMap IPv4.octets)
  | .v3 => wordSum ((p.addresses.drop n).flatMap IPv4.octets) + 4 * (p.addresses.length - n)

theorem leftOut_of_le {p : Packet} {n : Nat} (few : p.addresses.length ≤ n) : p.leftOut n = 0 := by
  unfold leftOut
  cases p.version with
  | v2 => rw [List.drop_eq_nil_of_le (by omega)]; rfl
  | v3 => rw [List.drop_eq_nil_of_le few, Nat.sub_eq_zero_of_le few]; rfl

theorem wordSum_drop_encodeWith (p : Packet) (w : UInt16) (n : Nat) :
    wordSum ((p.encodeWith w).drop (encodedLength p.version n)) = match p.version with
      | .v2 => wordSum ((p.addresses.drop (n + 2)).flatMap IPv4.octets)
      | .v3 => wordSum ((p.addresses.drop n).flatMap IPv4.octets) := by
  have back (k : Nat) : (p.encodeWith w).drop (8 + k) = p.back.drop k := by
    rw [← List.drop_drop, drop_encodeWith]
  unfold Packet.back at back
  cases v : p.version with
  | v2 =>
    have start : encodedLength .v2 n = 8 + 4 * (n + 2) := by
      simp only [encodedLength, trailerLength]
      omega
    rw [start, back, List.drop_append, IPv4.drop_flatMap_octets, v, trailerLength,
      List.drop_replicate, Checksum.wordSum_append, Checksum.wordSum_zeros, Nat.add_zero]
    rw [IPv4.length_flatMap_octets]
    omega
  | v3 =>
    have start : encodedLength .v3 n = 8 + 4 * n := by
      simp only [encodedLength, trailerLength]
      omega
    rw [start, back, v, trailerLength, List.replicate_zero, List.append_nil,
      IPv4.drop_flatMap_octets]

theorem coveredSum_take (p : Packet) {n : Nat} (src dst : IPv4)
    (few : n ≤ p.addresses.length) (count : p.addresses.length ≤ 255) :
    coveredSum p.version (p.encode src dst) src dst =
      coveredSum p.version ((p.encode src dst).take (encodedLength p.version n)) src dst +
        p.leftOut n := by
  have length := length_encode p src dst
  have lost := wordSum_drop_encodeWith p (checksumOf p.version (p.encodeWith 0) src dst) n
  have cut : ((p.encode src dst).take (encodedLength p.version n)).length =
      encodedLength p.version n := by
    rw [List.length_take, length]
    simp only [encodedLength]
    omega
  have even : ((p.encode src dst).take (encodedLength p.version n)).length % 2 = 0 := by
    rw [cut, encodedLength]
    cases p.version <;> simp only [trailerLength] <;> omega
  have parts : wordSum (p.encode src dst) =
      wordSum ((p.encode src dst).take (encodedLength p.version n)) +
        wordSum ((p.encode src dst).drop (encodedLength p.version n)) := by
    rw [← Checksum.wordSum_append _ even, List.take_append_drop]
  unfold coveredSum leftOut
  -- Version 3 also loses the difference of the two lengths in the pseudo header.
  rw [parts, cut, length]
  rw [← encode] at lost
  cases v : p.version with
  | v2 =>
    simp only [v] at lost ⊢
    rw [lost]
  | v3 =>
    simp only [v] at lost ⊢
    have fits := encodedLength_lt .v3 count
    have shorter := encodedLength_lt .v3 (Nat.le_trans few count)
    rw [lost, Checksum.wordSum_pseudoHeader src dst (Nat.lt_of_add_left_lt fits),
      Checksum.wordSum_pseudoHeader src dst (Nat.lt_of_add_left_lt shorter)]
    simp only [encodedLength, trailerLength]
    omega

/-- The first octet is in every cut of an encoded packet, and is not zero. -/
theorem coveredSum_take_pos (p : Packet) (n : Nat) (src dst : IPv4) :
    0 < coveredSum p.version ((p.encode src dst).take (encodedLength p.version n)) src dst := by
  have even : p.front.length % 2 = 0 := by rw [length_front]
  have long : p.front.length ≤ encodedLength p.version n := by
    rw [length_front, encodedLength]
    omega
  have positive : 0 < wordSum ((p.encode src dst).take (encodedLength p.version n)) := by
    rw [encode, encodeWith, List.append_assoc, List.take_append,
      List.take_of_length_le long, Checksum.wordSum_append _ even]
    exact Nat.add_pos_left (wordSum_front_pos p) _
  exact Nat.lt_of_lt_of_le positive (wordSum_le_coveredSum _ _ _ _)

/-- A cut packet verifies exactly when what is left out makes no difference. -/
theorem checksumOf_take_eq_zero_iff (p : Packet) {n : Nat} (src dst : IPv4)
    (few : n ≤ p.addresses.length) (count : p.addresses.length ≤ 255) :
    checksumOf p.version ((p.encode src dst).take (encodedLength p.version n)) src dst = 0 ↔
      65535 ∣ p.leftOut n := by
  have whole := coveredSum_take p src dst few count
  have positive := coveredSum_take_pos p n src dst
  have verified := (checksumOf_eq_zero_iff _ _ _ _).mp (checksumOf_encode p src dst)
  rw [Checksum.residue_eq_full_iff (by omega), whole] at verified
  rw [checksumOf_eq_zero_iff, Checksum.residue_eq_full_iff positive]
  constructor
  · intro divides
    exact (Nat.dvd_add_right divides).mp verified
  · intro divides
    exact (Nat.dvd_add_left divides).mp verified

end Packet

namespace Check

theorem firstFault_cons_iff {c : Check} {rest : List Check} {r : Rejection} :
    FirstFault (c :: rest) r ↔
      c.passes = false ∧ r = c.fault ∨ c.passes = true ∧ FirstFault rest r := by
  constructor
  · intro found
    cases found with
    | here fails => exact .inl ⟨fails, rfl⟩
    | later passes found => exact .inr ⟨passes, found⟩
  · rintro (⟨fails, rfl⟩ | ⟨passes, found⟩)
    · exact .here fails
    · exact .later passes found

theorem FirstFault.mem {checks : List Check} {r : Rejection} (found : FirstFault checks r) :
    ∃ c ∈ checks, c.fault = r := by
  induction found with
  | here => exact ⟨_, List.mem_cons_self, rfl⟩
  | later _ _ ih =>
    obtain ⟨c, member, fault⟩ := ih
    exact ⟨c, List.mem_cons_of_mem _ member, fault⟩

/-- A fault that only one check reports is reported exactly if that check fails, and all before
it pass. -/
theorem firstFault_iff_of_only {c : Check} {before after : List Check}
    (only : ∀ k ∈ before ++ after, k.fault ≠ c.fault) :
    FirstFault (before ++ c :: after) c.fault ↔
      (∀ k ∈ before, k.passes = true) ∧ c.passes = false := by
  induction before with
  | nil =>
    rw [List.nil_append, firstFault_cons_iff]
    constructor
    · rintro (⟨fails, -⟩ | ⟨-, found⟩)
      · exact ⟨nofun, fails⟩
      · obtain ⟨k, member, fault⟩ := found.mem
        exact absurd fault (only k member)
    · exact fun ⟨_, fails⟩ => .inl ⟨fails, rfl⟩
  | cons k before ih =>
    have other : k.fault ≠ c.fault := only k List.mem_cons_self
    have rest := ih fun k member => only k (List.mem_cons_of_mem _ member)
    rw [List.cons_append, firstFault_cons_iff, rest, List.forall_mem_cons, and_assoc]
    constructor
    · rintro (⟨-, same⟩ | passes)
      · exact absurd same.symm other
      · exact passes
    · exact .inr

end Check

namespace Expectation
open Ipv4Header (lengthIn Whole)

/-- A datagram is taken for corrupt exactly if it has passed all checks up to that of its
checksum, and as much of it as is expected does not verify. -/
theorem accept_eq_checksum_iff (x : Expectation) (d : Octets) :
    x.accept d = .error .checksum ↔
      Whole d ∧ d.byteAt 8 = 255 ∧ d.byteAt (lengthIn d) / 16 = x.version.number ∧
        lengthIn d + x.length ≤ payloadEnd d ∧
        Packet.checksumOf x.version (x.text d) (IPv4.fromOctets d 12) (IPv4.fromOctets d 16) ≠ 0 := by
  let before := headerChecks d ++ (x.payloadChecks d).take 3
  let after := (x.payloadChecks d).drop 4 ++ x.contentChecks d
  let check : Check := ⟨Checksum.onesSum (x.covered d) = 65535, .checksum⟩
  have split : x.checks d = before ++ check :: after := rfl
  -- No other check reports this fault, so none after it can be the one that is found.
  have only : ∀ k ∈ before ++ after, k.fault ≠ check.fault := by
    intro k member
    simp only [before, after, headerChecks, payloadChecks, contentChecks, addressChecks,
      intervalCheck, List.take, List.drop, List.mem_append, List.mem_cons, List.mem_mapIdx,
      List.not_mem_nil, or_false] at member
    rcases member with ((rfl | rfl) | rfl | rfl | rfl) |
      rfl | ((rfl | rfl | rfl) | ⟨i, h, rfl⟩) | rfl <;> simp [check]
  have passed : (∀ k ∈ before, k.passes = true) ↔
      Whole d ∧ d.byteAt 8 = 255 ∧ lengthIn d < payloadEnd d ∧
        d.byteAt (lengthIn d) / 16 = x.version.number ∧ lengthIn d + x.length ≤ payloadEnd d := by
    simp only [before, headerChecks, payloadChecks, List.take, List.forall_mem_append,
      List.forall_mem_cons, decide_eq_true_eq, version_iff]
    simp [and_assoc]
  have found := Check.firstFault_iff_of_only only
  rw [accept_eq_verdict, Check.verdict_eq_error_iff, split]
  refine found.trans ?_
  rw [passed, decide_eq_false_iff_not]
  constructor
  · rintro ⟨⟨whole, ttl, -, version, complete⟩, corrupt⟩
    exact ⟨whole, ttl, version, complete, mt (checksumOf_text_iff complete).mp corrupt⟩
  · rintro ⟨whole, ttl, version, complete, corrupt⟩
    have eight : 8 ≤ x.length := by simp only [length, Packet.encodedLength]; omega
    exact ⟨⟨whole, ttl, by omega, version, complete⟩, mt (checksumOf_text_iff complete).mpr corrupt⟩

theorem fields_datagram {payload : Octets} (fits : 20 + payload.length < 65536) (src : IPv4)
    (ttl : UInt8) : Whole (datagram payload src ttl) ∧
      Ipv4Header.fields (datagram payload src ttl) =
        ⟨20, 20 + payload.length, ttl, src, IPv4.vrrpGroup⟩ := by
  have read := Ipv4Header.parse_datagram fits src ttl
  rw [Ipv4Header.parse_eq] at read
  split_ifs at read with whole
  exact ⟨whole, Except.ok.inj read⟩

theorem accept_datagram_eq_checksum_iff (x : Expectation) {t : Octets}
    (fits : 20 + t.length < 65536) (src : IPv4) :
    x.accept (datagram t src requiredTtl) = .error .checksum ↔
      t.byteAt 0 / 16 = x.version.number ∧ x.length ≤ t.length ∧
        Packet.checksumOf x.version (t.take x.length) src IPv4.vrrpGroup ≠ 0 := by
  obtain ⟨whole, fields⟩ := fields_datagram fits src requiredTtl
  have start : lengthIn (datagram t src requiredTtl) = 20 :=
    congrArg Ipv4Header.headerLength fields
  have total : ((datagram t src requiredTtl).bigAt 2).toNat = 20 + t.length :=
    congrArg Ipv4Header.totalLength fields
  have ttl : (datagram t src requiredTtl).byteAt 8 = 255 := congrArg Ipv4Header.ttl fields
  have source : IPv4.fromOctets (datagram t src requiredTtl) 12 = src :=
    congrArg Ipv4Header.src fields
  have target : IPv4.fromOctets (datagram t src requiredTtl) 16 = IPv4.vrrpGroup :=
    congrArg Ipv4Header.dst fields
  have carried : (datagram t src requiredTtl).drop 20 = t :=
    List.drop_left' (Ipv4Header.length_octetsWith _ _ _ _)
  have first : (datagram t src requiredTtl).byteAt 20 = t.byteAt 0 := by
    rw [← carried, Octets.byteAt_drop, carried]
  have length : (datagram t src requiredTtl).length = 20 + t.length := by
    rw [datagram, List.length_append, Ipv4Header.length_octetsWith]
  have ends : payloadEnd (datagram t src requiredTtl) = 20 + t.length := by
    rw [payloadEnd, total, length, Nat.min_self]
  rw [accept_eq_checksum_iff, text, start, source, target, ends, carried, first,
    Nat.add_le_add_iff_left]
  exact ⟨fun h => h.2.2, fun h => ⟨whole, ttl, h⟩⟩

/-- An advertisement as it is sent is taken for corrupt exactly if what is left out of it makes a
difference. -/
theorem accept_encode_eq_checksum_iff {x : Expectation} {p : Packet}
    (version : x.version = p.version) (count : p.addresses.length ≤ 255) (src : IPv4) :
    x.accept (datagram (p.encode src IPv4.vrrpGroup) src requiredTtl) = .error .checksum ↔
      ¬65535 ∣ p.leftOut x.addresses.length := by
  have length := Packet.length_encode p src IPv4.vrrpGroup
  have fits : 20 + (p.encode src IPv4.vrrpGroup).length < 65536 := by
    rw [length]
    exact Packet.encodedLength_lt p.version count
  have nibble : (p.encode src IPv4.vrrpGroup).byteAt 0 / 16 = x.version.number := by
    rw [version, Packet.version_encode]
  have complete : x.length ≤ (p.encode src IPv4.vrrpGroup).length ↔
      x.addresses.length ≤ p.addresses.length := by
    rw [length, Expectation.length, version]
    simp only [Packet.encodedLength]
    omega
  rw [accept_datagram_eq_checksum_iff x fits, complete]
  by_cases few : x.addresses.length ≤ p.addresses.length
  · rw [Expectation.length, version, ne_eq, Packet.checksumOf_take_eq_zero_iff p _ _ few count]
    exact ⟨fun h => h.2.2, fun h => ⟨version ▸ nibble, few, h⟩⟩
  · -- An advertisement of fewer addresses is too short, and nothing of it is left out.
    rw [Packet.leftOut_of_le (by omega)]
    simp [few]

/-- The advertisement in a datagram is there in the length that it gives itself, and verifies. -/
def Intact (v : Version) (d : Octets) : Prop :=
  let length := Packet.encodedLength v (d.byteAt (lengthIn d + 3)).toNat
  lengthIn d + length ≤ payloadEnd d ∧
    Packet.checksumOf v ((d.drop (lengthIn d)).take length) (IPv4.fromOctets d 12)
      (IPv4.fromOctets d 16) = 0

instance (v : Version) (d : Octets) : Decidable (Intact v d) := inferInstanceAs (Decidable (_ ∧ _))

theorem count_of_intact {x : Expectation} {d : Octets} (intact : Intact x.version d)
    (corrupt : x.accept d = .error .checksum) :
    (d.byteAt (lengthIn d + 3)).toNat ≠ x.addresses.length := by
  intro same
  obtain ⟨-, -, -, -, fails⟩ := (accept_eq_checksum_iff x d).mp corrupt
  have verified := intact.2
  rw [same] at verified
  exact fails verified

end Expectation

namespace Node
open Expectation (Intact)
open Ipv4Header (lengthIn)

/-- An intact advertisement is taken for corrupt exactly if the words that a router with fewer
addresses leaves out of it make a difference, and never by one with as many addresses or more. A
node counts as corrupt only what does not verify in its own length, or advertises another number
of addresses. -/
theorem taken_for_corrupt_iff {x : Expectation} {p : Packet} (version : x.version = p.version)
    (count : p.addresses.length ≤ 255) (src : IPv4) :
    let verdict := x.accept (datagram (p.encode src IPv4.vrrpGroup) src 255)
    (verdict = .error .checksum ↔ ¬65535 ∣ p.leftOut x.addresses.length) ∧
    (p.addresses.length ≤ x.addresses.length → verdict ≠ .error .checksum) ∧
    ∀ {c : Config} {b : Binding} {n₀ n : Node} {s : List Episode} {ws : List Bool},
      start c b = .ok n₀ → Path n₀ s ws n →
        let y : Expectation := ⟨c.version, c.vrid, c.addresses, c.advertInterval⟩
        n.stats.checksumErrors = (verdicts y (trace s)).countP Verdict.isCorrupt ∧
        ∀ d ∈ received (trace s), y.accept d = .error .checksum → Intact c.version d →
          (d.byteAt (lengthIn d + 3)).toNat ≠ c.addresses.length := by
  intro verdict
  have corrupt := Expectation.accept_encode_eq_checksum_iff version count src
  refine ⟨corrupt, fun few taken => corrupt.mp taken ?_, fun started path => ⟨?_, ?_⟩⟩
  · rw [Packet.leftOut_of_le few]
    exact Nat.dvd_zero _
  · exact path.counted started rfl counts_corrupt
  · exact fun d _ taken intact => Expectation.count_of_intact intact taken

def stranger : Packet := .advertising .v3 7 100 100 [⟨10, 0, 0, 101⟩, ⟨10, 0, 0, 102⟩]

def strange : Octets :=
  datagram (stranger.encode ⟨10, 0, 0, 3⟩ IPv4.vrrpGroup) ⟨10, 0, 0, 3⟩ 255

theorem corrupt_count_of_stranger : ∃ s n,
    Expectation.version ⟨.v3, 1, [⟨10, 0, 0, 100⟩], 100⟩ = stranger.version ∧
      stranger.addresses.length ≤ 255 ∧ start .sample .sample = .ok sample ∧
      Path sample s [] n ∧ received (trace s) = [strange] ∧ n.stats.checksumErrors = 1 ∧
      Intact .v3 strange ∧ (strange.byteAt (lengthIn strange + 3)).toNat ≠ 1 := by
  obtain ⟨s, path, all⟩ := path_runFor sample 2 (l := { Lan.quiet 0 with queue := [strange] }) rfl
  have told : ((sample.runFor 2).runIn Lan.serve
      { Lan.quiet 0 with queue := [strange] }).1.1.toList = [] := by decide +kernel
  rw [told] at path
  obtain ⟨corrupt, -, counter⟩ := taken_for_corrupt_iff
    (x := ⟨.v3, 1, [⟨10, 0, 0, 100⟩], 100⟩) (p := stranger) rfl (by decide) ⟨10, 0, 0, 3⟩
  obtain ⟨errors, other⟩ := counter start_sample path
  have arrived : received (trace s) = [strange] := by
    rw [all]
    decide +kernel
  have intact : Intact .v3 strange := by decide +kernel
  refine ⟨s, _, rfl, by decide, start_sample, path, arrived, ?_, intact, ?_⟩
  · rw [errors, all]
    decide +kernel
  · exact other strange (by rw [arrived]; exact List.mem_singleton_self _)
      (corrupt.mpr (by decide +kernel)) intact

/-- An intact advertisement of another virtual router that is taken for corrupt. -/
theorem stranger_taken_for_corrupt :
    Intact .v3 strange ∧
      Expectation.accept ⟨.v3, 1, [⟨10, 0, 0, 100⟩], 100⟩ strange = .error .checksum := by
  have corrupt := Expectation.accept_encode_eq_checksum_iff
    (x := ⟨.v3, 1, [⟨10, 0, 0, 100⟩], 100⟩) (p := stranger) rfl (by decide) ⟨10, 0, 0, 3⟩
  exact ⟨by decide +kernel, corrupt.mpr (by decide +kernel)⟩

end Node
end VirtualRouter
