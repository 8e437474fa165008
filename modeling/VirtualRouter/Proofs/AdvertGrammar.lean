import VirtualRouter.Proofs.AdvertReads

/-!
# The grammar of acceptable datagrams

Acceptance told by the octets of the datagram alone: what each of them has to be, and which
check is the first to fail where one of them is not. Nothing is ever read beyond the end of the
datagram.
-/

set_option autoImplicit false

namespace VirtualRouter

namespace Checksum

def onesAdd (a b : Nat) : Nat := if a + b < 65536 then a + b else a + b - 65535

def onesSum : Octets → Nat
  | [] => 0
  | [x] => 256 * x.toNat
  | x :: y :: r => onesAdd (256 * x.toNat + y.toNat) (onesSum r)

theorem onesAdd_residue {w : Nat} (word : w < 65536) (s : Nat) :
    onesAdd w (residue s) = residue (w + s) := by
  unfold onesAdd residue
  split_ifs <;> omega

theorem onesSum_eq_residue (d : Octets) : onesSum d = residue (wordSum d) := by
  induction d using onesSum.induct with
  | case1 => rfl
  | case2 x =>
    have := x.toNat_lt
    rw [onesSum, wordSum, residue]
    split <;> omega
  | case3 x y r ih =>
    have := x.toNat_lt
    have := y.toNat_lt
    rw [onesSum, wordSum, ih, onesAdd_residue (by omega)]

theorem length_pseudoHeader (src dst : IPv4) (length : UInt16) :
    (pseudoHeader src dst length).length = 12 := rfl

-- The prefix is folded word by word before the text, so its partial sum is only a residue.
theorem checksum_eq_zero_iff_onesSum {a : Octets} (d : Octets) (even : a.length % 2 = 0) :
    checksum d (partialSum a 0) = 0 ↔ onesSum (a ++ d) = 65535 := by
  rw [checksum_eq_zero_iff, onesSum_eq_residue, wordSum_append d even, residue_partialSum_add]

end Checksum

structure Check where
  passes : Bool
  fault : Rejection

namespace Check

def verdict (checks : List Check) (rest : Except Rejection Advert) : Except Rejection Advert :=
  checks.foldr (fun c r => if c.passes then r else .error c.fault) rest

inductive FirstFault : List Check → Rejection → Prop
  | here {c : Check} {rest : List Check} (fails : c.passes = false) :
      FirstFault (c :: rest) c.fault
  | later {c : Check} {rest : List Check} {r : Rejection} (passes : c.passes = true)
      (found : FirstFault rest r) : FirstFault (c :: rest) r

variable {checks more : List Check} {rest rest' : Except Rejection Advert}

theorem verdict_cons (c : Check) (checks : List Check) (rest : Except Rejection Advert) :
    verdict (c :: checks) rest = if c.passes then verdict checks rest else .error c.fault := rfl

theorem verdict_append : verdict (checks ++ more) rest = verdict checks (verdict more rest) :=
  List.foldr_append

-- The proofs below know of a later stage only that all earlier checks have passed.
theorem verdict_congr (same : (∀ c ∈ checks, c.passes = true) → rest = rest') :
    verdict checks rest = verdict checks rest' := by
  induction checks with
  | nil => exact same nofun
  | cons c checks ih =>
    rw [verdict_cons, verdict_cons]
    by_cases passes : c.passes = true
    · rw [if_pos passes, if_pos passes]
      exact ih fun all => same (List.forall_mem_cons.mpr ⟨passes, all⟩)
    · rw [if_neg passes, if_neg passes]

theorem verdict_eq_ok_iff {a b : Advert} :
    verdict checks (.ok b) = .ok a ↔ (∀ c ∈ checks, c.passes = true) ∧ a = b := by
  induction checks with
  | nil =>
    exact ⟨fun same => ⟨nofun, (Except.ok.inj same).symm⟩, fun h => by rw [h.2]; rfl⟩
  | cons c checks ih =>
    rw [verdict_cons, List.forall_mem_cons]
    cases c.passes <;> simp [ih]

theorem verdict_eq_error_iff {r : Rejection} {b : Advert} :
    verdict checks (.ok b) = .error r ↔ FirstFault checks r := by
  constructor
  · intro refused
    induction checks with
    | nil => cases refused
    | cons c checks ih =>
      rw [verdict_cons] at refused
      cases passes : c.passes with
      | true =>
        rw [passes, if_pos rfl] at refused
        exact .later passes (ih refused)
      | false =>
        rw [passes] at refused
        cases refused
        exact .here passes
  · intro found
    induction found with
    | here fails => simp [verdict_cons, fails]
    | later passes _ ih => simpa [verdict_cons, passes] using ih

end Check

namespace Packet

theorem ofNumber_number (v : Version) : Version.ofNumber? v.number = some v := by
  cases v <;> rfl

theorem parse_eq {t : Octets} {v : Version} {n : Nat} (length : t.length = encodedLength v n)
    (version : t.byteAt 0 / 16 = v.number) :
    let count := (t.byteAt 3).toNat
    parse t = if count ≤ n then
        .ok ⟨v, t.byteAt 1, t.byteAt 2, authTypeIn v (t.byteAt 4),
          intervalIn v (t.byteAt 4) (t.byteAt 5), t.bigAt 6,
          addressesOf ((t.drop 8).take (4 * count))⟩
      else .error (.tooShort (encodedLength v n) (encodedLength v count)) := by
  intro count
  have header : ¬t.length < 8 := by rw [length, encodedLength]; omega
  have fits : t.length < encodedLength v count ↔ ¬count ≤ n := by
    simp only [length, encodedLength]
    omega
  unfold parse
  simp only [header, if_false, version, ofNumber_number]
  by_cases few : count ≤ n
  · rw [if_pos few, if_neg (fun short => fits.mp short few)]
  · rw [if_neg few, if_pos (fits.mpr few), length]

theorem addressesOf_take {t : Octets} {n : Nat} (long : 4 * n ≤ t.length) :
    addressesOf (t.take (4 * n)) = (List.range n).map fun i => IPv4.fromOctets t (4 * i) := by
  induction n generalizing t with
  | zero => rfl
  | succ n ih =>
    match t, long with
    | a :: b :: c :: e :: r, long =>
      have shorter : 4 * n ≤ r.length := by simp only [List.length_cons] at long; omega
      rw [show 4 * (n + 1) = 4 * n + 1 + 1 + 1 + 1 by omega]
      simp only [List.take_succ_cons, addressesOf, ih shorter, List.range_succ_eq_map,
        List.map_cons, List.map_map]
      rfl

end Packet

namespace Expectation
open Ipv4Header (lengthIn Whole)


def text (x : Expectation) (d : Octets) : Octets := (d.drop (lengthIn d)).take x.length

def covered (x : Expectation) (d : Octets) : Octets :=
  match x.version with
  | .v2 => x.text d
  | .v3 => Checksum.pseudoHeader (IPv4.fromOctets d 12) (IPv4.fromOctets d 16)
      (UInt16.ofNat x.length) ++ x.text d

def addressIn (d : Octets) (i : Nat) : IPv4 := IPv4.fromOctets d (lengthIn d + 8 + 4 * i)

/-- What a datagram has to be to carry an advertisement of the expected virtual router. -/
structure Grammar (x : Expectation) (d : Octets) : Prop where
  header : Whole d
  ttl : d.byteAt 8 = 255
  complete : lengthIn d + x.length ≤ min (d.bigAt 2).toNat d.length
  version : (d.byteAt (lengthIn d)).toNat / 16 = x.version.number.toNat
  verified : Checksum.onesSum (x.covered d) = 65535
  router : d.byteAt (lengthIn d + 1) = x.vrid
  count : (d.byteAt (lengthIn d + 3)).toNat = x.addresses.length
  plain : x.version = .v2 → d.byteAt (lengthIn d + 4) = 0
  interval : x.version = .v2 → (d.byteAt (lengthIn d + 5)).toNat = x.advertInterval.toNat
  addresses : ∀ i (h : i < x.addresses.length), addressIn d i = x.addresses[i]

def reading (x : Expectation) (d : Octets) : Advert where
  priority := d.byteAt (lengthIn d + 2)
  source := IPv4.fromOctets d 12
  interval := match x.version with
    | .v2 => none
    | .v3 => some (10000 * ((d.bigAt (lengthIn d + 4)).toNat % 4096))

def headerChecks (d : Octets) : List Check :=
  [⟨Whole d, .shortIpHeader d.length⟩, ⟨d.byteAt 8 = 255, .ttl (d.byteAt 8)⟩]

def payloadChecks (x : Expectation) (d : Octets) : List Check :=
  let count := (d.byteAt (lengthIn d + 3)).toNat
  [⟨lengthIn d < payloadEnd d, .tooShort 0 x.length⟩,
    ⟨(d.byteAt (lengthIn d)).toNat / 16 = x.version.number.toNat,
      .version (d.byteAt (lengthIn d) / 16)⟩,
    ⟨lengthIn d + x.length ≤ payloadEnd d, .tooShort (payloadEnd d - lengthIn d) x.length⟩,
    ⟨Checksum.onesSum (x.covered d) = 65535, .checksum⟩,
    ⟨count ≤ x.addresses.length, .tooShort x.length (Packet.encodedLength x.version count)⟩]

def addressChecks (x : Expectation) (d : Octets) : List Check :=
  x.addresses.mapIdx fun i a => ⟨addressIn d i = a, .addressMismatch i (addressIn d i)⟩

def intervalCheck (x : Expectation) (d : Octets) : Check :=
  let found := d.byteAt (lengthIn d + 5)
  ⟨x.version = .v2 → found.toNat = x.advertInterval.toNat,
    .interval (UInt16.ofNat found.toNat) x.advertInterval⟩

def contentChecks (x : Expectation) (d : Octets) : List Check :=
  let vrid := d.byteAt (lengthIn d + 1)
  let count := d.byteAt (lengthIn d + 3)
  let authType := d.byteAt (lengthIn d + 4)
  [⟨vrid = x.vrid, .router vrid⟩, ⟨x.version = .v2 → authType = 0, .authType authType⟩,
    ⟨x.addresses.length ≤ count.toNat, .addressCount count x.addresses.length⟩]
  ++ x.addressChecks d ++ [x.intervalCheck d]

def checks (x : Expectation) (d : Octets) : List Check :=
  headerChecks d ++ x.payloadChecks d ++ x.contentChecks d

def payload (d : Octets) : Octets := (d.take (max (payloadEnd d) (lengthIn d))).drop (lengthIn d)

theorem accept_eq_header (x : Expectation) (d : Octets) :
    x.accept d = Check.verdict (headerChecks d)
      (x.acceptPayload (Ipv4Header.fields d) (payload d)) := by
  unfold accept
  rw [Ipv4Header.parse_eq]
  simp only [headerChecks, Check.verdict_cons, decide_eq_true_eq]
  by_cases whole : Whole d
  · rw [if_pos whole, if_pos whole]
    by_cases ttl : d.byteAt 8 = 255
    · rw [if_pos ttl]
      exact if_neg (not_not_intro ttl)
    · rw [if_neg ttl]
      exact if_pos ttl
  · rw [if_neg whole, if_neg whole]

theorem length_payload {d : Octets} (whole : Whole d) :
    (payload d).length = payloadEnd d - lengthIn d := by
  have := whole.2.2
  simp only [payload, payloadEnd, List.length_drop, List.length_take]
  omega

theorem byteAt_payload {d : Octets} {i : Nat} (inside : lengthIn d + i < payloadEnd d) :
    (payload d).byteAt i = d.byteAt (lengthIn d + i) := by
  rw [payload, Octets.byteAt_drop, Octets.byteAt_take (by omega)]

theorem take_payload {x : Expectation} {d : Octets}
    (complete : lengthIn d + x.length ≤ payloadEnd d) :
    (payload d).take x.length = x.text d := by
  rw [payload, text, List.drop_take, List.take_take]
  congr 1
  omega

theorem length_text {x : Expectation} {d : Octets}
    (complete : lengthIn d + x.length ≤ payloadEnd d) : (x.text d).length = x.length := by
  unfold payloadEnd at complete
  rw [text, List.length_take, List.length_drop]
  omega

theorem byteAt_text {x : Expectation} {d : Octets} {i : Nat} (inside : i < x.length) :
    (x.text d).byteAt i = d.byteAt (lengthIn d + i) := by
  rw [text, Octets.byteAt_take inside, Octets.byteAt_drop]

theorem version_iff {d : Octets} {i : Nat} {v : Version} :
    (d.byteAt i).toNat / 16 = v.number.toNat ↔ d.byteAt i / 16 = v.number := by
  rw [← UInt8.toNat_inj, UInt8.toNat_div]
  rfl

theorem checksumOf_text_iff {x : Expectation} {d : Octets}
    (complete : lengthIn d + x.length ≤ payloadEnd d) :
    Packet.checksumOf x.version (x.text d) (IPv4.fromOctets d 12) (IPv4.fromOctets d 16) = 0 ↔
      Checksum.onesSum (x.covered d) = 65535 := by
  unfold covered Packet.checksumOf
  cases x.version with
  | v2 => exact Checksum.checksum_eq_zero_iff_onesSum (a := []) _ rfl
  | v3 =>
    dsimp only
    rw [Checksum.withPseudoHeader, length_text complete]
    exact Checksum.checksum_eq_zero_iff_onesSum _ (by rw [Checksum.length_pseudoHeader])

def packet (x : Expectation) (d : Octets) : Packet where
  version := x.version
  vrid := d.byteAt (lengthIn d + 1)
  priority := d.byteAt (lengthIn d + 2)
  authType := Packet.authTypeIn x.version (d.byteAt (lengthIn d + 4))
  advertInterval :=
    Packet.intervalIn x.version (d.byteAt (lengthIn d + 4)) (d.byteAt (lengthIn d + 5))
  checksum := d.bigAt (lengthIn d + 6)
  addresses := (List.range (d.byteAt (lengthIn d + 3)).toNat).map (addressIn d)

theorem addressesOf_text {x : Expectation} {d : Octets} {n : Nat}
    (complete : lengthIn d + x.length ≤ payloadEnd d) (few : n ≤ x.addresses.length) :
    Packet.addressesOf (((x.text d).drop 8).take (4 * n)) = (List.range n).map (addressIn d) := by
  have long : 8 + 4 * n ≤ x.length := by simp only [length, Packet.encodedLength]; omega
  rw [Packet.addressesOf_take (by rw [List.length_drop, length_text complete]; omega)]
  apply List.map_congr_left
  intro i listed
  have := List.mem_range.mp listed
  rw [IPv4.fromOctets_drop, text, IPv4.fromOctets_take (by omega), IPv4.fromOctets_drop,
    addressIn, Nat.add_assoc]

theorem parse_text {x : Expectation} {d : Octets}
    (complete : lengthIn d + x.length ≤ payloadEnd d)
    (version : d.byteAt (lengthIn d) / 16 = x.version.number) :
    let count := (d.byteAt (lengthIn d + 3)).toNat
    Packet.parse (x.text d) = if count ≤ x.addresses.length then .ok (x.packet d)
      else .error (.tooShort x.length (Packet.encodedLength x.version count)) := by
  intro count
  have eight : 8 ≤ x.length := by simp only [length, Packet.encodedLength]; omega
  have octet {i : Nat} (inside : i < 8) : (x.text d).byteAt i = d.byteAt (lengthIn d + i) :=
    byteAt_text (by omega)
  have word : (x.text d).bigAt 6 = d.bigAt (lengthIn d + 6) := by
    rw [Octets.bigAt, octet (by omega), octet (by omega)]
    rfl
  rw [Packet.parse_eq (length_text complete) ((congrArg (· / 16) (octet (by omega))).trans version)]
  simp only [octet (show 1 < 8 by omega), octet (show 2 < 8 by omega), octet (show 3 < 8 by omega),
    octet (show 4 < 8 by omega), octet (show 5 < 8 by omega), word]
  by_cases few : count ≤ x.addresses.length
  · rw [if_pos few, if_pos few, addressesOf_text complete few]
    rfl
  · rw [if_neg few, if_neg few]
    rfl

theorem acceptPayload_eq {x : Expectation} {d : Octets} (whole : Whole d) :
    x.acceptPayload (Ipv4Header.fields d) (payload d) = Check.verdict (x.payloadChecks d)
      (x.acceptPacket (IPv4.fromOctets d 12) (x.packet d)) := by
  have long := length_payload whole
  have eight : 8 ≤ x.length := by simp only [length, Packet.encodedLength]; omega
  have source : (Ipv4Header.fields d).src = IPv4.fromOctets d 12 := rfl
  have target : (Ipv4Header.fields d).dst = IPv4.fromOctets d 16 := rfl
  unfold acceptPayload
  simp only [payloadChecks, Check.verdict_cons, decide_eq_true_eq, version_iff]
  by_cases nonempty : lengthIn d < payloadEnd d
  · have first : (payload d).byteAt 0 = d.byteAt (lengthIn d) := byteAt_payload nonempty
    rw [if_pos nonempty, if_neg (by rw [List.isEmpty_iff_length_eq_zero]; omega), first]
    by_cases version : d.byteAt (lengthIn d) / 16 = x.version.number
    · rw [if_pos version, if_neg (not_not_intro version)]
      by_cases complete : lengthIn d + x.length ≤ payloadEnd d
      · rw [if_pos complete, if_neg (by omega), take_payload complete]
        have zero := checksumOf_text_iff complete
        by_cases verified : Checksum.onesSum (x.covered d) = 65535
        · rw [if_pos verified, source, target, if_neg (not_not_intro (zero.mpr verified)),
            parse_text complete version]
          split_ifs <;> rfl
        · rw [if_neg verified, source, target, if_pos (mt zero.mp verified)]
      · rw [if_neg complete, if_pos (by omega), long]
    · rw [if_neg version, if_pos version]
  · rw [if_neg nonempty, if_pos (by rw [List.isEmpty_iff_length_eq_zero]; omega)]

theorem firstMismatch_eq_verdict (f : Nat → IPv4) (l : List IPv4) (k : Nat)
    (rest : Except Rejection Advert) :
    (match firstMismatch? k ((List.range l.length).map f) l with
      | some (i, a) => .error (.addressMismatch i a)
      | none => rest) =
    Check.verdict (l.mapIdx fun i a => ⟨f i = a, .addressMismatch (k + i) (f i)⟩) rest := by
  -- Going on in the list moves both the positions and the addresses that are found there.
  induction l generalizing f k with
  | nil => rfl
  | cons a l ih =>
    rw [List.length_cons, List.range_succ_eq_map, List.map_cons, List.map_map, List.mapIdx_cons,
      Check.verdict_cons, firstMismatch?]
    by_cases same : f 0 = a
    · rw [if_pos same, if_pos (decide_eq_true same)]
      have shifted : (fun i b => (⟨f (i + 1) = b, .addressMismatch (k + (i + 1)) (f (i + 1))⟩ :
          Check)) = fun i b => ⟨f (i + 1) = b, .addressMismatch (k + 1 + i) (f (i + 1))⟩ := by
        funext i b
        rw [Nat.add_assoc k 1 i, Nat.add_comm 1 i]
      rw [shifted]
      exact ih (fun i => f (i + 1)) (k + 1)
    · rw [if_neg same, if_neg (by simpa using same)]
      rfl

theorem intervalMicros_hundredths (a b : UInt8) :
    Version.v3.intervalMicros (Packet.intervalIn .v3 a b) =
      10000 * ((Octets.word16 a b).toNat % 4096) := by
  have := a.toNat_lt
  have := b.toNat_lt
  have low : (a % 16).toNat = a.toNat % 16 := UInt8.toNat_mod a 16
  simp only [Packet.intervalIn, Version.intervalMicros, Version.unitMicros, Octets.word16,
    UInt16.toNat_ofNat', low]
  omega

theorem acceptInterval_eq (x : Expectation) (d : Octets) :
    (match x.version with
      | .v2 =>
        if (x.packet d).advertInterval ≠ x.advertInterval then
          .error (.interval (x.packet d).advertInterval x.advertInterval)
        else .ok ⟨(x.packet d).priority, IPv4.fromOctets d 12, none⟩
      | .v3 => .ok ⟨(x.packet d).priority, IPv4.fromOctets d 12,
          some (x.version.intervalMicros (x.packet d).advertInterval)⟩) =
    Check.verdict [x.intervalCheck d] (.ok (x.reading d)) := by
  obtain ⟨v, vrid, addresses, interval⟩ := x
  cases v with
  | v2 =>
    have same : UInt16.ofNat (d.byteAt (lengthIn d + 5)).toNat = interval ↔
        (d.byteAt (lengthIn d + 5)).toNat = interval.toNat := by
      have := (d.byteAt (lengthIn d + 5)).toNat_lt
      rw [← UInt16.toNat_inj, UInt16.toNat_ofNat', Nat.mod_eq_of_lt (by omega)]
    simp only [intervalCheck, Check.verdict_cons, decide_eq_true_eq, packet, Packet.intervalIn,
      ne_eq, same, forall_const]
    split_ifs <;> trivial
  | v3 =>
    simp only [packet, intervalMicros_hundredths]
    rfl

-- More addresses than expected never get here, so the check of the count is for fewer ones only.
theorem acceptPacket_eq {x : Expectation} {d : Octets}
    (few : (d.byteAt (lengthIn d + 3)).toNat ≤ x.addresses.length) :
    x.acceptPacket (IPv4.fromOctets d 12) (x.packet d) =
      Check.verdict (x.contentChecks d) (.ok (x.reading d)) := by
  have listed : (x.packet d).addresses.length = (d.byteAt (lengthIn d + 3)).toNat := by
    simp [packet]
  have router : (x.packet d).vrid = d.byteAt (lengthIn d + 1) := rfl
  have plain : (x.version = .v2 ∧ (x.packet d).authType ≠ 0) ↔
      ¬(x.version = .v2 → d.byteAt (lengthIn d + 4) = 0) := by
    unfold packet
    cases x.version <;> simp [Packet.authTypeIn]
  unfold acceptPacket
  rw [contentChecks, Check.verdict_append, Check.verdict_append, router, listed]
  simp only [Check.verdict_cons, decide_eq_true_eq]
  by_cases router : d.byteAt (lengthIn d + 1) = x.vrid
  · rw [if_pos router, if_neg (not_not_intro router)]
    by_cases authType : x.version = .v2 → d.byteAt (lengthIn d + 4) = 0
    · rw [if_pos authType, if_neg (fun h => plain.mp h authType)]
      by_cases many : x.addresses.length ≤ (d.byteAt (lengthIn d + 3)).toNat
      · have count : (d.byteAt (lengthIn d + 3)).toNat = x.addresses.length := by omega
        rw [if_pos many, if_neg (not_not_intro count)]
        have addresses : (x.packet d).addresses =
            (List.range x.addresses.length).map (addressIn d) := by rw [← count]; rfl
        have compared := firstMismatch_eq_verdict (addressIn d) x.addresses 0
          (Check.verdict [x.intervalCheck d] (.ok (x.reading d)))
        simp only [Nat.zero_add] at compared
        refine Eq.trans ?_ compared
        rw [addresses]
        cases firstMismatch? 0 ((List.range x.addresses.length).map (addressIn d)) x.addresses with
        | none => exact acceptInterval_eq x d
        | some => rfl
      · rw [if_neg many, if_pos (by omega), UInt8.ofNat_toNat]
    · have version : x.version = .v2 := (plain.mpr authType).1
      rw [if_neg authType, if_pos (plain.mpr authType), packet, version]
      rfl
  · rw [if_neg router, if_pos router]

/-- Accepting a datagram is making the checks on its octets in their order. -/
theorem accept_eq_verdict (x : Expectation) (d : Octets) :
    x.accept d = Check.verdict (x.checks d) (.ok (x.reading d)) := by
  rw [accept_eq_header, checks, Check.verdict_append, Check.verdict_append]
  apply Check.verdict_congr
  intro header
  have whole : Whole d := of_decide_eq_true (header ⟨Whole d, _⟩ List.mem_cons_self)
  rw [acceptPayload_eq whole]
  apply Check.verdict_congr
  intro readable
  simp only [payloadChecks, List.forall_mem_cons, decide_eq_true_eq] at readable
  exact acceptPacket_eq readable.2.2.2.2.1

theorem addressChecks_pass_iff (x : Expectation) (d : Octets) :
    (∀ c ∈ x.addressChecks d, c.passes = true) ↔
      ∀ i (h : i < x.addresses.length), addressIn d i = x.addresses[i] := by
  simp only [addressChecks, List.mem_mapIdx]
  constructor
  · intro pass i h
    exact of_decide_eq_true (pass _ ⟨i, h, rfl⟩)
  · rintro same _ ⟨i, h, rfl⟩
    exact decide_eq_true (same i h)

theorem checks_pass_iff (x : Expectation) (d : Octets) :
    (∀ c ∈ x.checks d, c.passes = true) ↔ x.Grammar d := by
  simp only [checks, headerChecks, payloadChecks, contentChecks, intervalCheck,
    List.forall_mem_append, List.forall_mem_cons, List.not_mem_nil, false_imp_iff, implies_true,
    and_true, decide_eq_true_eq, addressChecks_pass_iff]
  constructor
  · rintro ⟨⟨⟨whole, ttl⟩, -, version, complete, verified, few⟩,
      ⟨⟨router, plain, many⟩, addresses⟩, interval⟩
    exact ⟨whole, ttl, complete, version, verified, router, Nat.le_antisymm few many, plain,
      interval, addresses⟩
  · intro g
    have eight : 8 ≤ x.length := by simp only [length, Packet.encodedLength]; omega
    have complete : lengthIn d + x.length ≤ payloadEnd d := g.complete
    exact ⟨⟨⟨g.header, g.ttl⟩, by omega, g.version, complete, g.verified,
      Nat.le_of_eq g.count⟩,
      ⟨⟨g.router, g.plain, Nat.le_of_eq g.count.symm⟩, g.addresses⟩, g.interval⟩

/-- A datagram is accepted exactly when it is in the grammar, with what its octets say. Else the
first check that fails is reported. No octet beyond an end is ever read. -/
theorem accepts_exactly_grammar (x : Expectation) (d : Octets) :
    (∀ a, x.accept d = .ok a ↔ x.Grammar d ∧ a = x.reading d) ∧
    (∀ r, x.accept d = .error r ↔ Check.FirstFault (x.checks d) r) ∧
    x.accept? d = some (x.accept d) := by
  refine ⟨fun a => ?_, fun r => ?_, x.accept?_eq_some d⟩
  · rw [accept_eq_verdict, Check.verdict_eq_ok_iff, checks_pass_iff]
  · rw [accept_eq_verdict, Check.verdict_eq_error_iff]

end Expectation
end VirtualRouter
