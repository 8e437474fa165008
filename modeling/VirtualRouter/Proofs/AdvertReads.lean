import VirtualRouter.Proofs.AdvertRoundTrip
import Mathlib.Tactic.SplitIfs

/-!
# Reading datagrams within their bounds

Each reader once more, over lookups and slices that give nothing where the list does not hold
all of what is asked for. These always give what the readers give, so no octet beyond an end is
ever asked for.
-/

set_option autoImplicit false

namespace VirtualRouter

namespace Octets

theorem byteAt_drop (d : Octets) (k i : Nat) : byteAt (d.drop k) i = d.byteAt (k + i) := by
  simp [byteAt, List.getD_eq_getElem?_getD]

theorem byteAt_take {d : Octets} {k i : Nat} (inside : i < k) :
    byteAt (d.take k) i = d.byteAt i := by
  simp [byteAt, List.getD_eq_getElem?_getD, inside]

theorem getElem?_eq_byteAt {d : Octets} {i : Nat} (inside : i < d.length) :
    d[i]? = some (d.byteAt i) := by
  simp [byteAt, List.getD_eq_getElem?_getD, inside]

def slice? (d : Octets) (start stop : Nat) : Option Octets :=
  if start ≤ stop ∧ stop ≤ d.length then some ((d.take stop).drop start) else none

def bigAt? (d : Octets) (i : Nat) : Option UInt16 := do
  return word16 (← d[i]?) (← d[i + 1]?)

theorem slice?_eq_some {d : Octets} {start stop : Nat} (ordered : start ≤ stop)
    (inside : stop ≤ d.length) : d.slice? start stop = some ((d.take stop).drop start) :=
  if_pos ⟨ordered, inside⟩

theorem bigAt?_eq_some {d : Octets} {i : Nat} (inside : i + 1 < d.length) :
    d.bigAt? i = some (d.bigAt i) := by
  simp [bigAt?, bigAt, getElem?_eq_byteAt inside, getElem?_eq_byteAt (Nat.lt_of_succ_lt inside)]

end Octets

namespace IPv4

theorem fromOctets_drop (d : Octets) (k i : Nat) :
    fromOctets (d.drop k) i = fromOctets d (k + i) := by
  simp only [fromOctets, Octets.byteAt_drop, Nat.add_assoc]

theorem fromOctets_take {d : Octets} {k i : Nat} (inside : i + 3 < k) :
    fromOctets (d.take k) i = fromOctets d i := by
  simp only [fromOctets, Octets.byteAt_take (show i < k by omega),
    Octets.byteAt_take (show i + 1 < k by omega), Octets.byteAt_take (show i + 2 < k by omega),
    Octets.byteAt_take inside]

def read? (d : Octets) (i : Nat) : Option IPv4 := do
  return ⟨← d[i]?, ← d[i + 1]?, ← d[i + 2]?, ← d[i + 3]?⟩

theorem read?_eq_some {d : Octets} {i : Nat} (inside : i + 3 < d.length) :
    read? d i = some (fromOctets d i) := by
  simp [read?, fromOctets, Octets.getElem?_eq_byteAt inside,
    Octets.getElem?_eq_byteAt (show i < d.length by omega),
    Octets.getElem?_eq_byteAt (show i + 1 < d.length by omega),
    Octets.getElem?_eq_byteAt (show i + 2 < d.length by omega)]

end IPv4

namespace Ipv4Header

def Whole (d : Octets) : Prop := 20 ≤ d.length ∧ 20 ≤ lengthIn d ∧ lengthIn d ≤ d.length

instance (d : Octets) : Decidable (Whole d) := inferInstanceAs (Decidable (_ ∧ _ ∧ _))

theorem parse_eq (d : Octets) :
    parse d = if Whole d then .ok (fields d) else .error (.shortIpHeader d.length) := by
  unfold parse
  by_cases whole : Whole d
  · rw [if_pos whole, if_neg (by unfold Whole at whole; omega)]
  · rw [if_neg whole, if_pos (by unfold Whole at whole; omega)]

def parse? (d : Octets) : Option (Except Rejection Ipv4Header) :=
  if d.length < 20 then return .error (.shortIpHeader d.length)
  else do
    let length := 4 * ((← d[0]?).toNat % 16)
    if length < 20 ∨ d.length < length then return .error (.shortIpHeader d.length)
    else return .ok {
      headerLength := length
      totalLength := (← d.bigAt? 2).toNat
      ttl := ← d[8]?
      src := ← IPv4.read? d 12
      dst := ← IPv4.read? d 16 }

theorem parse?_eq_some (d : Octets) : parse? d = some (parse d) := by
  unfold parse?
  by_cases short : d.length < 20
  · rw [if_pos short, parse_eq, if_neg (by unfold Whole; omega)]
    rfl
  · -- The header that is announced is compared with the datagram only after its first octet.
    have inside {i : Nat} (low : i < 20) : d[i]? = some (d.byteAt i) :=
      Octets.getElem?_eq_byteAt (by omega)
    rw [if_neg short, parse_eq, inside (by omega), inside (by omega),
      Octets.bigAt?_eq_some (by omega), IPv4.read?_eq_some (by omega),
      IPv4.read?_eq_some (by omega)]
    change (if lengthIn d < 20 ∨ d.length < lengthIn d then _ else _) = _
    by_cases whole : Whole d
    · rw [if_pos whole, if_neg (by unfold Whole at whole; omega)]
      rfl
    · rw [if_neg whole, if_pos (by unfold Whole at whole; omega)]
      rfl

end Ipv4Header

namespace Packet

def parse? (d : Octets) : Option (Except Rejection Packet) :=
  if d.length < 8 then return .error (.tooShort d.length 8)
  else do
    let nibble := (← d[0]?) / 16
    match Version.ofNumber? nibble with
    | none => return .error (.version nibble)
    | some v =>
      let count := (← d[3]?).toNat
      if d.length < encodedLength v count then
        return .error (.tooShort d.length (encodedLength v count))
      else return .ok {
        version := v
        vrid := ← d[1]?
        priority := ← d[2]?
        authType := authTypeIn v (← d[4]?)
        advertInterval := intervalIn v (← d[4]?) (← d[5]?)
        checksum := ← d.bigAt? 6
        addresses := addressesOf (← d.slice? 8 (8 + 4 * count)) }

theorem parse?_eq_some (d : Octets) : parse? d = some (parse d) := by
  unfold parse? parse
  by_cases short : d.length < 8
  · rw [if_pos short, if_pos short]
    rfl
  · have inside {i : Nat} (low : i < 8) : d[i]? = some (d.byteAt i) :=
      Octets.getElem?_eq_byteAt (by omega)
    rw [if_neg short, if_neg short]
    simp only [inside (show 0 < 8 by omega), inside (show 1 < 8 by omega),
      inside (show 2 < 8 by omega), inside (show 3 < 8 by omega), inside (show 4 < 8 by omega),
      inside (show 5 < 8 by omega), Octets.bigAt?_eq_some (show 6 + 1 < d.length by omega)]
    change (match Version.ofNumber? (d.byteAt 0 / 16) with
      | none => _
      | some v => if d.length < encodedLength v (d.byteAt 3).toNat then _ else _) = _
    cases Version.ofNumber? (d.byteAt 0 / 16) with
    | none => rfl
    | some v =>
      by_cases short : d.length < encodedLength v (d.byteAt 3).toNat
      · simp only [if_pos short]
        rfl
      · -- The announced length includes the addresses, whatever the version appends to them.
        have long : 8 + 4 * (d.byteAt 3).toNat ≤ d.length := by
          unfold encodedLength at short
          omega
        simp only [if_neg short, Octets.slice?_eq_some (Nat.le_add_right _ _) long,
          List.drop_take, Nat.add_sub_cancel_left]
        cases v <;> rfl

end Packet

namespace Expectation
open Ipv4Header (lengthIn Whole)

def payloadEnd (d : Octets) : Nat := min (d.bigAt 2).toNat d.length

def acceptPayload? (x : Expectation) (ip : Ipv4Header) (payload : Octets) :
    Option (Except Rejection Advert) :=
  match payload.head? with
  | none => return .error (.tooShort 0 x.length)
  | some first =>
    if first / 16 ≠ x.version.number then return .error (.version (first / 16))
    else if payload.length < x.length then return .error (.tooShort payload.length x.length)
    else do
      let text ← payload.slice? 0 x.length
      if Packet.checksumOf x.version text ip.src ip.dst ≠ 0 then return .error .checksum
      else match ← Packet.parse? text with
      | .error r => return .error r
      | .ok p => return x.acceptPacket ip.src p

theorem acceptPayload?_eq_some (x : Expectation) (ip : Ipv4Header) (payload : Octets) :
    x.acceptPayload? ip payload = some (x.acceptPayload ip payload) := by
  unfold acceptPayload? acceptPayload
  match payload with
  | [] => rfl
  | first :: rest =>
    have head : Octets.byteAt (first :: rest) 0 = first := rfl
    rw [head]
    simp only [List.head?_cons, List.isEmpty_cons, Bool.false_eq_true, if_false]
    by_cases version : first / 16 = x.version.number
    · rw [if_neg (not_not_intro version), if_neg (not_not_intro version)]
      by_cases short : (first :: rest).length < x.length
      · rw [if_pos short, if_pos short]
        rfl
      · rw [if_neg short, if_neg short,
          Octets.slice?_eq_some (Nat.zero_le _) (Nat.not_lt.mp short), List.drop_zero]
        simp only [Option.bind_eq_bind, Option.bind_some, Packet.parse?_eq_some]
        split_ifs
        · rfl
        · cases Packet.parse ((first :: rest).take x.length) <;> rfl
    · rw [if_pos version, if_pos version]
      rfl

def accept? (x : Expectation) (d : Octets) : Option (Except Rejection Advert) := do
  match ← Ipv4Header.parse? d with
  | .error r => return .error r
  | .ok ip =>
    if ip.ttl ≠ requiredTtl then return .error (.ttl ip.ttl)
    else
      let fin := max (min ip.totalLength d.length) ip.headerLength
      x.acceptPayload? ip (← d.slice? ip.headerLength fin)

/-- Accepting a datagram never reads beyond an end. -/
theorem accept?_eq_some (x : Expectation) (d : Octets) : x.accept? d = some (x.accept d) := by
  unfold accept? accept
  rw [Ipv4Header.parse?_eq_some, Ipv4Header.parse_eq]
  by_cases whole : Whole d
  · -- The slice ends no earlier than it starts, even where the header claims a total length
    -- that is shorter than itself.
    have inside : lengthIn d ≤ d.length := whole.2.2
    have ordered : lengthIn d ≤ max (payloadEnd d) (lengthIn d) := Nat.le_max_right _ _
    have slice := Octets.slice?_eq_some ordered
      (Nat.max_le.mpr ⟨Nat.min_le_right (d.bigAt 2).toNat d.length, inside⟩)
    rw [if_pos whole]
    simp only [Option.bind_eq_bind, Option.bind_some]
    by_cases ttl : (Ipv4Header.fields d).ttl = requiredTtl
    · rw [if_neg (not_not_intro ttl), if_neg (not_not_intro ttl)]
      change (d.slice? (lengthIn d) (max (payloadEnd d) (lengthIn d))).bind _ = _
      rw [slice, Option.bind_some, acceptPayload?_eq_some]
      rfl
    · rw [if_pos ttl, if_pos ttl]
      rfl
  · rw [if_neg whole]
    rfl

end Expectation
end VirtualRouter
