import VirtualRouter.Proofs.PacketCodec
import VirtualRouter.Proofs.ResponderReplies

/-!
# Address resolution frames read back

Every octet of a frame is either fixed or carried by its body, so that the frames that are read
are the written ones, with anything behind them. A reply is written for requests alone and is
itself none, whoever reads it.
-/

set_option autoImplicit false

namespace VirtualRouter

namespace Octets

theorem take_drop_eq_map {d : Octets} {i n : Nat} (inside : i + n ≤ d.length) :
    (d.drop i).take n = (List.range n).map fun j => d.byteAt (i + j) := by
  refine List.ext_getElem (by simp; omega) fun j low _ => ?_
  have here : i + j < d.length := by
    rw [List.length_take] at low
    omega
  simp [byteAt, here]

theorem big16_bigAt {d : Octets} {i : Nat} (inside : i + 2 ≤ d.length) :
    big16 (d.bigAt i) = (d.drop i).take 2 := by
  rw [bigAt, big16_word16, take_drop_eq_map inside]
  rfl

theorem bigAt_eq_iff {d : Octets} {i : Nat} {w : UInt16} : d.bigAt i = w ↔
    d.byteAt i = UInt8.ofNat (w.toNat / 256) ∧ d.byteAt (i + 1) = UInt8.ofNat w.toNat := by
  constructor
  · rintro rfl
    have octets := big16_word16 (d.byteAt i) (d.byteAt (i + 1))
    obtain ⟨high, low⟩ := List.cons.inj octets
    exact ⟨high.symm, (List.cons.inj low).1.symm⟩
  · rintro ⟨high, low⟩
    rw [bigAt, high, low]
    exact word16_big16 w

end Octets

theorem Mac.octets_fromOctets {d : Octets} {i : Nat} (inside : i + 6 ≤ d.length) :
    (Mac.fromOctets d i).octets = (d.drop i).take 6 :=
  (Octets.take_drop_eq_map inside).symm

theorem IPv4.octets_fromOctets {d : Octets} {i : Nat} (inside : i + 4 ≤ d.length) :
    (IPv4.fromOctets d i).octets = (d.drop i).take 4 :=
  (Octets.take_drop_eq_map inside).symm

theorem IPv4.octets_inj {x y : IPv4} (same : x.octets = y.octets) : x = y := by
  cases x
  cases y
  simpa [IPv4.octets] using same

namespace ArpPacket
open Octets

theorem length_toFrame (p : ArpPacket) (dst src : Mac) :
    (p.toFrame dst src).length = frameLength := by
  simp only [toFrame, List.length_append, Mac.length_octets, IPv4.length_octets, length_big16]
  rfl

theorem parse?_toFrame (p : ArpPacket) (dst src : Mac) (rest : Octets) :
    parse? (p.toFrame dst src ++ rest) = some p := by
  have long : ¬(p.toFrame dst src ++ rest).length < frameLength := by
    rw [List.length_append, length_toFrame]
    omega
  rw [parse?, if_neg long]
  simp only [bodyOf, toFrame, bigAt, byteAt, big16, Mac.octets, Mac.fromOctets, IPv4.octets,
    IPv4.fromOctets, List.cons_append, List.nil_append, List.getD_cons_zero,
    List.getD_cons_succ, word16_big16]
  rfl

structure Resolves (f : Octets) : Prop where
  long : frameLength ≤ f.length
  ether : f.bigAt 12 = etherType
  hardware : f.bigAt 14 = hardwareType
  protocol : f.bigAt 16 = protocolType
  macLength : f.byteAt 18 = 6
  ipLength : f.byteAt 19 = 4

theorem parse?_iff_resolves {f : Octets} {p : ArpPacket} :
    parse? f = some p ↔ Resolves f ∧ p = bodyOf f := by
  unfold parse?
  constructor
  · intro read
    split at read
    · cases read
    · rename_i long
      split at read
      · rename_i checks
        obtain ⟨ether, hardware, protocol, macLength, ipLength⟩ := checks
        exact ⟨⟨Nat.not_lt.mp long, ether, hardware, protocol, macLength, ipLength⟩,
          (Option.some.inj read).symm⟩
      · cases read
  · rintro ⟨h, rfl⟩
    rw [if_neg (Nat.not_lt.mpr h.long),
      if_pos ⟨h.ether, h.hardware, h.protocol, h.macLength, h.ipLength⟩]

/-- A frame that resolves begins with what is written for its body, field by field. -/
theorem Resolves.toFrame {f : Octets} (h : Resolves f) :
    (bodyOf f).toFrame (Mac.fromOctets f 0) (Mac.fromOctets f 6) = f.take frameLength := by
  have long : 42 ≤ f.length := h.long
  have lengths : ([6, 4] : Octets) = (f.drop 18).take 2 := by
    rw [take_drop_eq_map (by omega), ← h.macLength, ← h.ipLength]
    rfl
  simp only [ArpPacket.toFrame, bodyOf, ← h.ether, ← h.hardware, ← h.protocol, lengths]
  rw [Mac.octets_fromOctets (by omega), Mac.octets_fromOctets (by omega),
    Mac.octets_fromOctets (by omega), Mac.octets_fromOctets (by omega),
    IPv4.octets_fromOctets (by omega), IPv4.octets_fromOctets (by omega),
    big16_bigAt (by omega), big16_bigAt (by omega), big16_bigAt (by omega),
    big16_bigAt (by omega), List.drop_zero]
  simp only [← List.take_add, frameLength]

theorem toFrame_of_parse? {f : Octets} {p : ArpPacket} (read : parse? f = some p) :
    p.toFrame (Mac.fromOctets f 0) (Mac.fromOctets f 6) = f.take frameLength := by
  obtain ⟨resolves, rfl⟩ := parse?_iff_resolves.mp read
  exact resolves.toFrame

/-- The body is read exactly if the frame begins with it, behind some Ethernet addresses. -/
theorem parse?_eq_some_iff {f : Octets} {p : ArpPacket} :
    parse? f = some p ↔ ∃ dst src, f.take frameLength = p.toFrame dst src := by
  constructor
  · exact fun read => ⟨_, _, (toFrame_of_parse? read).symm⟩
  · rintro ⟨dst, src, begins⟩
    rw [← List.take_append_drop frameLength f, begins]
    exact parse?_toFrame p dst src _

theorem parse?_congr {f g : Octets} (same : f.take frameLength = g.take frameLength) :
    parse? f = parse? g :=
  Option.ext fun p => by rw [parse?_eq_some_iff, parse?_eq_some_iff, same]

/-- Reading takes exactly what writing gives, with anything behind it. -/
theorem frames_read_back :
    (∀ (p : ArpPacket) (dst src : Mac) (rest : Octets),
      parse? (p.toFrame dst src ++ rest) = some p) ∧
    (∀ (f : Octets) (p : ArpPacket), parse? f = some p ↔
      f.take 42 = p.toFrame (Mac.fromOctets f 0) (Mac.fromOctets f 6)) ∧
    (∀ f : Octets, (∃ p, parse? f = some p) ↔
      ∃ (p : ArpPacket) (dst src : Mac) (rest : Octets), f = p.toFrame dst src ++ rest) ∧
    ∀ (mac : Mac) (ip : IPv4), parse? (gratuitous mac ip) = some ⟨1, mac, ip, mac, ip⟩ := by
  refine ⟨parse?_toFrame, fun f p => ?_, fun f => ?_, fun mac ip => ?_⟩
  · exact ⟨fun read => (toFrame_of_parse? read).symm,
      fun begins => parse?_eq_some_iff.mpr ⟨_, _, begins⟩⟩
  · constructor
    · rintro ⟨p, read⟩
      refine ⟨p, Mac.fromOctets f 0, Mac.fromOctets f 6, f.drop frameLength, ?_⟩
      rw [toFrame_of_parse? read, List.take_append_drop]
    · rintro ⟨p, dst, src, rest, rfl⟩
      exact ⟨p, parse?_toFrame p dst src rest⟩
  · have read := parse?_toFrame ⟨requestOp, mac, ip, mac, ip⟩ Mac.broadcast mac []
    rwa [List.append_nil] at read

/-- The frame asks on Ethernet who has the IPv4 address `target`, octet by octet. -/
structure Requests (f : Octets) (target : IPv4) : Prop where
  long : 42 ≤ f.length
  kind : (f.drop 12).take 10 = [0x08, 0x06, 0x00, 0x01, 0x08, 0x00, 6, 4, 0x00, 0x01]
  target : (f.drop 38).take 4 = target.octets

theorem kind_iff {f : Octets} (long : 42 ≤ f.length) :
    (f.drop 12).take 10 = [0x08, 0x06, 0x00, 0x01, 0x08, 0x00, 6, 4, 0x00, 0x01] ↔
      Resolves f ∧ f.bigAt 20 = requestOp := by
  have octets : (f.drop 12).take 10 = [f.byteAt 12, f.byteAt 13, f.byteAt 14, f.byteAt 15,
      f.byteAt 16, f.byteAt 17, f.byteAt 18, f.byteAt 19, f.byteAt 20, f.byteAt 21] :=
    take_drop_eq_map (by omega)
  have checks : Resolves f ↔ f.bigAt 12 = etherType ∧ f.bigAt 14 = hardwareType ∧
      f.bigAt 16 = protocolType ∧ f.byteAt 18 = 6 ∧ f.byteAt 19 = 4 :=
    ⟨fun ⟨_, e, h, p, m, i⟩ => ⟨e, h, p, m, i⟩, fun ⟨e, h, p, m, i⟩ => ⟨long, e, h, p, m, i⟩⟩
  simp only [octets, checks, bigAt_eq_iff, List.cons.injEq, and_true, and_assoc]
  exact Iff.rfl

theorem requests_iff {f : Octets} {target : IPv4} :
    Requests f target ↔ ∃ q, parse? f = some q ∧ q.op = requestOp ∧ q.targetIp = target := by
  constructor
  · rintro ⟨long, kind, asked⟩
    obtain ⟨resolves, op⟩ := (kind_iff long).mp kind
    refine ⟨bodyOf f, parse?_iff_resolves.mpr ⟨resolves, rfl⟩, op, IPv4.octets_inj ?_⟩
    exact (IPv4.octets_fromOctets (by omega)).trans asked
  · rintro ⟨q, read, op, rfl⟩
    obtain ⟨resolves, rfl⟩ := parse?_iff_resolves.mp read
    have long : 42 ≤ f.length := resolves.long
    exact ⟨long, (kind_iff long).mpr ⟨resolves, op⟩, (IPv4.octets_fromOctets (by omega)).symm⟩

theorem reply?_eq_some_iff {f : Octets} {own : IPv4} {addresses : List IPv4} {mac : Mac}
    {r : Octets} : reply? f own addresses mac = some r ↔
      ∃ q, parse? f = some q ∧ (q.op = requestOp ∧ q.targetIp ≠ own ∧ q.targetIp ∈ addresses) ∧
        r = q.answer mac := by
  unfold reply?
  cases read : parse? f with
  | none => simp
  | some q => simp [answer, eq_comm]

theorem parse?_answer (q : ArpPacket) (mac : Mac) (rest : Octets) :
    parse? (q.answer mac ++ rest) = some ⟨replyOp, mac, q.targetIp, q.senderMac, q.senderIp⟩ :=
  parse?_toFrame _ _ _ rest

/-- An answer asks for nothing, also with padding behind it. -/
theorem reply?_answer (q : ArpPacket) (mac : Mac) (rest : Octets) (own : IPv4)
    (addresses : List IPv4) (mac' : Mac) :
    reply? (q.answer mac ++ rest) own addresses mac' = none := by
  rw [reply?, parse?_answer]
  exact if_neg fun asks => absurd asks.1 (show replyOp ≠ requestOp by decide)

/-- A reply is given exactly to the requests for an address of the list that is not the own one,
whatever stands behind the frame. It tells the one who asked that the address is at `mac`, and
nobody replies to it. -/
theorem replies_to_requests_only (f : Octets) (own : IPv4) (addresses : List IPv4) (mac : Mac) :
    ((∃ r, reply? f own addresses mac = some r) ↔
      ∃ target, Requests f target ∧ target ∈ addresses ∧ target ≠ own) ∧
    (∀ g : Octets, g.take 42 = f.take 42 →
      reply? g own addresses mac = reply? f own addresses mac) ∧
    ∀ r, reply? f own addresses mac = some r →
      r.length = 42 ∧
      r.take 12 = (f.drop 22).take 6 ++ mac.octets ∧
      parse? r = some ⟨2, mac, IPv4.fromOctets f 38, Mac.fromOctets f 22,
        IPv4.fromOctets f 28⟩ ∧
      ∀ (padding : Octets) (own' : IPv4) (addresses' : List IPv4) (mac' : Mac),
        reply? (r ++ padding) own' addresses' mac' = none := by
  refine ⟨⟨?_, ?_⟩, fun g same => ?_, fun r replied => ?_⟩
  · rintro ⟨r, replied⟩
    obtain ⟨q, read, ⟨op, foreign, virtual⟩, -⟩ := reply?_eq_some_iff.mp replied
    exact ⟨q.targetIp, requests_iff.mpr ⟨q, read, op, rfl⟩, virtual, foreign⟩
  · rintro ⟨target, requests, virtual, foreign⟩
    obtain ⟨q, read, op, rfl⟩ := requests_iff.mp requests
    exact ⟨_, reply?_eq_some_iff.mpr ⟨q, read, ⟨op, foreign, virtual⟩, rfl⟩⟩
  · rw [reply?, reply?, parse?_congr same]
  · obtain ⟨q, read, -, rfl⟩ := reply?_eq_some_iff.mp replied
    obtain ⟨resolves, rfl⟩ := parse?_iff_resolves.mp read
    have long : 42 ≤ f.length := resolves.long
    refine ⟨length_toFrame _ _ _, ?_, ?_, reply?_answer _ mac⟩
    · rw [← Mac.octets_fromOctets (by omega)]
      rfl
    · have told := parse?_answer (bodyOf f) mac []
      rwa [List.append_nil] at told

theorem reply_to_padded_request :
    (requestBy ⟨10, 0, 0, 21⟩ ++ [0, 0]).take 42 = (requestBy ⟨10, 0, 0, 21⟩).take 42 ∧
    reply? (requestBy ⟨10, 0, 0, 21⟩) ⟨10, 0, 0, 2⟩ [⟨10, 0, 0, 100⟩] (Mac.ofRouter 1) =
      some ((askedBy ⟨10, 0, 0, 21⟩).answer (Mac.ofRouter 1)) ∧
    reply? (requestBy ⟨10, 0, 0, 21⟩ ++ [0, 0]) ⟨10, 0, 0, 2⟩ [⟨10, 0, 0, 100⟩] (Mac.ofRouter 1) =
      some ((askedBy ⟨10, 0, 0, 21⟩).answer (Mac.ofRouter 1)) ∧
    reply? ((askedBy ⟨10, 0, 0, 21⟩).answer (Mac.ofRouter 1) ++ [0, 0]) ⟨10, 0, 0, 2⟩
      [⟨10, 0, 0, 21⟩] (Mac.ofRouter 2) = none := by
  obtain ⟨-, unpadded, replied⟩ := replies_to_requests_only (requestBy ⟨10, 0, 0, 21⟩)
    ⟨10, 0, 0, 2⟩ [⟨10, 0, 0, 100⟩] (Mac.ofRouter 1)
  have same : (requestBy ⟨10, 0, 0, 21⟩ ++ [0, 0]).take 42 =
      (requestBy ⟨10, 0, 0, 21⟩).take 42 := by decide
  have reply : reply? (requestBy ⟨10, 0, 0, 21⟩) ⟨10, 0, 0, 2⟩ [⟨10, 0, 0, 100⟩]
      (Mac.ofRouter 1) = some ((askedBy ⟨10, 0, 0, 21⟩).answer (Mac.ofRouter 1)) := by decide
  obtain ⟨-, -, -, unanswered⟩ := replied _ reply
  exact ⟨same, reply, (unpadded _ same).trans reply, unanswered _ _ _ _⟩

end ArpPacket
end VirtualRouter
