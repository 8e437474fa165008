import VirtualRouter.Route.Message
import VirtualRouter.Proofs.RouteCodec

/-!
# Saved routes survive the round trip

The routes that a dump reports are the ones that are added again. Padding makes every message
end where the next one is looked for, so that messages in sequence are read one after the other,
up to a message that ends the dump.
-/

set_option autoImplicit false

namespace VirtualRouter

namespace Route

structure Restorable (r : Route) : Prop where
  table : r.table = 254
  uncloned : r.flags &&& 0x200 = 0
  unredirected : r.protocol ≠ 1
  own : r.protocol ≠ 2
  unicast : r.kind = 1
  through : r.oif ≠ 0

theorem isRestorable_iff {r : Route} : r.isRestorable = true ↔ r.Restorable := by
  simp only [isRestorable, mainTable, clonedFlag, redirectProtocol, kernelProtocol, unicastKind,
    Bool.and_eq_true, beq_iff_eq, bne_iff_ne, ne_eq]
  constructor
  · rintro ⟨⟨⟨⟨⟨table, uncloned⟩, unredirected⟩, own⟩, unicast⟩, through⟩
    exact ⟨table, uncloned, unredirected, own, unicast, through⟩
  · rintro ⟨table, uncloned, unredirected, own, unicast, through⟩
    exact ⟨⟨⟨⟨⟨table, uncloned⟩, unredirected⟩, own⟩, unicast⟩, through⟩

instance : DecidablePred Restorable := fun _ => decidable_of_iff _ isRestorable_iff

end Route

namespace RouteMessage

theorem length_encode (kind flags : UInt16) (sequence : UInt32) (body : Octets) :
    (encode kind flags sequence body).length = headerLength + body.length := by
  simp only [encode, headerLength, List.length_append, Octets.length_little32,
    Octets.length_little16]

/-- A message says its own length, and what is behind its header is its body. -/
theorem encode_reads (kind flags : UInt16) (sequence : UInt32) {body : Octets}
    (short : headerLength + body.length < 2 ^ 32) :
    let message := encode kind flags sequence body
    (message.doubleAt 0).toNat = message.length ∧ message.littleAt 4 = kind ∧
      message.drop headerLength = body := by
  refine ⟨?_, Octets.word16_big16 kind, List.drop_left' rfl⟩
  have field : (encode kind flags sequence body).doubleAt 0 =
      UInt32.ofNat (headerLength + body.length) := Octets.word32_little32 _
  rw [field, length_encode, UInt32.toNat_ofNat', Nat.mod_eq_of_lt short]

structure EndMark (m : Octets) : Prop where
  header : headerLength ≤ m.length
  length : (m.doubleAt 0).toNat = m.length
  kind : m.littleAt 4 = doneKind

theorem endMark_encode (flags : UInt16) (sequence : UInt32) {body : Octets}
    (short : headerLength + body.length < 2 ^ 32) :
    EndMark (encode doneKind flags sequence body) := by
  obtain ⟨length, kind, -⟩ := encode_reads doneKind flags sequence short
  refine ⟨?_, length, kind⟩
  rw [length_encode]
  exact Nat.le_add_right _ _

def newRoutes (l : List (Route × UInt32)) : Octets := l.flatMap fun x => newRoute x.1 x.2

end RouteMessage

namespace DumpChunk
open RouteMessage

theorem keep_eq (c : DumpChunk) (r : Route) :
    c.keep r = { c with routes := c.routes ++ [r].filter fun r => r.Restorable } := by
  unfold keep
  by_cases restorable : r.isRestorable
  · have own := Route.isRestorable_iff.mp restorable
    simp [restorable, own]
  · have other := mt Route.isRestorable_iff.mpr restorable
    simp [restorable, other]

/-- What is behind a message does not change what its header says. -/
theorem header_append {m : Octets} (whole : headerLength ≤ m.length) (rest : Octets) :
    (m ++ rest).doubleAt 0 = m.doubleAt 0 ∧ (m ++ rest).littleAt 4 = m.littleAt 4 := by
  unfold headerLength at whole
  exact ⟨Octets.doubleAt_append (by omega), Octets.littleAt_append (by omega)⟩

theorem readFrom_newRoute (c : DumpChunk) {r : Route} (fits : r.Fits) (sequence : UInt32)
    (rest : Octets) :
    readFrom c (newRoute r sequence ++ rest) = readFrom (c.keep r) rest := by
  have short := Route.length_body_lt fits
  have size : (newRoute r sequence).length = headerLength + r.body.length := length_encode _ _ _ _
  have whole : headerLength ≤ (newRoute r sequence).length := by omega
  have padded : Route.align4 (newRoute r sequence).length = (newRoute r sequence).length := by
    have := Route.body_whole r
    refine Route.align4_of_dvd ?_
    rw [size, headerLength]
    omega
  obtain ⟨length, kind, body⟩ : ((newRoute r sequence).doubleAt 0).toNat =
      (newRoute r sequence).length ∧ (newRoute r sequence).littleAt 4 = newRouteKind ∧
      (newRoute r sequence).drop headerLength = r.body :=
    encode_reads _ _ _ (by unfold headerLength; omega)
  obtain ⟨length', kind'⟩ := header_append whole rest
  rw [readFrom.eq_def]
  simp only [length', kind', length, kind, List.take_left, body, padded, List.drop_left,
    Route.parse_body fits, List.length_append]
  rw [if_neg (by omega), if_neg (by omega), if_neg (by decide), if_neg (by decide), if_pos trivial]

/-- The end mark hides whatever follows it. -/
theorem readFrom_endMark (c : DumpChunk) {m : Octets} (mark : EndMark m) (rest : Octets) :
    readFrom c (m ++ rest) = .ok { c with done := true } := by
  have whole := mark.header
  obtain ⟨length, kind⟩ := header_append whole rest
  rw [readFrom.eq_def]
  simp only [length, kind, mark.length, mark.kind, List.length_append]
  rw [if_neg (by omega), if_neg (by omega), if_pos trivial]

/-- The restorable ones among routes that were written are kept, in their order. -/
theorem readFrom_newRoutes (c : DumpChunk) {l : List (Route × UInt32)}
    (fits : ∀ x ∈ l, x.1.Fits) (rest : Octets) :
    readFrom c (newRoutes l ++ rest) =
      readFrom { c with
        routes := c.routes ++ (l.map Prod.fst).filter fun r => r.Restorable } rest := by
  induction l generalizing c with
  | nil => simp [newRoutes]
  | cons x l ih =>
    obtain ⟨first, later⟩ := List.forall_mem_cons.mp fits
    change readFrom c (newRoute x.1 x.2 ++ newRoutes l ++ rest) = _
    rw [List.append_assoc, readFrom_newRoute c first, ih _ later, keep_eq, List.append_assoc,
      ← List.filter_append]
    rfl

theorem readFrom_nil (c : DumpChunk) : readFrom c [] = .ok c := by
  rw [readFrom.eq_def]
  rfl

def Kept (routes : List Route) : Prop := ∀ r ∈ routes, r.Fits ∧ r.Restorable

theorem kept_keep {c : DumpChunk} {r : Route} (kept : Kept c.routes) (fits : r.Fits) :
    Kept (c.keep r).routes := by
  rw [keep_eq]
  refine List.forall_mem_append.mpr ⟨kept, fun s member => ?_⟩
  obtain ⟨same, restorable⟩ := List.mem_filter.mp member
  cases List.mem_singleton.mp same
  exact ⟨fits, of_decide_eq_true restorable⟩

/-- Every route that is read out of a dump is restorable, and can be written again. -/
theorem kept_of_readFrom {c c' : DumpChunk} {d : Octets} (kept : Kept c.routes)
    (read : readFrom c d = .ok c') : Kept c'.routes := by
  fun_induction readFrom c d with
  | case1 | case3 =>
    cases read
    exact kept
  | case2 | case4 | case5 => cases read
  | case6 _ _ _ _ _ _ _ _ _ _ r parsed ih =>
    exact ih (kept_keep kept (Route.fits_of_parse parsed)) read
  | case7 _ _ _ _ _ _ _ _ _ ih => exact ih kept read

/-- Routes that are written and read back are the same routes. Of any routes with metrics that
fit into an attribute, exactly the restorable ones come back, up to the end mark if there is
one. What was read, out of one message or out of a dump, always comes back, in whatever order it
is written. -/
theorem routes_survive_round_trip :
    (∀ l : List (Route × UInt32), (∀ x ∈ l, ∀ m ∈ x.1.metrics, m.length ≤ 65531) →
      read (newRoutes l) = .ok ⟨(l.map Prod.fst).filter fun r => r.Restorable, false⟩ ∧
      ∀ k mark rest, EndMark mark → read (newRoutes (l.take k) ++ mark ++ rest) =
        .ok ⟨((l.take k).map Prod.fst).filter fun r => r.Restorable, true⟩) ∧
    (∀ d r, Route.parse d = .ok r → Route.parse r.body = .ok r) ∧
    ∀ d c, read d = .ok c → ∀ l : List (Route × UInt32), (∀ x ∈ l, x.1 ∈ c.routes) →
      read (newRoutes l) = .ok ⟨l.map Prod.fst, false⟩ := by
  have whole {l : List (Route × UInt32)} (fits : ∀ x ∈ l, x.1.Fits) :
      read (newRoutes l) = .ok ⟨(l.map Prod.fst).filter fun r => r.Restorable, false⟩ := by
    have all := readFrom_newRoutes empty fits []
    rwa [List.append_nil, readFrom_nil] at all
  refine ⟨fun l fits => ⟨whole fits, fun k mark rest ends => ?_⟩,
    fun d r parsed => Route.parse_body (Route.fits_of_parse parsed), fun d c known l among => ?_⟩
  · rw [List.append_assoc, read,
      readFrom_newRoutes empty fun x member => fits x (List.mem_of_mem_take member),
      readFrom_endMark _ ends]
    rfl
  · have kept : Kept c.routes := kept_of_readFrom (c := empty) (by simp [Kept, empty]) known
    rw [whole fun x member => (kept _ (among x member)).1, List.filter_eq_self.mpr]
    intro r member
    obtain ⟨x, present, rfl⟩ := List.mem_map.mp member
    exact decide_eq_true (kept _ (among x present)).2

def viaGateway : Route where
  family := 2
  dstLen := 24
  srcLen := 0
  tos := 0
  table := 254
  protocol := 4
  scope := 0
  kind := 1
  flags := 0
  dst := some ⟨192, 168, 5, 0⟩
  src := none
  prefSrc := none
  gateway := some ⟨192, 168, 1, 254⟩
  oif := 7
  iif := none
  priority := some 100
  flow := none
  metrics := some [1, 2, 3, 4, 5]

/-- A static route comes back and one of the operating system itself does not. Of two output
interfaces the later one is read, and of a priority of three octets nothing. -/
theorem static_route_survives :
    let ofSystem : Route := { viaGateway with protocol := 2 }
    let twice := viaGateway.header ++ Route.encodeAll [(4, [7, 0, 0, 0]), (6, [1, 2, 3]),
      (4, [9, 0, 0, 0])]
    let mark := encode doneKind 2 42 [0, 0, 0, 0]
    EndMark mark ∧
    read (newRoutes [(viaGateway, 42), (ofSystem, 43)]) = .ok ⟨[viaGateway], false⟩ ∧
    read (newRoutes [(viaGateway, 42)] ++ mark ++ [1, 2, 3]) = .ok ⟨[viaGateway], true⟩ ∧
    (∃ r, r.oif = 9 ∧ r.priority = none ∧ Route.parse twice = .ok r ∧
      Route.parse r.body = .ok r) ∧
    read (newRoutes [(viaGateway, 1), (viaGateway, 2)]) =
      .ok ⟨[viaGateway, viaGateway], false⟩ := by
  intro ofSystem twice mark
  have ends : EndMark mark := endMark_encode 2 42 (by decide)
  obtain ⟨written, parsed, saved⟩ := routes_survive_round_trip
  obtain ⟨all, marked⟩ := written [(viaGateway, 42), (ofSystem, 43)]
    (by simp [ofSystem, viaGateway])
  have kept : [viaGateway, ofSystem].filter (fun r => r.Restorable) = [viaGateway] := by
    decide +kernel
  have own : [viaGateway].filter (fun r => r.Restorable) = [viaGateway] := by decide +kernel
  have ended := marked 1 mark [1, 2, 3] ends
  simp only [List.map_cons, List.map_nil, kept, List.take_succ_cons, List.take_zero, own]
    at all ended
  have known : Route.parse twice = .ok (viaGateway.bare.withAll [(4, [7, 0, 0, 0]),
      (6, [1, 2, 3]), (4, [9, 0, 0, 0])]) := by
    rw [Route.parse_header, Route.readAttributes_encodeAll _ (by simp)]
  exact ⟨ends, all, ended, ⟨_, rfl, rfl, known, parsed _ _ known⟩,
    saved _ _ all [(viaGateway, 1), (viaGateway, 2)] (by simp)⟩

end DumpChunk
end VirtualRouter
