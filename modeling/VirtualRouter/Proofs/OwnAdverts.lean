import VirtualRouter.Proofs.NodeHistory
import VirtualRouter.Proofs.AdvertRoundTrip
import VirtualRouter.Proofs.UsableConfigs

/-!
# What a node sends

All that a node sends are its own advertisements with its priority in effect, but for one
release at the very end of a run that ends a tenure. Its peers accept every one of them,
because a usable configuration fits into the fields of an advertisement.
-/

set_option autoImplicit false

namespace VirtualRouter

def Call.payload? : Call → Option Octets
  | .send payload => some payload
  | _ => none

/-- The payloads handed to the network, those that failed to be sent included, in order. -/
def payloads (t : List Exchange) : List Octets := (t.map Exchange.call).filterMap Call.payload?

theorem payloads_append (t u : List Exchange) :
    payloads (t ++ u) = payloads t ++ payloads u := by
  simp [payloads]

namespace Config

def packet (c : Config) (priority : UInt8) : Packet :=
  .advertising c.version c.vrid priority c.advertInterval c.addresses

def advert (c : Config) (b : Binding) (priority : UInt8) : Advert :=
  ⟨priority, b.address,
    match c.version with
    | .v2 => none
    | .v3 => some c.advertMicros⟩

structure Fits (c : Config) : Prop where
  priority : c.priority ≠ releasePriority
  count : c.addresses.length ≤ maxAddresses
  interval : c.advertInterval ≤ c.version.maxInterval

theorem fits_of_usable {c : Config} (usable : c.fault? = none) : c.Fits :=
  have checked := fault?_eq_none_iff.mp usable
  ⟨checked.priority, checked.count, checked.interval⟩

theorem parse_packet {c : Config} (h : c.Fits) (priority : UInt8) (src dst : IPv4) :
    ∃ sum, Packet.parse ((c.packet priority).encode src dst) =
      .ok { c.packet priority with checksum := sum } := by
  have count : c.addresses.length ≤ 255 := Nat.le_trans h.count (by decide)
  simpa using Packet.parse_encode (c.packet priority) src dst [] rfl h.interval count

theorem accept_packet {c : Config} (h : c.Fits) (priority : UInt8) (b : Binding)
    {x : Expectation} (expected : x.Matches (c.packet priority)) :
    x.accept (datagram ((c.packet priority).encode b.address IPv4.vrrpGroup) b.address
      requiredTtl) = .ok (c.advert b priority) :=
  Expectation.accept_datagram expected rfl h.interval
    (Nat.le_trans h.count (by decide)) b.address

end Config

namespace Node

theorem payload_eq (n : Node) (priority : UInt8) :
    n.payload priority = (n.config.packet priority).encode n.binding.address IPv4.vrrpGroup :=
  rfl

theorem payloads_takesOver {n m : Node} {t : List Exchange} (h : n.TakesOver t m) :
    payloads t = [n.payload n.priority] := by
  cases h with
  | mk switched sent u now announced =>
    have silent : n.announcements.filterMap Call.payload? = [] := by
      simp [announcements, Call.payload?]
    simp only [payloads, List.map_cons, List.map_append, announced, List.filterMap_cons,
      List.filterMap_append, silent]
    simp [Call.payload?]

theorem payloads_acts {n m : Node} {t : List Exchange} (acted : n.Acts t m) :
    ∃ k, payloads t = List.replicate k (n.payload n.priority) := by
  cases acted with
  | ownerTakesOver _ _ run => exact ⟨1, payloads_takesOver run⟩
  | @backupTakesOver t _ now _ _ run =>
    have same : payloads (⟨.clock, now⟩ :: t) = payloads t := rfl
    exact ⟨1, same.trans (payloads_takesOver run)⟩
  | advertises => exact ⟨1, rfl⟩
  | reasserts => exact ⟨1, rfl⟩
  | _ => exact ⟨0, rfl⟩

theorem payloads_releases {n m : Node} {t : List Exchange} {wasMaster : Bool}
    (h : n.Releases t wasMaster m) :
    payloads t = (if wasMaster then [n.payload releasePriority] else []) ∧
      (wasMaster = true ↔ m.role = .master) := by
  cases h with
  | master _ _ role => exact ⟨rfl, by simp [role]⟩
  | other role => exact ⟨rfl, by simp [role]⟩

theorem Life.payloads_eq {n₀ n : Node} {t : List Exchange} {w : Option Bool}
    (h : Life n₀ t w n) :
    (w = some true ↔ w ≠ none ∧ n.role = .master) ∧
    ∃ k, payloads t = List.replicate k (n₀.payload n₀.priority) ++
      if w = some true then [n₀.payload releasePriority] else [] := by
  induction h with
  | start => exact ⟨by simp, 0, rfl⟩
  | refused _ ih =>
    obtain ⟨-, k, sent⟩ := ih
    exact ⟨by simp, k, by rw [payloads_append, sent]; simp [payloads, Call.payload?]⟩
  | @acts t u n m before acted ih =>
    obtain ⟨-, k, sent⟩ := ih
    obtain ⟨j, more⟩ := payloads_acts acted
    have priority : n.priority = n₀.priority := congrArg (·.2.2) before.identity_eq
    refine ⟨by simp, k + j, ?_⟩
    have split : payloads (t ++ ⟨.shutdownRequested, false⟩ :: u) = payloads t ++ payloads u :=
      payloads_append t _
    rw [split, sent, more, payload_congr before.identity_eq, priority]
    simp [List.replicate_append_replicate]
  | @releases t u n m wasMaster before released ih =>
    obtain ⟨-, k, sent⟩ := ih
    obtain ⟨last, role⟩ := payloads_releases released
    refine ⟨by simpa using role, k, ?_⟩
    have split : payloads (t ++ ⟨.shutdownRequested, true⟩ :: u) = payloads t ++ payloads u :=
      payloads_append t _
    rw [split, sent, last, payload_congr before.identity_eq]
    simp

/-- The priority in effect of a node that starts, which is never that of a release. -/
theorem priority_start {c : Config} {b : Binding} {n : Node} (started : start c b = .ok n) :
    n.priority = (if c.owns b.address then ownerPriority else c.priority) ∧
      n.priority ≠ releasePriority := by
  obtain ⟨usable, p, effective, rfl⟩ := start_eq_ok_iff.mp started
  have nonzero := (Config.fits_of_usable usable).priority
  unfold effectivePriority at effective
  split_ifs at effective with owner reserved
  · cases effective
    have highest : ownerPriority ≠ releasePriority := by decide
    exact ⟨by simp [owner], highest⟩
  · cases effective
    exact ⟨by simp [owner], nonzero⟩

/-- What peers read in the advertisement of a node with any priority, whatever has happened to the
node since it was started. -/
theorem accept_payload {c : Config} {b : Binding} {n₀ n : Node} (started : start c b = .ok n₀)
    (same : n.identity = n₀.identity) (priority : UInt8) :
    Expectation.accept ⟨c.version, c.vrid, c.addresses, c.advertInterval⟩
      (datagram (n.payload priority) b.address 255) = .ok (c.advert b priority) := by
  have fits := Config.fits_of_usable (start_eq_ok_iff.mp started).1
  obtain ⟨config, binding⟩ := router_start started
  rw [payload_congr same, payload_eq, config, binding]
  exact Config.accept_packet fits priority b ⟨rfl, rfl, rfl, fun _ => rfl⟩

/-- A usable configuration is encoded without loss. Every payload of a node is accepted by
its peers as its own advertisement with the priority in effect; only the last one, when a run
that has returned found the node as master, gives up the role. -/
theorem own_adverts_accepted {c : Config} (usable : c.fault? = none) :
    (∀ (priority : UInt8) (src dst : IPv4), ∃ sum,
      Packet.parse ((Packet.advertising c.version c.vrid priority c.advertInterval
        c.addresses).encode src dst) =
        .ok ⟨c.version, c.vrid, priority, 0, c.advertInterval, sum, c.addresses⟩) ∧
    ∀ {b : Binding} {n₀ n : Node} {t : List Exchange} {w : Option Bool},
      start c b = .ok n₀ → History n₀ t w n →
        n₀.priority = (if c.owns b.address then ownerPriority else c.priority) ∧
        n₀.priority ≠ releasePriority ∧
        (w = some true ↔ w ≠ none ∧ n.role = .master) ∧
        ∃ k, ((payloads t).map fun payload =>
            Expectation.accept ⟨c.version, c.vrid, c.addresses, c.advertInterval⟩
              (datagram payload b.address 255)) =
          List.replicate k (.ok (c.advert b n₀.priority)) ++
            if w = some true then [.ok (c.advert b releasePriority)] else [] := by
  refine ⟨Config.parse_packet (Config.fits_of_usable usable), ?_⟩
  intro b n₀ n t w started h
  obtain ⟨role, k, sent⟩ := h.life.payloads_eq
  obtain ⟨priority, nonzero⟩ := priority_start started
  have accepted := accept_payload started rfl
  refine ⟨priority, nonzero, role, k, ?_⟩
  rw [sent, List.map_append, List.map_replicate, accepted]
  split_ifs
  · rw [List.map_singleton, accepted]
  · rfl

theorem own_adverts_of_one_tenure : ∃ t n k,
    Config.fault? .sample = none ∧ start .sample .sample = .ok sample ∧
      History sample t (some true) n ∧
      ((payloads t).map fun payload =>
          Expectation.accept ⟨.v3, 1, [⟨10, 0, 0, 100⟩], 100⟩
            (datagram payload ⟨10, 0, 0, 2⟩ 255)) =
        List.replicate k (.ok ⟨100, ⟨10, 0, 0, 2⟩, some 1000000⟩) ++
          [.ok ⟨0, ⟨10, 0, 0, 2⟩, some 1000000⟩] := by
  obtain ⟨t, n, h⟩ := history_sample
  obtain ⟨-, -, -, k, sent⟩ := (own_adverts_accepted (c := .sample) rfl).2 start_sample h
  exact ⟨t, n, k, rfl, start_sample, h, sent⟩

end Node
end VirtualRouter
