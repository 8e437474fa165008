import VirtualRouter.Node.Machine
import Mathlib.Tactic.SplitIfs

/-!
# What a node does in one step

Each function of the node is described by the exchanges it makes and the node it ends in.
`Acts` lists all that a step can do and `Releases` all that giving up the role can do, for
every answer of the surroundings. Later proofs split along these and never open the step.
-/

set_option autoImplicit false

namespace VirtualRouter

namespace Node
open Interaction

def identity (n : Node) : Config × Binding × UInt8 := (n.config, n.binding, n.priority)

theorem payload_congr {n m : Node} (h : m.identity = n.identity) (p : UInt8) :
    m.payload p = n.payload p := by
  simp only [identity, Prod.mk.injEq] at h
  simp only [payload, h.1, h.2.1]

theorem expectation_congr {n m : Node} (h : m.identity = n.identity) :
    m.expectation = n.expectation := by
  simp only [identity, Prod.mk.injEq] at h
  simp only [expectation, h.1]

theorem start_eq_ok_iff {c : Config} {b : Binding} {n : Node} :
    start c b = .ok n ↔ c.fault? = none ∧ ∃ p, effectivePriority c b = .ok p ∧
      n = ⟨c, b, p, Timers.start p c.advertMicros, .init, .zero⟩ := by
  unfold start
  cases c.fault? with
  | some f => simp
  | none => cases effectivePriority c b <;> simp [eq_comm]

theorem router_start {c : Config} {b : Binding} {n : Node} (started : start c b = .ok n) :
    n.config = c ∧ n.binding = b := by
  obtain ⟨-, p, -, rfl⟩ := start_eq_ok_iff.mp started
  exact ⟨rfl, rfl⟩

@[simp] theorem identity_afterSend (n : Node) (sent : Bool) :
    (n.afterSend sent).identity = n.identity := by
  cases sent <;> rfl

@[simp] theorem role_afterSend (n : Node) (sent : Bool) : (n.afterSend sent).role = n.role := by
  cases sent <;> rfl

@[simp] theorem identity_heard (n : Node) (rc : Reception) :
    (n.heard rc).1.identity = n.identity := by
  unfold heard
  split <;> try split
  all_goals rfl

@[simp] theorem timers_heard (n : Node) (rc : Reception) : (n.heard rc).1.timers = n.timers := by
  unfold heard
  split <;> try split
  all_goals rfl

@[simp] theorem role_heard (n : Node) (rc : Reception) : (n.heard rc).1.role = n.role := by
  unfold heard
  split <;> try split
  all_goals rfl

@[simp] theorem identity_mapTimers (n : Node) (f : Timers → Timers) :
    (n.mapTimers f).identity = n.identity := rfl

@[simp] theorem timers_mapTimers (n : Node) (f : Timers → Timers) :
    (n.mapTimers f).timers = f n.timers := rfl

@[simp] theorem role_mapTimers (n : Node) (f : Timers → Timers) :
    (n.mapTimers f).role = n.role := rfl

@[simp] theorem identity_toBackup (n : Node) (now : Nat) :
    (n.toBackup now).identity = n.identity := rfl

@[simp] theorem role_toBackup (n : Node) (now : Nat) : (n.toBackup now).role = .backup := rfl

@[simp] theorem identity_toMaster (n : Node) (now : Nat) :
    (n.toMaster now).identity = n.identity := rfl

@[simp] theorem identity_resync (n : Node) (a : Advert) : (n.resync a).identity = n.identity := by
  unfold resync
  split <;> rfl

@[simp] theorem role_resync (n : Node) (a : Advert) : (n.resync a).role = n.role := by
  unfold resync
  split <;> rfl

@[simp] theorem identity_backupHears (n : Node) (a : Advert) (now : Nat) :
    (n.backupHears a now).identity = n.identity := by
  unfold backupHears
  split_ifs <;> simp

@[simp] theorem role_backupHears (n : Node) (a : Advert) (now : Nat) :
    (n.backupHears a now).role = n.role := by
  unfold backupHears
  split_ifs <;> simp

def announcements (n : Node) : List Call :=
  n.config.addresses.map fun a => .announce n.binding.index n.virtualMac a

theorem announce_of_mem {n : Node} {u : List Exchange}
    (announced : u.map Exchange.call = n.announcements) {e : Exchange} (member : e ∈ u) :
    ∃ a told, e = ⟨.announce n.binding.index n.virtualMac a, told⟩ := by
  obtain ⟨call, told⟩ := e
  have called : call ∈ n.announcements := announced ▸ List.mem_map_of_mem member
  obtain ⟨a, -, rfl⟩ := List.mem_map.mp called
  exact ⟨a, told, rfl⟩

inductive TakesOver (n : Node) : List Exchange → Node → Prop
  | mk (switched sent : Bool) (u : List Exchange) (now : Nat)
      (announced : u.map Exchange.call = n.announcements) :
      TakesOver n
        (⟨.applyMac n.binding n.virtualMac .virtual, switched⟩ ::
          ⟨.send (n.payload n.priority), sent⟩ :: (u ++ [⟨.clock, now⟩]))
        ((n.afterSend sent).toMaster now)

/-- What one step exchanges and leads to, when no shutdown is requested. -/
inductive Acts (n : Node) : List Exchange → Node → Prop
  | ownerTakesOver {t : List Exchange} {m : Node} (role : n.role = .init)
      (owner : n.priority = ownerPriority) (run : n.TakesOver t m) : Acts n t m
  | standsBy (now : Nat) (role : n.role = .init) (other : n.priority ≠ ownerPriority) :
      Acts n [⟨.clock, now⟩] (n.toBackup now)
  | advertises (now later : Nat) (sent : Bool) (role : n.role = .master)
      (fired : n.timers.advertFired now = true) :
      Acts n [⟨.clock, now⟩, ⟨.send (n.payload n.priority), sent⟩, ⟨.clock, later⟩]
        ((n.afterSend sent).mapTimers (·.armAdvert later))
  | masterHearsNothing (now : Nat) (rc : Reception) (role : n.role = .master)
      (waiting : n.timers.advertFired now = false) (nothing : (n.heard rc).2 = none) :
      Acts n [⟨.clock, now⟩, ⟨.receive (n.timers.remaining now), rc⟩] (n.heard rc).1
  | reasserts (now later : Nat) (rc : Reception) (a : Advert) (sent : Bool)
      (role : n.role = .master) (waiting : n.timers.advertFired now = false)
      (accepted : (n.heard rc).2 = some a) (release : a.priority = releasePriority) :
      Acts n
        [⟨.clock, now⟩, ⟨.receive (n.timers.remaining now), rc⟩,
          ⟨.send (n.payload n.priority), sent⟩, ⟨.clock, later⟩]
        (((n.heard rc).1.afterSend sent).mapTimers (·.armAdvert later))
  | stepsDown (now later : Nat) (rc : Reception) (a : Advert) (switched : Bool)
      (role : n.role = .master) (waiting : n.timers.advertFired now = false)
      (accepted : (n.heard rc).2 = some a) (claim : a.priority ≠ releasePriority)
      (beaten : dominates a.priority a.source n.priority n.binding.address = true) :
      Acts n
        [⟨.clock, now⟩, ⟨.receive (n.timers.remaining now), rc⟩,
          ⟨.applyMac n.binding n.binding.mac .real, switched⟩, ⟨.clock, later⟩]
        (((n.heard rc).1.resync a).toBackup later)
  | ignores (now : Nat) (rc : Reception) (a : Advert) (role : n.role = .master)
      (waiting : n.timers.advertFired now = false) (accepted : (n.heard rc).2 = some a)
      (claim : a.priority ≠ releasePriority)
      (unbeaten : dominates a.priority a.source n.priority n.binding.address = false) :
      Acts n [⟨.clock, now⟩, ⟨.receive (n.timers.remaining now), rc⟩] (n.heard rc).1
  | backupTakesOver {t : List Exchange} {m : Node} (now : Nat) (role : n.role = .backup)
      (fired : n.timers.masterDownFired now = true) (run : n.TakesOver t m) :
      Acts n (⟨.clock, now⟩ :: t) m
  | backupHearsNothing (now : Nat) (rc : Reception) (role : n.role = .backup)
      (waiting : n.timers.masterDownFired now = false) (nothing : (n.heard rc).2 = none) :
      Acts n [⟨.clock, now⟩, ⟨.receive (n.timers.remaining now), rc⟩] (n.heard rc).1
  | backupHears (now later : Nat) (rc : Reception) (a : Advert) (role : n.role = .backup)
      (waiting : n.timers.masterDownFired now = false)
      (accepted : (n.heard rc).2 = some a) :
      Acts n [⟨.clock, now⟩, ⟨.receive (n.timers.remaining now), rc⟩, ⟨.clock, later⟩]
        ((n.heard rc).1.backupHears a later)

inductive Releases (n : Node) : List Exchange → Bool → Node → Prop
  | master (switched sent : Bool) (role : n.role = .master) :
      Releases n
        [⟨.applyMac n.binding n.binding.mac .real, switched⟩,
          ⟨.send (n.payload releasePriority), sent⟩]
        true ((n.afterSend sent).mapTimers (·.disarm))
  | other (role : n.role ≠ .master) : Releases n [] false (n.mapTimers (·.disarm))

theorem runs_sendAdvert_iff {n m : Node} {p : UInt8} {t : List Exchange} :
    (n.sendAdvert p).Runs t m ↔
      ∃ sent, t = [⟨.send (n.payload p), sent⟩] ∧ m = n.afterSend sent := by
  simp only [sendAdvert, call, ask_bind, done_bind, runs_ask_iff, pure_eq, runs_done_iff]
  constructor
  · rintro ⟨sent, _, rfl, rfl, rfl⟩
    exact ⟨sent, rfl, rfl⟩
  · rintro ⟨sent, rfl, rfl⟩
    exact ⟨sent, [], rfl, rfl, rfl⟩

theorem runs_assertRole_iff {n m : Node} {t : List Exchange} :
    n.assertRole.Runs t m ↔ ∃ sent now,
      t = [⟨.send (n.payload n.priority), sent⟩, ⟨.clock, now⟩] ∧
        m = (n.afterSend sent).mapTimers (·.armAdvert now) := by
  simp only [assertRole, runs_bind_iff, runs_sendAdvert_iff, call, ask_bind, done_bind,
    runs_ask_iff, pure_eq, runs_done_iff]
  constructor
  · rintro ⟨_, _, _, rfl, ⟨sent, rfl, rfl⟩, now, _, rfl, rfl, rfl⟩
    exact ⟨sent, now, rfl, rfl⟩
  · rintro ⟨sent, now, rfl, rfl⟩
    exact ⟨_, _, _, rfl, ⟨sent, rfl, rfl⟩, now, [], rfl, rfl, rfl⟩

theorem runs_announceAll_iff {n : Node} {l : List IPv4} {t : List Exchange} {x : Unit} :
    (n.announceAll l).Runs t x ↔
      t.map Exchange.call = l.map fun a => .announce n.binding.index n.virtualMac a := by
  induction l generalizing t with
  | nil => simp [announceAll, runs_done_iff]
  | cons a l ih =>
    simp only [announceAll, call, ask_bind, done_bind, runs_ask_iff, ih, List.map_cons]
    constructor
    · rintro ⟨told, t', rfl, h⟩
      simp [h]
    · intro h
      obtain ⟨⟨c, told⟩, t', rfl, rfl, rest⟩ := List.map_eq_cons_iff.mp h
      exact ⟨told, t', rfl, rest⟩

theorem runs_becomeMaster_iff {n m : Node} {t : List Exchange} :
    n.becomeMaster.Runs t m ↔ n.TakesOver t m := by
  have announced (sent : Bool) :
      ((n.afterSend sent).config.addresses.map fun a =>
        Call.announce (n.afterSend sent).binding.index (n.afterSend sent).virtualMac a) =
      n.announcements := by cases sent <;> rfl
  simp only [becomeMaster, call, ask_bind, done_bind, runs_ask_iff, runs_bind_iff,
    runs_sendAdvert_iff, runs_announceAll_iff, pure_eq, runs_done_iff]
  constructor
  · rintro ⟨switched, _, rfl, _, _, _, rfl, ⟨sent, rfl, rfl⟩, _, u, _, rfl, h, now, _, rfl,
      rfl, rfl⟩
    exact .mk switched sent u now (h.trans (announced sent))
  · rintro ⟨switched, sent, u, now, h⟩
    exact ⟨switched, _, rfl, _, _, _, rfl, ⟨sent, rfl, rfl⟩, (), u, _, rfl,
      h.trans (announced sent).symm, now, [], rfl, rfl, rfl⟩

theorem runs_becomeBackup_iff {n m : Node} {t : List Exchange} :
    n.becomeBackup.Runs t m ↔ ∃ now, t = [⟨.clock, now⟩] ∧ m = n.toBackup now := by
  simp only [becomeBackup, call, ask_bind, done_bind, runs_ask_iff, pure_eq, runs_done_iff]
  constructor
  · rintro ⟨now, _, rfl, rfl, rfl⟩
    exact ⟨now, rfl, rfl⟩
  · rintro ⟨now, rfl, rfl⟩
    exact ⟨now, [], rfl, rfl, rfl⟩

theorem receive_eq (n : Node) (timeout : Nat) :
    n.receive timeout = ask (.receive timeout) fun rc => .done (n.heard rc) := rfl

theorem runs_receive_iff {n : Node} {timeout : Nat} {t : List Exchange}
    {x : Node × Option Advert} :
    (n.receive timeout).Runs t x ↔ ∃ rc, t = [⟨.receive timeout, rc⟩] ∧ x = n.heard rc := by
  simp only [receive_eq, runs_ask_iff, runs_done_iff]
  constructor
  · rintro ⟨rc, _, rfl, rfl, rfl⟩
    exact ⟨rc, rfl, rfl⟩
  · rintro ⟨rc, rfl, rfl⟩
    exact ⟨rc, [], rfl, rfl, rfl⟩

/-- A master that heard an advertisement asserts its role, steps down or goes on. -/
theorem runs_masterHears {n m : Node} {a : Advert} {t : List Exchange}
    (h : (n.masterHears a).Runs t m) :
    (a.priority = releasePriority ∧ ∃ sent later,
      t = [⟨.send (n.payload n.priority), sent⟩, ⟨.clock, later⟩] ∧
        m = (n.afterSend sent).mapTimers (·.armAdvert later)) ∨
    (a.priority ≠ releasePriority ∧
      dominates a.priority a.source n.priority n.binding.address = true ∧ ∃ switched later,
        t = [⟨.applyMac n.binding n.binding.mac .real, switched⟩, ⟨.clock, later⟩] ∧
          m = (n.resync a).toBackup later) ∨
    (a.priority ≠ releasePriority ∧
      dominates a.priority a.source n.priority n.binding.address = false ∧ t = [] ∧ m = n) := by
  unfold masterHears at h
  split_ifs at h with release beaten
  · exact .inl ⟨release, runs_assertRole_iff.mp h⟩
  · simp only [call, ask_bind, done_bind, runs_ask_iff, runs_becomeBackup_iff] at h
    obtain ⟨switched, _, rfl, later, rfl, rfl⟩ := h
    exact .inr (.inl ⟨release, beaten, switched, later, rfl, rfl⟩)
  · exact .inr (.inr ⟨release, by simpa using beaten, runs_done_iff.mp h⟩)

theorem acts_of_masterStep {n m : Node} {t : List Exchange} (role : n.role = .master)
    (h : n.masterStep.Runs t m) : n.Acts t m := by
  simp only [masterStep, call, ask_bind, done_bind, runs_ask_iff] at h
  obtain ⟨now, t', rfl, h⟩ := h
  split_ifs at h with fired
  · obtain ⟨sent, later, rfl, rfl⟩ := runs_assertRole_iff.mp h
    exact .advertises now later sent role fired
  have waiting : n.timers.advertFired now = false := by simpa using fired
  simp only [runs_bind_iff, runs_receive_iff] at h
  obtain ⟨_, _, u, rfl, ⟨rc, rfl, rfl⟩, h⟩ := h
  obtain ⟨k, a?, split⟩ : ∃ k a?, n.heard rc = (k, a?) := ⟨_, _, rfl⟩
  have first : (n.heard rc).1 = k := by rw [split]
  have same : k.identity = n.identity := first ▸ identity_heard n rc
  have accepted : (n.heard rc).2 = a? := by rw [split]
  rw [split] at h
  cases a? with
  | none =>
    obtain ⟨rfl, rfl⟩ := runs_done_iff.mp h
    exact first ▸ .masterHearsNothing now rc role waiting accepted
  | some a =>
    have priority : k.priority = n.priority := congrArg (·.2.2) same
    have binding : k.binding = n.binding := congrArg (·.2.1) same
    rcases runs_masterHears h with ⟨release, sent, later, rfl, rfl⟩ |
      ⟨claim, beaten, switched, later, rfl, rfl⟩ | ⟨claim, unbeaten, rfl, rfl⟩
    · rw [payload_congr same, priority, ← first]
      exact .reasserts now later rc a sent role waiting accepted release
    · rw [binding, ← first]
      rw [priority, binding] at beaten
      exact .stepsDown now later rc a switched role waiting accepted claim beaten
    · rw [priority, binding] at unbeaten
      exact first ▸ .ignores now rc a role waiting accepted claim unbeaten

theorem acts_of_backupStep {n m : Node} {t : List Exchange} (role : n.role = .backup)
    (h : n.backupStep.Runs t m) : n.Acts t m := by
  simp only [backupStep, call, ask_bind, done_bind, runs_ask_iff] at h
  obtain ⟨now, t', rfl, h⟩ := h
  split_ifs at h with fired
  · exact .backupTakesOver now role fired (runs_becomeMaster_iff.mp h)
  have waiting : n.timers.masterDownFired now = false := by simpa using fired
  simp only [runs_bind_iff, runs_receive_iff] at h
  obtain ⟨_, _, u, rfl, ⟨rc, rfl, rfl⟩, h⟩ := h
  obtain ⟨k, a?, split⟩ : ∃ k a?, n.heard rc = (k, a?) := ⟨_, _, rfl⟩
  have first : (n.heard rc).1 = k := by rw [split]
  have accepted : (n.heard rc).2 = a? := by rw [split]
  rw [split] at h
  cases a? with
  | none =>
    obtain ⟨rfl, rfl⟩ := runs_done_iff.mp h
    exact first ▸ .backupHearsNothing now rc role waiting accepted
  | some a =>
    simp only [runs_ask_iff, pure_eq, runs_done_iff] at h
    obtain ⟨later, _, rfl, rfl, rfl⟩ := h
    rw [← first]
    exact .backupHears now later rc a role waiting accepted

theorem acts_of_act {n m : Node} {t : List Exchange} (h : n.act.Runs t m) : n.Acts t m := by
  unfold act at h
  cases role : n.role with
  | init =>
    simp only [role] at h
    split_ifs at h with owner
    · exact .ownerTakesOver role owner (runs_becomeMaster_iff.mp h)
    · obtain ⟨now, rfl, rfl⟩ := runs_becomeBackup_iff.mp h
      exact .standsBy now role owner
  | master =>
    simp only [role] at h
    exact acts_of_masterStep role h
  | backup =>
    simp only [role] at h
    exact acts_of_backupStep role h

theorem runs_step {n m : Node} {t : List Exchange} {r : Step} (h : n.step.Runs t (r, m)) :
    (r = .shutdown ∧ t = [⟨.shutdownRequested, true⟩] ∧ m = n) ∨
    (r = .proceed ∧ ∃ u, t = ⟨.shutdownRequested, false⟩ :: u ∧ n.Acts u m) := by
  simp only [step, call, ask_bind, done_bind, runs_ask_iff] at h
  obtain ⟨requested, t', rfl, h⟩ := h
  cases requested with
  | true =>
    obtain ⟨rfl, ended⟩ := runs_done_iff.mp h
    obtain ⟨rfl, rfl⟩ := Prod.mk.inj ended
    exact .inl ⟨rfl, rfl, rfl⟩
  | false =>
    obtain ⟨_, u, _, rfl, acts, h⟩ := runs_bind_iff.mp h
    obtain ⟨rfl, ended⟩ := runs_done_iff.mp h
    obtain ⟨rfl, rfl⟩ := Prod.mk.inj ended
    exact .inr ⟨rfl, u, by simp, acts_of_act acts⟩

theorem releases_of_release {n m : Node} {t : List Exchange} {wasMaster : Bool}
    (h : n.release.Runs t (wasMaster, m)) : n.Releases t wasMaster m := by
  unfold release at h
  split_ifs at h with role
  · simp only [call, ask_bind, done_bind, runs_ask_iff, runs_bind_iff, runs_sendAdvert_iff,
      pure_eq, runs_done_iff, Prod.mk.injEq] at h
    obtain ⟨switched, _, rfl, _, _, _, rfl, ⟨sent, rfl, rfl⟩, rfl, rfl, rfl⟩ := h
    exact .master switched sent role
  · simp only [pure_eq, runs_done_iff, Prod.mk.injEq] at h
    obtain ⟨rfl, rfl, rfl⟩ := h
    exact .other role

theorem identity_takesOver {n m : Node} {t : List Exchange} (h : n.TakesOver t m) :
    m.identity = n.identity := by
  cases h
  simp

theorem identity_acts {n m : Node} {t : List Exchange} (h : n.Acts t m) :
    m.identity = n.identity := by
  cases h with
  | ownerTakesOver _ _ run => exact identity_takesOver run
  | backupTakesOver _ _ _ run => exact identity_takesOver run
  | _ => simp

theorem identity_releases {n m : Node} {t : List Exchange} {wasMaster : Bool}
    (h : n.Releases t wasMaster m) : m.identity = n.identity := by
  cases h <;> simp

end Node
end VirtualRouter
