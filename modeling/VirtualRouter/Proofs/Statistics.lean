import VirtualRouter.Proofs.NodePath

/-!
# What the counters tell

A counter of the traffic is the number of exchanges of one kind among all that a node has ever
exchanged, failed ones and those of finished runs included. The counters of the transitions
differ by what the role and the ownership of the address tell.
-/

set_option autoImplicit false

namespace VirtualRouter

namespace Exchange

def datagram? : Exchange → Option Octets
  | ⟨.receive _, .datagram d⟩ => some d
  | _ => none

def isSent : Exchange → Bool
  | ⟨.send _, sent⟩ => sent
  | _ => false

end Exchange

def received (t : List Exchange) : List Octets := t.filterMap Exchange.datagram?

abbrev Verdict := Except Rejection Advert

namespace Verdict

def isAccepted : Verdict → Bool
  | .ok _ => true
  | .error _ => false

def isRejected (v : Verdict) : Bool := !v.isAccepted

def isRelease : Verdict → Bool
  | .ok a => a.priority = releasePriority
  | .error _ => false

def isCorrupt : Verdict → Bool
  | .ok _ => false
  | .error r => r = .checksum

end Verdict

def verdicts (x : Expectation) (t : List Exchange) : List Verdict := (received t).map x.accept

namespace Node

/-- The counter `f` of a node that expects `x` tells how many exchanges satisfy `p`. -/
structure Counts (x : Expectation) (f : Stats → Nat) (p : Exchange → Bool) : Prop where
  sends : ∀ (n : Node) (payload : Octets) (sent : Bool),
    f (n.afterSend sent).stats = f n.stats + if p ⟨.send payload, sent⟩ then 1 else 0
  hears : ∀ (n : Node) (timeout : Nat) (rc : Reception), n.expectation = x →
    f (n.heard rc).1.stats = f n.stats + if p ⟨.receive timeout, rc⟩ then 1 else 0
  turns : ∀ (s : Stats) (masters backups : Nat),
    f { s with masterTransitions := masters, backupTransitions := backups } = f s
  silent : ∀ e : Exchange, (∀ payload, e.call ≠ .send payload) →
    (∀ timeout, e.call ≠ .receive timeout) → p e = false

@[simp] theorem stats_mapTimers (n : Node) (f : Timers → Timers) :
    (n.mapTimers f).stats = n.stats := rfl

@[simp] theorem stats_resync (n : Node) (a : Advert) : (n.resync a).stats = n.stats := by
  unfold resync
  split <;> rfl

@[simp] theorem stats_backupHears (n : Node) (a : Advert) (now : Nat) :
    (n.backupHears a now).stats = n.stats := by
  unfold backupHears
  split_ifs <;> simp

namespace Counts

variable {x : Expectation} {f : Stats → Nat} {p : Exchange → Bool}

theorem toBackup (h : Counts x f p) (n : Node) (now : Nat) :
    f (n.toBackup now).stats = f n.stats := h.turns n.stats _ _

theorem toMaster (h : Counts x f p) (n : Node) (now : Nat) :
    f (n.toMaster now).stats = f n.stats := h.turns n.stats _ _

theorem clock (h : Counts x f p) (now : Nat) : p ⟨.clock, now⟩ = false := h.silent _ nofun nofun

theorem asked (h : Counts x f p) (requested : Bool) : p ⟨.shutdownRequested, requested⟩ = false :=
  h.silent _ nofun nofun

theorem switched (h : Counts x f p) (b : Binding) (mac : Mac) (role : MacRole) (done : Bool) :
    p ⟨.applyMac b mac role, done⟩ = false := h.silent _ nofun nofun

theorem announced (h : Counts x f p) {n : Node} {u : List Exchange}
    (announced : u.map Exchange.call = n.announcements) : u.countP p = 0 := by
  rw [List.countP_eq_zero]
  intro e member
  obtain ⟨a, told, rfl⟩ := announce_of_mem announced member
  have silent := h.silent ⟨.announce n.binding.index n.virtualMac a, told⟩ nofun nofun
  exact Bool.eq_false_iff.mp silent

theorem takesOver (h : Counts x f p) {n m : Node} {t : List Exchange} (run : n.TakesOver t m) :
    f m.stats = f n.stats + t.countP p := by
  cases run with
  | mk switched sent u now announced =>
    simp only [List.countP_cons, List.countP_append, List.countP_nil, h.announced announced,
      h.clock, h.switched, h.toMaster, h.sends n (n.payload n.priority)]
    simp

theorem acts (h : Counts x f p) {n m : Node} {u : List Exchange} (expected : n.expectation = x)
    (acted : n.Acts u m) : f m.stats = f n.stats + u.countP p := by
  -- Of all exchanges of a step only its send and its receive move a counter.
  cases acted with
  | ownerTakesOver _ _ run => exact h.takesOver run
  | standsBy => simp [h.toBackup, h.clock]
  | advertises now later sent =>
    simp [List.countP_cons, h.clock, h.sends n (n.payload n.priority)]
  | masterHearsNothing now rc =>
    simp [List.countP_cons, h.clock, h.hears n (n.timers.remaining now) rc expected]
  | reasserts now later rc a sent =>
    have heard := h.hears n (n.timers.remaining now) rc expected
    have asserted := h.sends (n.heard rc).1 (n.payload n.priority) sent
    simp only [stats_mapTimers, asserted, heard, List.countP_cons, List.countP_nil, h.clock,
      Bool.false_eq_true, if_false]
    omega
  | stepsDown now later rc =>
    simp [List.countP_cons, h.clock, h.switched, h.toBackup,
      h.hears n (n.timers.remaining now) rc expected]
  | ignores now rc =>
    simp [List.countP_cons, h.clock, h.hears n (n.timers.remaining now) rc expected]
  | backupTakesOver now _ _ run => simp [h.clock, h.takesOver run]
  | backupHearsNothing now rc =>
    simp [List.countP_cons, h.clock, h.hears n (n.timers.remaining now) rc expected]
  | backupHears now later rc =>
    simp [List.countP_cons, h.clock, h.hears n (n.timers.remaining now) rc expected]

theorem releases (h : Counts x f p) {n m : Node} {t : List Exchange} {w : Bool}
    (released : n.Releases t w m) : f m.stats = f n.stats + t.countP p := by
  cases released with
  | master switched sent =>
    simp [List.countP_cons, h.switched, h.sends n (n.payload releasePriority)]
  | other => simp

theorem step (h : Counts x f p) {n m : Node} {u : List Exchange} {r : Step}
    (expected : n.expectation = x) (run : n.step.Runs u (r, m)) :
    f m.stats = f n.stats + u.countP p := by
  rcases runs_step run with ⟨-, rfl, rfl⟩ | ⟨-, u, rfl, acted⟩
  · simp [h.asked]
  · simp [h.asked, h.acts expected acted]

end Counts

/-- Along a path the counter grows by the number of all exchanges that are counted. -/
theorem Path.counts {f : Stats → Nat} {p : Exchange → Bool} {n₀ n : Node} {s : List Episode}
    {ws : List Bool} (path : Path n₀ s ws n) (h : Counts n₀.expectation f p) :
    f n.stats = f n₀.stats + (trace s).countP p := by
  induction path with
  | start => simp [trace]
  | step before run ih =>
    have expected := expectation_congr before.identity_eq
    rw [h.step expected run, ih, trace_concat, List.countP_append, Nat.add_assoc]
  | finish before refused released ih =>
    have expected := expectation_congr before.identity_eq
    rw [h.releases (releases_of_release released), h.step expected refused, ih, trace_concat,
      List.countP_append, List.countP_append]
    omega

theorem start_counters {c : Config} {b : Binding} {n : Node} (started : start c b = .ok n) :
    n.stats = .zero ∧ n.expectation = ⟨c.version, c.vrid, c.addresses, c.advertInterval⟩ := by
  obtain ⟨-, p, -, rfl⟩ := start_eq_ok_iff.mp started
  exact ⟨rfl, rfl⟩

theorem counts_sent (x : Expectation) : Counts x Stats.advertsSent Exchange.isSent where
  sends n payload sent := by cases sent <;> rfl
  hears n timeout rc _ := by
    cases rc with
    | datagram d =>
      simp only [heard]
      cases n.expectation.accept d <;> rfl
    | timeout => rfl
    | failed => rfl
  turns _ _ _ := rfl
  silent := by
    rintro ⟨c, r⟩ unsent unheard
    cases c with
    | send payload => exact absurd rfl (unsent payload)
    | _ => rfl

/-- A counter of datagrams by the verdict on them. -/
theorem counts_verdicts (x : Expectation) {f : Stats → Nat} {q : Verdict → Bool}
    (accepted : ∀ (n : Node) (a : Advert),
      f (n.countAccepted a).stats = f n.stats + if q (.ok a) then 1 else 0)
    (rejected : ∀ (n : Node) (r : Rejection),
      f (n.countRejected r).stats = f n.stats + if q (.error r) then 1 else 0)
    (sent : ∀ n : Node, f n.countSent.stats = f n.stats)
    (turns : ∀ (s : Stats) (masters backups : Nat),
      f { s with masterTransitions := masters, backupTransitions := backups } = f s) :
    Counts x f fun e => (e.datagram?.map x.accept).any q where
  sends n payload successful := by
    cases successful with
    | true => exact sent n
    | false => rfl
  hears n timeout rc expected := by
    subst expected
    cases rc with
    | datagram d =>
      cases verdict : n.expectation.accept d with
      | ok a => simpa [heard, verdict, Exchange.datagram?] using accepted n a
      | error r => simpa [heard, verdict, Exchange.datagram?] using rejected n r
    | timeout => rfl
    | failed => rfl
  turns := turns
  silent := by
    rintro ⟨c, r⟩ unsent unheard
    cases c with
    | receive timeout => exact absurd rfl (unheard timeout)
    | _ => rfl

theorem countP_verdicts (x : Expectation) (q : Verdict → Bool) (t : List Exchange) :
    t.countP (fun e => (e.datagram?.map x.accept).any q) = (verdicts x t).countP q := by
  rw [verdicts, List.countP_map, received, List.countP_filterMap]
  congr 1
  funext e
  cases e.datagram? <;> rfl

def transitions (n : Node) : Nat × Nat := (n.stats.masterTransitions, n.stats.backupTransitions)

/-- An owner starts as master and any other node as backup; from then on the two roles take
turns. -/
def Balanced (n : Node) : Prop :=
  match n.role with
  | .init => n.transitions = (0, 0)
  | .master => if n.priority = ownerPriority then n.transitions.1 = n.transitions.2 + 1
    else n.transitions.2 = n.transitions.1
  | .backup => if n.priority = ownerPriority then n.transitions.1 = n.transitions.2
    else n.transitions.2 = n.transitions.1 + 1

@[simp] theorem transitions_afterSend (n : Node) (sent : Bool) :
    (n.afterSend sent).transitions = n.transitions := by
  cases sent <;> rfl

@[simp] theorem transitions_heard (n : Node) (rc : Reception) :
    (n.heard rc).1.transitions = n.transitions := by
  unfold heard
  split <;> try split
  all_goals rfl

@[simp] theorem transitions_mapTimers (n : Node) (f : Timers → Timers) :
    (n.mapTimers f).transitions = n.transitions := rfl

@[simp] theorem transitions_resync (n : Node) (a : Advert) :
    (n.resync a).transitions = n.transitions := by
  rw [transitions, stats_resync, transitions]

@[simp] theorem transitions_backupHears (n : Node) (a : Advert) (now : Nat) :
    (n.backupHears a now).transitions = n.transitions := by
  rw [transitions, stats_backupHears, transitions]

@[simp] theorem transitions_toBackup (n : Node) (now : Nat) :
    (n.toBackup now).transitions = (n.transitions.1, n.transitions.2 + 1) := rfl

@[simp] theorem transitions_toMaster (n : Node) (now : Nat) :
    (n.toMaster now).transitions = (n.transitions.1 + 1, n.transitions.2) := rfl

theorem balanced_start {c : Config} {b : Binding} {n : Node} (started : start c b = .ok n) :
    n.Balanced := by
  obtain ⟨-, p, -, rfl⟩ := start_eq_ok_iff.mp started
  rfl

theorem balanced_congr {n m : Node} (same : m.identity = n.identity) (role : m.role = n.role)
    (transitions : m.transitions = n.transitions) (h : n.Balanced) : m.Balanced := by
  have priority : m.priority = n.priority := congrArg (·.2.2) same
  simpa only [Balanced, role, priority, transitions] using h

/-- Outside of the initial role all cases are one equation, and a turn adds one to each side. -/
theorem balanced_iff {n : Node} (started : n.role ≠ .init) :
    n.Balanced ↔ n.transitions.1 + (if n.priority = ownerPriority then 0 else 1) =
      n.transitions.2 + if n.role = .master then 1 else 0 := by
  unfold Balanced
  cases role : n.role with
  | init => exact absurd role started
  | master => by_cases owner : n.priority = ownerPriority <;> simp [owner, eq_comm]
  | backup => by_cases owner : n.priority = ownerPriority <;> simp [owner, eq_comm]

theorem balanced_of_master {n m : Node} (same : m.identity = n.identity)
    (before : n.role = .backup ∨ n.role = .init ∧ n.priority = ownerPriority)
    (role : m.role = .master) (turned : m.transitions = (n.transitions.1 + 1, n.transitions.2))
    (h : n.Balanced) : m.Balanced := by
  have priority : m.priority = n.priority := congrArg (·.2.2) same
  rw [balanced_iff (by simp [role]), turned, priority, role]
  rcases before with backup | ⟨init, owner⟩
  · rw [balanced_iff (by simp [backup]), backup] at h
    simp only [reduceCtorEq, if_false, if_true] at h ⊢
    omega
  · simp only [Balanced, init] at h
    simp [h, owner]

theorem balanced_of_backup {n m : Node} (same : m.identity = n.identity)
    (before : n.role = .master ∨ n.role = .init ∧ n.priority ≠ ownerPriority)
    (role : m.role = .backup) (turned : m.transitions = (n.transitions.1, n.transitions.2 + 1))
    (h : n.Balanced) : m.Balanced := by
  have priority : m.priority = n.priority := congrArg (·.2.2) same
  rw [balanced_iff (by simp [role]), turned, priority, role]
  rcases before with master | ⟨init, other⟩
  · rw [balanced_iff (by simp [master]), master] at h
    exact h
  · simp only [Balanced, init] at h
    simp [h, other]

theorem turned_takesOver {n m : Node} {t : List Exchange} (run : n.TakesOver t m) :
    m.role = .master ∧ m.transitions = (n.transitions.1 + 1, n.transitions.2) := by
  cases run with
  | mk switched sent u now announced => exact ⟨rfl, by simp⟩

theorem balanced_acts {n m : Node} {u : List Exchange} (acted : n.Acts u m) (h : n.Balanced) :
    m.Balanced := by
  have same := identity_acts acted
  -- Four kinds of steps change the role; whatever fails in them, they count the turn.
  cases acted with
  | ownerTakesOver role owner run =>
    obtain ⟨master, turned⟩ := turned_takesOver run
    exact balanced_of_master same (.inr ⟨role, owner⟩) master turned h
  | standsBy now role other => exact balanced_of_backup same (.inr ⟨role, other⟩) rfl rfl h
  | stepsDown now later rc a switched role =>
    exact balanced_of_backup same (.inl role) rfl (by simp) h
  | backupTakesOver now role fired run =>
    obtain ⟨master, turned⟩ := turned_takesOver run
    exact balanced_of_master same (.inl role) master turned h
  | _ => exact balanced_congr same (by simp) (by simp) h

theorem balanced_step {n m : Node} {u : List Exchange} {r : Step} (run : n.step.Runs u (r, m))
    (h : n.Balanced) : m.Balanced := by
  rcases runs_step run with ⟨-, -, rfl⟩ | ⟨-, u, -, acted⟩
  · exact h
  · exact balanced_acts acted h

theorem balanced_releases {n m : Node} {t : List Exchange} {w : Bool}
    (released : n.Releases t w m) (h : n.Balanced) : m.Balanced := by
  have same := identity_releases released
  cases released <;> exact balanced_congr same (by simp) (by simp) h

theorem Path.balanced {n₀ n : Node} {s : List Episode} {ws : List Bool} (path : Path n₀ s ws n)
    (h₀ : n₀.Balanced) : n.Balanced := by
  induction path with
  | start => exact h₀
  | step _ run ih => exact balanced_step run ih
  | finish _ refused released ih =>
    exact balanced_releases (releases_of_release released) (balanced_step refused ih)

theorem counts_accepted (x : Expectation) : Counts x Stats.advertsReceived
    fun e => (e.datagram?.map x.accept).any Verdict.isAccepted :=
  counts_verdicts x (fun _ _ => rfl) (fun _ _ => rfl) (fun _ => rfl) fun _ _ _ => rfl

theorem counts_rejected (x : Expectation) : Counts x Stats.invalidAdverts
    fun e => (e.datagram?.map x.accept).any Verdict.isRejected :=
  counts_verdicts x (fun _ _ => rfl) (fun _ _ => rfl) (fun _ => rfl) fun _ _ _ => rfl

theorem counts_releases (x : Expectation) : Counts x Stats.priorityZeroReceived
    fun e => (e.datagram?.map x.accept).any Verdict.isRelease :=
  counts_verdicts x
    (fun n a => by
      simp only [countAccepted, Verdict.isRelease, decide_eq_true_eq]
      split_ifs <;> rfl)
    (fun _ _ => rfl) (fun _ => rfl) fun _ _ _ => rfl

theorem counts_corrupt (x : Expectation) : Counts x Stats.checksumErrors
    fun e => (e.datagram?.map x.accept).any Verdict.isCorrupt :=
  counts_verdicts x (fun _ _ => rfl)
    (fun n r => by
      simp only [countRejected, Verdict.isCorrupt, decide_eq_true_eq]
      split_ifs <;> rfl)
    (fun _ => rfl) fun _ _ _ => rfl

theorem Path.counted {c : Config} {b : Binding} {n₀ n : Node} {s : List Episode} {ws : List Bool}
    {f : Stats → Nat} {q : Verdict → Bool} (path : Path n₀ s ws n)
    (started : Node.start c b = .ok n₀)
    (none : f .zero = 0) (h : ∀ x, Counts x f fun e => (e.datagram?.map x.accept).any q) :
    f n.stats = (verdicts ⟨c.version, c.vrid, c.addresses, c.advertInterval⟩ (trace s)).countP q := by
  obtain ⟨zero, expected⟩ := start_counters started
  rw [path.counts (h n₀.expectation), zero, none, Nat.zero_add, countP_verdicts, expected]

/-- Every datagram received is counted once, as accepted or as invalid, with the releases among
the accepted and the corrupt among the invalid ones; every send that succeeded is counted, that
of a release included. The transitions to the two roles are balanced. -/
theorem counters_conserve_events {c : Config} {b : Binding} {n₀ n : Node} {s : List Episode}
    {ws : List Bool} (started : start c b = .ok n₀) (path : Path n₀ s ws n) :
    let x : Expectation := ⟨c.version, c.vrid, c.addresses, c.advertInterval⟩
    n.stats.advertsReceived + n.stats.invalidAdverts = (received (trace s)).length ∧
    n.stats.advertsReceived = (verdicts x (trace s)).countP Verdict.isAccepted ∧
    n.stats.priorityZeroReceived = (verdicts x (trace s)).countP Verdict.isRelease ∧
    n.stats.checksumErrors = (verdicts x (trace s)).countP Verdict.isCorrupt ∧
    n.stats.checksumErrors ≤ n.stats.invalidAdverts ∧
    n.stats.advertsSent = (trace s).countP Exchange.isSent ∧
    n.Balanced := by
  intro x
  have accepted := path.counted started rfl counts_accepted
  have rejected := path.counted started rfl counts_rejected
  have corrupt := path.counted started rfl counts_corrupt
  refine ⟨?_, accepted, path.counted started rfl counts_releases, corrupt, ?_, ?_, ?_⟩
  · calc n.stats.advertsReceived + n.stats.invalidAdverts
        = (verdicts x (trace s)).length := by
          rw [accepted, rejected, List.length_eq_countP_add_countP Verdict.isAccepted]
          congr 2
          funext v
          cases v <;> rfl
      _ = (received (trace s)).length := List.length_map _
  · rw [corrupt, rejected]
    apply List.countP_mono_left
    rintro (r | a) _ <;> simp [Verdict.isCorrupt, Verdict.isRejected, Verdict.isAccepted]
  · rw [path.counts (counts_sent _), (start_counters started).1]
    exact Nat.zero_add _
  · exact path.balanced (balanced_start started)

def parting : Lan :=
  let peer : IPv4 := ⟨10, 0, 0, 3⟩
  let release := (Config.sample.packet releasePriority).encode peer IPv4.vrrpGroup
  { Lan.quiet 0 with
    queue := [[0x45], datagram release peer requiredTtl]
    shutdownAfter := some 3 }

/-- A node takes over from a master that has given up its role, and is told to stop. -/
theorem counters_of_one_tenure : ∃ s n,
    start .sample .sample = .ok sample ∧ Path sample s [true] n ∧
      n.stats.advertsReceived + n.stats.invalidAdverts = 2 ∧ n.stats.advertsReceived = 1 ∧
      n.stats.priorityZeroReceived = 1 ∧ n.stats.checksumErrors = 0 ∧
      n.stats.checksumErrors ≤ n.stats.invalidAdverts ∧ n.stats.advertsSent = 2 ∧
      n.role = .master ∧ n.Balanced := by
  obtain ⟨s, path, all⟩ := path_runFor sample 8 (l := parting) rfl
  have told : ((sample.runFor 8).runIn Lan.serve parting).1.1.toList = [true] := by decide +kernel
  rw [told] at path
  obtain ⟨datagrams, accepted, releases, corrupt, invalid, sent, balanced⟩ :=
    counters_conserve_events start_sample path
  rw [all] at datagrams accepted releases corrupt sent
  exact ⟨s, _, start_sample, path, datagrams.trans (by decide +kernel),
    accepted.trans (by decide +kernel), releases.trans (by decide +kernel),
    corrupt.trans (by decide +kernel), invalid, sent.trans (by decide +kernel),
    by decide +kernel, balanced⟩

end Node
end VirtualRouter
