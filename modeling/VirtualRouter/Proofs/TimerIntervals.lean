import VirtualRouter.Proofs.NodePath
import VirtualRouter.Proofs.AdvertGrammar

/-!
# The intervals that a node waits for

All intervals of the timers follow from the interval of the current master. That is the
configured one until a version 3 router follows a peer; it is then the one that the peer
advertised last, and nothing keeps a peer from advertising an interval of zero.
-/

set_option autoImplicit false

namespace VirtualRouter

/-- An interval that an advertisement can carry, in microseconds. -/
def Version.Carries (v : Version) (i : Nat) : Prop := ∃ k ≤ v.maxInterval, i = v.intervalMicros k

theorem Version.carries_le {v : Version} {i : Nat} (h : v.Carries i) :
    i ≤ v.intervalMicros v.maxInterval := by
  obtain ⟨k, small, rfl⟩ := h
  exact Nat.mul_le_mul_right _ small

theorem Version.unitMicros_le_iff {v : Version} {i : Nat} (h : v.Carries i) :
    v.unitMicros ≤ i ↔ i ≠ 0 := by
  obtain ⟨k, -, rfl⟩ := h
  have unit : 0 < v.unitMicros := by cases v <;> decide
  simp only [intervalMicros]
  constructor
  · intro low
    omega
  · intro nonzero
    exact Nat.le_mul_of_pos_left _ (Nat.pos_of_mul_pos_right (Nat.pos_of_ne_zero nonzero))

/-- The wait of a backup is three units and its skew time, unless the interval is zero. -/
theorem Version.masterDownInterval_iff {v : Version} {i : Nat} (h : v.Carries i) (p : UInt8) :
    3 * v.unitMicros < masterDownInterval p i ↔ i ≠ 0 := by
  have : p.toNat < 256 := p.toNat_lt
  have unit : 256 ≤ v.unitMicros := by cases v <;> decide
  unfold masterDownInterval skewTime
  constructor
  · rintro long rfl
    simp at long
  · intro nonzero
    have low : v.unitMicros ≤ i := (unitMicros_le_iff h).mpr nonzero
    have part : i ≤ (256 - p.toNat) * i := Nat.le_mul_of_pos_left i (by omega)
    have skew : 0 < (256 - p.toNat) * i / 256 := Nat.div_pos (by omega) (by decide)
    omega

structure Config.Paced (c : Config) : Prop where
  carries : c.version.Carries c.advertMicros
  nonzero : c.advertMicros ≠ 0

theorem Config.paced_of_usable {c : Config} (usable : c.fault? = none) : c.Paced := by
  refine ⟨⟨c.advertInterval, (fits_of_usable usable).interval, rfl⟩, ?_⟩
  have nonzero : c.advertInterval ≠ 0 := (fault?_eq_none_iff.mp usable).paced
  have unit : c.version.unitMicros ≠ 0 := by cases c.version <;> decide
  exact Nat.mul_ne_zero (by simpa [← UInt16.toNat_inj] using nonzero) unit

def Version.Allows (v : Version) : Option Nat → Prop
  | none => True
  | some i => v.resyncs = true ∧ v.Carries i

/-- Every version 3 advertisement carries an interval, and no other does. -/
theorem Expectation.interval_of_accept {x : Expectation} {d : Octets} {a : Advert}
    (accepted : x.accept d = .ok a) :
    x.version.Allows a.interval ∧ (a.interval = none → x.version.resyncs = false) := by
  rw [accept_eq_verdict, Check.verdict_eq_ok_iff] at accepted
  obtain ⟨-, rfl⟩ := accepted
  have small (w : UInt16) : (UInt16.ofNat (w.toNat % 4096)).toNat = w.toNat % 4096 := by
    rw [UInt16.toNat_ofNat']
    omega
  cases version : x.version with
  | v2 => simp [reading, version, Version.Allows, Version.resyncs]
  | v3 =>
    -- The field has twelve bits, which is just what the version can carry.
    simp only [reading, version]
    refine ⟨⟨rfl, UInt16.ofNat ((d.bigAt (Ipv4Header.lengthIn d + 4)).toNat % 4096), ?_, ?_⟩, nofun⟩
    · rw [UInt16.le_iff_toNat_le, small]
      exact Nat.le_of_lt_succ (Nat.mod_lt _ (by decide))
    · rw [Version.intervalMicros, small, Nat.mul_comm]
      rfl

namespace Timers

def following (priority : UInt8) (own interval : Nat) : Timers :=
  recompute ⟨priority, own, interval, 0, 0, none, none⟩

theorem disarm_resync {t : Timers} {v : Version} {p : UInt8} {own i : Nat} (j : Nat)
    (tuned : t.disarm = following p own i) (resyncs : v.resyncs = true) :
    (t.resync v j).disarm = following p own j := by
  have priority : t.priority = p := congrArg Timers.priority tuned
  have interval : t.advertInterval = own := congrArg Timers.advertInterval tuned
  rw [resync, if_pos resyncs, ← priority, ← interval]
  rfl

end Timers

namespace Node

def adopted (s : List Episode) : Option Nat :=
  s.foldl (fun i e => (e.followed?.bind Advert.interval).or i) none

theorem adopted_concat (s : List Episode) (e : Episode) :
    adopted (s ++ [e]) = (e.followed?.bind Advert.interval).or (adopted s) := by
  rw [adopted, List.foldl_append]
  rfl

/-- The timers of a node that took over the interval `i` last. -/
structure Tuned (n : Node) (i : Option Nat) : Prop where
  timers : n.timers.disarm =
    .following n.priority n.config.advertMicros (i.getD n.config.advertMicros)
  allowed : n.config.version.Allows i

theorem tuned_start {c : Config} {b : Binding} {n₀ : Node} (started : start c b = .ok n₀) :
    n₀.Tuned none := by
  obtain ⟨-, p, -, rfl⟩ := start_eq_ok_iff.mp started
  exact ⟨rfl, trivial⟩

theorem tuned_congr {n m : Node} {i : Option Nat} (h : n.Tuned i) (same : m.identity = n.identity)
    (timers : m.timers.disarm = n.timers.disarm) : m.Tuned i := by
  have config : m.config = n.config := congrArg (·.1) same
  have priority : m.priority = n.priority := congrArg (·.2.2) same
  refine ⟨?_, by rw [config]; exact h.allowed⟩
  rw [config, priority, timers, h.timers]

theorem tuned_resync {n : Node} {i : Option Nat} {a : Advert} (h : n.Tuned i)
    {d : Octets} (accepted : n.expectation.accept d = .ok a) :
    (n.resync a).Tuned (a.interval.or i) := by
  have allowed := (Expectation.interval_of_accept accepted).1
  unfold resync
  cases interval : a.interval with
  | none => exact h
  | some j =>
    rw [interval] at allowed
    exact ⟨Timers.disarm_resync j h.timers allowed.1, allowed⟩

theorem Tuned.step {n m : Node} {i : Option Nat} {u : List Exchange} {r : Step} (h : n.Tuned i)
    (run : n.step.Runs u (r, m)) :
    m.Tuned (((Episode.followed? ⟨n, u, m⟩).bind Advert.interval).or i) := by
  have same := identity_step run
  have times := times_step run
  cases followed : Episode.followed? ⟨n, u, m⟩ with
  | none => exact tuned_congr h same (times.of_unfollowed followed)
  | some a =>
    obtain ⟨d, accepted⟩ := Episode.exists_accepted followed
    obtain ⟨-, now, -, timers⟩ := times.of_followed followed
    exact tuned_congr (tuned_resync h accepted) (same.trans (identity_resync _ _).symm)
      (by simpa using congrArg Timers.disarm timers)

/-- Along every path the timers follow from the interval that was taken over last. -/
theorem Path.tuned {n₀ n : Node} {s : List Episode} {ws : List Bool} (h₀ : n₀.Tuned none)
    (path : Path n₀ s ws n) : n.Tuned (adopted s) := by
  induction path with
  | start => exact h₀
  | step _ run ih =>
    rw [adopted_concat]
    exact ih.step run
  | finish _ refused released ih =>
    obtain ⟨timers, unheard⟩ := times_finish refused released
    rw [adopted_concat, Episode.followed?, unheard]
    exact tuned_congr ih (identity_finish refused released) (by simp [timers])

theorem Path.config_eq {c : Config} {b : Binding} {n₀ n : Node} {s : List Episode}
    {ws : List Bool} (path : Path n₀ s ws n) (started : Node.start c b = .ok n₀) : n.config = c :=
  (congrArg (·.1) path.identity_eq).trans (router_start started).1

theorem Path.paced {c : Config} {b : Binding} {n₀ n : Node} {s : List Episode}
    {ws : List Bool} (path : Path n₀ s ws n) (started : Node.start c b = .ok n₀) :
    n.config.Paced := by
  rw [path.config_eq started]
  exact Config.paced_of_usable (start_eq_ok_iff.mp started).1

theorem Tuned.masterInterval {n : Node} {i : Option Nat} (h : n.Tuned i) :
    n.timers.masterInterval = i.getD n.config.advertMicros :=
  congrArg Timers.masterInterval h.timers

theorem Tuned.masterDown {n : Node} {i : Option Nat} (h : n.Tuned i) :
    n.timers.masterDown = masterDownInterval n.priority n.timers.masterInterval := by
  rw [h.masterInterval]
  exact congrArg Timers.masterDown h.timers

/-- Every interval of the timers is one that the version carries, and none is zero unless zero
was taken over. -/
theorem Tuned.carries {n : Node} {i : Option Nat} (h : n.Tuned i) (paced : n.config.Paced) :
    n.config.version.Carries n.timers.masterInterval ∧
      (n.timers.masterInterval ≠ 0 ↔ i ≠ some 0) := by
  rw [h.masterInterval]
  cases i with
  | none => exact ⟨paced.carries, by simp [paced.nonzero]⟩
  | some j => exact ⟨h.allowed.2, by simp⟩

theorem Tuned.untouched {n : Node} {i : Option Nat} (h : n.Tuned i)
    (fixed : n.config.version.resyncs = false) : i = none := by
  cases i with
  | none => rfl
  | some j => cases fixed.symm.trans h.allowed.1

theorem Tuned.or_eq_zero_iff {n : Node} {i : Option Nat} {d : Octets} {a : Advert}
    (h : n.Tuned i) (accepted : n.expectation.accept d = .ok a) :
    a.interval.or i = some 0 ↔ a.interval = some 0 := by
  cases interval : a.interval with
  | some j => rfl
  | none =>
    -- No peer of a version that advertises no interval has ever been taken over.
    have fixed := (Expectation.interval_of_accept accepted).2 interval
    rw [h.untouched fixed]
    rfl

theorem Tuned.wait_of_followed {n m : Node} {i : Option Nat} {u : List Exchange} {r : Step}
    {a : Advert} (h : n.Tuned i) (paced : n.config.Paced)
    (run : n.step.Runs u (r, m)) (followed : Episode.followed? ⟨n, u, m⟩ = some a) :
    ∃ now d, Episode.lastReading? ⟨n, u, m⟩ = some now ∧ m.timers.masterDownDeadline = some d ∧
      (now + 3 * n.config.version.unitMicros < d ↔ a.interval ≠ some 0) := by
  obtain ⟨now, reading, timers⟩ := (times_step run).rearmed_of_followed followed
  obtain ⟨d, accepted⟩ := Episode.exists_accepted followed
  have config : m.config = n.config := congrArg (·.1) (identity_step run)
  have tuned := h.step run
  rw [followed, Option.bind_some] at tuned
  rw [← config] at paced ⊢
  obtain ⟨carries, nonzero⟩ := tuned.carries paced
  refine ⟨now, now + m.timers.masterDown, reading, ?_, ?_⟩
  · exact congrArg Timers.masterDownDeadline timers
  · calc now + 3 * m.config.version.unitMicros < now + m.timers.masterDown
        ↔ 3 * m.config.version.unitMicros <
            masterDownInterval m.priority m.timers.masterInterval := by
          rw [tuned.masterDown, Nat.add_lt_add_iff_left]
      _ ↔ m.timers.masterInterval ≠ 0 := Version.masterDownInterval_iff carries m.priority
      _ ↔ a.interval.or i ≠ some 0 := nonzero
      _ ↔ a.interval ≠ some 0 := not_congr (h.or_eq_zero_iff accepted)

/-- The interval of the master never exceeds what its version can carry, and is at least one
unit exactly as long as the interval taken over last is not zero. A node that follows a peer
waits for more than three units exactly when that peer does not advertise zero. -/
theorem master_interval_possible_iff {c : Config} {b : Binding} {n₀ n : Node}
    {s : List Episode} {ws : List Bool} (started : start c b = .ok n₀) (path : Path n₀ s ws n) :
    n.timers.masterInterval ≤ c.version.intervalMicros c.version.maxInterval ∧
    (c.version.unitMicros ≤ n.timers.masterInterval ↔ adopted s ≠ some 0) ∧
    ∀ {u : List Exchange} {m : Node} {r : Step}, n.step.Runs u (r, m) →
      ∀ a, Episode.followed? ⟨n, u, m⟩ = some a →
        ∃ now d, Episode.lastReading? ⟨n, u, m⟩ = some now ∧
          m.timers.masterDownDeadline = some d ∧
          (now + 3 * c.version.unitMicros < d ↔ a.interval ≠ some 0) := by
  have tuned := path.tuned (tuned_start started)
  have paced := path.paced started
  obtain rfl := path.config_eq started
  obtain ⟨carries, nonzero⟩ := tuned.carries paced
  refine ⟨Version.carries_le carries, (Version.unitMicros_le_iff carries).trans nonzero, ?_⟩
  intro u m r run a followed
  exact tuned.wait_of_followed paced run followed

def claimed (interval : UInt16) : Lan :=
  let peer : IPv4 := ⟨10, 0, 0, 3⟩
  let packet := Config.packet { Config.sample with advertInterval := interval } 200
  { Lan.quiet 5 with queue := [datagram (packet.encode peer IPv4.vrrpGroup) peer requiredTtl] }

def standby : Episode := sample.episode (.quiet 0)

theorem path_standby : Path sample [standby] [] standby.after := Path.start.among rfl

/-- A backup follows a peer that advertises every two seconds. -/
theorem master_interval_of_slower_peer : ∃ s n u m r now d,
    start .sample .sample = .ok sample ∧ Path sample s [] n ∧ n.step.Runs u (r, m) ∧
      (Episode.followed? ⟨n, u, m⟩).bind Advert.interval = some 2000000 ∧
      Path sample (s ++ [⟨n, u, m⟩]) [] m ∧
      m.timers.masterInterval ≤ 40950000 ∧ 10000 ≤ m.timers.masterInterval ∧
      Episode.lastReading? ⟨n, u, m⟩ = some now ∧
      m.timers.masterDownDeadline = some d ∧ now + 3 * 10000 < d := by
  obtain ⟨r, run⟩ := standby.after.runs_episode (l := claimed 200) rfl
  have path := path_standby.step run
  obtain ⟨-, -, wait⟩ := master_interval_possible_iff start_sample path_standby
  obtain ⟨now, d, reading, armed, long⟩ := wait run ⟨200, ⟨10, 0, 0, 3⟩, some 2000000⟩
    (by decide +kernel)
  obtain ⟨most, least, -⟩ := master_interval_possible_iff start_sample path
  exact ⟨_, _, _, _, r, now, d, start_sample, path_standby, run, by decide +kernel, path, most,
    least.mpr (by decide +kernel), reading, armed, long.mpr (by decide)⟩

/-- A peer that advertises an interval of zero makes a backup wait for no time at all. -/
theorem master_interval_of_zero_claim : ∃ s n u m r now,
    start .sample .sample = .ok sample ∧ Path sample s [] n ∧ n.step.Runs u (r, m) ∧
      (∃ a, Episode.followed? ⟨n, u, m⟩ = some a ∧ a.priority ≠ releasePriority) ∧
      m.timers.masterInterval < 10000 ∧ Episode.lastReading? ⟨n, u, m⟩ = some now ∧
      m.timers.masterDownDeadline = some now := by
  obtain ⟨r, run⟩ := standby.after.runs_episode (l := claimed 0) rfl
  exact ⟨_, _, _, _, r, 5, start_sample, path_standby, run,
    ⟨⟨200, ⟨10, 0, 0, 3⟩, some 0⟩, by decide +kernel, by decide⟩, by decide +kernel,
    by decide +kernel, by decide +kernel⟩

end Node
end VirtualRouter
