import VirtualRouter.Proofs.BoundedWaits
import VirtualRouter.Proofs.LiveMaster
import VirtualRouter.Proofs.Statistics

/-!
# An orderly release elects the highest priority

A master that gives up its role leaves its backups to wait for their skew times. These differ
for every two priorities, so that one backup takes over before all others, and the others hear
of it in time to wait for the new master.
-/

set_option autoImplicit false

namespace VirtualRouter

namespace Node

variable {n m : Node} {u : List Exchange}

/-- A backup that accepts an advertisement has waited for it, with its timer not yet fired, and
reads the clock once more. -/
theorem hears_of_advert {a : Advert} (role : n.role = .backup) (acted : n.Acts u m)
    (heard : Episode.advert? ⟨n, ⟨.shutdownRequested, false⟩ :: u, m⟩ = some a) :
    ∃ now later rc, u = [⟨.clock, now⟩, ⟨.receive (n.timers.remaining now), rc⟩, ⟨.clock, later⟩] ∧
      m = (n.heard rc).1.backupHears a later := by
  cases acted with
  | @backupTakesOver t _ now _ _ run =>
    obtain ⟨-, -, -, -, -, unheard⟩ := times_takesOver run
    have quiet : n.adverts (⟨.shutdownRequested, false⟩ :: ⟨.clock, now⟩ :: t) = [] := unheard n
    rw [Episode.advert?, quiet] at heard
    cases heard
  | backupHearsNothing now rc _ _ nothing =>
    cases heard.symm.trans ((advert?_waiting rfl).trans nothing)
  | backupHears now later rc a' _ _ accepted =>
    cases heard.symm.trans ((advert?_waiting rfl).trans accepted)
    exact ⟨now, later, rc, rfl, rfl⟩
  | ownerTakesOver other | standsBy _ other | advertises _ _ _ other
  | masterHearsNothing _ _ other | reasserts _ _ _ _ _ other | stepsDown _ _ _ _ _ other
  | ignores _ _ _ other => cases role.symm.trans other

/-- A backup waits for its skew time once its master has given up the role. -/
theorem hurries_of_release {a : Advert} {r : Step} {now : Nat} (role : n.role = .backup)
    (run : n.step.Runs u (r, m)) (heard : Episode.advert? ⟨n, u, m⟩ = some a)
    (release : a.priority = releasePriority)
    (reading : Episode.lastReading? ⟨n, u, m⟩ = some now) :
    m.role = .backup ∧ m.timers = n.timers.armSkew now := by
  rcases runs_step run with ⟨-, rfl, -⟩ | ⟨-, u, rfl, acted⟩
  · cases heard
  · obtain ⟨first, later, rc, rfl, rfl⟩ := hears_of_advert role acted heard
    obtain rfl : later = now := Option.some.inj reading
    exact ⟨by simp [role], by rw [timers_backupHears role, if_pos release]⟩

/-- A backup whose timer has fired takes over. -/
theorem takesOver_of_fired {now : Nat} (role : n.role = .backup) (acted : n.Acts u m)
    (first : (readings u).head? = some now) (fired : n.timers.masterDownFired now = true) :
    m.role = .master ∧ payloads u = [n.payload n.priority] := by
  cases acted with
  | @backupTakesOver t _ now' _ _ run =>
    have same : payloads (⟨.clock, now'⟩ :: t) = payloads t := rfl
    exact ⟨(times_takesOver run).1, same.trans (payloads_takesOver run)⟩
  | backupHearsNothing _ _ _ waiting | backupHears _ _ _ _ _ waiting =>
    cases first
    cases fired.symm.trans waiting
  | ownerTakesOver other | standsBy _ other | advertises _ _ _ other
  | masterHearsNothing _ _ other | reasserts _ _ _ _ _ other | stepsDown _ _ _ _ _ other
  | ignores _ _ _ other => cases role.symm.trans other

theorem datagram_of_received {t v : List Exchange} {timeout : Nat} {rc : Reception} {d : Octets}
    (others : received t = [] ∧ received v = [])
    (handed : d ∈ received (t ++ ⟨.receive timeout, rc⟩ :: v)) : rc = .datagram d := by
  rw [received, List.filterMap_append, List.filterMap_cons, ← received, ← received, others.1,
    others.2] at handed
  cases rc with
  | datagram d' => simpa [Exchange.datagram?, eq_comm] using handed
  | timeout => simp [Exchange.datagram?] at handed
  | failed => simp [Exchange.datagram?] at handed

/-- A backup whose timer has not fired hears the acceptable datagram that it receives. -/
theorem hears_of_received {now : Nat} {d : Octets} {a : Advert} (role : n.role = .backup)
    (acted : n.Acts u m) (first : (readings u).head? = some now)
    (waiting : n.timers.masterDownFired now = false)
    (handed : d ∈ received u) (accepted : n.expectation.accept d = .ok a) :
    m.role = .backup ∧ Episode.advert? ⟨n, ⟨.shutdownRequested, false⟩ :: u, m⟩ = some a := by
  have hears := heard_accepted accepted
  cases acted with
  | backupTakesOver _ _ fired =>
    cases first
    cases fired.symm.trans waiting
  | backupHearsNothing _ rc _ _ nothing =>
    obtain rfl := datagram_of_received (t := [⟨.clock, _⟩]) (v := []) ⟨rfl, rfl⟩ handed
    simp [hears] at nothing
  | backupHears _ later rc a' _ _ heard =>
    obtain rfl := datagram_of_received (t := [⟨.clock, _⟩]) (v := [⟨.clock, later⟩])
      ⟨rfl, rfl⟩ handed
    exact ⟨by simp [role], (advert?_waiting rfl).trans (by rw [hears])⟩
  | ownerTakesOver other | standsBy _ other | advertises _ _ _ other
  | masterHearsNothing _ _ other | reasserts _ _ _ _ _ other | stepsDown _ _ _ _ _ other
  | ignores _ _ _ other => cases role.symm.trans other

theorem peers_congr {n' m' : Node} (h : n.Peers m) (same : n'.identity = n.identity)
    (same' : m'.identity = m.identity) : n'.Peers m' := by
  have config : n'.config = n.config := congrArg (·.1) same
  have config' : m'.config = m.config := congrArg (·.1) same'
  constructor
  · rw [config, config', h.version]
  · rw [config, config', h.vrid]
  · rw [config, config', h.addresses]
  · rw [config, config']
    exact h.interval

/-- A backup that hears the advertisement of a superior waits for that one from now on. -/
theorem waits_for_superior {a b m : Node} {u : List Exchange} {r : Step} {now : Nat}
    (reached : b.Reached) (peers : b.Peers a) (configured : a.Configured)
    (higher : b.priority < a.priority) (role : b.role = .backup)
    (waiting : b.timers.masterDownFired now = false) (run : b.step.Runs u (r, m))
    (first : (readings u).head? = some now) (handed : a.claim ∈ received u) :
    m.role = .backup ∧ m.timers.masterInterval = a.config.advertMicros ∧
      ∃ later, Episode.lastReading? ⟨b, u, m⟩ = some later ∧
        m.timers.masterDownDeadline =
          some (later + masterDownInterval b.priority a.config.advertMicros) := by
  have same := identity_step run
  have priority : m.priority = b.priority := congrArg (·.2.2) same
  have times := times_step run
  obtain ⟨i, tuned⟩ := reached.tuned
  have tuned' := tuned.step run
  rcases runs_step run with ⟨-, rfl, -⟩ | ⟨-, u, rfl, acted⟩
  · cases first
  obtain ⟨after, heard⟩ :=
    hears_of_received role acted first waiting handed (accept_claim peers configured)
  have followed := times.followed_of_backup heard configured.sound.2
    (.inr (UInt8.le_of_lt higher)) after
  rw [followed, Option.bind_some] at tuned'
  have peers' : m.Peers a := peers_congr peers same rfl
  obtain ⟨-, interval⟩ := Pair.attuned_of_followed peers' tuned'
  obtain ⟨later, reading, timers⟩ := times.rearmed_of_followed followed
  refine ⟨after, interval, later, reading, ?_⟩
  have armed := congrArg Timers.masterDownDeadline timers
  rw [armed, ← priority, ← interval, ← tuned'.masterDown]
  rfl

def HearsRelease (n : Node) (now : Nat) (m : Node) : Prop :=
  ∃ u r a, n.step.Runs u (r, m) ∧ Episode.advert? ⟨n, u, m⟩ = some a ∧
    a.priority = releasePriority ∧ Episode.lastReading? ⟨n, u, m⟩ = some now

end Node

section
variable {ι : Type} {n m : ι → Node} {now interval : Nat}

/-- Backups of one virtual router, of different priorities, all of which hear at the time `now`
that its master gives up the role. The interval of the master is one that can be configured,
and no deadline is so far from `now` that their difference overflows. -/
structure OrderlyRelease (n m : ι → Node) (now interval : Nat) : Prop where
  reached : ∀ i, (n i).Reached
  backups : ∀ i, (n i).role = .backup
  peers : ∀ i j, (n i).Peers (n j)
  apart : ∀ i j, i ≠ j → (n i).priority ≠ (n j).priority
  common : ∀ i, (n i).timers.masterInterval = interval
  possible : ∀ i, (n i).config.version.unitMicros ≤ interval
  hears : ∀ i, (n i).HearsRelease now (m i)
  words : ∀ i, SameSpan now (now + skewTime (n i).priority interval)

namespace OrderlyRelease

theorem reached_after (h : OrderlyRelease n m now interval) (i : ι) : (m i).Reached := by
  obtain ⟨u, r, a, run, -⟩ := h.hears i
  exact (h.reached i).step run

theorem identity (h : OrderlyRelease n m now interval) (i : ι) :
    (m i).identity = (n i).identity := by
  obtain ⟨u, r, a, run, -⟩ := h.hears i
  exact Node.identity_step run

theorem hurries (h : OrderlyRelease n m now interval) (i : ι) :
    (m i).role = .backup ∧
      (m i).timers.masterDownDeadline = some (now + skewTime (n i).priority interval) ∧
      skewTime (n i).priority interval ≤ (m i).timers.masterDown ∧
      (m i).timers.masterDown < 2 ^ 62 := by
  obtain ⟨u, r, a, run, heard, release, reading⟩ := h.hears i
  obtain ⟨role, timers⟩ := Node.hurries_of_release (h.backups i) run heard release reading
  obtain ⟨k, tuned⟩ := (h.reached i).tuned
  have skew := tuned.skew
  have masterDown := tuned.masterDown
  rw [h.common] at skew masterDown
  have short := tuned.masterDown_lt (h.reached i).paced
  refine ⟨role, ?_, ?_, ?_⟩
  · rw [timers, ← skew]
    rfl
  · rw [timers]
    change _ ≤ (n i).timers.masterDown
    rw [masterDown, masterDownInterval]
    exact Nat.le_add_left _ _
  · rw [timers]
    exact short

theorem ordered (h : OrderlyRelease n m now interval) {i j : ι}
    (higher : (n i).priority < (n j).priority) :
    now + skewTime (n j).priority interval < now + skewTime (n i).priority interval := by
  have unit : 256 ≤ (n i).config.version.unitMicros := by
    cases (n i).config.version <;> decide
  exact Nat.add_lt_add_left (skewTime_strictAnti higher (unit.trans (h.possible i))) now

theorem highest (h : OrderlyRelease n m now interval) [Fintype ι] [Nonempty ι] :
    ∃ w, ∀ j, j ≠ w → (n j).priority < (n w).priority := by
  obtain ⟨w, greatest⟩ := Finite.exists_max fun i => (n i).priority.toNat
  refine ⟨w, fun j other => ?_⟩
  have distinct := UInt8.toNat_inj.not.mpr (h.apart j w other)
  rw [UInt8.lt_iff_toNat_lt]
  exact lt_of_le_of_ne (greatest j) distinct

theorem fired_iff (h : OrderlyRelease n m now interval) {i : ι} {t : Nat}
    (span : SameSpan (now + skewTime (n i).priority interval) t) (since : now ≤ t) :
    (m i).timers.masterDownFired t = true ↔ now + skewTime (n i).priority interval < t := by
  obtain ⟨-, armed, least, short⟩ := h.hurries i
  rw [Timers.masterDownFired, armed, Option.any_some,
    timerFired_iff_passed_or_far span (by omega)]
  omega

/-- Between the time of the release and any of the deadlines no difference overflows. -/
theorem span (h : OrderlyRelease n m now interval) {i j : ι} {t : Nat} (since : now ≤ t)
    (before : t ≤ now + skewTime (n j).priority interval) :
    SameSpan (now + skewTime (n i).priority interval) t := by
  have here := h.words i
  have there := h.words j
  unfold SameSpan at *
  omega

end OrderlyRelease
end

/-- Backups that hear a release at one time have their deadlines in the order of their
priorities, the highest first. While no deadline but the first has passed, the router of the
highest priority takes over, and each other one that hears of it at that time waits for the
full time that the interval of the new master makes. -/
theorem release_elects_highest_priority {ι : Type} [Fintype ι] [Nontrivial ι] {n m : ι → Node}
    {now interval : Nat} (h : OrderlyRelease n m now interval) :
    let deadline (i : ι) := now + skewTime (n i).priority interval
    (∀ i, (m i).role = .backup ∧ (m i).timers.masterDownDeadline = some (deadline i)) ∧
    (∀ i j, (n i).priority < (n j).priority → deadline j < deadline i) ∧
    ∃ w, (∀ j, j ≠ w → (n j).priority < (n w).priority) ∧
      ∀ t, deadline w < t → (∀ j, j ≠ w → t ≤ deadline j) →
        ∀ {u : List Exchange} {k : Node} {r : Step}, (m w).step.Runs u (r, k) →
          (readings u).head? = some t → k.role = .master ∧
          ∃ payload, payloads u = [payload] ∧
          ∀ j, j ≠ w → ∀ {v : List Exchange} {k' : Node} {r' : Step},
            (m j).step.Runs v (r', k') → (readings v).head? = some t →
            datagram payload (n w).binding.address 255 ∈ received v →
            (readings v).getLast? = some t →
            k'.role = .backup ∧ k'.timers.masterInterval = (n w).config.advertMicros ∧
              k'.timers.masterDownDeadline =
                some (t + masterDownInterval (n j).priority (n w).config.advertMicros) := by
  intro deadline
  obtain ⟨w, highest⟩ := h.highest
  refine ⟨fun i => ⟨(h.hurries i).1, (h.hurries i).2.1⟩, fun i j => h.ordered, w, highest, ?_⟩
  intro t passed early u k r run first
  obtain ⟨o, other⟩ := exists_ne w
  have since : now ≤ t := (Nat.le_add_right _ _).trans passed.le
  have span (i : ι) : SameSpan (deadline i) t := h.span since (early o other)
  have fired := (h.fired_iff (span w) since).mpr passed
  rcases Node.runs_step run with ⟨-, rfl, -⟩ | ⟨-, u, rfl, acted⟩
  · cases first
  obtain ⟨master, sent⟩ := Node.takesOver_of_fired (h.hurries w).1 acted first fired
  refine ⟨master, _, sent, ?_⟩
  intro j loses v k' r' run' first' handed last
  have waiting : (m j).timers.masterDownFired t = false := by
    rw [Bool.eq_false_iff, ne_eq, h.fired_iff (span j) since]
    exact Nat.not_lt.mpr (early j loses)
  have priority (i : ι) : (m i).priority = (n i).priority := congrArg (·.2.2) (h.identity i)
  have config (i : ι) : (m i).config = (n i).config := congrArg (·.1) (h.identity i)
  have binding (i : ι) : (m i).binding = (n i).binding := congrArg (·.2.1) (h.identity i)
  have higher : (m j).priority < (m w).priority := by
    rw [priority, priority]
    exact highest j loses
  rw [← binding] at handed
  obtain ⟨role, interval, later, reading, armed⟩ := Node.waits_for_superior (h.reached_after j)
    (Node.peers_congr (h.peers j w) (h.identity j) (h.identity w)) (h.reached_after w).configured
    higher (h.hurries j).1 waiting run' first' handed
  cases last.symm.trans reading
  rw [config, priority] at armed
  exact ⟨role, by rw [interval, config], armed⟩

namespace Node

def candidate (strong : Bool) : Node :=
  if strong then
    { sampleAt ⟨10, 0, 0, 3⟩ with
      config := { Config.sample with priority := 200 }
      priority := 200
      timers := Timers.start 200 1000000 }
  else sample

def awaiting (strong : Bool) : Node := ((candidate strong).episode (.quiet 0)).after

def released : Lan :=
  let peer : IPv4 := ⟨10, 0, 0, 4⟩
  let release := (Config.sample.packet releasePriority).encode peer IPv4.vrrpGroup
  { Lan.quiet 1000000 with queue := [datagram release peer requiredTtl] }

def hurrying (strong : Bool) : Node := ((awaiting strong).episode released).after

theorem reached_awaiting (strong : Bool) : (awaiting strong).Reached := by
  obtain ⟨r, run⟩ := (candidate strong).runs_episode (l := .quiet 0) rfl
  have history := History.start.step run
  cases strong with
  | false => exact ⟨.sample, .sample, sample, _, start_sample, history⟩
  | true =>
    exact ⟨{ Config.sample with priority := 200 }, { Binding.sample with address := ⟨10, 0, 0, 3⟩ },
      _, _, rfl, history⟩

theorem hears_hurrying (strong : Bool) :
    (awaiting strong).HearsRelease 1000000 (hurrying strong) := by
  obtain ⟨r, run⟩ := (awaiting strong).runs_episode (l := released) rfl
  refine ⟨_, r, ⟨releasePriority, ⟨10, 0, 0, 4⟩, some 1000000⟩, run, ?_, rfl, ?_⟩
  · cases strong <;> decide +kernel
  · cases strong <;> decide +kernel

theorem orderlyRelease_candidates : OrderlyRelease awaiting hurrying 1000000 1000000 where
  reached := reached_awaiting
  backups i := by cases i <;> decide +kernel
  peers i j := by cases i <;> cases j <;> exact ⟨rfl, rfl, rfl, fun _ => rfl⟩
  apart := by decide +kernel
  common i := by cases i <;> decide +kernel
  possible i := by cases i <;> decide +kernel
  hears := hears_hurrying
  words i := by cases i <;> decide +kernel

/-- The stronger candidate takes over, and the weaker one stays a backup. -/
theorem stronger_candidate_takes_over : ∃ k k' : Node,
    OrderlyRelease awaiting hurrying 1000000 1000000 ∧
      (hurrying true).timers.masterDownDeadline = some 1218750 ∧
      (hurrying false).timers.masterDownDeadline = some 1609375 ∧
      k.role = .master ∧ k'.role = .backup ∧
      k'.timers.masterDownDeadline = some (1218751 + 3609375) := by
  let heard : Lan := { Lan.quiet 1218751 with queue := [(hurrying true).claim] }
  obtain ⟨r, run⟩ := (hurrying true).runs_episode (l := .quiet 1218751) rfl
  obtain ⟨r', run'⟩ := (hurrying false).runs_episode (l := heard) rfl
  obtain ⟨armed, -, w, highest, elected⟩ :=
    release_elects_highest_priority orderlyRelease_candidates
  obtain rfl : w = true := by
    cases w with
    | true => rfl
    | false => exact absurd (highest true (by decide)) (by decide +kernel)
  obtain ⟨master, payload, sent, others⟩ := elected 1218751 (by decide +kernel) (by decide +kernel)
    run (by decide +kernel)
  have same : payload = (hurrying true).payload 200 := by
    have known : payloads ((hurrying true).episode (.quiet 1218751)).exchanged =
        [(hurrying true).payload 200] := by decide +kernel
    exact List.singleton_inj.mp (sent.symm.trans known)
  subst same
  obtain ⟨backup, -, rearmed⟩ := others false (by decide) run' (by decide +kernel)
    (by decide +kernel) (by decide +kernel)
  exact ⟨_, _, orderlyRelease_candidates, (armed true).2, (armed false).2, master, backup, rearmed⟩

end Node
end VirtualRouter
