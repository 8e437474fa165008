import VirtualRouter.Proofs.TimerIntervals
import VirtualRouter.Proofs.TimerDiscipline
import Mathlib.Algebra.Group.Nat.Defs

/-!
# When the timers fire

Under a clock that is never set back each timer fires exactly when the time it was armed for
has passed since it was armed. What arms it, and for how long, is told by the steps alone.
-/

set_option autoImplicit false

namespace VirtualRouter

theorem signed64_of_lt {n : Nat} (small : n < 2 ^ 63) : signed64 n = n := by
  unfold signed64
  exact Int.bmod_eq_of_le (by omega) (by omega)

/-- Whether a timer is taken to have fired only because so much is left until its deadline that
the clock must have been set back. -/
def SetBack (deadline bound now : Nat) : Prop :=
  signed64 bound < signed64 deadline - signed64 now

def Timers.SetBack (t : Timers) (now : Nat) : Prop :=
  (∃ d ∈ t.advertDeadline, VirtualRouter.SetBack d t.advertInterval now) ∨
    ∃ d ∈ t.masterDownDeadline, VirtualRouter.SetBack d t.masterDown now

theorem not_setBack {deadline bound now : Nat} (ahead : deadline ≤ now + bound)
    (small : now < 2 ^ 62 ∧ bound < 2 ^ 62) : ¬SetBack deadline bound now := by
  unfold SetBack
  rw [signed64_of_lt (by omega), signed64_of_lt (by omega), signed64_of_lt (by omega)]
  omega

/-- A timer whose deadline is no further ahead than its interval fires once it has passed. -/
theorem timerFired_iff {deadline bound now : Nat} (ahead : deadline ≤ now + bound)
    (small : now < 2 ^ 62 ∧ bound < 2 ^ 62) :
    timerFired deadline bound now = true ↔ deadline < now := by
  have never := not_setBack ahead small
  unfold SetBack at never
  simp only [timerFired, Bool.or_eq_true, decide_eq_true_eq, never, or_false]
  rw [signed64_of_lt (by omega), signed64_of_lt (by omega)]
  omega

namespace Timers

variable {t : Timers} {d now : Nat}

theorem masterDownFired_iff (armed : t.masterDownDeadline = some d)
    (ahead : d ≤ now + t.masterDown) (small : now < 2 ^ 62 ∧ t.masterDown < 2 ^ 62) :
    t.masterDownFired now = true ↔ d < now := by
  rw [masterDownFired, armed, Option.any_some, timerFired_iff ahead small]

theorem advertFired_iff (armed : t.advertDeadline = some d)
    (ahead : d ≤ now + t.advertInterval) (small : now < 2 ^ 62 ∧ t.advertInterval < 2 ^ 62) :
    t.advertFired now = true ↔ d < now := by
  rw [advertFired, armed, Option.any_some, timerFired_iff ahead small]

end Timers

theorem scaled_le (p : UInt8) (i : Nat) : (256 - p.toNat) * i ≤ 256 * i :=
  Nat.mul_le_mul_right i (Nat.sub_le _ _)

theorem skewTime_le (p : UInt8) (i : Nat) : skewTime p i ≤ i := by
  have part := scaled_le p i
  unfold skewTime
  omega

/-- A router of higher priority has a shorter skew time. The interval has to be long enough for
the division to tell the priorities apart. -/
theorem skewTime_strictAnti {p q : UInt8} {i : Nat} (higher : p < q) (long : 256 ≤ i) :
    skewTime q i < skewTime p i := by
  have most := q.toNat_lt
  have less := UInt8.lt_iff_toNat_lt.mp higher
  have apart : (256 - q.toNat + 1) * i ≤ (256 - p.toNat) * i := Nat.mul_le_mul_right i (by omega)
  rw [Nat.add_mul, Nat.one_mul] at apart
  unfold skewTime
  omega

theorem masterDownInterval_le (p : UInt8) (i : Nat) : masterDownInterval p i ≤ 4 * i := by
  have part := skewTime_le p i
  unfold masterDownInterval
  omega

/-- No version carries an interval of more than 255 seconds. -/
theorem Version.carries_le_most {v : Version} {i : Nat} (h : v.Carries i) : i ≤ 255000000 := by
  have most : v.intervalMicros v.maxInterval ≤ 255000000 := by cases v <;> decide
  exact Nat.le_trans (carries_le h) most

namespace Node

structure Arming where
  reading : Nat
  wait : Nat
  deriving DecidableEq

def Arming.deadline (a : Arming) : Nat := a.reading + a.wait

namespace Episode

/-- The time for which an episode arms the timer of the role that it ends in. A backup waits
for its full time when it becomes one and when it follows its master, and for its skew time
when the master gives up. A master waits for its own interval whenever it has advertised. -/
def wait? (e : Episode) : Option Nat :=
  match e.after.role with
  | .init => none
  | .backup =>
    if e.before.role ≠ .backup ∨ e.followed?.isSome then
      some (masterDownInterval e.after.priority e.after.timers.masterInterval)
    else if e.advert?.any (·.priority = releasePriority) then
      some (skewTime e.after.priority e.after.timers.masterInterval)
    else none
  | .master =>
    if e.before.role ≠ .master ∨ payloads e.exchanged ≠ [] then some e.after.config.advertMicros
    else none

def arming? (e : Episode) : Option Arming :=
  e.wait?.bind fun wait => e.lastReading?.map fun reading => ⟨reading, wait⟩

end Episode

def lastArming (s : List Episode) : Option Arming :=
  s.foldl (fun a e => e.arming?.or a) none

theorem lastArming_concat (s : List Episode) (e : Episode) :
    lastArming (s ++ [e]) = e.arming?.or (lastArming s) := by
  rw [lastArming, List.foldl_append]
  rfl

def ArmedBy (n : Node) (a : Arming) : Prop :=
  match n.role with
  | .init => False
  | .backup => n.timers.masterDownDeadline = some a.deadline ∧ a.wait ≤ n.timers.masterDown
  | .master => n.timers.advertDeadline = some a.deadline ∧ a.wait = n.timers.advertInterval

theorem Tuned.skew {n : Node} {i : Option Nat} (h : n.Tuned i) :
    n.timers.skew = skewTime n.priority n.timers.masterInterval := by
  rw [h.masterInterval]
  exact congrArg Timers.skew h.timers

theorem Tuned.skew_le {n : Node} {i : Option Nat} (h : n.Tuned i) :
    n.timers.skew ≤ n.timers.masterDown := by
  rw [h.skew, h.masterDown, masterDownInterval]
  exact Nat.le_add_left _ _

theorem Tuned.advertInterval {n : Node} {i : Option Nat} (h : n.Tuned i) :
    n.timers.advertInterval = n.config.advertMicros :=
  congrArg Timers.advertInterval h.timers

theorem Episode.arms {e : Episode} {wait now : Nat} (waits : e.wait? = some wait)
    (last : e.lastReading? = some now) (armed : e.after.ArmedBy ⟨now, wait⟩) :
    ∃ a, e.arming? = some a ∧ e.after.ArmedBy a ∧ e.lastReading? = some a.reading :=
  ⟨⟨now, wait⟩, by rw [arming?, waits, last]; rfl, armed, last⟩

/-- An episode leaves the armed timer alone, or arms the one that its observations tell. -/
theorem arming_times {e : Episode} {i : Option Nat} (tuned : e.after.Tuned i) (times : e.Times) :
    (e.arming? = none ∧ e.after.timers = e.before.timers ∧ e.after.role = e.before.role) ∨
    ∃ a, e.arming? = some a ∧ e.after.ArmedBy a ∧ e.lastReading? = some a.reading := by
  cases times with
  | keeps timers role silent disregarded =>
    have unfollowed : e.followed? = none :=
      Option.filter_eq_none_iff.mpr fun a heard => by simp [(disregarded a heard).2]
    have unreleased : e.advert?.any (·.priority = releasePriority) = false := by
      cases heard : e.advert? with
      | none => rfl
      | some a => simp [(disregarded a heard).1]
    refine .inl ⟨?_, timers, role⟩
    have none : e.wait? = none := by
      unfold Episode.wait?
      cases after : e.after.role <;> simp [← role, after, unfollowed, unreleased, silent]
    rw [Episode.arming?, none]
    rfl
  | standsBy now before after unheard reading timers =>
    have wait : e.wait? = some e.after.timers.masterDown := by
      simp [Episode.wait?, after, before, tuned.masterDown]
    refine .inr (Episode.arms wait reading ?_)
    simp [ArmedBy, after, Arming.deadline, timers, Timers.armMasterDown]
  | follows a now followed after reading timers =>
    have wait : e.wait? = some e.after.timers.masterDown := by
      simp [Episode.wait?, after, followed, tuned.masterDown]
    refine .inr (Episode.arms wait reading ?_)
    simp [ArmedBy, after, Arming.deadline, timers, Timers.armMasterDown]
  | hurries a now heard release before after reading timers =>
    have unfollowed : e.followed? = none := by
      rw [Episode.followed?_eq heard, follows_release release]
      rfl
    have wait : e.wait? = some e.after.timers.skew := by
      simp [Episode.wait?, after, before, unfollowed, heard, release, tuned.skew]
    refine .inr (Episode.arms wait reading ?_)
    simp only [ArmedBy, after]
    exact ⟨by rw [timers]; rfl, tuned.skew_le⟩
  | asserts now sent after unfollowed reading timers =>
    have wait : e.wait? = some e.after.timers.advertInterval := by
      simp [Episode.wait?, after, sent, tuned.advertInterval]
    refine .inr (Episode.arms wait reading ?_)
    simp [ArmedBy, after, Arming.deadline, timers, Timers.armAdvert]

/-- On a path of steps the timer of the role is armed as the last arming tells. -/
theorem Path.armedBy {n₀ n : Node} {s : List Episode} {ws : List Bool} (h₀ : n₀.Tuned none)
    (first : n₀.role = .init) (path : Path n₀ s ws n) (running : ws = []) (left : n.role ≠ .init) :
    ∃ a, lastArming s = some a ∧ n.ArmedBy a ∧ a.reading ∈ readings (trace s) := by
  induction path with
  | start => exact absurd first left
  | @step s ws u n m r before run ih =>
    rw [lastArming_concat, trace_concat, readings_append]
    have tuned := (before.step run).tuned h₀
    rcases arming_times tuned (times_step run) with ⟨none, timers, role⟩ | ⟨a, some, armed, last⟩
    · -- An episode that arms nothing leaves the role and the last arming as they were.
      obtain ⟨a, known, armed, read⟩ := ih running (role ▸ left)
      refine ⟨a, by rw [none, known]; rfl, ?_, List.mem_append_left _ read⟩
      change m.timers = n.timers at timers
      change m.role = n.role at role
      rwa [ArmedBy, timers, role]
    · exact ⟨a, by rw [some]; rfl, armed, List.mem_append_right _ (List.mem_of_getLast? last)⟩
  | finish => simp at running

theorem takesOver_iff_fired {n m : Node} {u : List Exchange} {now : Nat}
    (role : n.role = .backup) (acted : n.Acts u m) (first : (readings u).head? = some now) :
    m.role = .master ↔ n.timers.masterDownFired now = true := by
  cases acted with
  | backupTakesOver _ _ fired run =>
    cases first
    simp [fired, (times_takesOver run).1]
  | backupHearsNothing _ _ _ waiting | backupHears _ _ _ _ _ waiting =>
    cases first
    simp [waiting, role]
  | ownerTakesOver other | standsBy _ other | advertises _ _ _ other
  | masterHearsNothing _ _ other | reasserts _ _ _ _ _ other | stepsDown _ _ _ _ _ other
  | ignores _ _ _ other => cases role.symm.trans other

def Advertises (n : Node) (u : List Exchange) : Prop :=
  waits u = [] ∧ payloads u = [n.payload n.priority]

theorem advertises_iff_fired {n m : Node} {u : List Exchange} {now : Nat}
    (role : n.role = .master) (acted : n.Acts u m) (first : (readings u).head? = some now) :
    n.Advertises u ↔ n.timers.advertFired now = true := by
  have waited {timeout : Nat} {rc : Reception} {v : List Exchange} :
      ¬n.Advertises (⟨.clock, now⟩ :: ⟨.receive timeout, rc⟩ :: v) := fun h => nomatch h.1
  cases acted with
  | advertises _ _ _ _ fired =>
    cases first
    exact ⟨fun _ => fired, fun _ => ⟨rfl, rfl⟩⟩
  | masterHearsNothing _ _ _ waiting | reasserts _ _ _ _ _ _ waiting
  | stepsDown _ _ _ _ _ _ waiting | ignores _ _ _ _ waiting =>
    cases first
    simp [waiting, waited]
  | ownerTakesOver other | standsBy _ other | backupTakesOver _ other
  | backupHearsNothing _ _ other | backupHears _ _ _ _ other => cases role.symm.trans other

theorem timers_of_disregarded {n m : Node} {u : List Exchange} {now : Nat}
    (left : n.role ≠ .init) (acted : n.Acts u m) (first : (readings u).head? = some now)
    (calm : n.timers.advertFired now = false ∧ n.timers.masterDownFired now = false)
    (disregarded : ∀ a, Episode.advert? ⟨n, ⟨.shutdownRequested, false⟩ :: u, m⟩ = some a →
      n.Disregards a) :
    m.timers = n.timers ∧ m.role = n.role := by
  cases acted with
  | ownerTakesOver role | standsBy _ role => exact absurd role left
  | advertises _ _ _ _ fired =>
    cases first
    cases fired.symm.trans calm.1
  | backupTakesOver _ _ fired =>
    cases first
    cases fired.symm.trans calm.2
  | masterHearsNothing _ rc | ignores _ rc | backupHearsNothing _ rc =>
    exact ⟨timers_heard n rc, role_heard n rc⟩
  | reasserts _ _ _ a _ _ _ accepted release =>
    exact absurd release (disregarded a ((advert?_waiting rfl).trans accepted)).1
  | stepsDown _ _ _ a _ role _ accepted claim beaten =>
    have unfollowed := (disregarded a ((advert?_waiting rfl).trans accepted)).2
    simp [follows, role, claim, beaten] at unfollowed
  | backupHears _ later rc a role _ accepted =>
    obtain ⟨claim, unfollowed⟩ := disregarded a ((advert?_waiting rfl).trans accepted)
    have timers := timers_backupHears role rc a later
    rw [if_neg claim, if_neg (by simp [unfollowed])] at timers
    exact ⟨timers, by simp⟩

theorem Tuned.masterDown_le {n : Node} {i : Option Nat} (h : n.Tuned i)
    (paced : n.config.Paced) : n.timers.masterDown ≤ 1020000000 := by
  have most := Version.carries_le_most (h.carries paced).1
  have less := masterDownInterval_le n.priority n.timers.masterInterval
  rw [h.masterDown]
  omega

theorem Tuned.advertInterval_le {n : Node} {i : Option Nat} (h : n.Tuned i)
    (paced : n.config.Paced) : n.timers.advertInterval ≤ 255000000 := by
  rw [h.advertInterval]
  exact Version.carries_le_most paced.carries

theorem Tuned.masterDown_lt {n : Node} {i : Option Nat} (h : n.Tuned i)
    (paced : n.config.Paced) : n.timers.masterDown < 2 ^ 62 :=
  Nat.lt_of_le_of_lt (h.masterDown_le paced) (by decide)

theorem Tuned.advertInterval_lt {n : Node} {i : Option Nat} (h : n.Tuned i)
    (paced : n.config.Paced) : n.timers.advertInterval < 2 ^ 62 :=
  Nat.lt_of_le_of_lt (h.advertInterval_le paced) (by decide)

theorem fired_iff {n : Node} {a : Arming} {now : Nat} (armed : n.Armed)
    (armedBy : n.ArmedBy a) (since : a.reading ≤ now) (small : now < 2 ^ 62)
    (short : n.timers.masterDown < 2 ^ 62) (short' : n.timers.advertInterval < 2 ^ 62) :
    ¬n.timers.SetBack now ∧
      (n.timers.masterDownFired now = true ↔ n.role = .backup ∧ a.deadline < now) ∧
      (n.timers.advertFired now = true ↔ n.role = .master ∧ a.deadline < now) := by
  cases role : n.role with
  | init => simp [ArmedBy, role] at armedBy
  | backup =>
    simp only [Armed, role] at armed
    simp only [ArmedBy, role] at armedBy
    -- The timer may be armed for less than the time it is judged by, never for more.
    have ahead : a.deadline ≤ now + n.timers.masterDown :=
      Nat.add_le_add since armedBy.2
    refine ⟨?_, ?_, ?_⟩
    · simp [Timers.SetBack, armed.1, armedBy.1, not_setBack ahead ⟨small, short⟩]
    · simp [Timers.masterDownFired_iff armedBy.1 ahead ⟨small, short⟩]
    · simp [Timers.advertFired, armed.1]
  | master =>
    simp only [Armed, role] at armed
    simp only [ArmedBy, role] at armedBy
    have ahead : a.deadline ≤ now + n.timers.advertInterval :=
      Nat.add_le_add since (Nat.le_of_eq armedBy.2)
    refine ⟨?_, ?_, ?_⟩
    · simp [Timers.SetBack, armed.2, armedBy.1, not_setBack ahead ⟨small, short'⟩]
    · simp [Timers.masterDownFired, armed.2]
    · simp [Timers.advertFired_iff armedBy.1 ahead ⟨small, short'⟩]

structure Steady (t : List Exchange) : Prop where
  ordered : (readings t).Pairwise (· ≤ ·)
  small : ∀ now ∈ readings t, now < 2 ^ 62

theorem Steady.first {t u : List Exchange} {now : Nat} (steady : Steady (t ++ u))
    (first : (readings u).head? = some now) :
    now < 2 ^ 62 ∧ ∀ earlier ∈ readings t, earlier ≤ now := by
  have present : now ∈ readings u := List.mem_of_head? first
  obtain ⟨ordered, small⟩ := steady
  rw [readings_append] at ordered small
  exact ⟨small now (List.mem_append_right _ present),
    fun earlier read => (List.pairwise_append.mp ordered).2.2 earlier read now present⟩

/-- Every history is a path of steps. However it is one, a step under a clock that was never set
back fires the timer of the role exactly when the time for which it was armed last has passed,
and never because the clock seems set back. While it has not passed, nothing that is
disregarded moves a deadline. What a master sends when its timer fires is read by peers as its
advertisement. -/
theorem fires_exactly_at_deadline {c : Config} {b : Binding} {n₀ n : Node} {t : List Exchange}
    (started : start c b = .ok n₀) (h : History n₀ t none n) :
    (∃ s, Path n₀ s [] n ∧ trace s = t) ∧
    Expectation.accept ⟨c.version, c.vrid, c.addresses, c.advertInterval⟩
      (datagram (n.payload n.priority) b.address 255) = .ok (c.advert b n.priority) ∧
    ∀ s, Path n₀ s [] n → trace s = t →
      ∀ {u : List Exchange} {m : Node} {r : Step} {now : Nat}, n.step.Runs u (r, m) →
        (readings u).head? = some now → Steady (t ++ u) →
        ¬n.timers.SetBack now ∧
        (n.role ≠ .init → ∃ a, lastArming s = some a ∧
          (n.role = .backup → (m.role = .master ↔ a.reading + a.wait < now)) ∧
          (n.role = .master → (n.Advertises u ↔ a.reading + a.wait < now)) ∧
          (now ≤ a.reading + a.wait →
            (∀ x, Episode.advert? ⟨n, u, m⟩ = some x → n.Disregards x) →
            m.timers = n.timers ∧ m.role = n.role)) := by
  refine ⟨h.path, accept_payload started h.life.identity_eq n.priority,
    fun s path all u m r now run first steady => ?_⟩
  have armed : n.Armed := (h.life.armed (armed_start started)).1 rfl
  have role₀ : n₀.role = .init := by
    obtain ⟨-, p, -, rfl⟩ := start_eq_ok_iff.mp started
    rfl
  rcases runs_step run with ⟨-, rfl, -⟩ | ⟨-, u, rfl, acted⟩
  · cases first
  obtain ⟨small, forward⟩ := steady.first (u := ⟨.shutdownRequested, false⟩ :: u) first
  by_cases left : n.role = .init
  · simp only [Armed, left] at armed
    exact ⟨by simp [Timers.SetBack, armed.1, armed.2], fun other => absurd left other⟩
  obtain ⟨a, known, armedBy, read⟩ := path.armedBy (tuned_start started) role₀ rfl left
  have tuned := path.tuned (tuned_start started)
  have paced := path.paced started
  obtain ⟨never, backup, master⟩ := fired_iff armed armedBy (forward _ (all ▸ read)) small
    (tuned.masterDown_lt paced) (tuned.advertInterval_lt paced)
  refine ⟨never, fun _ => ⟨a, known, fun role => ?_, fun role => ?_, fun early disregarded => ?_⟩⟩
  · rw [takesOver_iff_fired role acted first, backup]
    exact and_iff_right role
  · have waited : n.Advertises (⟨.shutdownRequested, false⟩ :: u) ↔ n.Advertises u := Iff.rfl
    rw [waited, advertises_iff_fired role acted first, master]
    exact and_iff_right role
  · have late : ¬a.deadline < now := Nat.not_lt.mpr early
    refine timers_of_disregarded left acted first ⟨?_, ?_⟩ disregarded
    · rw [Bool.eq_false_iff, ne_eq, master]
      exact fun fired => late fired.2
    · rw [Bool.eq_false_iff, ne_eq, backup]
      exact fun fired => late fired.2

/-- The sample node as a backup takes over one microsecond after its deadline, and not at it. -/
theorem fires_after_silence : ∃ t a,
    start .sample .sample = .ok sample ∧ History sample t none standby.after ∧
      lastArming [standby] = some a ∧ a.reading + a.wait = 3609375 ∧
      (standby.after.episode (.quiet 3609375)).after.role ≠ .master ∧
      (standby.after.episode (.quiet 3609376)).after.role = .master := by
  obtain ⟨_, run⟩ := sample.runs_episode (l := .quiet 0) rfl
  have before : History sample standby.exchanged none standby.after := History.start.step run
  have all : trace [standby] = standby.exchanged := by simp [trace]
  have takesOver (now : Nat) {l : Lan} (fresh : l.exchanges = [])
      (first : (readings (standby.after.episode l).exchanged).head? = some now)
      (steady : Steady (standby.exchanged ++ (standby.after.episode l).exchanged)) :
      (standby.after.episode l).after.role = .master ↔ 3609375 < now := by
    obtain ⟨r, run⟩ := standby.after.runs_episode fresh
    obtain ⟨-, armed⟩ := (fires_exactly_at_deadline start_sample before).2.2 [standby] path_standby
      all run first steady
    obtain ⟨a, known, backup, -⟩ := armed (by decide)
    cases known.symm.trans (show lastArming [standby] = some ⟨0, 3609375⟩ by decide +kernel)
    exact backup rfl
  refine ⟨_, ⟨0, 3609375⟩, start_sample, before, by decide +kernel, rfl, ?_, ?_⟩
  · rw [ne_eq, takesOver 3609375 rfl rfl ⟨by decide +kernel, by decide +kernel⟩]
    exact Nat.lt_irrefl _
  · rw [takesOver 3609376 rfl rfl ⟨by decide +kernel, by decide +kernel⟩]
    exact Nat.lt_succ_self _

end Node
end VirtualRouter
