import VirtualRouter.Proofs.TimerPrecision
import VirtualRouter.Proofs.HostDiscipline

/-!
# No wait is longer than the interval of its timer

A node waits on whichever deadline is armed, and judges it by the interval of its role. Only
because no other timer than that of the role is ever armed do the two agree: a deadline that
has passed, or that lies further ahead than its interval, fires and is never waited for. The
clock may jump to any time at any reading.
-/

set_option autoImplicit false

namespace VirtualRouter

/-- The difference of two times does not overflow a signed word. -/
def SameSpan (x y : Nat) : Prop := (x + 2 ^ 63) / 2 ^ 64 = (y + 2 ^ 63) / 2 ^ 64

instance (x y : Nat) : Decidable (SameSpan x y) := inferInstanceAs (Decidable (_ = _))

theorem signed64_eq (n : Nat) :
    signed64 n = n - 18446744073709551616 * (((n + 2 ^ 63) / 2 ^ 64 : Nat) : Int) := by
  unfold signed64
  rw [Int.bmod_def]
  split <;> omega

theorem signed64_sub {x y : Nat} (span : SameSpan x y) :
    signed64 x - signed64 y = (x : Int) - y := by
  rw [signed64_eq, signed64_eq, span]
  omega

theorem timerFired_iff_passed_or_far {deadline bound now : Nat} (span : SameSpan deadline now)
    (short : bound < 2 ^ 63) :
    timerFired deadline bound now = true ↔ deadline < now ∨ now + bound < deadline := by
  simp only [timerFired, Bool.or_eq_true, decide_eq_true_eq]
  rw [signed64_sub span, signed64_of_lt short]
  omega

def Timers.deadline? (t : Timers) : Option Nat := t.advertDeadline.or t.masterDownDeadline

theorem Timers.remaining_eq (t : Timers) (now : Nat) :
    t.remaining now = t.deadline?.elim 0 (· - now) := by
  unfold remaining deadline?
  cases t.advertDeadline.or t.masterDownDeadline <;> rfl

namespace Node

def longest (n : Node) : Nat :=
  match n.role with
  | .init => 0
  | .backup => n.timers.masterDown
  | .master => n.timers.advertInterval

def fires (n : Node) (now : Nat) : Bool :=
  n.timers.deadline?.any fun d => timerFired d n.longest now

structure Within (n : Node) : Prop where
  advert : ∀ d ∈ n.timers.advertDeadline, n.role = .master ∧ d < 2 ^ 63
  masterDown : ∀ d ∈ n.timers.masterDownDeadline, n.role = .backup ∧ d < 2 ^ 63

namespace Within

variable {n m : Node} {d now : Nat}

theorem advert_eq_none (h : n.Within) (other : n.role ≠ .master) :
    n.timers.advertDeadline = none :=
  Option.eq_none_iff_forall_not_mem.mpr fun d armed => other (h.advert d armed).1

theorem masterDown_eq_none (h : n.Within) (other : n.role ≠ .backup) :
    n.timers.masterDownDeadline = none :=
  Option.eq_none_iff_forall_not_mem.mpr fun d armed => other (h.masterDown d armed).1

theorem deadline_of_init (h : n.Within) (role : n.role = .init) : n.timers.deadline? = none := by
  rw [Timers.deadline?, h.advert_eq_none (by simp [role]), h.masterDown_eq_none (by simp [role])]
  rfl

theorem deadline_lt (h : n.Within) (armed : n.timers.deadline? = some d) : d < 2 ^ 63 := by
  rcases Option.or_eq_some_iff.mp armed with advert | ⟨-, masterDown⟩
  · exact (h.advert d advert).2
  · exact (h.masterDown d masterDown).2

theorem advertFired_eq (h : n.Within) (role : n.role = .master) (now : Nat) :
    n.timers.advertFired now = n.fires now := by
  have other := h.masterDown_eq_none (by simp [role])
  simp [fires, Timers.deadline?, longest, role, other, Timers.advertFired]

theorem masterDownFired_eq (h : n.Within) (role : n.role = .backup) (now : Nat) :
    n.timers.masterDownFired now = n.fires now := by
  have other := h.advert_eq_none (by simp [role])
  simp [fires, Timers.deadline?, longest, role, other, Timers.masterDownFired]

theorem fires_iff (h : n.Within) (short : n.longest < 2 ^ 62) (small : now < 2 ^ 62)
    (armed : n.timers.deadline? = some d) :
    n.fires now = true ↔ d < now ∨ now + n.longest < d := by
  have near := h.deadline_lt armed
  have span : SameSpan d now := by
    unfold SameSpan
    omega
  rw [fires, armed, Option.any_some, timerFired_iff_passed_or_far span (by omega)]

theorem remaining_le (h : n.Within) (short : n.longest < 2 ^ 62) (small : now < 2 ^ 62)
    (waiting : n.fires now = false) : n.timers.remaining now ≤ n.longest := by
  rw [Timers.remaining_eq]
  cases armed : n.timers.deadline? with
  | none => exact Nat.zero_le _
  | some d =>
    have kept : ¬(d < now ∨ now + n.longest < d) := by
      rw [← h.fires_iff short small armed, waiting]
      exact Bool.false_ne_true
    rw [Option.elim_some]
    omega

theorem of_start {c : Config} {b : Binding} (started : start c b = .ok n) : n.Within := by
  obtain ⟨-, p, -, rfl⟩ := start_eq_ok_iff.mp started
  exact ⟨nofun, nofun⟩

theorem of_disarm (timers : m.timers = n.timers.disarm) : m.Within := by
  constructor
  · rw [timers]
    nofun
  · rw [timers]
    nofun

theorem of_backup (role : n.role = .backup) (small : d < 2 ^ 63)
    (advert : n.timers.advertDeadline = none) (armed : n.timers.masterDownDeadline = some d) :
    n.Within := by
  constructor
  · rw [advert]
    nofun
  · rw [armed]
    rintro _ ⟨⟩
    exact ⟨role, small⟩

theorem of_master (role : n.role = .master) (small : d < 2 ^ 63)
    (armed : n.timers.advertDeadline = some d) (masterDown : n.timers.masterDownDeadline = none) :
    n.Within := by
  constructor
  · rw [armed]
    rintro _ ⟨⟩
    exact ⟨role, small⟩
  · rw [masterDown]
    nofun

end Within

theorem Tuned.skew_lt {n : Node} {i : Option Nat} (h : n.Tuned i) (paced : n.config.Paced) :
    n.timers.skew < 2 ^ 62 :=
  Nat.lt_of_le_of_lt h.skew_le (h.masterDown_lt paced)

theorem Tuned.longest_lt {n : Node} {i : Option Nat} (h : n.Tuned i) (paced : n.config.Paced) :
    n.longest < 2 ^ 62 := by
  unfold longest
  cases n.role with
  | init => exact Nat.two_pow_pos 62
  | backup => exact h.masterDown_lt paced
  | master => exact h.advertInterval_lt paced

/-- What a step does to the timers keeps them within bounds, if it read small times only. -/
theorem Within.times {e : Episode} {i : Option Nat} (h : e.before.Within) (tuned : e.after.Tuned i)
    (paced : e.after.config.Paced) (times : e.Times)
    (small : ∀ now ∈ readings e.exchanged, now < 2 ^ 62) : e.after.Within := by
  have masterDown := tuned.masterDown_lt paced
  have advert := tuned.advertInterval_lt paced
  have skew := tuned.skew_lt paced
  have last {now : Nat} (reading : e.lastReading? = some now) : now < 2 ^ 62 :=
    small now (List.mem_of_getLast? reading)
  cases times with
  | keeps timers role =>
    constructor
    · rw [timers, role]
      exact h.advert
    · rw [timers, role]
      exact h.masterDown
  | standsBy now before after unheard reading timers =>
    have read := last reading
    refine Within.of_backup (d := now + e.after.timers.masterDown) after (by omega) ?_ ?_
    · rw [timers]; rfl
    · rw [timers]; rfl
  | follows a now followed after reading timers =>
    have read := last reading
    refine Within.of_backup (d := now + e.after.timers.masterDown) after (by omega) ?_ ?_
    · rw [timers]; rfl
    · rw [timers]; rfl
  | hurries a now heard release before after reading timers =>
    have read := last reading
    refine Within.of_backup (d := now + e.after.timers.skew) after (by omega) ?_ ?_
    · rw [timers]; rfl
    · rw [timers]; rfl
  | asserts now sent after unfollowed reading timers =>
    have read := last reading
    refine Within.of_master (d := now + e.after.timers.advertInterval) after (by omega) ?_ ?_
    · rw [timers]; rfl
    · rw [timers]; rfl

namespace Episode

structure Fires (e : Episode) : Prop where
  role : e.after.role = .master
  sent : payloads e.exchanged = [e.before.payload e.before.priority]
  host : hostCalls e.exchanged =
    if e.before.role = .backup then takeoverCalls e.before.config e.before.binding else []
  rearmed : ∃ later, e.lastReading? = some later ∧
    e.after.timers = e.before.timers.armAdvert later

/-- How long a step waits: not at all in the first state, once a shutdown is requested, or if
its timer has fired; and else once, for the time left, which is no longer than its interval. -/
structure Prompt (e : Episode) : Prop where
  bounded : ∀ wait ∈ waits e.exchanged,
    (e.before.role = .master → wait ≤ e.before.timers.advertInterval) ∧
    (e.before.role = .backup → wait ≤ e.before.timers.masterDown)
  initial : e.before.role = .init → waits e.exchanged = []
  refused : e.exchanged.head? = some ⟨.shutdownRequested, true⟩ → waits e.exchanged = []
  judged : ∀ now d, (readings e.exchanged).head? = some now → e.before.timers.deadline? = some d →
    (d < now ∨ now + e.before.longest < d → waits e.exchanged = [] ∧ e.Fires) ∧
    (now ≤ d ∧ d ≤ now + e.before.longest → waits e.exchanged = [d - now])

end Episode

theorem fires_takesOver {n m : Node} {t u : List Exchange} (role : n.role = .backup)
    (run : n.TakesOver t m) (quiet : payloads u = [] ∧ hostCalls u = []) :
    Episode.Fires ⟨n, u ++ t, m⟩ := by
  obtain ⟨after, now, timers, reading, -, -⟩ := times_takesOver run
  refine ⟨after, ?_, ?_, now, ?_, timers⟩
  · rw [payloads_append, quiet.1, payloads_takesOver run, List.nil_append]
  · rw [hostCalls_append, quiet.2, hostCalls_takesOver run, List.nil_append, if_pos role]
  · rw [Episode.lastReading?, readings_append, reading]
    simp

/-- A step that is not refused leaves the first state, or reads the clock and then either does
what its timer is for, or waits once for the time left. -/
theorem acts_fires_or_waits {n m : Node} {u : List Exchange} (h : n.Within) (acted : n.Acts u m) :
    (n.role = .init ∧ waits u = []) ∨
    n.role ≠ .init ∧ ∃ now, (readings u).head? = some now ∧
      ((n.fires now = true ∧ waits u = [] ∧
          Episode.Fires ⟨n, ⟨.shutdownRequested, false⟩ :: u, m⟩) ∨
        (n.fires now = false ∧ waits u = [n.timers.remaining now])) := by
  cases acted with
  | ownerTakesOver role _ run =>
    obtain ⟨-, -, -, -, unwaited, -⟩ := times_takesOver run
    exact .inl ⟨role, unwaited⟩
  | standsBy now role => exact .inl ⟨role, rfl⟩
  | advertises now later sent role fired =>
    rw [h.advertFired_eq role] at fired
    have fires : Episode.Fires ⟨n, [⟨.shutdownRequested, false⟩, ⟨.clock, now⟩,
        ⟨.send (n.payload n.priority), sent⟩, ⟨.clock, later⟩],
        (n.afterSend sent).mapTimers (·.armAdvert later)⟩ := by
      refine ⟨by simp [role], rfl, ?_, later, rfl, by simp⟩
      simp [role, hostCalls, Call.isHost]
    exact .inr ⟨by simp [role], now, rfl, .inl ⟨fired, rfl, fires⟩⟩
  | masterHearsNothing now rc role waiting | reasserts now _ rc _ _ role waiting
  | stepsDown now _ rc _ _ role waiting | ignores now rc _ role waiting =>
    rw [h.advertFired_eq role] at waiting
    exact .inr ⟨by simp [role], now, rfl, .inr ⟨waiting, rfl⟩⟩
  | backupTakesOver now role fired run =>
    rw [h.masterDownFired_eq role] at fired
    obtain ⟨-, -, -, -, unwaited, -⟩ := times_takesOver run
    exact .inr ⟨by simp [role], now, rfl, .inl ⟨fired, unwaited,
      fires_takesOver (u := [⟨.shutdownRequested, false⟩, ⟨.clock, now⟩]) role run ⟨rfl, rfl⟩⟩⟩
  | backupHearsNothing now rc role waiting | backupHears now _ rc _ role waiting =>
    rw [h.masterDownFired_eq role] at waiting
    exact .inr ⟨by simp [role], now, rfl, .inr ⟨waiting, rfl⟩⟩

theorem prompt_of_unwaited {n m : Node} {u : List Exchange} (unwaited : waits u = [])
    (judged : ∀ now d, (readings u).head? = some now → n.timers.deadline? = some d →
      Episode.Fires ⟨n, u, m⟩ ∧ (d < now ∨ now + n.longest < d)) :
    Episode.Prompt ⟨n, u, m⟩ := by
  refine ⟨by simp [unwaited], fun _ => unwaited, fun _ => unwaited, fun now d first armed => ?_⟩
  obtain ⟨fires, late⟩ := judged now d first armed
  refine ⟨fun _ => ⟨unwaited, fires⟩, fun kept => ?_⟩
  rcases late with passed | far
  · exact absurd passed (Nat.not_lt.mpr kept.1)
  · exact absurd far (Nat.not_lt.mpr kept.2)

theorem prompt_acts {n m : Node} {u : List Exchange} (h : n.Within) (short : n.longest < 2 ^ 62)
    (acted : n.Acts u m) (small : ∀ now ∈ readings u, now < 2 ^ 62) :
    Episode.Prompt ⟨n, ⟨.shutdownRequested, false⟩ :: u, m⟩ := by
  rcases acts_fires_or_waits h acted with ⟨role, unwaited⟩ |
    ⟨left, now, first, ⟨fired, unwaited, fires⟩ | ⟨kept, waited⟩⟩
  · -- In the first state no timer is armed.
    refine prompt_of_unwaited unwaited fun now d _ armed => ?_
    simp [h.deadline_of_init role] at armed
  · refine prompt_of_unwaited unwaited fun now' d first' armed => ?_
    cases first.symm.trans first'
    have read := small now (List.mem_of_head? first)
    exact ⟨fires, (h.fires_iff short read armed).mp fired⟩
  · have wait : waits (⟨.shutdownRequested, false⟩ :: u) = [n.timers.remaining now] := waited
    have read := small now (List.mem_of_head? first)
    have least := h.remaining_le short read kept
    refine ⟨?_, fun role => absurd role left, nofun, fun now' d first' armed => ?_⟩
    · simp only [wait, List.mem_singleton, forall_eq]
      constructor <;> intro role <;> simpa [longest, role] using least
    · cases first.symm.trans first'
      have late := h.fires_iff short read armed
      rw [kept] at late
      refine ⟨fun passed => absurd (late.mpr passed) Bool.false_ne_true, fun _ => ?_⟩
      rw [wait, Timers.remaining_eq, armed, Option.elim_some]

theorem prompt_step {n m : Node} {u : List Exchange} {r : Step} (h : n.Within)
    (short : n.longest < 2 ^ 62) (run : n.step.Runs u (r, m))
    (small : ∀ now ∈ readings u, now < 2 ^ 62) : Episode.Prompt ⟨n, u, m⟩ := by
  rcases runs_step run with ⟨-, rfl, rfl⟩ | ⟨-, u, rfl, acted⟩
  · exact prompt_of_unwaited rfl nofun
  · exact prompt_acts h short acted small

theorem prompt_finish {n k m : Node} {u v : List Exchange} {w : Bool}
    (refused : n.step.Runs u (.shutdown, k)) (released : k.release.Runs v (w, m)) :
    Episode.Prompt ⟨n, u ++ v, m⟩ := by
  rcases runs_step refused with ⟨-, rfl, rfl⟩ | ⟨shutdown, -⟩
  · cases releases_of_release released with
    | master => exact prompt_of_unwaited rfl nofun
    | other => exact prompt_of_unwaited rfl nofun
  · cases shutdown

/-- Along a path that reads small times only, every timer stays within bounds and every episode
waits as its timer allows. -/
theorem Path.prompt {c : Config} {b : Binding} {n₀ n : Node} {s : List Episode} {ws : List Bool}
    (started : Node.start c b = .ok n₀) (path : Path n₀ s ws n)
    (small : ∀ now ∈ readings (trace s), now < 2 ^ 62) : n.Within ∧ ∀ e ∈ s, e.Prompt := by
  induction path with
  | start => exact ⟨Within.of_start started, by simp⟩
  | @step s ws u n m r before run ih =>
    rw [trace_concat, readings_append] at small
    obtain ⟨within, prompt⟩ := ih fun now read => small now (List.mem_append_left _ read)
    have recent : ∀ now ∈ readings u, now < 2 ^ 62 :=
      fun now read => small now (List.mem_append_right _ read)
    have tuned := before.tuned (tuned_start started)
    have short := tuned.longest_lt (before.paced started)
    have after : m.Within := Within.times (e := ⟨n, u, m⟩) within (tuned.step run)
      ((before.step run).paced started) (times_step run) recent
    refine ⟨after, ?_⟩
    rw [List.forall_mem_append, List.forall_mem_singleton]
    exact ⟨prompt, prompt_step within short run recent⟩
  | @finish s ws u v n k m w before refused released ih =>
    rw [trace_concat, readings_append] at small
    obtain ⟨-, prompt⟩ := ih fun now read => small now (List.mem_append_left _ read)
    refine ⟨Within.of_disarm (times_finish refused released).1, ?_⟩
    rw [List.forall_mem_append, List.forall_mem_singleton]
    exact ⟨prompt, prompt_finish refused released⟩

/-- However the clock jumps, no step waits for longer than the interval of its timer, and none
waits at all where the timer has to fire: there it does what the timer is for. -/
theorem never_oversleeps {c : Config} {b : Binding} {n₀ n : Node} {s : List Episode}
    {ws : List Bool} (started : start c b = .ok n₀) (path : Path n₀ s ws n)
    (small : ∀ now ∈ readings (trace s), now < 2 ^ 62) : ∀ e ∈ s, e.Prompt :=
  (path.prompt started small).2

def startled : List Episode :=
  let standby := sample.episode (.quiet 10000000)
  let waiting := standby.after.episode (.quiet 10000100)
  [standby, waiting, waiting.after.episode (.quiet 5)]

/-- A backup waits for what is left of its interval, and takes over when the clock is set back. -/
theorem backup_takes_over_when_startled : ∃ n waiting last,
    start .sample .sample = .ok sample ∧ Path sample startled [] n ∧
      (∀ now ∈ readings (trace startled), now < 2 ^ 62) ∧
      waiting ∈ startled ∧ waits waiting.exchanged = [3609275] ∧
      last ∈ startled ∧ last.before.timers.deadline? = some 13609375 ∧ waits last.exchanged = [] ∧
      last.Fires := by
  have path : Path sample startled [] _ := ((Path.start.among rfl).among rfl).among rfl
  have small : ∀ now ∈ readings (trace startled), now < 2 ^ 62 := by decide +kernel
  have prompt := never_oversleeps start_sample path small
  refine ⟨_, _, _, start_sample, path, small, .tail _ (.head _), ?_, .tail _ (.tail _ (.head _)),
    by decide +kernel, ?_⟩
  · exact ((prompt _ (.tail _ (.head _))).judged 10000100 13609375 (by decide +kernel)
      (by decide +kernel)).2 (by decide +kernel)
  · exact ((prompt _ (.tail _ (.tail _ (.head _)))).judged 5 13609375 (by decide +kernel)
      (by decide +kernel)).1 (by decide +kernel)

end Node
end VirtualRouter
