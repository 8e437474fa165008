import VirtualRouter.Proofs.BoundedWaits

/-!
# Timers in words of sixty-four bits

The node once more, over arithmetic that gives nothing where a result does not fit: an unsigned
word for the intervals and the deadlines, a signed one for the time that is left. A clock that
reads less than 2⁶² is enough for every step to end as it does over unbounded numbers, since no
peer can advertise an interval of more than 255 seconds.
-/

set_option autoImplicit false

namespace VirtualRouter

def unsigned64? (n : Nat) : Option Nat := if n < 2 ^ 64 then some n else none

def signed64? (i : Int) : Option Int :=
  if -9223372036854775808 ≤ i ∧ i < 9223372036854775808 then some i else none

theorem unsigned64?_of_lt {n : Nat} (small : n < 2 ^ 64) : unsigned64? n = some n := if_pos small

def Version.intervalMicros? (v : Version) (interval : UInt16) : Option Nat :=
  unsigned64? (interval.toNat * v.unitMicros)

def timerFired? (deadline bound now : Nat) : Option Bool := do
  let left ← signed64? (signed64 deadline - signed64 now)
  return left < 0 || signed64 bound < left

def skewTime? (priority : UInt8) (interval : Nat) : Option Nat := do
  let scaled ← unsigned64? ((256 - priority.toNat) * interval)
  return scaled / 256

def masterDownInterval? (priority : UInt8) (interval : Nat) : Option Nat := do
  let thrice ← unsigned64? (3 * interval)
  let skew ← skewTime? priority interval
  unsigned64? (thrice + skew)

theorem Version.intervalMicros?_eq (v : Version) (interval : UInt16) :
    v.intervalMicros? interval = some (v.intervalMicros interval) := by
  have unit : v.unitMicros ≤ 1000000 := by cases v <;> decide
  have product : interval.toNat * v.unitMicros ≤ 65535 * 1000000 :=
    Nat.mul_le_mul (Nat.le_of_lt_succ interval.toNat_lt) unit
  exact unsigned64?_of_lt (by omega)

theorem timerFired?_eq {deadline now : Nat} (near : deadline < 2 ^ 63) (early : now < 2 ^ 63)
    (bound : Nat) : timerFired? deadline bound now = some (timerFired deadline bound now) := by
  have fits : -9223372036854775808 ≤ signed64 deadline - signed64 now ∧
      signed64 deadline - signed64 now < 9223372036854775808 := by
    rw [signed64_of_lt near, signed64_of_lt early]
    omega
  rw [timerFired?, signed64?, if_pos fits]
  rfl

/-- Under an early clock a deadline is judged by the numbers that the words stand for. -/
theorem timerFired_iff_of_near {d bound now : Nat} (near : d < 2 ^ 63) (short : bound < 2 ^ 63)
    (early : now < 2 ^ 62) : timerFired d bound now = true ↔ d < now ∨ now + bound < d := by
  have span : SameSpan d now := by
    unfold SameSpan
    omega
  exact timerFired_iff_passed_or_far span short

theorem skewTime?_eq {interval : Nat} (short : interval < 2 ^ 56) (priority : UInt8) :
    skewTime? priority interval = some (skewTime priority interval) := by
  have part := scaled_le priority interval
  rw [skewTime?, unsigned64?_of_lt (by omega)]
  rfl

theorem masterDownInterval?_eq {interval : Nat} (short : interval < 2 ^ 56) (priority : UInt8) :
    masterDownInterval? priority interval = some (masterDownInterval priority interval) := by
  have skew := skewTime_le priority interval
  rw [masterDownInterval?, skewTime?_eq short, unsigned64?_of_lt (by omega)]
  exact unsigned64?_of_lt (by omega)

namespace Timers

def recompute? (t : Timers) : Option Timers := do
  let skew ← skewTime? t.priority t.masterInterval
  let masterDown ← masterDownInterval? t.priority t.masterInterval
  return { t with skew := skew, masterDown := masterDown }

def start? (priority : UInt8) (interval : Nat) : Option Timers :=
  recompute? ⟨priority, interval, interval, 0, 0, none, none⟩

def resync? (t : Timers) (v : Version) (interval : Nat) : Option Timers :=
  if v.resyncs then recompute? { t with masterInterval := interval } else some t

def armAdvert? (t : Timers) (now : Nat) : Option Timers := do
  let deadline ← unsigned64? (now + t.advertInterval)
  return { t with advertDeadline := some deadline, masterDownDeadline := none }

def armMasterDown? (t : Timers) (now : Nat) : Option Timers := do
  let deadline ← unsigned64? (now + t.masterDown)
  return { t with advertDeadline := none, masterDownDeadline := some deadline }

def armSkew? (t : Timers) (now : Nat) : Option Timers := do
  let deadline ← unsigned64? (now + t.skew)
  return { t with advertDeadline := none, masterDownDeadline := some deadline }

def advertFired? (t : Timers) (now : Nat) : Option Bool :=
  match t.advertDeadline with
  | some d => timerFired? d t.advertInterval now
  | none => some false

def masterDownFired? (t : Timers) (now : Nat) : Option Bool :=
  match t.masterDownDeadline with
  | some d => timerFired? d t.masterDown now
  | none => some false

structure Bounded (t : Timers) : Prop where
  advertInterval : t.advertInterval ≤ 255000000
  skew : t.skew ≤ t.masterInterval
  masterInterval : t.masterInterval ≤ 255000000
  masterDown : t.masterDown ≤ 1020000000
  advert : ∀ d ∈ t.advertDeadline, d < 2 ^ 63
  masterDownDeadline : ∀ d ∈ t.masterDownDeadline, d < 2 ^ 63

theorem recompute?_eq {t : Timers} (short : t.masterInterval < 2 ^ 56) :
    t.recompute? = some t.recompute := by
  rw [recompute?, skewTime?_eq short, masterDownInterval?_eq short]
  rfl

theorem start?_eq {interval : Nat} (short : interval < 2 ^ 56) (priority : UInt8) :
    start? priority interval = some (start priority interval) :=
  recompute?_eq short

theorem resync?_eq {interval : Nat} (short : interval < 2 ^ 56) (t : Timers) (v : Version) :
    t.resync? v interval = some (t.resync v interval) := by
  unfold resync? resync
  split
  · exact recompute?_eq short
  · rfl

namespace Bounded

variable {t : Timers} {now : Nat}

/-- An interval that is taken over keeps the bounds, if a version carries it. -/
theorem resync (h : t.Bounded) {interval : Nat} (short : interval ≤ 255000000) (v : Version) :
    (t.resync v interval).Bounded := by
  unfold Timers.resync
  split
  · have most := masterDownInterval_le t.priority interval
    exact ⟨h.advertInterval, skewTime_le t.priority interval, short, by
      change masterDownInterval t.priority interval ≤ 1020000000
      omega, h.advert, h.masterDownDeadline⟩
  · exact h

theorem armAdvert?_eq (h : t.Bounded) (early : now < 2 ^ 62) :
    t.armAdvert? now = some (t.armAdvert now) := by
  have short := h.advertInterval
  rw [armAdvert?, unsigned64?_of_lt (by omega)]
  rfl

theorem armMasterDown?_eq (h : t.Bounded) (early : now < 2 ^ 62) :
    t.armMasterDown? now = some (t.armMasterDown now) := by
  have short := h.masterDown
  rw [armMasterDown?, unsigned64?_of_lt (by omega)]
  rfl

theorem armSkew?_eq (h : t.Bounded) (early : now < 2 ^ 62) :
    t.armSkew? now = some (t.armSkew now) := by
  have short := Nat.le_trans h.skew h.masterInterval
  rw [armSkew?, unsigned64?_of_lt (by omega)]
  rfl

theorem advertFired?_eq (h : t.Bounded) (early : now < 2 ^ 62) :
    t.advertFired? now = some (t.advertFired now) := by
  unfold advertFired? advertFired
  cases armed : t.advertDeadline with
  | none => rfl
  | some d =>
    rw [Option.any_some]
    exact timerFired?_eq (h.advert d armed) (by omega) t.advertInterval

theorem masterDownFired?_eq (h : t.Bounded) (early : now < 2 ^ 62) :
    t.masterDownFired? now = some (t.masterDownFired now) := by
  unfold masterDownFired? masterDownFired
  cases armed : t.masterDownDeadline with
  | none => rfl
  | some d =>
    rw [Option.any_some]
    exact timerFired?_eq (h.masterDownDeadline d armed) (by omega) t.masterDown

end Bounded

end Timers

def Exchange.Early (e : Exchange) : Prop := ∀ now, e.reading? = some now → now < 2 ^ 62

theorem early_cons_iff {e : Exchange} {t : List Exchange} :
    (∀ now ∈ readings (e :: t), now < 2 ^ 62) ↔ e.Early ∧ ∀ now ∈ readings t, now < 2 ^ 62 := by
  unfold readings Exchange.Early
  rw [List.filterMap_cons]
  cases e.reading? <;> simp

/-- The interaction asks what the other asks, as long as the clock reads early times, and ends
with the result of the other, never with nothing. -/
inductive Computes {α : Type} : Interaction (Option α) → Interaction α → Prop
  | done (a : α) : Computes (.done (some a)) (.done a)
  | ask {c : Call} {k? : c.Answer → Interaction (Option α)} {k : c.Answer → Interaction α}
      (rest : ∀ r, Exchange.Early ⟨c, r⟩ → Computes (k? r) (k r)) :
      Computes (.ask c k?) (.ask c k)

namespace Computes
open Interaction

variable {α β : Type}

theorem call {c : Call} {k? : c.Answer → Interaction (Option α)} {k : c.Answer → Interaction α}
    (rest : ∀ r, Exchange.Early ⟨c, r⟩ → Computes (k? r) (k r)) :
    Computes (Interaction.call c >>= k?) (Interaction.call c >>= k) :=
  .ask rest

theorem clock {k? : Nat → Interaction (Option α)} {k : Nat → Interaction α}
    (rest : ∀ now < 2 ^ 62, Computes (k? now) (k now)) :
    Computes (Interaction.call .clock >>= k?) (Interaction.call .clock >>= k) :=
  .call fun now early => rest now (early now rfl)

theorem of_some {x? : Option α} {a : α} (h : x? = some a) : Computes (.done x?) (.done a) :=
  h ▸ .done a

/-- What needs no arithmetic is done first, with the same outcome for both. -/
theorem after {i : Interaction α} {f? : α → Interaction (Option β)} {f : α → Interaction β}
    (rest : ∀ u a, i.Runs u a → Computes (f? a) (f a)) : Computes (i >>= f?) (i >>= f) := by
  induction i with
  | done a => exact rest [] a (.done a)
  | ask c k ih => exact .ask fun r _ => ih r fun u a run => rest _ a (.ask run)

theorem map {i? : Interaction (Option α)} {i : Interaction α} (h : Computes i? i) (f : α → β) :
    Computes (i? >>= fun x => pure (x.map f)) (i >>= fun a => pure (f a)) := by
  induction h with
  | done a => exact .done (f a)
  | ask rest ih => exact .ask ih

/-- As long as the clock reads early times, both have the same runs. -/
theorem runs_iff {i? : Interaction (Option α)} {i : Interaction α} (h : Computes i? i)
    {u : List Exchange} (early : ∀ now ∈ readings u, now < 2 ^ 62) {x : Option α} :
    i?.Runs u x ↔ ∃ a, x = some a ∧ i.Runs u a := by
  induction h generalizing u with
  | done a =>
    simp only [runs_done_iff]
    constructor
    · rintro ⟨rfl, rfl⟩
      exact ⟨a, rfl, rfl, rfl⟩
    · rintro ⟨_, rfl, rfl, rfl⟩
      exact ⟨rfl, rfl⟩
  | ask rest ih =>
    simp only [runs_ask_iff]
    constructor
    · rintro ⟨r, u, rfl, checked⟩
      obtain ⟨first, later⟩ := early_cons_iff.mp early
      obtain ⟨a, result, run⟩ := (ih r first later).mp checked
      exact ⟨a, result, r, u, rfl, run⟩
    · rintro ⟨a, rfl, r, u, rfl, run⟩
      obtain ⟨first, later⟩ := early_cons_iff.mp early
      exact ⟨r, u, rfl, (ih r first later).mpr ⟨a, rfl, run⟩⟩

end Computes

namespace Node
open Interaction (call)

def mapTimers? (n : Node) (f : Timers → Option Timers) : Option Node :=
  (f n.timers).map fun t => { n with timers := t }

def toBackup? (n : Node) (now : Nat) : Option Node := do
  let timers ← n.timers.armMasterDown? now
  return { n with
    timers := timers
    role := .backup
    stats := { n.stats with backupTransitions := n.stats.backupTransitions + 1 } }

def toMaster? (n : Node) (now : Nat) : Option Node := do
  let timers ← n.timers.armAdvert? now
  return { n with
    timers := timers
    role := .master
    stats := { n.stats with masterTransitions := n.stats.masterTransitions + 1 } }

def resync? (n : Node) (a : Advert) : Option Node :=
  match a.interval with
  | some i => n.mapTimers? (·.resync? n.config.version i)
  | none => some n

def assertRole? (n : Node) : Interaction (Option Node) := do
  let n ← n.sendAdvert n.priority
  let now ← call .clock
  return n.mapTimers? (·.armAdvert? now)

def becomeMaster? (n : Node) : Interaction (Option Node) := do
  let _ ← call (.applyMac n.binding n.virtualMac .virtual)
  let n ← n.sendAdvert n.priority
  n.announceAll n.config.addresses
  let now ← call .clock
  return n.toMaster? now

def becomeBackup? (n : Node) : Interaction (Option Node) := do
  let now ← call .clock
  return n.toBackup? now

def masterHears? (n : Node) (a : Advert) : Interaction (Option Node) :=
  if a.priority = releasePriority then n.assertRole?
  else if dominates a.priority a.source n.priority n.binding.address then do
    let _ ← call (.applyMac n.binding n.binding.mac .real)
    match n.resync? a with
    | some n => n.becomeBackup?
    | none => return none
  else return some n

def backupHears? (n : Node) (a : Advert) (now : Nat) : Option Node :=
  if a.priority = releasePriority then n.mapTimers? (·.armSkew? now)
  else if !n.config.preempt || n.priority ≤ a.priority then do
    let n ← n.resync? a
    n.mapTimers? (·.armMasterDown? now)
  else some n

def masterStep? (n : Node) : Interaction (Option Node) := do
  let now ← call .clock
  match n.timers.advertFired? now with
  | none => return none
  | some true => n.assertRole?
  | some false =>
    match ← n.receive (n.timers.remaining now) with
    | (n, some a) => n.masterHears? a
    | (n, none) => return some n

def backupStep? (n : Node) : Interaction (Option Node) := do
  let now ← call .clock
  match n.timers.masterDownFired? now with
  | none => return none
  | some true => n.becomeMaster?
  | some false =>
    match ← n.receive (n.timers.remaining now) with
    | (n, some a) =>
      let now ← call .clock
      return n.backupHears? a now
    | (n, none) => return some n

def act? (n : Node) : Interaction (Option Node) :=
  match n.role with
  | .init => if n.priority = ownerPriority then n.becomeMaster? else n.becomeBackup?
  | .master => n.masterStep?
  | .backup => n.backupStep?

def step? (n : Node) : Interaction (Option (Step × Node)) := do
  if ← call .shutdownRequested then return some (.shutdown, n)
  else
    let n? ← n.act?
    return n?.map fun n => (.proceed, n)

variable {n : Node} {now : Nat}

theorem mapTimers?_eq {f : Timers → Option Timers} {g : Timers → Timers}
    (h : f n.timers = some (g n.timers)) : n.mapTimers? f = some (n.mapTimers g) := by
  rw [mapTimers?, h]
  rfl

theorem toBackup?_eq (h : n.timers.Bounded) (early : now < 2 ^ 62) :
    n.toBackup? now = some (n.toBackup now) := by
  rw [toBackup?, h.armMasterDown?_eq early]
  rfl

theorem toMaster?_eq (h : n.timers.Bounded) (early : now < 2 ^ 62) :
    n.toMaster? now = some (n.toMaster now) := by
  rw [toMaster?, h.armAdvert?_eq early]
  rfl

theorem interval_le_of_heard {rc : Reception} {a : Advert} (accepted : (n.heard rc).2 = some a) :
    ∀ i ∈ a.interval, i ≤ 255000000 := by
  unfold heard at accepted
  split at accepted
  · rename_i d
    cases verdict : n.expectation.accept d with
    | error r => simp [verdict] at accepted
    | ok b =>
      obtain rfl : b = a := by simpa [verdict] using accepted
      have allowed := (Expectation.interval_of_accept verdict).1
      intro i known
      rw [Option.mem_def.mp known] at allowed
      exact Version.carries_le_most allowed.2
  · cases accepted
  · cases accepted

/-- A wait leaves the timers alone, and what it accepts says no interval that is longer than
any version carries. -/
theorem bounded_of_receive {m : Node} {timeout : Nat} {a? : Option Advert} {u : List Exchange}
    (h : n.timers.Bounded) (run : (n.receive timeout).Runs u (m, a?)) :
    m.timers.Bounded ∧ ∀ a ∈ a?, ∀ i ∈ a.interval, i ≤ 255000000 := by
  obtain ⟨rc, -, heard⟩ := runs_receive_iff.mp run
  obtain ⟨rfl, rfl⟩ := Prod.mk.inj heard
  exact ⟨timers_heard n rc ▸ h, fun _ accepted => interval_le_of_heard accepted⟩

theorem resync?_eq (h : n.timers.Bounded) {a : Advert} (short : ∀ i ∈ a.interval, i ≤ 255000000) :
    n.resync? a = some (n.resync a) ∧ (n.resync a).timers.Bounded := by
  unfold resync? resync
  cases interval : a.interval with
  | none => exact ⟨rfl, h⟩
  | some i =>
    have most : i ≤ 255000000 := short i interval
    exact ⟨mapTimers?_eq (Timers.resync?_eq (by omega) _ _), h.resync most _⟩

theorem computes_assertRole (h : n.timers.Bounded) : Computes n.assertRole? n.assertRole := by
  refine .after fun u m run => .clock fun now early => .of_some ?_
  obtain ⟨sent, -, rfl⟩ := runs_sendAdvert_iff.mp run
  rw [← timers_afterSend n sent] at h
  exact mapTimers?_eq (h.armAdvert?_eq early)

theorem computes_becomeMaster (h : n.timers.Bounded) :
    Computes n.becomeMaster? n.becomeMaster := by
  refine .call fun _ _ => .after fun u m run => .after fun _ _ _ =>
    .clock fun now early => .of_some ?_
  obtain ⟨sent, -, rfl⟩ := runs_sendAdvert_iff.mp run
  rw [← timers_afterSend n sent] at h
  exact toMaster?_eq h early

theorem computes_becomeBackup (h : n.timers.Bounded) :
    Computes n.becomeBackup? n.becomeBackup :=
  .clock fun _ early => .of_some (toBackup?_eq h early)

theorem computes_masterHears (h : n.timers.Bounded) {a : Advert}
    (short : ∀ i ∈ a.interval, i ≤ 255000000) : Computes (n.masterHears? a) (n.masterHears a) := by
  unfold masterHears? masterHears
  split_ifs
  · exact computes_assertRole h
  · -- The timer is armed for an interval that was taken over just before.
    obtain ⟨resynced, bounded⟩ := resync?_eq h short
    rw [resynced]
    exact .call fun _ _ => computes_becomeBackup bounded
  · exact .done n

theorem backupHears?_eq (h : n.timers.Bounded) {a : Advert}
    (short : ∀ i ∈ a.interval, i ≤ 255000000) (early : now < 2 ^ 62) :
    n.backupHears? a now = some (n.backupHears a now) := by
  unfold backupHears? backupHears
  split_ifs
  · exact mapTimers?_eq (h.armSkew?_eq early)
  · obtain ⟨resynced, bounded⟩ := resync?_eq h short
    simp only [resynced, Option.bind_eq_bind, Option.bind_some]
    exact mapTimers?_eq (bounded.armMasterDown?_eq early)
  · rfl

theorem computes_masterStep (h : n.timers.Bounded) : Computes n.masterStep? n.masterStep := by
  refine .clock fun now early => ?_
  rw [h.advertFired?_eq early]
  cases fired : n.timers.advertFired now with
  | true => exact computes_assertRole h
  | false =>
    refine .after fun u ⟨m, a?⟩ run => ?_
    obtain ⟨bounded, short⟩ := bounded_of_receive h run
    cases a? with
    | none => exact .done m
    | some a => exact computes_masterHears bounded (short a rfl)

theorem computes_backupStep (h : n.timers.Bounded) : Computes n.backupStep? n.backupStep := by
  refine .clock fun now early => ?_
  rw [h.masterDownFired?_eq early]
  cases fired : n.timers.masterDownFired now with
  | true => exact computes_becomeMaster h
  | false =>
    refine .after fun u ⟨m, a?⟩ run => ?_
    obtain ⟨bounded, short⟩ := bounded_of_receive h run
    cases a? with
    | none => exact .done m
    | some a =>
      exact .clock fun later early => .of_some (backupHears?_eq bounded (short a rfl) early)

theorem computes_act (h : n.timers.Bounded) : Computes n.act? n.act := by
  unfold act? act
  cases n.role with
  | init =>
    dsimp only
    split_ifs
    · exact computes_becomeMaster h
    · exact computes_becomeBackup h
  | master => exact computes_masterStep h
  | backup => exact computes_backupStep h

/-- No arithmetic of a step overflows, if the timers were within bounds before it. -/
theorem computes_step (h : n.timers.Bounded) : Computes n.step? n.step := by
  refine .call fun requested _ => ?_
  cases requested with
  | true => exact .done _
  | false => exact (computes_act h).map _

theorem Tuned.bounded {i : Option Nat} (h : n.Tuned i) (paced : n.config.Paced)
    (within : n.Within) : n.timers.Bounded where
  advertInterval := h.advertInterval_le paced
  skew := h.skew ▸ skewTime_le _ _
  masterInterval := Version.carries_le_most (h.carries paced).1
  masterDown := h.masterDown_le paced
  advert d armed := (within.advert d armed).2
  masterDownDeadline d armed := (within.masterDown d armed).2

/-- Along every path that reads early times the timers stay within bounds, and no arithmetic
overflows: neither that of the start nor that of any further step, nor any conversion of an
interval. A timer is then judged by the numbers that its words stand for. -/
theorem arithmetic_never_overflows {c : Config} {b : Binding} {n₀ n : Node} {s : List Episode}
    {ws : List Bool} (started : start c b = .ok n₀) (path : Path n₀ s ws n)
    (early : ∀ now ∈ readings (trace s), now < 2 ^ 62) :
    (∀ i, c.version.intervalMicros? i = some (c.version.intervalMicros i)) ∧
    Timers.start? n₀.priority c.advertMicros = some n₀.timers ∧
    n.timers.Bounded ∧
    (∀ u, (∀ now ∈ readings u, now < 2 ^ 62) → ∀ x,
      n.step?.Runs u x ↔ ∃ r m, x = some (r, m) ∧ n.step.Runs u (r, m)) ∧
    ∀ now < 2 ^ 62,
      (∀ d ∈ n.timers.advertDeadline, timerFired d n.timers.advertInterval now = true ↔
        d < now ∨ now + n.timers.advertInterval < d) ∧
      ∀ d ∈ n.timers.masterDownDeadline, timerFired d n.timers.masterDown now = true ↔
        d < now ∨ now + n.timers.masterDown < d := by
  have paced := path.paced started
  have bounded := (path.tuned (tuned_start started)).bounded paced (path.prompt started early).1
  refine ⟨Version.intervalMicros?_eq _, ?_, bounded, fun u early x => ?_,
    fun now early => ⟨fun d armed => ?_, fun d armed => ?_⟩⟩
  · obtain ⟨usable, p, -, rfl⟩ := start_eq_ok_iff.mp started
    have short := Version.carries_le_most (Config.paced_of_usable usable).carries
    exact Timers.start?_eq (by omega) p
  · simpa using (computes_step bounded).runs_iff early
  · have short := bounded.advertInterval
    exact timerFired_iff_of_near (bounded.advert d armed) (by omega) early
  · have short := bounded.masterDown
    exact timerFired_iff_of_near (bounded.masterDownDeadline d armed) (by omega) early

def lateStandby : Episode := sample.episode (.quiet (2 ^ 62 - 1))

def lateFollower : Episode := lateStandby.after.episode { claimed 200 with now := 2 ^ 62 - 1 }

/-- A late backup arms its timer for a time that is later still, and takes it to have fired once
the clock is set back. -/
theorem arithmetic_of_late_follower :
    start .sample .sample = .ok sample ∧
    Path sample [lateStandby, lateFollower] [] lateFollower.after ∧
    (∀ now ∈ readings (trace [lateStandby, lateFollower]), now < 2 ^ 62) ∧
    (∃ r, lateStandby.after.step?.Runs lateFollower.exchanged (some (r, lateFollower.after))) ∧
    lateFollower.after.timers.Bounded ∧ lateFollower.after.timers.masterInterval = 2000000 ∧
    lateFollower.after.timers.masterDownDeadline = some 4611686018434606653 ∧
    timerFired 4611686018434606653 lateFollower.after.timers.masterDown 5 = true := by
  obtain ⟨r, run⟩ := lateStandby.after.runs_episode
    (l := { claimed 200 with now := 2 ^ 62 - 1 }) rfl
  have first : Path sample [lateStandby] [] lateStandby.after := Path.start.among rfl
  have path : Path sample [lateStandby, lateFollower] [] lateFollower.after := first.step run
  have early : ∀ now ∈ readings (trace [lateStandby, lateFollower]), now < 2 ^ 62 := by
    decide +kernel
  have armed : lateFollower.after.timers.masterDownDeadline = some 4611686018434606653 := by
    decide +kernel
  obtain ⟨-, -, -, checked, -⟩ :=
    arithmetic_never_overflows start_sample first (by decide +kernel)
  obtain ⟨-, -, bounded, -, judged⟩ := arithmetic_never_overflows start_sample path early
  refine ⟨start_sample, path, early, ⟨r, ?_⟩, bounded, by decide +kernel, armed, ?_⟩
  · exact (checked _ (by decide +kernel) _).mpr ⟨r, _, rfl, run⟩
  · rw [(judged 5 (by decide)).2 _ armed]
    decide +kernel

end Node
end VirtualRouter
