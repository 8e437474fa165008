import VirtualRouter.Proofs.TwoParties
import VirtualRouter.Proofs.TimerPrecision
import VirtualRouter.Proofs.SplitBrain

/-!
# A live master is not displaced

A master that advertises in time and a backup that reads in time, with one clock and nobody
else on the network. Between one advertisement that the backup has read and the next that it
reads there lie at most three intervals, for which alone the backup waits.
-/

set_option autoImplicit false

namespace VirtualRouter
open Interaction

theorem Node.claim_congr {n m : Node} (same : m.identity = n.identity) : m.claim = n.claim := by
  have priority : m.priority = n.priority := congrArg (·.2.2) same
  have binding : m.binding = n.binding := congrArg (·.2.1) same
  rw [Node.claim, Node.claim, priority, binding, Node.payload_congr same]

def Node.Reached (n : Node) : Prop :=
  ∃ c b n₀ t, Node.start c b = .ok n₀ ∧ Node.History n₀ t none n

namespace Node.Reached

variable {n : Node}

theorem configured (h : n.Reached) : n.Configured := by
  obtain ⟨c, b, n₀, t, started, history⟩ := h
  exact configured_of_history started history

theorem armed (h : n.Reached) : n.Armed := by
  obtain ⟨c, b, n₀, t, started, history⟩ := h
  exact (history.life.armed (armed_start started)).1 rfl

theorem tuned (h : n.Reached) : ∃ i, n.Tuned i := by
  obtain ⟨c, b, n₀, t, started, history⟩ := h
  obtain ⟨s, path, -⟩ := history.path
  exact ⟨_, path.tuned (tuned_start started)⟩

theorem paced (h : n.Reached) : n.config.Paced := by
  obtain ⟨c, b, n₀, t, started, history⟩ := h
  obtain ⟨s, path, -⟩ := history.path
  exact path.paced started

theorem step {m : Node} {u : List Exchange} {r : Step} (h : n.Reached)
    (run : n.step.Runs u (r, m)) : m.Reached := by
  obtain ⟨c, b, n₀, t, started, history⟩ := h
  exact ⟨c, b, n₀, _, started, history.step run⟩

end Node.Reached

structure Keeps (a n : Node) (role : Role) (timers : Timers) : Prop where
  identity : n.identity = a.identity
  role : n.role = role
  timers : n.timers = timers

theorem Keeps.heard {a n : Node} {role : Role} {timers : Timers} (h : Keeps a n role timers)
    (rc : Reception) : Keeps a (n.heard rc).1 role timers :=
  ⟨(Node.identity_heard n rc).trans h.identity, (Node.role_heard n rc).trans h.role,
    (Node.timers_heard n rc).trans h.timers⟩

abbrev Leads (a n : Node) (stamp : Nat) : Prop := Keeps a n .master (a.timers.armAdvert stamp)

abbrev Heeds (b n : Node) (armed : Nat) : Prop := Keeps b n .backup (b.timers.armMasterDown armed)

structure Follows (b : Node) (a : Advert) : Prop where
  claim : a.priority ≠ releasePriority
  yields : b.config.preempt = false ∨ b.priority ≤ a.priority
  same : (b.resync a).timers.disarm = b.timers.disarm

theorem Follows.follows {b n : Node} {a : Advert} {armed : Nat} (h : Follows b a)
    (node : Heeds b n armed) : n.follows a = true := by
  have config : n.config = b.config := congrArg (·.1) node.identity
  have priority : n.priority = b.priority := congrArg (·.2.2) node.identity
  simpa [Node.follows, node.role, config, priority, h.claim] using h.yields

theorem Follows.armMasterDown_resync {b n : Node} {a : Advert} {armed : Nat} (h : Follows b a)
    (node : Heeds b n armed) (now : Nat) :
    (n.resync a).timers.armMasterDown now = b.timers.armMasterDown now := by
  have config : n.config = b.config := congrArg (·.1) node.identity
  have same : (n.resync a).timers.disarm = (b.resync a).timers.disarm := by
    unfold Node.resync
    cases a.interval with
    | none =>
      change n.timers.disarm = b.timers.disarm
      rw [node.timers]
      rfl
    | some i =>
      simp only [Node.timers_mapTimers, node.timers, config, Timers.resync]
      split <;> rfl
  exact congrArg (·.armMasterDown now) (same.trans h.same)

namespace Party

inductive Active (a : Node) (now stamp : Nat) (p : Party) : Prop
  | idles (node : Leads a p.node stamp) (idle : p.Idles Node.masterHears)
  | asserts (node : Leads a p.node stamp) (doing : p.doing = some (Node.finish p.node.assertRole))
  | arms (earlier : Nat) (node : Leads a p.node earlier) (present : stamp = now)
      (sent : p.sent = true)
      (doing : p.doing = some (ask .clock fun later =>
        done (.proceed, (p.node.afterSend true).mapTimers (·.armAdvert later))))

theorem active_moves {a : Node} {now stamp : Nat} {p q : Party} {out : List Letter}
    (h : p.Active a now stamp) (alone : p.inbox = []) (moved : p.Moves now q out) :
    q.inbox = [] ∧ ((out = [] ∧ q.Active a now stamp) ∨
      (out = [⟨now, a.claim⟩] ∧ q.Active a now now)) := by
  cases h with
  | idles node idle =>
    obtain ⟨rfl, ⟨same, inbox, idle⟩ | ⟨-, rfl⟩ | ⟨rc, -, rfl⟩ | ⟨x, rest, waiting, -⟩⟩ :=
      idles_moves idle (Node.turns_master node.role) moved
    · exact ⟨inbox.trans alone, .inl ⟨rfl, .idles (same ▸ node) idle⟩⟩
    · exact ⟨alone, .inl ⟨rfl, .asserts node rfl⟩⟩
    · exact ⟨alone, .inl ⟨rfl, .idles (node.heard rc) (.rests rfl)⟩⟩
    · cases alone.symm.trans waiting
  | asserts node doing =>
    rw [Node.finish_assertRole] at doing
    obtain ⟨r, p', answered, rfl⟩ := moves_ask doing moved
    cases answered with
    | delivered =>
      refine ⟨alone, .inr ⟨?_, .arms stamp node rfl rfl rfl⟩⟩
      rw [← Node.claim_congr node.identity]
      rfl
  | arms earlier node present sent doing =>
    obtain ⟨r, p', answered, rfl⟩ := moves_ask doing moved
    cases answered with
    | time =>
      subst present
      rw [resume_done]
      refine ⟨alone, .inl ⟨rfl, .idles ⟨?_, ?_, ?_⟩ (.rests rfl)⟩⟩
      · simpa using node.identity
      · simpa using node.role
      · simp [node.timers, Timers.armAdvert]

inductive Standby (b : Node) (a : Advert) (now stamp : Nat) (p : Party) : Prop
  | idles (armed : Nat) (node : Heeds b p.node armed) (since : stamp ≤ armed ∧ armed ≤ now)
      (idle : p.Idles Node.hearsAtOnce)
  | arms (rc : Reception) (armed : Nat) (node : Heeds b p.node armed) (past : stamp ≤ now)
      (doing : p.doing = some (ask .clock fun later =>
        done (.proceed, (p.node.heard rc).1.backupHears a later)))

theorem standby_moves {b : Node} {a : Advert} {now stamp : Nat} {p q : Party} {out : List Letter}
    (h : p.Standby b a now stamp) (follows : Follows b a)
    (letters : ∀ x ∈ p.inbox, b.expectation.accept x.text = .ok a ∧ x.stamp ≤ now)
    (early : ∀ armed, stamp ≤ armed ∧ armed ≤ now →
      (b.timers.armMasterDown armed).masterDownFired now = false)
    (moved : p.Moves now q out) :
    out = [] ∧ ((q.inbox = p.inbox ∧ q.Standby b a now stamp) ∨
      ∃ x, p.inbox = x :: q.inbox ∧ q.Standby b a now x.stamp) := by
  cases h with
  | idles armed node since idle =>
    obtain ⟨rfl, ⟨same, inbox, idle⟩ | ⟨passed, -⟩ | ⟨rc, -, rfl⟩ | ⟨x, rest, waiting, rfl⟩⟩ :=
      idles_moves idle (Node.turns_backup node.role) moved
    · exact ⟨rfl, .inl ⟨inbox, .idles armed (same ▸ node) since idle⟩⟩
    · rw [node.timers, early armed since] at passed
      cases passed
    · exact ⟨rfl, .inl ⟨rfl, .idles armed (node.heard rc) since (.rests rfl)⟩⟩
    · obtain ⟨accepted, sent⟩ := letters x (by simp [waiting])
      rw [← Node.expectation_congr node.identity] at accepted
      have split : p.node.heard (.datagram x.text) =
          ((p.node.heard (.datagram x.text)).1, some a) := by
        rw [Node.heard_accepted accepted]
      rw [split]
      exact ⟨rfl, .inr ⟨x, waiting, .arms (.datagram x.text) armed node sent rfl⟩⟩
  | arms rc armed node past doing =>
    obtain ⟨r, p', answered, rfl⟩ := moves_ask doing moved
    cases answered with
    | time =>
      rw [resume_done]
      have heard := node.heard rc
      refine ⟨rfl, .inl ⟨rfl, .idles now ⟨?_, ?_, ?_⟩ ⟨past, Nat.le_refl _⟩ (.rests rfl)⟩⟩
      · rw [Node.identity_backupHears, heard.identity]
      · rw [Node.role_backupHears, heard.role]
      · rw [Node.timers_backupHears node.role, if_neg follows.claim,
          if_pos (follows.follows node)]
        exact follows.armMasterDown_resync node now

theorem Active.node {a : Node} {now stamp : Nat} {p : Party} (h : p.Active a now stamp) :
    ∃ earlier, Leads a p.node earlier ∧ (stamp = earlier ∨ stamp = now) := by
  cases h with
  | idles node | asserts node => exact ⟨stamp, node, .inl rfl⟩
  | arms earlier node present => exact ⟨earlier, node, .inr present⟩

theorem Active.passes {a : Node} {now later stamp : Nat} {p : Party} (h : p.Active a now stamp)
    (free : p.sent = false) : p.Active a later stamp := by
  cases h with
  | idles node idle => exact .idles node idle
  | asserts node doing => exact .asserts node doing
  | arms _ _ _ sent => cases free.symm.trans sent

theorem Standby.node {b : Node} {a : Advert} {now stamp : Nat} {p : Party}
    (h : p.Standby b a now stamp) : ∃ armed, Heeds b p.node armed := by
  cases h with
  | idles armed node | arms _ armed node => exact ⟨armed, node⟩

theorem Standby.passes {b : Node} {a : Advert} {now later stamp : Nat} {p : Party}
    (h : p.Standby b a now stamp) (forward : now ≤ later) : p.Standby b a later stamp := by
  cases h with
  | idles armed node since idle =>
    exact .idles armed node ⟨since.1, since.2.trans forward⟩ idle
  | arms rc armed node past doing => exact .arms rc armed node (past.trans forward) doing

theorem Idles.receives {p : Party} {hears : Node → Advert → Interaction Node}
    (h : p.Idles hears) (inbox : List Letter) : Idles { p with inbox } hears := by
  cases h with
  | rests doing => exact .rests doing
  | begins doing => exact .begins doing
  | turns doing => exact .turns doing
  | listens timeout doing => exact .listens timeout doing

theorem Standby.receives {b : Node} {a : Advert} {now stamp : Nat} {p : Party}
    (h : p.Standby b a now stamp) (inbox : List Letter) :
    Standby b a now stamp { p with inbox } := by
  cases h with
  | idles armed node since idle => exact .idles armed node since (idle.receives inbox)
  | arms rc armed node past doing => exact .arms rc armed node past doing

end Party

def Spaced (gap : Nat) : Nat → List Nat → Nat → Prop
  | first, [], last => first = last
  | first, s :: rest, last => s ≤ first + gap ∧ Spaced gap s rest last

theorem spaced_concat {gap first last next : Nat} {l : List Nat} (h : Spaced gap first l last)
    (near : next ≤ last + gap) : Spaced gap first (l ++ [next]) next := by
  induction l generalizing first with
  | nil =>
    obtain rfl : first = last := h
    exact ⟨near, rfl⟩
  | cons s rest ih => exact ⟨h.1, ih h.2⟩

namespace Pair

/-- The master sends before its deadline is past by an interval, and no advertisement waits for
longer than an interval. -/
structure Timely (l : Pair) : Prop where
  small : l.now < 2 ^ 62
  sends : ∀ d ∈ l.master.node.timers.advertDeadline,
    l.now ≤ d + l.master.node.config.advertMicros
  reads : ∀ x ∈ l.backup.inbox, l.now ≤ x.stamp + l.master.node.config.advertMicros

instance (l : Pair) : Decidable l.Timely :=
  decidable_of_iff (l.now < 2 ^ 62 ∧
    (∀ d ∈ l.master.node.timers.advertDeadline,
      l.now ≤ d + l.master.node.config.advertMicros) ∧
    ∀ x ∈ l.backup.inbox, l.now ≤ x.stamp + l.master.node.config.advertMicros)
    ⟨fun h => ⟨h.1, h.2.1, h.2.2⟩, fun h => ⟨h.1, h.2, h.3⟩⟩

def Next (l l' : Pair) : Prop := l.Moves l' ∧ l'.Timely

/-- The backup has read the advertisement that the master `a` sent at `read`, and those that
`a` has sent since wait for it, the last one sent at `latest`. -/
structure Live (a b : Node) (read latest : Nat) (l : Pair) : Prop where
  master : l.master.Active a l.now latest
  alone : l.master.inbox = []
  backup : l.backup.Standby b (a.config.advert a.binding a.priority) l.now read
  letters : ∀ x ∈ l.backup.inbox,
    b.expectation.accept x.text = .ok (a.config.advert a.binding a.priority) ∧ x.stamp ≤ l.now
  spaced : Spaced (2 * a.config.advertMicros) read (l.backup.inbox.map Letter.stamp) latest

structure Attuned (a b : Node) : Prop where
  peers : b.Peers a
  configured : a.Configured
  follows : Follows b (a.config.advert a.binding a.priority)
  interval : a.timers.advertInterval = a.config.advertMicros
  wait : 3 * a.config.advertMicros ≤ b.timers.masterDown
  small : b.timers.masterDown < 2 ^ 62

variable {a b : Node} {read latest : Nat} {l l' : Pair}

theorem Live.config (h : l.Live a b read latest) : l.master.node.config = a.config := by
  obtain ⟨_, node, -⟩ := h.master.node
  exact congrArg (·.1) node.identity

/-- The deadline of the master is an interval after its last advertisement, and it sends the
next one within another interval. -/
theorem Live.now_le_latest (h : l.Live a b read latest) (tuned : Attuned a b)
    (timely : l.Timely) : l.now ≤ latest + 2 * a.config.advertMicros := by
  obtain ⟨earlier, node, rfl | rfl⟩ := h.master.node
  · have armed : latest + a.config.advertMicros ∈ l.master.node.timers.advertDeadline := by
      rw [node.timers, ← tuned.interval]
      rfl
    have sends := timely.sends _ armed
    rw [h.config] at sends
    omega
  · exact Nat.le_add_right _ _

/-- Three intervals after the advertisement that was read last, another one has been read. -/
theorem Live.now_le_read (h : l.Live a b read latest) (tuned : Attuned a b)
    (timely : l.Timely) : l.now ≤ read + 3 * a.config.advertMicros := by
  have sent := h.now_le_latest tuned timely
  have spaced := h.spaced
  cases inbox : l.backup.inbox with
  | nil =>
    rw [inbox] at spaced
    obtain rfl : read = latest := spaced
    omega
  | cons x rest =>
    rw [inbox] at spaced
    have near : x.stamp ≤ read + 2 * a.config.advertMicros := spaced.1
    have reads := timely.reads x (by simp [inbox])
    rw [h.config] at reads
    omega

theorem Live.early (h : l.Live a b read latest) (tuned : Attuned a b) (timely : l.Timely)
    {armed : Nat} (since : read ≤ armed ∧ armed ≤ l.now) :
    (b.timers.armMasterDown armed).masterDownFired l.now = false := by
  -- Armed after `read`, it fires more than three intervals later.
  have soon := h.now_le_read tuned timely
  have wait := tuned.wait
  have fired : (b.timers.armMasterDown armed).masterDownFired l.now = true ↔
      armed + b.timers.masterDown < l.now :=
    Timers.masterDownFired_iff rfl (Nat.add_le_add_right since.2 _) ⟨timely.small, tuned.small⟩
  rw [Bool.eq_false_iff, ne_eq, fired]
  omega

/-- What one move preserves, as long as all is in time. -/
theorem Live.moves (h : l.Live a b read latest) (tuned : Attuned a b) (timely : l.Timely)
    (moved : l.Moves l') : ∃ read' latest', l'.Live a b read' latest' := by
  cases moved with
  | master p out moved =>
    obtain ⟨alone, ⟨rfl, master⟩ | ⟨rfl, master⟩⟩ :=
      Party.active_moves h.master h.alone moved
    · rw [List.append_nil]
      exact ⟨read, latest, master, alone, h.backup, h.letters, h.spaced⟩
    · -- The master has advertised: that joins the letters that wait for the backup.
      refine ⟨read, l.now, master, alone, h.backup.receives _, ?_, ?_⟩
      · intro x waiting
        rcases List.mem_append.mp waiting with waiting | new
        · exact h.letters x waiting
        · rw [List.mem_singleton.mp new]
          exact ⟨Node.accept_claim tuned.peers tuned.configured, Nat.le_refl _⟩
      · rw [List.map_append]
        exact spaced_concat h.spaced (h.now_le_latest tuned timely)
  | backup p out moved =>
    obtain ⟨rfl, ⟨same, backup⟩ | ⟨x, waiting, backup⟩⟩ := Party.standby_moves h.backup
      tuned.follows h.letters (fun armed since => h.early tuned timely since) moved
    · rw [List.append_nil]
      refine ⟨read, latest, h.master, h.alone, backup, ?_, ?_⟩
      · rw [same]
        exact h.letters
      · rw [same]
        exact h.spaced
    · -- The oldest letter is now the one that was read last.
      have letters := h.letters
      have spaced := h.spaced
      rw [waiting] at letters spaced
      rw [List.append_nil]
      exact ⟨x.stamp, latest, h.master, h.alone, backup,
        fun y later => letters y (List.mem_cons_of_mem _ later), spaced.2⟩
  | passes later forward free =>
    refine ⟨read, latest, h.master.passes free.1, h.alone, h.backup.passes forward, ?_, h.spaced⟩
    intro x waiting
    obtain ⟨accepted, sent⟩ := h.letters x waiting
    exact ⟨accepted, sent.trans forward⟩

/-- The backup has accepted the last advertisement of the master when that was sent, at
`stamp`. Both are between two steps, and nothing waits for them. -/
structure Settled (l : Pair) (stamp : Nat) : Prop where
  resting : l.master.doing = none ∧ l.backup.doing = none
  empty : l.master.inbox = [] ∧ l.backup.inbox = []
  past : stamp ≤ l.now
  reached : l.master.node.Reached
  roles : l.master.node.role = .master ∧ l.backup.node.role = .backup
  advertised : l.master.node.timers.advertDeadline =
    some (stamp + l.master.node.config.advertMicros)
  peers : l.backup.node.Peers l.master.node
  rank : l.backup.node.config.preempt = false ∨ l.backup.node.priority ≤ l.master.node.priority
  accepted : ∃ (n : Node) (u : List Exchange) (r : Step), n.Reached ∧
    n.step.Runs u (r, l.backup.node) ∧
    Node.Episode.lastReading? ⟨n, u, l.backup.node⟩ = some stamp ∧
    Node.Episode.advert? ⟨n, u, l.backup.node⟩ = some (l.master.node.config.advert
      l.master.node.binding l.master.node.priority)

/-- The timers of a backup that follows an advertisement stay as they are when it follows it
again, and its wait is three intervals of the advertisement and more. -/
theorem attuned_of_followed {a b : Node} {i : Option Nat} (peers : b.Peers a)
    (tuned : b.Tuned ((a.config.advert a.binding a.priority).interval.or i)) :
    (b.resync (a.config.advert a.binding a.priority)).timers.disarm = b.timers.disarm ∧
      b.timers.masterInterval = a.config.advertMicros := by
  cases version : a.config.version with
  | v2 =>
    have interval : (a.config.advert a.binding a.priority).interval = none := by
      simp [Config.advert, version]
    rw [interval, Option.none_or] at tuned
    have untouched : i = none := tuned.untouched (by rw [peers.version, version]; rfl)
    refine ⟨by rw [Node.resync, interval], ?_⟩
    rw [tuned.masterInterval, untouched, Option.getD_none, Config.advertMicros,
      Config.advertMicros, peers.version, peers.interval version]
  | v3 =>
    have interval : (a.config.advert a.binding a.priority).interval =
        some a.config.advertMicros := by simp [Config.advert, version]
    rw [interval, Option.some_or] at tuned
    refine ⟨?_, tuned.masterInterval⟩
    rw [Node.resync, interval]
    exact (Timers.disarm_resync _ tuned.timers tuned.allowed.1).trans tuned.timers.symm

theorem Settled.attuned {stamp : Nat} (h : l.Settled stamp) :
    Attuned l.master.node l.backup.node ∧
      l.backup.node.timers = l.backup.node.timers.armMasterDown stamp := by
  obtain ⟨n, u, r, reached, run, reading, heard⟩ := h.accepted
  have configured := h.reached.configured
  have claim := configured.sound.2
  have same := Node.identity_step run
  have config : l.backup.node.config = n.config := congrArg (·.1) same
  have priority : l.backup.node.priority = n.priority := congrArg (·.2.2) same
  have rank := h.rank
  rw [config, priority] at rank
  have times := Node.times_step run
  have followed := times.followed_of_backup heard claim rank h.roles.2
  obtain ⟨now, reading', rearmed⟩ := times.rearmed_of_followed followed
  cases reading.symm.trans reading'
  obtain ⟨i, tuned⟩ := reached.tuned
  have tuned' := tuned.step run
  rw [followed, Option.bind_some] at tuned'
  obtain ⟨unchanged, interval⟩ := attuned_of_followed h.peers tuned'
  obtain ⟨j, own⟩ := h.reached.tuned
  refine ⟨⟨h.peers, configured, ⟨claim, h.rank, unchanged⟩, own.advertInterval, ?_, ?_⟩, rearmed⟩
  · rw [tuned'.masterDown, interval, masterDownInterval]
    exact Nat.le_add_right _ _
  · exact tuned'.masterDown_lt (reached.step run).paced

theorem Settled.live {stamp : Nat} (h : l.Settled stamp) :
    l.Live l.master.node l.backup.node stamp stamp := by
  obtain ⟨attuned, rearmed⟩ := h.attuned
  have armed := h.reached.armed
  simp only [Node.Armed, h.roles.1] at armed
  refine ⟨.idles ⟨rfl, h.roles.1, ?_⟩ (.rests h.resting.1), h.empty.1,
    .idles stamp ⟨rfl, h.roles.2, rearmed⟩ ⟨Nat.le_refl _, h.past⟩ (.rests h.resting.2), ?_, ?_⟩
  · have deadline := h.advertised
    rw [← attuned.interval] at deadline
    rw [Timers.armAdvert, ← deadline, ← armed.2]
  · simp [h.empty.2]
  · rw [h.empty.2]
    rfl

/-- A master that advertises in time is not displaced by a backup that reads in time. -/
theorem live_master_not_displaced {l₀ l : Pair} {stamp : Nat} (settled : l₀.Settled stamp)
    (timely : l₀.Timely)
    (run : Relation.ReflTransGen Next l₀ l) :
    l.master.node.role = .master ∧ l.backup.node.role = .backup := by
  have attuned := settled.attuned.1
  have live : l.Timely ∧ ∃ read latest, l.Live l₀.master.node l₀.backup.node read latest := by
    induction run with
    | refl => exact ⟨timely, stamp, stamp, settled.live⟩
    | tail _ move ih =>
      obtain ⟨timely, read, latest, live⟩ := ih
      exact ⟨move.2, live.moves attuned timely move.1⟩
  obtain ⟨-, read, latest, live⟩ := live
  obtain ⟨_, master, -⟩ := live.master.node
  obtain ⟨_, backup⟩ := live.backup.node
  exact ⟨master.role, backup.role⟩

def play? (l : Pair) : List Choice → Option Pair
  | [] => some l
  | c :: cs => ((l.next? c).filter fun l' => l'.Timely).bind fun l' => l'.play? cs

theorem next_of_play? {l l' : Pair} {cs : List Choice} (played : l.play? cs = some l') :
    Relation.ReflTransGen Next l l' := by
  induction cs generalizing l with
  | nil => cases played; exact .refl
  | cons c cs ih =>
    obtain ⟨k, went, rest⟩ := Option.bind_eq_some_iff.mp played
    obtain ⟨moved, timely⟩ := Option.filter_eq_some_iff.mp went
    exact .head ⟨moves_of_next? moved, of_decide_eq_true timely⟩ (ih rest)

def leader : Node := (Session.promoted ⟨10, 0, 0, 3⟩).node

def joining : Node.Episode :=
  Node.episode (Node.episode .sample (.quiet 100)).after
    { Lan.quiet 3609376 with queue := [leader.claim] }

def watched : Pair := ⟨3609376, ⟨leader, none, false, []⟩, ⟨joining.after, none, false, []⟩⟩

theorem reached_leader : leader.Reached := by
  have before : Node.History (.sampleAt ⟨10, 0, 0, 3⟩)
      (Session.start (.sampleAt ⟨10, 0, 0, 3⟩) 0).lan.exchanges none
      (Session.start (.sampleAt ⟨10, 0, 0, 3⟩) 0).node := .start
  exact ⟨.sample, { Binding.sample with address := ⟨10, 0, 0, 3⟩ }, _, _, rfl,
    Session.history_handle (.step 3) before⟩

theorem settled_watched : watched.Settled 3609376 where
  resting := ⟨rfl, rfl⟩
  empty := ⟨rfl, rfl⟩
  past := Nat.le_refl _
  reached := reached_leader
  roles := by decide +kernel
  advertised := by decide +kernel
  peers := ⟨by decide +kernel, by decide +kernel, by decide +kernel, fun _ => by decide +kernel⟩
  rank := .inr (by decide +kernel)
  accepted := by
    obtain ⟨_, first⟩ := Node.sample.runs_episode (l := .quiet 100) rfl
    obtain ⟨r, second⟩ := (Node.episode .sample (.quiet 100)).after.runs_episode
      (l := { Lan.quiet 3609376 with queue := [leader.claim] }) rfl
    exact ⟨_, _, r, ⟨.sample, .sample, .sample, _, Node.start_sample,
      Node.History.start.step first⟩, second, by decide +kernel, by decide +kernel⟩

/-- The leader advertises once more, and the backup reads that a while later. -/
theorem leader_not_displaced : ∃ l,
    watched.Settled 3609376 ∧ watched.Timely ∧ Relation.ReflTransGen Next watched l ∧
      l.now = 5000000 ∧ l.master.node.timers.advertDeadline = some 5609377 ∧
      l.backup.node.timers.masterDownDeadline = some 8609375 ∧
      l.master.node.role = .master ∧ l.backup.node.role = .backup := by
  have timely : watched.Timely := by decide +kernel
  have played : (watched.play? [.wait 4609377, .master, .master, .master, .master, .master,
      .wait 5000000, .backup, .backup, .backup, .backup, .backup]).map (fun l =>
        (l.now, l.master.node.timers.advertDeadline, l.backup.node.timers.masterDownDeadline)) =
      some (5000000, some 5609377, some 8609375) := by decide +kernel
  obtain ⟨l, played, seen⟩ := Option.map_eq_some_iff.mp played
  simp only [Prod.mk.injEq] at seen
  have run := next_of_play? played
  exact ⟨l, settled_watched, timely, run, seen.1, seen.2.1, seen.2.2,
    live_master_not_displaced settled_watched timely run⟩

end Pair
end VirtualRouter
