import VirtualRouter.Proofs.LanTrace
import VirtualRouter.Proofs.OwnAdverts
import Mathlib.Data.Fintype.EquivFin
import Mathlib.Data.Fintype.Lattice
import Mathlib.Data.Prod.Lex
import Mathlib.Logic.Relation

/-!
# Several masters find one

Routers that are masters of the same virtual router at once read the advertisements of each
other, in any order and interleaving. Whichever claim is greatest stays, since claims are
ordered linearly and both ends of an advertisement decide from the same data; all others step
down and stay down.
-/

set_option autoImplicit false

namespace VirtualRouter

theorem IPv4.toNat_inj {x y : IPv4} (h : x.toNat = y.toNat) : x = y := by
  obtain ⟨a, b, c, d⟩ := x
  obtain ⟨a', b', c', d'⟩ := y
  have := a.toNat_lt; have := b.toNat_lt; have := c.toNat_lt; have := d.toNat_lt
  have := a'.toNat_lt; have := b'.toNat_lt; have := c'.toNat_lt; have := d'.toNat_lt
  simp only [IPv4.toNat] at h
  simp only [IPv4.mk.injEq, ← UInt8.toNat_inj]
  omega

def rank (priority : UInt8) (address : IPv4) : Nat ×ₗ Nat :=
  toLex (priority.toNat, address.toNat)

theorem dominates_iff_rank_lt {p q : UInt8} {a b : IPv4} :
    dominates p a q b = true ↔ rank q b < rank p a := by
  simp only [dominates, rank, Prod.Lex.toLex_lt_toLex, Bool.or_eq_true, Bool.and_eq_true,
    decide_eq_true_eq, beq_iff_eq, UInt8.lt_iff_toNat_lt, ← UInt8.toNat_inj, @eq_comm _ q.toNat]

theorem rank_ne_of_address_ne {p q : UInt8} {a b : IPv4} (h : a ≠ b) : rank p a ≠ rank q b := by
  intro same
  exact h (IPv4.toNat_inj (Prod.mk.inj (toLex.injective same)).2)

theorem dominates_irrefl (p : UInt8) (a : IPv4) : dominates p a p a = false := by
  rw [← Bool.not_eq_true, dominates_iff_rank_lt]
  exact lt_irrefl _

theorem dominates_asymm {p q : UInt8} {a b : IPv4} (h : dominates p a q b = true) :
    dominates q b p a = false := by
  rw [← Bool.not_eq_true, dominates_iff_rank_lt]
  exact lt_asymm (dominates_iff_rank_lt.mp h)

theorem dominates_trans {p q r : UInt8} {a b c : IPv4} (h : dominates p a q b = true)
    (h' : dominates q b r c = true) : dominates p a r c = true := by
  rw [dominates_iff_rank_lt] at *
  exact lt_trans h' h

theorem dominates_total {p q : UInt8} {a b : IPv4} (h : a ≠ b) :
    dominates p a q b = true ∨ dominates q b p a = true := by
  rw [dominates_iff_rank_lt, dominates_iff_rank_lt]
  exact (rank_ne_of_address_ne h).symm.lt_or_gt

namespace Node

def Calm (n : Node) (now : Nat) : Prop :=
  n.timers.advertFired now = false ∧ n.timers.masterDownFired now = false

theorem heard_accepted {n : Node} {d : Octets} {a : Advert}
    (accepted : n.expectation.accept d = .ok a) :
    n.heard (.datagram d) = (n.countAccepted a, some a) := by
  simp [heard, accepted]

/-- A router outside its first state that reads an advertisement stays master exactly where it
was master and the advertisement does not beat it. -/
theorem role_of_heard {n m : Node} {l l' : Lan} {now : Nat} {d : Octets} {rest : List Octets}
    {a : Advert} {t : List Exchange} (left : n.role ≠ .init) (calm : n.Calm now)
    (accepted : n.expectation.accept d = .ok a) (claim : a.priority ≠ releasePriority)
    (still : l.Still now) (waiting : l.queue = d :: rest) (acted : n.Acts t m)
    (served : l.Serves t l') :
    (l'.Still now ∧ l'.queue = rest) ∧ m.role ≠ .init ∧
      (m.role = .master ↔ n.role = .master ∧
        dominates a.priority a.source n.priority n.binding.address = false) := by
  have hears := heard_accepted accepted
  have same {a' : Advert} (heard : (n.heard (.datagram d)).2 = some a') : a' = a := by
    simpa [hears, eq_comm] using heard
  have read {now' : Nat} {u : List Exchange} (h : l.Serves (⟨.clock, now'⟩ :: u) l') :
      now' = now := (Lan.serves_cons_iff.mp h).1.trans still.clock
  cases acted with
  | ownerTakesOver role => exact absurd role left
  | standsBy _ role => exact absurd role left
  | advertises _ _ _ _ fired =>
    rw [read served, calm.1] at fired
    cases fired
  | masterHearsNothing _ _ _ _ nothing =>
    obtain ⟨-, rfl, -⟩ := still.serves_heard waiting served
    simp [hears] at nothing
  | reasserts _ _ _ _ _ _ _ heard release =>
    obtain ⟨-, rfl, -⟩ := still.serves_heard waiting served
    rw [same heard] at release
    exact absurd release claim
  | stepsDown _ _ _ _ _ _ _ heard _ beaten =>
    obtain ⟨-, rfl, l₁, still₁, queue₁, served₁⟩ := still.serves_heard waiting served
    rw [same heard] at beaten
    obtain ⟨still', kept⟩ := still₁.serves_others (by simp) served₁
    exact ⟨⟨still', kept.trans queue₁⟩, by simp, by simp [beaten]⟩
  | ignores _ _ _ role _ heard _ unbeaten =>
    obtain ⟨-, rfl, l₁, still₁, queue₁, served₁⟩ := still.serves_heard waiting served
    rw [same heard] at unbeaten
    obtain ⟨still', kept⟩ := still₁.serves_others (by simp) served₁
    exact ⟨⟨still', kept.trans queue₁⟩, by simp [role], by simp [role, unbeaten]⟩
  | backupTakesOver _ _ fired =>
    rw [read served, calm.2] at fired
    cases fired
  | backupHearsNothing _ _ _ _ nothing =>
    obtain ⟨-, rfl, -⟩ := still.serves_heard waiting served
    simp [hears] at nothing
  | backupHears _ _ _ _ role =>
    obtain ⟨-, rfl, l₁, still₁, queue₁, served₁⟩ := still.serves_heard waiting served
    obtain ⟨still', kept⟩ := still₁.serves_others (by simp) served₁
    exact ⟨⟨still', kept.trans queue₁⟩, by simp [role], by simp [role]⟩

def claim (n : Node) : Octets := datagram (n.payload n.priority) n.binding.address 255

def BeatenBy (n : Node) (d : Octets) : Prop :=
  ∃ a, n.expectation.accept d = .ok a ∧
    dominates a.priority a.source n.priority n.binding.address = true

theorem beatenBy_iff {n : Node} {d : Octets} {a : Advert}
    (accepted : n.expectation.accept d = .ok a) :
    n.BeatenBy d ↔ dominates a.priority a.source n.priority n.binding.address = true := by
  constructor
  · rintro ⟨a', accepted', beaten⟩
    obtain rfl : a' = a := Except.ok.inj (accepted'.symm.trans accepted)
    exact beaten
  · exact fun beaten => ⟨a, accepted, beaten⟩

end Node

namespace Session

theorem node_step_once (s : Session) :
    (s.handle (.step 1)).2.node = (s.node.step.runIn Lan.serve s.lan).1.2 := by
  simp [handle, happen, steps]

theorem lan_step_once (s : Session) :
    (s.handle (.step 1)).2.lan = (s.node.step.runIn Lan.serve s.lan).2 := by
  simp [handle, happen, steps]

structure Progress (s₀ s : Session) : Prop where
  still : s.lan.Still s₀.lan.now
  identity : s.node.identity = s₀.node.identity
  left : s.node.role ≠ .init
  read : ∃ heard, s₀.lan.queue = heard ++ s.lan.queue ∧
    (s.node.role = .master ↔ ∀ d ∈ heard, ¬s₀.node.BeatenBy d)

theorem progress_start {s₀ : Session} (still : s₀.lan.Still s₀.lan.now)
    (master : s₀.node.role = .master) : Progress s₀ s₀ :=
  ⟨still, rfl, by simp [master], [], rfl, by simp [master]⟩

/-- One step reads one advertisement. -/
theorem progress_step {s₀ s : Session} (h : Progress s₀ s)
    (adverts : ∀ d ∈ s₀.lan.queue, ∃ a, s₀.node.expectation.accept d = .ok a ∧
      a.priority ≠ releasePriority)
    (waiting : s.lan.queue ≠ []) (calm : s.node.Calm s.lan.now) :
    Progress s₀ (s.handle (.step 1)).2 ∧
      (s.handle (.step 1)).2.lan.queue = s.lan.queue.tail := by
  obtain ⟨d, rest, queue⟩ := List.exists_cons_of_ne_nil waiting
  obtain ⟨heard, queued, role⟩ := h.read
  obtain ⟨a, accepted, claim⟩ := adverts d (by simp [queued, queue])
  have expected : s.node.expectation.accept d = .ok a := by
    rw [Node.expectation_congr h.identity, accepted]
  have priority : s.node.priority = s₀.node.priority := congrArg (·.2.2) h.identity
  have binding : s.node.binding = s₀.node.binding := congrArg (·.2.1) h.identity
  rw [h.still.clock] at calm
  obtain ⟨t, run, served⟩ := Lan.serves_runIn s.node.step s.lan
  rcases Node.runs_step run with ⟨-, rfl, -⟩ | ⟨-, u, rfl, acted⟩
  · -- No shutdown is requested, so the step is not refused.
    have requested := (Lan.serves_cons_iff.mp served).1
    exact absurd (requested.trans h.still.running) nofun
  · obtain ⟨-, served'⟩ := Lan.serves_cons_iff.mp served
    obtain ⟨still', same⟩ := h.still.serve_other (c := .shutdownRequested) nofun
    obtain ⟨⟨still, left⟩, outside, kept⟩ :=
      Node.role_of_heard h.left calm expected claim still' (same.trans queue) acted served'
    rw [priority, binding] at kept
    have unbeaten :
        dominates a.priority a.source s₀.node.priority s₀.node.binding.address = false ↔
          ¬s₀.node.BeatenBy d := by
      rw [Node.beatenBy_iff accepted, Bool.not_eq_true]
    refine ⟨⟨?_, ?_, ?_, heard ++ [d], ?_, ?_⟩, ?_⟩
    · rwa [lan_step_once]
    · rw [node_step_once, Node.identity_acts acted, h.identity]
    · rwa [node_step_once]
    · rw [lan_step_once, left, queued, queue]
      simp
    · rw [node_step_once, kept, role, unbeaten]
      simp only [List.forall_mem_append, List.forall_mem_singleton]
    · rw [lan_step_once, left, queue, List.tail_cons]

end Session

namespace Node

def strength (n : Node) : Nat ×ₗ Nat := rank n.priority n.binding.address

def Configured (n : Node) : Prop :=
  ∃ c b n₀, start c b = .ok n₀ ∧ n.identity = n₀.identity

theorem configured_of_history {c : Config} {b : Binding} {n₀ n : Node} {t : List Exchange}
    {w : Option Bool} (started : start c b = .ok n₀) (h : History n₀ t w n) : n.Configured :=
  ⟨c, b, n₀, started, h.life.identity_eq⟩

theorem Configured.sound {n : Node} (h : n.Configured) :
    n.config.Fits ∧ n.priority ≠ releasePriority := by
  obtain ⟨c, b, n₀, started, same⟩ := h
  simp only [identity, Prod.mk.injEq] at same
  obtain ⟨usable, -⟩ := start_eq_ok_iff.mp started
  rw [same.1, same.2.2, (router_start started).1]
  exact ⟨Config.fits_of_usable usable, (priority_start started).2⟩

structure Peers (n m : Node) : Prop where
  version : n.config.version = m.config.version
  vrid : n.config.vrid = m.config.vrid
  addresses : n.config.addresses = m.config.addresses
  interval : m.config.version = .v2 → n.config.advertInterval = m.config.advertInterval

theorem accept_claim {n m : Node} (peers : n.Peers m) (configured : m.Configured) :
    n.expectation.accept m.claim = .ok (m.config.advert m.binding m.priority) :=
  Config.accept_packet configured.sound.1 m.priority m.binding
    ⟨peers.version, peers.vrid, peers.addresses, peers.interval⟩

theorem beatenBy_claim_iff {n m : Node} (peers : n.Peers m) (configured : m.Configured) :
    n.BeatenBy m.claim ↔ n.strength < m.strength := by
  rw [beatenBy_iff (accept_claim peers configured), dominates_iff_rank_lt]
  rfl

end Node

section
open Session (Progress progress_start progress_step)
variable {ι : Type} [Fintype ι] [DecidableEq ι] {s s' : ι → Session}

/-- Routers that are masters of one virtual router at once, each with the claims of all the
others waiting to be read. -/
structure SplitBrain (s : ι → Session) : Prop where
  configured : ∀ i, (s i).node.Configured
  masters : ∀ i, (s i).node.role = .master
  peers : ∀ i j, (s i).node.Peers (s j).node
  apart : ∀ i j, i ≠ j → (s i).node.binding.address ≠ (s j).node.binding.address
  still : ∀ i, (s i).lan.Still (s i).lan.now
  queues : ∀ i, ((s i).lan.queue : Multiset Octets) =
    (Finset.univ.erase i).val.map fun j => (s j).node.claim

/-- One router whose queue is not empty makes one step, with no timer of it fired. -/
inductive Turn (s : ι → Session) : (ι → Session) → Prop
  | step (i : ι) (waiting : (s i).lan.queue ≠ []) (calm : (s i).node.Calm (s i).lan.now) :
      Turn s (Function.update s i ((s i).handle (.step 1)).2)

theorem SplitBrain.mem_queue_iff (h : SplitBrain s) {i : ι} {d : Octets} :
    d ∈ (s i).lan.queue ↔ ∃ j, j ≠ i ∧ (s j).node.claim = d := by
  rw [← Multiset.mem_coe, h.queues]
  simp only [Multiset.mem_map, Finset.mem_val, Finset.mem_erase, Finset.mem_univ, and_true]

theorem SplitBrain.adverts (h : SplitBrain s) (i : ι) : ∀ d ∈ (s i).lan.queue,
    ∃ a, (s i).node.expectation.accept d = .ok a ∧ a.priority ≠ releasePriority := by
  intro d waiting
  obtain ⟨j, -, rfl⟩ := h.mem_queue_iff.mp waiting
  exact ⟨_, Node.accept_claim (h.peers i j) (h.configured j), (h.configured j).sound.2⟩

/-- What any interleaving of turns preserves. -/
theorem SplitBrain.progress (h : SplitBrain s) (turns : Relation.ReflTransGen Turn s s') (i : ι) :
    Progress (s i) (s' i) := by
  induction turns with
  | refl => exact progress_start (h.still i) (h.masters i)
  | tail _ turn ih =>
    obtain ⟨j, waiting, calm⟩ := turn
    by_cases same : i = j
    · subst same
      rw [Function.update_self]
      exact (progress_step ih (h.adverts i) waiting calm).1
    · rwa [Function.update_of_ne same]

/-- A router that has read all that waited is master exactly when its claim is the strongest. -/
theorem SplitBrain.role_of_consumed (h : SplitBrain s) (turns : Relation.ReflTransGen Turn s s')
    {i : ι} (consumed : (s' i).lan.queue = []) :
    (s' i).node.role ≠ .init ∧
      ((s' i).node.role = .master ↔ ∀ j, j ≠ i → ¬(s i).node.strength < (s j).node.strength) := by
  obtain ⟨-, -, left, heard, queued, role⟩ := h.progress turns i
  rw [consumed, List.append_nil] at queued
  refine ⟨left, role.trans ?_⟩
  rw [← queued]
  constructor
  · intro unbeaten j other
    rw [← Node.beatenBy_claim_iff (h.peers i j) (h.configured j)]
    exact unbeaten _ (h.mem_queue_iff.mpr ⟨j, other, rfl⟩)
  · intro strongest d waiting
    obtain ⟨j, other, rfl⟩ := h.mem_queue_iff.mp waiting
    rw [Node.beatenBy_claim_iff (h.peers i j) (h.configured j)]
    exact strongest j other

theorem SplitBrain.strongest (h : SplitBrain s) [Nonempty ι] :
    ∃ m, ∀ j, j ≠ m → (s j).node.strength < (s m).node.strength := by
  obtain ⟨m, greatest⟩ := Finite.exists_max fun i => (s i).node.strength
  refine ⟨m, fun j other => lt_of_le_of_ne (greatest j) ?_⟩
  exact rank_ne_of_address_ne (h.apart j m other)

end

/-- The relation that decides between claims is a strict order, total where addresses differ.
Of several masters exactly the one with the greatest claim stays once all have read the
claims of all others, whatever the order of the claims and of the steps. -/
theorem split_brain_heals :
    ((∀ p a, dominates p a p a = false) ∧
      (∀ p a q b, dominates p a q b = true → dominates q b p a = false) ∧
      (∀ p a q b r c, dominates p a q b = true → dominates q b r c = true →
        dominates p a r c = true) ∧
      ∀ p a q b, a ≠ b → dominates p a q b = true ∨ dominates q b p a = true) ∧
    ∀ {ι : Type} [Fintype ι] [DecidableEq ι] [Nonempty ι] {s s' : ι → Session},
      SplitBrain s → Relation.ReflTransGen Turn s s' → (∀ i, (s' i).lan.queue = []) →
        ∃ m, (∀ j, j ≠ m → rank (s j).node.priority (s j).node.binding.address <
            rank (s m).node.priority (s m).node.binding.address) ∧
          ∀ i, (s' i).node.role = if i = m then .master else .backup := by
  refine ⟨⟨dominates_irrefl, fun _ _ _ _ => dominates_asymm, fun _ _ _ _ _ _ => dominates_trans,
    fun _ _ _ _ => dominates_total⟩, ?_⟩
  intro ι _ _ _ s s' split turns consumed
  obtain ⟨m, strongest⟩ := split.strongest
  refine ⟨m, strongest, fun i => ?_⟩
  obtain ⟨left, master⟩ := split.role_of_consumed turns (consumed i)
  by_cases same : i = m
  · subst same
    rw [if_pos rfl, master]
    exact fun j other => lt_asymm (strongest j other)
  · have beaten : (s' i).node.role ≠ .master :=
      fun role => master.mp role m (Ne.symm same) (strongest i same)
    rw [if_neg same]
    cases role : (s' i).node.role with
    | init => exact absurd role left
    | master => exact absurd role beaten
    | backup => rfl

def Node.sampleAt (address : IPv4) : Node :=
  { Node.sample with binding := { Binding.sample with address } }

def Session.promoted (address : IPv4) : Session :=
  ((start (.sampleAt address) 0).handle (.step 3)).2

def rivals (i : Bool) : Session :=
  let address (i : Bool) : IPv4 := ⟨10, 0, 0, if i then 3 else 2⟩
  let claim := (Session.promoted (address !i)).node.claim
  ((Session.promoted (address i)).handle (.deliver claim)).2

theorem configured_promoted (address : IPv4)
    (started : Node.start .sample { Binding.sample with address } = .ok (.sampleAt address)) :
    (Session.promoted address).node.Configured := by
  have before : Node.History (.sampleAt address)
      (Session.start (.sampleAt address) 0).lan.exchanges none
      (Session.start (.sampleAt address) 0).node := .start
  exact Node.configured_of_history started (Session.history_handle (.step 3) before)

theorem splitBrain_rivals : SplitBrain rivals where
  configured i := by
    have same (s : Session) (d : Octets) : (s.handle (.deliver d)).2.node = s.node := by
      simp [Session.handle, Session.happen, Session.changeLan]
    rw [rivals, same]
    cases i with
    | true => exact configured_promoted _ rfl
    | false => exact configured_promoted _ rfl
  masters := by decide
  peers i j := by cases i <;> cases j <;> exact ⟨rfl, rfl, rfl, fun _ => rfl⟩
  apart := by decide
  still i := by cases i <;> exact ⟨rfl, rfl, fun _ => rfl, rfl, rfl⟩
  queues i := by cases i <;> rfl

theorem waiting_rivals (i : Bool) :
    (rivals i).lan.queue ≠ [] ∧ (rivals i).node.Calm (rivals i).lan.now := by
  cases i <;> exact ⟨nofun, by decide, by decide⟩

theorem consumed_rivals (i : Bool) : ((rivals i).handle (.step 1)).2.lan.queue = [] := by
  have start := Session.progress_start (splitBrain_rivals.still i) (splitBrain_rivals.masters i)
  obtain ⟨waiting, calm⟩ := waiting_rivals i
  rw [(Session.progress_step start (splitBrain_rivals.adverts i) waiting calm).2]
  cases i <;> rfl

theorem turns_rivals :
    Relation.ReflTransGen Turn rivals fun i => ((rivals i).handle (.step 1)).2 := by
  let s := Function.update rivals false ((rivals false).handle (.step 1)).2
  have first : Turn rivals s := .step false (waiting_rivals false).1 (waiting_rivals false).2
  have second : Turn s (Function.update s true ((rivals true).handle (.step 1)).2) :=
    .step (s := s) true (waiting_rivals true).1 (waiting_rivals true).2
  have both : (fun i => ((rivals i).handle (.step 1)).2) =
      Function.update s true ((rivals true).handle (.step 1)).2 := by
    funext i
    cases i <;> rfl
  rw [both]
  exact (Relation.ReflTransGen.single first).tail second

/-- Of two rivals of equal priority the one at the greater address stays. -/
theorem rival_at_greater_address_stays : ∃ m,
    SplitBrain rivals ∧
      Relation.ReflTransGen Turn rivals (fun i => ((rivals i).handle (.step 1)).2) ∧
      (∀ i, ((rivals i).handle (.step 1)).2.lan.queue = []) ∧
      (∀ j, j ≠ m → rank (rivals j).node.priority (rivals j).node.binding.address <
        rank (rivals m).node.priority (rivals m).node.binding.address) ∧
      ∀ i, ((rivals i).handle (.step 1)).2.node.role = if i = m then .master else .backup := by
  obtain ⟨m, strongest, roles⟩ :=
    split_brain_heals.2 splitBrain_rivals turns_rivals consumed_rivals
  exact ⟨m, splitBrain_rivals, turns_rivals, consumed_rivals, strongest, roles⟩

end VirtualRouter
