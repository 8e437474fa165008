import VirtualRouter.Proofs.NodeHistory

/-!
# Traces among surroundings held in memory

Running an interaction in memory is the same as an exchange with whatever the surroundings
answer, step by step. Surroundings that stand still answer every clock reading alike and hand
over the datagrams that have arrived, one for each receive.
-/

set_option autoImplicit false

namespace VirtualRouter.Lan

/-- In `Serves l t l'` the calls of `t` are made among `l`, answered as `l` answers them, and
leave `l'`. -/
inductive Serves : Lan → List Exchange → Lan → Prop
  | nil (l : Lan) : Serves l [] l
  | cons (c : Call) {l l' : Lan} {t : List Exchange} (rest : Serves (serve c l).2 t l') :
      Serves l (⟨c, (l.answer c).1⟩ :: t) l'

theorem serves_cons_iff {l l' : Lan} {c : Call} {r : c.Answer} {t : List Exchange} :
    Serves l (⟨c, r⟩ :: t) l' ↔ r = (l.answer c).1 ∧ Serves (serve c l).2 t l' := by
  constructor
  · intro h
    cases h with
    | cons _ rest => exact ⟨rfl, rest⟩
  · rintro ⟨rfl, rest⟩
    exact .cons c rest

theorem serves_runIn {α : Type} (i : Interaction α) (l : Lan) :
    ∃ t, i.Runs t (i.runIn serve l).1 ∧ Serves l t (i.runIn serve l).2 := by
  induction i generalizing l with
  | done a => exact ⟨[], .done a, .nil l⟩
  | ask c k ih =>
    obtain ⟨t, run, served⟩ := ih (l.answer c).1 (serve c l).2
    exact ⟨⟨c, (l.answer c).1⟩ :: t, .ask run, .cons c served⟩

structure Still (l : Lan) (now : Nat) : Prop where
  clock : l.now = now
  costs : l.costs = ⟨0, 0, 0⟩
  receives : ∀ k, l.receiveOutages.fails k = false
  running : l.shutdownRequested = false
  unscheduled : l.shutdownAfter = none

/-- A call other than a receive leaves the surroundings still and the queue as it is. -/
theorem Still.serve_other {l : Lan} {now : Nat} (h : l.Still now) {c : Call}
    (other : ∀ timeout, c ≠ .receive timeout) :
    (serve c l).2.Still now ∧ (serve c l).2.queue = l.queue := by
  have free : l.costs.send = 0 ∧ l.costs.host = 0 := by simp [h.costs]
  cases c with
  | receive timeout => exact absurd rfl (other timeout)
  | shutdownRequested => exact ⟨⟨h.1, h.2, h.3, h.4, h.5⟩, rfl⟩
  | clock => exact ⟨⟨h.1, h.2, h.3, h.4, h.5⟩, rfl⟩
  | send payload =>
    exact ⟨⟨by simp [serve, answer, record, free, h.clock], h.2, h.3, h.4, h.5⟩, rfl⟩
  | applyMac b mac role =>
    exact ⟨⟨by simp [serve, answer, record, free, h.clock], h.2, h.3, h.4, h.5⟩, rfl⟩
  | announce i mac a =>
    exact ⟨⟨by simp [serve, answer, record, free, h.clock], h.2, h.3, h.4, h.5⟩, rfl⟩

/-- A receive hands over the datagram that has waited longest. -/
theorem Still.serve_receive {l : Lan} {now : Nat} (h : l.Still now) {d : Octets}
    {rest : List Octets} (waiting : l.queue = d :: rest) (timeout : Nat) :
    (l.answer (.receive timeout)).1 = .datagram d ∧
      (serve (.receive timeout) l).2.Still now ∧
        (serve (.receive timeout) l).2.queue = rest := by
  have free : l.costs.receive = 0 := by simp [h.costs]
  have received : l.receive timeout = (.datagram d,
      { l with queue := rest, receiveOutages := l.receiveOutages.next }) := by
    simp [receive, countdown, h.unscheduled, Outages.current, h.receives, takeDatagram, waiting,
      free]
  refine ⟨by rw [answer, received], ?_, by simp [serve, answer, record, received]⟩
  constructor
  · simp [serve, answer, record, received, h.clock]
  · simp [serve, answer, record, received, h.costs]
  · simp [serve, answer, record, received, Outages.next, h.receives]
  · simp [serve, answer, record, received, h.running]
  · simp [serve, answer, record, received, h.unscheduled]

theorem Still.serves_others {l l' : Lan} {now : Nat} {t : List Exchange} (h : l.Still now)
    (others : ∀ e ∈ t, ∀ timeout, e.call ≠ .receive timeout) (served : Serves l t l') :
    l'.Still now ∧ l'.queue = l.queue := by
  induction served with
  | nil => exact ⟨h, rfl⟩
  | cons c rest ih =>
    obtain ⟨still, same⟩ := h.serve_other (others _ List.mem_cons_self)
    obtain ⟨still', same'⟩ := ih still fun e he => others e (List.mem_cons_of_mem _ he)
    exact ⟨still', same'.trans same⟩

/-- A clock reading and a receive, before anything else. -/
theorem Still.serves_heard {l l' : Lan} {now now' timeout : Nat} {d : Octets}
    {rest : List Octets} {rc : Reception} {t : List Exchange} (h : l.Still now)
    (waiting : l.queue = d :: rest)
    (served : Serves l (⟨.clock, now'⟩ :: ⟨.receive timeout, rc⟩ :: t) l') :
    now' = now ∧ rc = .datagram d ∧ ∃ l₁ : Lan, l₁.Still now ∧ l₁.queue = rest ∧
      Serves l₁ t l' := by
  obtain ⟨read, served⟩ := serves_cons_iff.mp served
  obtain ⟨received, served⟩ := serves_cons_iff.mp served
  obtain ⟨still, same⟩ := h.serve_other (c := .clock) nofun
  obtain ⟨handed, still', left⟩ := still.serve_receive (same.trans waiting) timeout
  exact ⟨read.trans h.clock, received.trans handed, _, still', left, served⟩

end VirtualRouter.Lan
