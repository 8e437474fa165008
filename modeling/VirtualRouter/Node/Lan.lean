import VirtualRouter.Node.Machine

/-!
# Surroundings held in memory

A clock that moves only when told or when a call takes time, a queue of datagrams that have
arrived, calls that fail as scheduled, and a shutdown that may be requested in the middle of a
receive. Every exchange is recorded.
-/

set_option autoImplicit false

namespace VirtualRouter

structure Outages where
  fails : Nat → Bool
  drawn : Nat

namespace Outages

def scheduled (fails : Nat → Bool) : Outages := ⟨fails, 0⟩

def none : Outages := scheduled fun _ => false

def current (o : Outages) : Bool := o.fails o.drawn

def next (o : Outages) : Outages := ⟨o.fails, o.drawn + 1⟩

end Outages

structure Costs where
  send : Nat
  receive : Nat
  host : Nat

structure Lan where
  now : Nat
  queue : List Octets
  sendOutages : Outages
  receiveOutages : Outages
  macOutages : Outages
  announceOutages : Outages
  costs : Costs
  shutdownRequested : Bool
  shutdownAfter : Option Nat
  exchanges : List Exchange

namespace Lan

def quiet (now : Nat) : Lan :=
  ⟨now, [], .none, .none, .none, .none, ⟨0, 0, 0⟩, false, none, []⟩

def record (l : Lan) (e : Exchange) : Lan := { l with exchanges := l.exchanges ++ [e] }

def countdown (l : Lan) : Lan :=
  match l.shutdownAfter with
  | none => l
  | some 0 => { l with shutdownRequested := true, shutdownAfter := none }
  | some (k + 1) => { l with shutdownAfter := some k }

def takeDatagram (l : Lan) (timeout : Nat) : Reception × Lan :=
  match l.queue with
  | d :: r => (.datagram d, { l with queue := r, now := l.now + l.costs.receive })
  | [] => (.timeout, { l with now := l.now + timeout + 1 })

def receive (l : Lan) (timeout : Nat) : Reception × Lan :=
  let l := l.countdown
  let fails := l.receiveOutages.current
  let l := { l with receiveOutages := l.receiveOutages.next }
  if fails then (.failed, l) else l.takeDatagram timeout

def answer : (c : Call) → Lan → c.Answer × Lan
  | .shutdownRequested, l => (l.shutdownRequested, l)
  | .clock, l => (l.now, l)
  | .receive timeout, l => l.receive timeout
  | .send _, l =>
    (!l.sendOutages.current,
      { l with now := l.now + l.costs.send, sendOutages := l.sendOutages.next })
  | .applyMac _ _ _, l =>
    (!l.macOutages.current,
      { l with now := l.now + l.costs.host, macOutages := l.macOutages.next })
  | .announce _ _ _, l =>
    (!l.announceOutages.current,
      { l with now := l.now + l.costs.host, announceOutages := l.announceOutages.next })

def serve : Surroundings Lan := fun c l =>
  ((l.answer c).1, (l.answer c).2.record ⟨c, (l.answer c).1⟩)

@[simp] theorem exchanges_countdown (l : Lan) : l.countdown.exchanges = l.exchanges := by
  unfold countdown
  split <;> rfl

@[simp] theorem exchanges_takeDatagram (l : Lan) (timeout : Nat) :
    (l.takeDatagram timeout).2.exchanges = l.exchanges := by
  unfold takeDatagram
  split <;> rfl

@[simp] theorem exchanges_receive (l : Lan) (timeout : Nat) :
    (l.receive timeout).2.exchanges = l.exchanges := by
  unfold receive
  simp only
  split <;> simp

@[simp] theorem exchanges_answer (c : Call) (l : Lan) :
    (l.answer c).2.exchanges = l.exchanges := by
  cases c <;> simp [answer]

/-- The exchanges that running an interaction adds to the record are a run of it. -/
theorem runs_runIn_serve {α : Type} (i : Interaction α) (l : Lan) :
    ∃ t, (i.runIn serve l).2.exchanges = l.exchanges ++ t ∧ i.Runs t (i.runIn serve l).1 := by
  induction i generalizing l with
  | done a => exact ⟨[], (List.append_nil _).symm, .done a⟩
  | ask c k ih =>
    obtain ⟨t, recorded, run⟩ := ih (l.answer c).1 (serve c l).2
    refine ⟨⟨c, (l.answer c).1⟩ :: t, ?_, .ask run⟩
    simp only [Interaction.runIn, serve, record, exchanges_answer] at recorded ⊢
    rw [recorded, List.append_assoc, List.singleton_append]

end Lan
end VirtualRouter
