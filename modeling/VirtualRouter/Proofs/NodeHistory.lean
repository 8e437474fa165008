import VirtualRouter.Proofs.NodeStep
import VirtualRouter.Node.Session

/-!
# The life of a node up to the end of its first run

A history is any sequence of steps, made one by one or within runs, up to the first run that
returns. The surroundings may answer each call as they like: clocks may jump, any octets may
arrive, and every call may fail. What sessions do to a node is a history of it.
-/

set_option autoImplicit false

namespace VirtualRouter

namespace Node
open Interaction

/-- In `History n₀ t w n` a node that was `n₀` has exchanged `t` and become `n`. When its
first run has returned, `w` is what the run told. -/
inductive History (n₀ : Node) : List Exchange → Option Bool → Node → Prop
  | start : History n₀ [] none n₀
  | step {t u : List Exchange} {n m : Node} {r : Step} (before : History n₀ t none n)
      (run : n.step.Runs u (r, m)) : History n₀ (t ++ u) none m
  | run {t u : List Exchange} {n m : Node} {w : Option Bool} (bound : Nat)
      (before : History n₀ t none n) (run : (n.runFor bound).Runs u (w, m)) :
      History n₀ (t ++ u) w m

theorem runs_runFor_succ {k : Nat} {n m : Node} {t : List Exchange} {w : Option Bool}
    (h : (n.runFor (k + 1)).Runs t (w, m)) :
    (∃ u wasMaster, t = ⟨.shutdownRequested, true⟩ :: u ∧ w = some wasMaster ∧
      n.Releases u wasMaster m) ∨
    (∃ u v n', t = ⟨.shutdownRequested, false⟩ :: u ++ v ∧ n.Acts u n' ∧
      (n'.runFor k).Runs v (w, m)) := by
  unfold runFor at h
  obtain ⟨⟨r, n'⟩, u, v, rfl, first, rest⟩ := runs_bind_iff.mp h
  rcases runs_step first with ⟨rfl, rfl, rfl⟩ | ⟨rfl, u, rfl, acts⟩
  · obtain ⟨⟨wasMaster, n''⟩, u, _, rfl, released, ended⟩ := runs_bind_iff.mp rest
    simp only [pure_eq, runs_done_iff, Prod.mk.injEq] at ended
    obtain ⟨rfl, rfl, rfl⟩ := ended
    exact .inl ⟨u, wasMaster, by simp, rfl, releases_of_release released⟩
  · exact .inr ⟨u, v, n', rfl, acts, rest⟩

inductive Life (n₀ : Node) : List Exchange → Option Bool → Node → Prop
  | start : Life n₀ [] none n₀
  | refused {t : List Exchange} {n : Node} (before : Life n₀ t none n) :
      Life n₀ (t ++ [⟨.shutdownRequested, true⟩]) none n
  | acts {t u : List Exchange} {n m : Node} (before : Life n₀ t none n)
      (acted : n.Acts u m) : Life n₀ (t ++ ⟨.shutdownRequested, false⟩ :: u) none m
  | releases {t u : List Exchange} {n m : Node} {wasMaster : Bool}
      (before : Life n₀ t none n) (released : n.Releases u wasMaster m) :
      Life n₀ (t ++ ⟨.shutdownRequested, true⟩ :: u) (some wasMaster) m

theorem life_run {n₀ n m : Node} {t u : List Exchange} {w : Option Bool} (bound : Nat)
    (before : Life n₀ t none n) (run : (n.runFor bound).Runs u (w, m)) :
    Life n₀ (t ++ u) w m := by
  induction bound generalizing t u n with
  | zero =>
    obtain ⟨rfl, ended⟩ := runs_done_iff.mp run
    obtain ⟨rfl, rfl⟩ := Prod.mk.inj ended
    simpa using before
  | succ bound ih =>
    rcases runs_runFor_succ run with ⟨u, wasMaster, rfl, rfl, released⟩ |
      ⟨u, v, n', rfl, acted, rest⟩
    · exact .releases before released
    · simpa using ih (.acts before acted) rest

theorem History.life {n₀ n : Node} {t : List Exchange} {w : Option Bool}
    (h : History n₀ t w n) : Life n₀ t w n := by
  induction h with
  | start => exact .start
  | step _ run ih =>
    rcases runs_step run with ⟨-, rfl, rfl⟩ | ⟨-, u, rfl, acted⟩
    · exact .refused ih
    · exact .acts ih acted
  | run bound _ run ih => exact life_run bound ih run

theorem Life.identity_eq {n₀ n : Node} {t : List Exchange} {w : Option Bool}
    (h : Life n₀ t w n) : n.identity = n₀.identity := by
  induction h with
  | start => rfl
  | refused _ ih => exact ih
  | acts _ acted ih => exact (identity_acts acted).trans ih
  | releases _ released ih => exact (identity_releases released).trans ih

end Node

def Outcome.told : Outcome → Option Bool
  | .finished wasMaster => some wasMaster
  | _ => Option.none

namespace Session
open Node (History)

inductive Leads (s₀ : Session) : Session → Option Bool → Prop
  | start : Leads s₀ s₀ none
  | event {s : Session} (before : Leads s₀ s none) (e : Event) :
      Leads s₀ (s.handle e).2 (s.handle e).1.told

@[simp] theorem node_settle (s : Session) : s.settle.node = s.node := by
  unfold settle
  split <;> rfl

@[simp] theorem lan_settle (s : Session) : s.settle.lan = s.lan := by
  unfold settle
  split <;> rfl

theorem history_steps {n₀ : Node} (k : Nat) {s : Session}
    (h : History n₀ s.lan.exchanges none s.node) :
    History n₀ (s.steps k).2.lan.exchanges none (s.steps k).2.node := by
  induction k generalizing s with
  | zero => exact h
  | succ k ih =>
    obtain ⟨t, recorded, run⟩ := Lan.runs_runIn_serve s.node.step s.lan
    apply ih
    rw [recorded]
    exact h.step run

theorem exchanges_entering (l : Lan) (receives : Option Nat) :
    (entering l receives).exchanges = l.exchanges := by
  unfold entering
  split <;> rfl

theorem history_run {n₀ : Node} (receives : Option Nat) {s : Session}
    (h : History n₀ s.lan.exchanges none s.node) :
    History n₀ (s.run receives).2.lan.exchanges (s.run receives).1.told
      (s.run receives).2.node := by
  obtain ⟨t, recorded, run⟩ :=
    Lan.runs_runIn_serve (s.node.runFor (runBound receives)) (entering s.lan receives)
  dsimp only [Session.run, ranIn]
  rw [recorded, exchanges_entering]
  have after := h.run _ run
  generalize ((s.node.runFor (runBound receives)).runIn Lan.serve
    (entering s.lan receives)).1.1 = w at after ⊢
  cases w with
  | none => exact after
  | some wasMaster => exact after

theorem history_handle {n₀ : Node} (e : Event) {s : Session}
    (h : History n₀ s.lan.exchanges none s.node) :
    History n₀ (s.handle e).2.lan.exchanges (s.handle e).1.told (s.handle e).2.node := by
  simp only [handle, node_settle, lan_settle]
  cases e with
  | step times => exact history_steps times h
  | run receives => exact history_run receives h
  | outages kind fails => cases kind <;> exact h
  | frame a =>
    simp only [happen]
    split <;> exact h
  | _ => exact h

/-- What events do to the node of a session is a history of the node. -/
theorem history_of_leads {s₀ s : Session} {w : Option Bool} (fresh : s₀.lan.exchanges = [])
    (h : s₀.Leads s w) : History s₀.node s.lan.exchanges w s.node := by
  induction h with
  | start => exact fresh ▸ .start
  | event _ e ih => exact history_handle e ih

end Session

/-- A run among `lan` that tells `w` is a history that ends with `w`. -/
theorem Node.exists_history {n : Node} {bound : Nat} {lan : Lan} {w : Option Bool}
    (told : ((n.runFor bound).runIn Lan.serve lan).1.1 = w) : ∃ t m, History n t w m := by
  obtain ⟨t, _, run⟩ := Lan.runs_runIn_serve (n.runFor bound) lan
  rw [← told]
  exact ⟨_, _, .run bound .start run⟩

def Config.sample : Config := { Config.initial with addresses := [⟨10, 0, 0, 100⟩] }

def Binding.sample : Binding := ⟨"eth0", 2, ⟨0x02, 0, 0, 0, 0, 0x01⟩, ⟨10, 0, 0, 2⟩⟩

def Node.sample : Node := ⟨.sample, .sample, 100, Timers.start 100 1000000, .init, .zero⟩

theorem Node.start_sample : start .sample .sample = .ok sample := rfl

/-- The sample node becomes master by silence and is told to stop while it waits. -/
theorem Node.history_sample : ∃ t m, History sample t (some true) m := by
  have told : ((sample.runFor 8).runIn Lan.serve
      { Lan.quiet 0 with shutdownAfter := some 1 }).1.1 = some true := by decide
  exact exists_history told

end VirtualRouter
