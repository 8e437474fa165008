import VirtualRouter.Config
import VirtualRouter.Wire.Octets

/-!
# What a node asks of its surroundings

A node reads a clock, receives and sends datagrams, changes the hardware address of its
interface and announces addresses. An `Interaction` is a finite program of such calls: it says
what is asked next for every answer so far, and leaves the answers to the surroundings.
-/

set_option autoImplicit false

namespace VirtualRouter

inductive MacRole
  | virtual
  | real
  deriving DecidableEq

inductive Call
  | shutdownRequested
  | clock
  | receive (timeout : Nat)
  | send (payload : Octets)
  | applyMac (binding : Binding) (mac : Mac) (role : MacRole)
  | announce (index : UInt32) (mac : Mac) (address : IPv4)
  deriving DecidableEq

inductive Reception
  | datagram (d : Octets)
  | timeout
  | failed
  deriving DecidableEq

/-- The answers to a call. Where it is a `Bool`, it says whether the call succeeded, or
whether a shutdown has been requested. -/
@[reducible] def Call.Answer : Call → Type
  | .shutdownRequested => Bool
  | .clock => Nat
  | .receive _ => Reception
  | .send _ => Bool
  | .applyMac _ _ _ => Bool
  | .announce _ _ _ => Bool

inductive Interaction (α : Type) : Type
  | done (result : α)
  | ask (call : Call) (next : call.Answer → Interaction α)

namespace Interaction

variable {α β : Type}

def bind : Interaction α → (α → Interaction β) → Interaction β
  | done a, f => f a
  | ask c k, f => ask c fun r => bind (k r) f

instance : Monad Interaction where
  pure := done
  bind := bind

def call (c : Call) : Interaction c.Answer := ask c done

@[simp] theorem pure_eq (a : α) : (pure a : Interaction α) = done a := rfl

@[simp] theorem done_bind (a : α) (f : α → Interaction β) : (done a >>= f) = f a := rfl

@[simp] theorem ask_bind (c : Call) (k : c.Answer → Interaction α) (f : α → Interaction β) :
    (ask c k >>= f) = ask c fun r => k r >>= f := rfl

end Interaction

structure Exchange where
  call : Call
  answer : call.Answer

/-- In `i.Runs t a` the interaction `i`, answered as the exchanges `t` say, ends with `a`. -/
inductive Interaction.Runs {α : Type} : Interaction α → List Exchange → α → Prop
  | done (a : α) : Runs (.done a) [] a
  | ask {c : Call} {k : c.Answer → Interaction α} {r : c.Answer} {t : List Exchange} {a : α}
      (rest : Runs (k r) t a) : Runs (.ask c k) (⟨c, r⟩ :: t) a

namespace Interaction

variable {α β : Type}

theorem runs_done_iff {a b : α} {t : List Exchange} : (done a).Runs t b ↔ t = [] ∧ b = a := by
  constructor
  · intro h
    cases h
    exact ⟨rfl, rfl⟩
  · rintro ⟨rfl, rfl⟩
    exact .done _

theorem runs_ask_iff {c : Call} {k : c.Answer → Interaction α} {t : List Exchange} {a : α} :
    (ask c k).Runs t a ↔ ∃ r t', t = ⟨c, r⟩ :: t' ∧ (k r).Runs t' a := by
  constructor
  · intro h
    cases h with
    | ask rest => exact ⟨_, _, rfl, rest⟩
  · rintro ⟨r, t', rfl, rest⟩
    exact .ask rest

/-- A run of two interactions in sequence is a run of the first and then one of the second. -/
theorem runs_bind_iff {i : Interaction α} {f : α → Interaction β} {t : List Exchange} {b : β} :
    (i >>= f).Runs t b ↔ ∃ a t₁ t₂, t = t₁ ++ t₂ ∧ i.Runs t₁ a ∧ (f a).Runs t₂ b := by
  induction i generalizing t with
  | done a =>
    simp only [done_bind, runs_done_iff]
    constructor
    · intro h
      exact ⟨a, [], t, rfl, ⟨rfl, rfl⟩, h⟩
    · rintro ⟨_, _, t₂, rfl, ⟨rfl, rfl⟩, h⟩
      exact h
  | ask c k ih =>
    simp only [ask_bind, runs_ask_iff, ih]
    constructor
    · rintro ⟨r, _, rfl, a, t₁, t₂, rfl, h₁, h₂⟩
      exact ⟨a, ⟨c, r⟩ :: t₁, t₂, rfl, ⟨r, t₁, rfl, h₁⟩, h₂⟩
    · rintro ⟨a, _, t₂, rfl, ⟨r, t₁, rfl, h₁⟩, h₂⟩
      exact ⟨r, t₁ ++ t₂, rfl, a, t₁, t₂, rfl, h₁, h₂⟩

end Interaction

abbrev Surroundings (σ : Type) := (c : Call) → σ → c.Answer × σ

def Interaction.runIn {α σ : Type} (env : Surroundings σ) : Interaction α → σ → α × σ
  | .done a, s => (a, s)
  | .ask c k, s => (k (env c s).1).runIn env (env c s).2

theorem Interaction.runIn_bind {α β σ : Type} (env : Surroundings σ) (i : Interaction α)
    (f : α → Interaction β) (s : σ) :
    (i >>= f).runIn env s = (f (i.runIn env s).1).runIn env (i.runIn env s).2 := by
  induction i generalizing s with
  | done a => rfl
  | ask c k ih => exact ih _ _

end VirtualRouter
