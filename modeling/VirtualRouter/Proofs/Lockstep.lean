import VirtualRouter.Proofs.NodeStep
import Mathlib.Data.List.Forall2

/-!
# Nodes in lockstep

Two interactions are in lockstep if they make the same calls and end alike, as long as their
answers are alike. No node ever looks at its counters, nor at whether a call that may fail has
failed, except to count what it has sent. So two nodes that differ in their counters alone are
in lockstep, and how far the counters may differ is a matter of what they count.
-/

set_option autoImplicit false

namespace VirtualRouter

abbrev Likeness := (c : Call) → c.Answer → c.Answer → Prop

inductive Lockstep {α β : Type} (A : Likeness) (R : α → β → Prop) :
    Interaction α → Interaction β → Prop
  | done {a : α} {b : β} (ends : R a b) : Lockstep A R (.done a) (.done b)
  | ask {c : Call} {k : c.Answer → Interaction α} {k' : c.Answer → Interaction β}
      (next : ∀ r r', A c r r' → Lockstep A R (k r) (k' r')) : Lockstep A R (.ask c k) (.ask c k')

inductive Exchange.Alike (A : Likeness) : Exchange → Exchange → Prop
  | mk {c : Call} {r r' : c.Answer} (answers : A c r r') : Alike A ⟨c, r⟩ ⟨c, r'⟩

theorem Exchange.alike_refl {A : Likeness} (same : ∀ c r, A c r r) (t : List Exchange) :
    List.Forall₂ (Exchange.Alike A) t t :=
  List.forall₂_same.mpr fun e _ => .mk (same e.call e.answer)

namespace Lockstep

variable {α β γ δ : Type} {A : Likeness} {R : α → β → Prop} {S : γ → δ → Prop}
  {i : Interaction α} {i' : Interaction β}

theorem bind {f : α → Interaction γ} {f' : β → Interaction δ} (h : Lockstep A R i i')
    (next : ∀ a b, R a b → Lockstep A S (f a) (f' b)) : Lockstep A S (i >>= f) (i' >>= f') := by
  induction h with
  | done ends => exact next _ _ ends
  | ask _ ih => exact .ask ih

theorem map {f : α → γ} {f' : β → δ} (h : Lockstep A R i i')
    (ends : ∀ a b, R a b → S (f a) (f' b)) :
    Lockstep A S (i >>= fun a => .done (f a)) (i' >>= fun b => .done (f' b)) :=
  h.bind fun a b related => .done (ends a b related)

/-- What runs with some answers runs with like answers. -/
theorem runs {t t' : List Exchange} {a : α} (h : Lockstep A R i i') (run : i.Runs t a)
    (alike : List.Forall₂ (Exchange.Alike A) t t') : ∃ b, i'.Runs t' b ∧ R a b := by
  induction h generalizing t t' with
  | done ends =>
    obtain ⟨rfl, rfl⟩ := Interaction.runs_done_iff.mp run
    cases alike
    exact ⟨_, .done _, ends⟩
  | ask next ih =>
    obtain ⟨r, u, rfl, rest⟩ := Interaction.runs_ask_iff.mp run
    cases alike with
    | cons first others =>
      obtain ⟨answers⟩ := first
      obtain ⟨b, run', ends⟩ := ih _ _ answers rest others
      exact ⟨b, .ask run', ends⟩

/-- Surroundings that answer alike, and stay alike by that, lead to like ends. -/
theorem runIn {σ τ : Type} {env : Surroundings σ} {env' : Surroundings τ} {Q : σ → τ → Prop}
    (h : Lockstep A R i i')
    (serves : ∀ c s s', Q s s' → A c (env c s).1 (env' c s').1 ∧ Q (env c s).2 (env' c s').2)
    {s : σ} {s' : τ} (alike : Q s s') :
    R (i.runIn env s).1 (i'.runIn env' s').1 ∧ Q (i.runIn env s).2 (i'.runIn env' s').2 := by
  induction h generalizing s s' with
  | done ends => exact ⟨ends, alike⟩
  | ask next ih =>
    obtain ⟨answers, alike'⟩ := serves _ _ _ alike
    exact ih _ _ answers alike'

end Lockstep

def Call.mayFail : Call → Bool
  | .send _ => true
  | .applyMac _ _ _ => true
  | .announce _ _ _ => true
  | _ => false

namespace Node
open Interaction

def withStats (n : Node) (s : Stats) : Node := { n with stats := s }

theorem heard_withStats (n : Node) (s : Stats) (rc : Reception) :
    ∃ s', (n.withStats s).heard rc = ((n.heard rc).1.withStats s', (n.heard rc).2) := by
  have expected : (n.withStats s).expectation = n.expectation := rfl
  unfold heard
  cases rc with
  | datagram d =>
    dsimp only
    rw [expected]
    cases n.expectation.accept d with
    | ok a => exact ⟨_, rfl⟩
    | error r => exact ⟨_, rfl⟩
  | timeout => exact ⟨s, rfl⟩
  | failed => exact ⟨s, rfl⟩

inductive Twins (R : Stats → Stats → Prop) (n : Node) : Node → Prop
  | mk (s : Stats) (counts : R n.stats s) : Twins R n (n.withStats s)

/-- Like answers agree in all that a node decides from, and lead from counters that are related
by `R` to counters that are. -/
structure Impartial (A : Likeness) (R : Stats → Stats → Prop) : Prop where
  decides : ∀ {c : Call} {r r' : c.Answer}, c.mayFail = false → A c r r' → r = r'
  sends : ∀ (n : Node) {s : Stats} {payload : Octets} {r r' : Bool}, A (.send payload) r r' →
    R n.stats s → R (n.afterSend r).stats ((n.withStats s).afterSend r').stats
  hears : ∀ (n : Node) {s : Stats} (rc : Reception), R n.stats s →
    R (n.heard rc).1.stats ((n.withStats s).heard rc).1.stats
  turns : ∀ (n : Node) {s : Stats} (now : Nat), R n.stats s →
    R (n.toBackup now).stats ((n.withStats s).toBackup now).stats ∧
      R (n.toMaster now).stats ((n.withStats s).toMaster now).stats

namespace Twins

variable {R : Stats → Stats → Prop} {n m : Node}

theorem of_eq (same : m = n.withStats m.stats) (counts : R n.stats m.stats) : Twins R n m := by
  rw [same]
  exact .mk _ counts

theorem config (h : Twins R n m) : m.config = n.config := by
  cases h
  rfl

theorem priority (h : Twins R n m) : m.priority = n.priority := by
  cases h
  rfl

theorem timers (h : Twins R n m) : m.timers = n.timers := by
  cases h
  rfl

theorem role (h : Twins R n m) : m.role = n.role := by
  cases h
  rfl

theorem counts (h : Twins R n m) : R n.stats m.stats := by
  obtain ⟨s, counts⟩ := h
  exact counts

theorem mapTimers (h : Twins R n m) (f : Timers → Timers) :
    Twins R (n.mapTimers f) (m.mapTimers f) := by
  obtain ⟨s, counts⟩ := h
  exact .of_eq rfl counts

theorem resync (h : Twins R n m) (a : Advert) : Twins R (n.resync a) (m.resync a) := by
  obtain ⟨s, counts⟩ := h
  unfold Node.resync
  cases a.interval with
  | none => exact .mk s counts
  | some i => exact .of_eq rfl counts

theorem backupHears (h : Twins R n m) (a : Advert) (now : Nat) :
    Twins R (n.backupHears a now) (m.backupHears a now) := by
  have resynced := h.resync a
  obtain ⟨s, counts⟩ := h
  unfold Node.backupHears
  change Twins R _ (if _ then _ else if !n.config.preempt || n.priority ≤ a.priority then _ else _)
  split_ifs
  · exact .of_eq rfl counts
  · exact resynced.mapTimers _
  · exact .mk s counts

end Twins

theorem masterStep_eq (n : Node) : n.masterStep = ask .clock fun now =>
    if n.timers.advertFired now then n.assertRole
    else n.receive (n.timers.remaining now) >>= fun
      | (k, some a) => k.masterHears a
      | (k, none) => pure k := rfl

theorem backupStep_eq (n : Node) : n.backupStep = ask .clock fun now =>
    if n.timers.masterDownFired now then n.becomeMaster
    else n.receive (n.timers.remaining now) >>= fun
      | (k, some a) => ask .clock fun later => done (k.backupHears a later)
      | (k, none) => pure k := by
  unfold backupStep
  rfl

def Same {α : Type} (R : Stats → Stats → Prop) (x y : α × Node) : Prop :=
  x.1 = y.1 ∧ Twins R x.2 y.2

theorem runs_of_lockstep {α : Type} {A : Likeness} {R : Stats → Stats → Prop}
    {i i' : Interaction (α × Node)} (h : Lockstep A (Same R) i i') {t t' : List Exchange} {a : α}
    {m : Node} (run : i.Runs t (a, m)) (alike : List.Forall₂ (Exchange.Alike A) t t') :
    ∃ m', i'.Runs t' (a, m') ∧ Twins R m m' := by
  obtain ⟨⟨b, m'⟩, run', told, twins⟩ := h.runs run alike
  obtain rfl : a = b := told
  exact ⟨m', run', twins⟩

namespace Impartial

variable {A : Likeness} {R : Stats → Stats → Prop} {n m : Node}

theorem afterSend (h : Impartial A R) (twins : Twins R n m) {payload : Octets} {r r' : Bool}
    (answers : A (.send payload) r r') : Twins R (n.afterSend r) (m.afterSend r') := by
  obtain ⟨s, counts⟩ := twins
  refine .of_eq ?_ (h.sends n answers counts)
  cases r <;> cases r' <;> rfl

theorem sendAdvert (h : Impartial A R) (twins : Twins R n m) (p : UInt8) :
    Lockstep A (Twins R) (n.sendAdvert p) (m.sendAdvert p) := by
  have sent := @afterSend A R n m h twins
  obtain ⟨s, counts⟩ := twins
  exact .ask fun r r' answers => .done (sent answers)

theorem assertRole (h : Impartial A R) (twins : Twins R n m) :
    Lockstep A (Twins R) n.assertRole m.assertRole := by
  unfold Node.assertRole
  rw [twins.priority]
  refine (h.sendAdvert twins n.priority).bind fun k k' twins => .ask fun now now' answers => ?_
  obtain rfl := h.decides rfl answers
  exact .done (twins.mapTimers _)

theorem announceAll (twins : Twins R n m) (l : List IPv4) :
    Lockstep A (fun _ _ => True) (n.announceAll l) (m.announceAll l) := by
  obtain ⟨s, -⟩ := twins
  induction l with
  | nil => exact .done trivial
  | cons a l ih => exact .ask fun _ _ _ => ih

theorem becomeMaster (h : Impartial A R) (twins : Twins R n m) :
    Lockstep A (Twins R) n.becomeMaster m.becomeMaster := by
  have sent := h.sendAdvert twins n.priority
  obtain ⟨s, counts⟩ := twins
  refine .ask fun _ _ _ => sent.bind fun k k' twins => ?_
  rw [twins.config]
  refine (announceAll twins _).bind fun _ _ _ => .ask fun now now' answers => ?_
  obtain rfl := h.decides rfl answers
  obtain ⟨s, counts⟩ := twins
  exact .done (.of_eq rfl (h.turns k now counts).2)

theorem becomeBackup (h : Impartial A R) (twins : Twins R n m) :
    Lockstep A (Twins R) n.becomeBackup m.becomeBackup := by
  refine .ask fun now now' answers => ?_
  obtain rfl := h.decides rfl answers
  obtain ⟨s, counts⟩ := twins
  exact .done (.of_eq rfl (h.turns n now counts).1)

theorem heard (h : Impartial A R) (twins : Twins R n m) (rc : Reception) :
    Twins R (n.heard rc).1 (m.heard rc).1 ∧ (m.heard rc).2 = (n.heard rc).2 := by
  obtain ⟨s, counts⟩ := twins
  have counted := h.hears n rc counts
  obtain ⟨s', same⟩ := heard_withStats n s rc
  rw [same] at counted ⊢
  exact ⟨.mk s' counted, rfl⟩

theorem masterHears (h : Impartial A R) (twins : Twins R n m) (a : Advert) :
    Lockstep A (Twins R) (n.masterHears a) (m.masterHears a) := by
  have asserts := h.assertRole twins
  have resynced := h.becomeBackup (twins.resync a)
  unfold Node.masterHears
  obtain ⟨s, counts⟩ := twins
  change Lockstep A _ _ (if _ then _ else
    if dominates a.priority a.source n.priority n.binding.address then _ else _)
  split_ifs
  · exact asserts
  · exact .ask fun _ _ _ => resynced
  · exact .done (.mk s counts)

theorem receive (h : Impartial A R) (twins : Twins R n m) (timeout : Nat) :
    Lockstep A (fun x y => Twins R x.1 y.1 ∧ y.2 = x.2) (n.receive timeout)
      (m.receive timeout) := by
  rw [receive_eq, receive_eq]
  refine .ask fun rc rc' answers => ?_
  obtain rfl := h.decides rfl answers
  exact .done (h.heard twins rc)

theorem listen (h : Impartial A R) (twins : Twins R n m) (timeout : Nat)
    {hears : Node → Advert → Interaction Node}
    (heeds : ∀ {k k' : Node} (a : Advert), Twins R k k' →
      Lockstep A (Twins R) (hears k a) (hears k' a)) :
    Lockstep A (Twins R)
      (n.receive timeout >>= fun
        | (k, some a) => hears k a
        | (k, none) => pure k)
      (m.receive timeout >>= fun
        | (k, some a) => hears k a
        | (k, none) => pure k) := by
  refine (h.receive twins timeout).bind fun x y related => ?_
  obtain ⟨k, a?⟩ := x
  obtain ⟨k', a'?⟩ := y
  obtain ⟨twins, rfl⟩ : Twins R k k' ∧ a'? = a? := related
  cases a'? with
  | none => exact .done twins
  | some a => exact heeds a twins

theorem masterStep (h : Impartial A R) (twins : Twins R n m) :
    Lockstep A (Twins R) n.masterStep m.masterStep := by
  rw [masterStep_eq, masterStep_eq, twins.timers]
  refine .ask fun now now' answers => ?_
  obtain rfl := h.decides rfl answers
  by_cases fired : n.timers.advertFired now = true
  · rw [if_pos fired, if_pos fired]
    exact h.assertRole twins
  · rw [if_neg fired, if_neg fired]
    exact h.listen twins _ fun a twins => h.masterHears twins a

theorem backupStep (h : Impartial A R) (twins : Twins R n m) :
    Lockstep A (Twins R) n.backupStep m.backupStep := by
  rw [backupStep_eq, backupStep_eq, twins.timers]
  refine .ask fun now now' answers => ?_
  obtain rfl := h.decides rfl answers
  by_cases fired : n.timers.masterDownFired now = true
  · rw [if_pos fired, if_pos fired]
    exact h.becomeMaster twins
  · rw [if_neg fired, if_neg fired]
    refine h.listen twins _ fun a twins => .ask fun later later' answers => ?_
    obtain rfl := h.decides rfl answers
    exact .done (twins.backupHears a later)

theorem act (h : Impartial A R) (twins : Twins R n m) :
    Lockstep A (Twins R) n.act m.act := by
  unfold Node.act
  rw [twins.role, twins.priority]
  cases n.role with
  | init =>
    dsimp only
    split_ifs
    · exact h.becomeMaster twins
    · exact h.becomeBackup twins
  | master => exact h.masterStep twins
  | backup => exact h.backupStep twins

theorem step (h : Impartial A R) (twins : Twins R n m) :
    Lockstep A (Same R) n.step m.step := by
  refine .ask fun requested requested' answers => ?_
  obtain rfl := h.decides rfl answers
  cases requested with
  | true => exact .done ⟨rfl, twins⟩
  | false => exact (h.act twins).map fun k k' twins => ⟨rfl, twins⟩

theorem release (h : Impartial A R) (twins : Twins R n m) :
    Lockstep A (Same R) n.release m.release := by
  have sends := h.sendAdvert twins releasePriority
  have disarmed := twins.mapTimers (·.disarm)
  unfold Node.release
  rw [twins.role]
  split_ifs
  · obtain ⟨s, counts⟩ := twins
    exact .ask fun _ _ _ => sends.map fun k k' twins => ⟨rfl, twins.mapTimers _⟩
  · exact .done ⟨rfl, disarmed⟩

theorem runFor (h : Impartial A R) (bound : Nat) (twins : Twins R n m) :
    Lockstep A (Same R) (n.runFor bound) (m.runFor bound) := by
  induction bound generalizing n m with
  | zero => exact .done ⟨rfl, twins⟩
  | succ bound ih =>
    refine (h.step twins).bind fun x y same => ?_
    obtain ⟨r, k⟩ := x
    obtain ⟨r', k'⟩ := y
    obtain ⟨rfl, twins⟩ : r = r' ∧ Twins R k k' := same
    cases r with
    | proceed => exact ih twins
    | shutdown =>
      refine (h.release twins).map fun x y same => ?_
      obtain ⟨told, twins⟩ := same
      exact ⟨congrArg some told, twins⟩

end Impartial

end Node
end VirtualRouter
