import VirtualRouter.Proofs.Lockstep
import VirtualRouter.Proofs.NodePath
import VirtualRouter.Proofs.HostDiscipline
import VirtualRouter.Proofs.OwnAdverts

/-!
# Failures do not change the course of a node

Two sessions go through the same events, but for which sends and which calls to the host fail.
Whatever fails, they ask the same of their surroundings in the same order, and end alike. They
differ in what has really been sent, and in the number of it.
-/

set_option autoImplicit false

namespace VirtualRouter

def unlessFailed : Likeness := fun c r r' => c.mayFail = true ∨ r = r'

def SameButSent (s s' : Stats) : Prop := s' = { s with advertsSent := s'.advertsSent }

theorem exists_append_of_forall₂ {α β : Type} {R : α → β → Prop} {l₁ l₂ : List α} {l : List β}
    (h : List.Forall₂ R (l₁ ++ l₂) l) :
    ∃ u v, l = u ++ v ∧ List.Forall₂ R l₁ u ∧ List.Forall₂ R l₂ v := by
  refine ⟨l.take l₁.length, l.drop l₁.length, (List.take_append_drop _ _).symm, ?_, ?_⟩
  · exact (List.forall₂_take_append l l₁ l₂ h.flip).flip
  · exact (List.forall₂_drop_append l l₁ l₂ h.flip).flip

namespace Node

theorem impartial_unlessFailed : Impartial unlessFailed SameButSent where
  decides must answers := by
    rcases answers with may | same
    · exact absurd (must.symm.trans may) Bool.false_ne_true
    · exact same
  sends n s payload r r' _ counts := by
    rw [counts]
    cases r <;> cases r' <;> rfl
  hears n s rc counts := by
    rw [counts]
    cases rc with
    | datagram d =>
      have expected : (n.withStats { n.stats with advertsSent := s.advertsSent }).expectation =
        n.expectation := rfl
      simp only [heard, expected]
      cases n.expectation.accept d <;> rfl
    | timeout => rfl
    | failed => rfl
  turns n s now counts := by
    rw [counts]
    exact ⟨rfl, rfl⟩

structure Episode.Alike (e e' : Episode) : Prop where
  before : Twins SameButSent e.before e'.before
  exchanged : List.Forall₂ (Exchange.Alike unlessFailed) e.exchanged e'.exchanged
  after : Twins SameButSent e.after e'.after

/-- In whatever surroundings, other calls that fail lead along the same path. -/
theorem Path.alike {n₀ n : Node} {s : List Episode} {ws : List Bool} (path : Path n₀ s ws n)
    {t' : List Exchange} (answers : List.Forall₂ (Exchange.Alike unlessFailed) (trace s) t') :
    ∃ s' n', Path n₀ s' ws n' ∧ trace s' = t' ∧ List.Forall₂ Episode.Alike s s' ∧
      Twins SameButSent n n' := by
  induction path generalizing t' with
  | start =>
    cases answers
    exact ⟨[], n₀, .start, rfl, .nil, .of_eq rfl rfl⟩
  | @step s ws u n m r before run ih =>
    rw [trace_concat] at answers
    obtain ⟨t, u', rfl, earlier, now⟩ := exists_append_of_forall₂ answers
    obtain ⟨s', n', path, traced, episodes, twins⟩ := ih earlier
    obtain ⟨m', run', twins'⟩ := runs_of_lockstep (impartial_unlessFailed.step twins) run now
    refine ⟨_, m', path.step run', ?_, ?_, twins'⟩
    · rw [trace_concat, traced]
    · exact List.rel_append episodes (.cons ⟨twins, now, twins'⟩ .nil)
  | @finish s ws u v n k m w before refused released ih =>
    rw [trace_concat, ← List.append_assoc] at answers
    obtain ⟨t, v', rfl, earlier, last⟩ := exists_append_of_forall₂ answers
    obtain ⟨t, u', rfl, earlier, now⟩ := exists_append_of_forall₂ earlier
    obtain ⟨s', n', path, traced, episodes, twins⟩ := ih earlier
    obtain ⟨k', refused', stopped⟩ :=
      runs_of_lockstep (impartial_unlessFailed.step twins) refused now
    obtain ⟨m', released', twins'⟩ :=
      runs_of_lockstep (impartial_unlessFailed.release stopped) released last
    refine ⟨_, m', path.finish refused' released', ?_, ?_, twins'⟩
    · rw [trace_concat, traced, List.append_assoc]
    · exact List.rel_append episodes (.cons ⟨twins, List.rel_append now last, twins'⟩ .nil)

end Node

theorem calls_of_alike {A : Likeness} {t t' : List Exchange}
    (alike : List.Forall₂ (Exchange.Alike A) t t') :
    t'.map Exchange.call = t.map Exchange.call := by
  induction alike with
  | nil => rfl
  | cons first _ ih =>
    obtain ⟨_⟩ := first
    rw [List.map_cons, List.map_cons, ih]

def Call.wait? : Call → Option Nat
  | .receive timeout => some timeout
  | _ => none

theorem waits_eq (t : List Exchange) : waits t = (t.map Exchange.call).filterMap Call.wait? := by
  have told : Exchange.wait? = fun e => e.call.wait? := by
    funext e
    obtain ⟨c, r⟩ := e
    cases c <;> rfl
  rw [waits, told, List.filterMap_map]
  rfl

namespace Lan

structure Alike (l l' : Lan) : Prop where
  now : l'.now = l.now
  queue : l'.queue = l.queue
  receiveOutages : l'.receiveOutages = l.receiveOutages
  costs : l'.costs = l.costs
  shutdownRequested : l'.shutdownRequested = l.shutdownRequested
  shutdownAfter : l'.shutdownAfter = l.shutdownAfter
  exchanges : List.Forall₂ (Exchange.Alike unlessFailed) l.exchanges l'.exchanges

namespace Alike

variable {l l' : Lan}

theorem record (h : l.Alike l') {c : Call} {r r' : c.Answer} (answers : unlessFailed c r r') :
    (l.record ⟨c, r⟩).Alike (l'.record ⟨c, r'⟩) :=
  { h with exchanges := List.rel_append h.exchanges (.cons ⟨answers⟩ .nil) }

theorem countdown (h : l.Alike l') : l.countdown.Alike l'.countdown := by
  unfold Lan.countdown
  rw [h.shutdownAfter]
  split
  · exact h
  · exact { h with shutdownRequested := rfl, shutdownAfter := rfl }
  · exact { h with shutdownAfter := rfl }

theorem takeDatagram (h : l.Alike l') (timeout : Nat) :
    (l'.takeDatagram timeout).1 = (l.takeDatagram timeout).1 ∧
      (l.takeDatagram timeout).2.Alike (l'.takeDatagram timeout).2 := by
  unfold Lan.takeDatagram
  rw [h.queue, h.now, h.costs]
  split
  · exact ⟨rfl, { h with now := rfl, queue := rfl, costs := rfl }⟩
  · exact ⟨rfl, { h with now := rfl, queue := rfl, costs := rfl }⟩

theorem receive (h : l.Alike l') (timeout : Nat) :
    (l'.receive timeout).1 = (l.receive timeout).1 ∧
      (l.receive timeout).2.Alike (l'.receive timeout).2 := by
  have counted := h.countdown
  have drawn : ({ l.countdown with receiveOutages := l.countdown.receiveOutages.next }).Alike
      { l'.countdown with receiveOutages := l.countdown.receiveOutages.next } :=
    { counted with receiveOutages := rfl }
  unfold Lan.receive
  dsimp only
  rw [counted.receiveOutages]
  by_cases fails : l.countdown.receiveOutages.current = true
  · rw [if_pos fails, if_pos fails]
    exact ⟨rfl, drawn⟩
  · rw [if_neg fails, if_neg fails]
    exact drawn.takeDatagram timeout

theorem answer (h : l.Alike l') (c : Call) :
    unlessFailed c (l.answer c).1 (l'.answer c).1 ∧ (l.answer c).2.Alike (l'.answer c).2 := by
  cases c with
  | shutdownRequested => exact ⟨.inr h.shutdownRequested.symm, h⟩
  | clock => exact ⟨.inr h.now.symm, h⟩
  | receive timeout =>
    obtain ⟨same, alike⟩ := h.receive timeout
    exact ⟨.inr same.symm, alike⟩
  | send payload =>
    -- A call that fails takes as long as one that succeeds.
    have later : l'.now + l'.costs.send = l.now + l.costs.send := by rw [h.now, h.costs]
    exact ⟨.inl rfl, { h with now := later }⟩
  | applyMac | announce =>
    have later : l'.now + l'.costs.host = l.now + l.costs.host := by rw [h.now, h.costs]
    exact ⟨.inl rfl, { h with now := later }⟩

theorem serve (h : l.Alike l') (c : Call) :
    unlessFailed c (Lan.serve c l).1 (Lan.serve c l').1 ∧
      (Lan.serve c l).2.Alike (Lan.serve c l').2 := by
  obtain ⟨answers, alike⟩ := h.answer c
  exact ⟨answers, alike.record answers⟩

theorem runIn (h : l.Alike l') {α β : Type} {R : α → β → Prop} {i : Interaction α}
    {i' : Interaction β} (same : Lockstep unlessFailed R i i') :
    R (i.runIn Lan.serve l).1 (i'.runIn Lan.serve l').1 ∧
      (i.runIn Lan.serve l).2.Alike (i'.runIn Lan.serve l').2 :=
  same.runIn (fun c _ _ alike => alike.serve c) h

end Alike
end Lan

theorem Node.alike_episode (n : Node) {l l' : Lan} (lans : l.Alike l') :
    List.Forall₂ (Exchange.Alike unlessFailed) (trace [n.episode l]) (n.episode l').exchanged := by
  have twins : Twins SameButSent n n := .of_eq rfl rfl
  have same := (lans.runIn (impartial_unlessFailed.step twins)).2
  have traced : trace [n.episode l] = (n.episode l).exchanged := List.append_nil _
  rw [traced]
  exact same.exchanges

inductive Event.Alike : Event → Event → Prop
  | same (e : Event) : Alike e e
  | outages {kind : CallKind} (other : kind ≠ .receive) (fails fails' : Nat → Bool) :
      Alike (.outages kind fails) (.outages kind fails')

namespace Session
open Node (Twins impartial_unlessFailed)

def play (s : Session) : List Event → List (Outcome × Session)
  | [] => []
  | e :: es => s.handle e :: play (s.handle e).2 es

structure Alike (s s' : Session) : Prop where
  node : Twins SameButSent s.node s'.node
  lan : s.lan.Alike s'.lan
  responder : s'.responder = s.responder
  kernel : s'.kernel = s.kernel

namespace Alike

variable {s s' : Session}

theorem change (h : s.Alike s') {l l' : Lan} (lans : l.Alike l') :
    ({ s with lan := l } : Session).Alike { s' with lan := l' } :=
  { h with lan := lans }

theorem steps (h : s.Alike s') (k : Nat) :
    (s'.steps k).1 = (s.steps k).1 ∧ (s.steps k).2.Alike (s'.steps k).2 := by
  induction k generalizing s s' with
  | zero => exact ⟨rfl, h⟩
  | succ k ih =>
    let r := s.node.step.runIn Lan.serve s.lan
    let r' := s'.node.step.runIn Lan.serve s'.lan
    obtain ⟨⟨told, node⟩, lan⟩ : Node.Same SameButSent r.1 r'.1 ∧ r.2.Alike r'.2 :=
      h.lan.runIn (impartial_unlessFailed.step h.node)
    have after : ({ s with node := r.1.2, lan := r.2 } : Session).Alike
        { s' with node := r'.1.2, lan := r'.2 } := ⟨node, lan, h.responder, h.kernel⟩
    obtain ⟨same, alike⟩ := ih after
    exact ⟨congrArg₂ List.cons told.symm same, alike⟩

theorem run (h : s.Alike s') (receives : Option Nat) :
    (s'.run receives).1 = (s.run receives).1 ∧
      (s.run receives).2.Alike (s'.run receives).2 := by
  have entered : (entering s.lan receives).Alike (entering s'.lan receives) := by
    unfold entering
    split
    · exact { h.lan with shutdownAfter := rfl }
    · exact h.lan
  obtain ⟨⟨told, node⟩, lans⟩ :=
    entered.runIn (impartial_unlessFailed.runFor (runBound receives) h.node)
  refine ⟨?_, node, { lans with shutdownAfter := rfl }, h.responder, h.kernel⟩
  simp only [Session.run, ranIn]
  rw [told]

theorem outages (h : s.Alike s') {kind : CallKind} (other : kind ≠ .receive)
    (fails fails' : Nat → Bool) :
    (s.happen (.outages kind fails)).2.Alike (s'.happen (.outages kind fails')).2 := by
  refine h.change ?_
  cases kind with
  | receive => exact absurd rfl other
  | send | applyMac | announce => exact { h.lan with }

theorem happen (h : s.Alike s') {e e' : Event} (events : e.Alike e') :
    (s'.happen e').1 = (s.happen e).1 ∧ (s.happen e).2.Alike (s'.happen e').2 := by
  cases events with
  | outages other fails fails' => exact ⟨rfl, h.outages other fails fails'⟩
  | same =>
    cases e with
    | step times =>
      obtain ⟨told, alike⟩ := h.steps times
      exact ⟨congrArg Outcome.steps told, alike⟩
    | run receives => exact h.run receives
    | deliver d =>
      have longer : s'.lan.queue ++ [d] = s.lan.queue ++ [d] := by rw [h.lan.queue]
      exact ⟨rfl, h.change { h.lan with queue := longer }⟩
    | setClock now => exact ⟨rfl, h.change { h.lan with now := rfl }⟩
    | advance micros =>
      have later : s'.lan.now + micros = s.lan.now + micros := by rw [h.lan.now]
      exact ⟨rfl, h.change { h.lan with now := later }⟩
    | outages kind fails =>
      by_cases other : kind = .receive
      · subst other
        exact ⟨rfl, h.change { h.lan with receiveOutages := rfl }⟩
      · exact ⟨rfl, h.outages other fails fails⟩
    | costs c => exact ⟨rfl, h.change { h.lan with costs := rfl }⟩
    | requestShutdown => exact ⟨rfl, h.change { h.lan with shutdownRequested := rfl }⟩
    | frame a =>
      unfold Session.happen
      dsimp only
      rw [h.responder]
      split
      · exact ⟨rfl, { h with responder := rfl }⟩
      · exact ⟨rfl, h⟩

theorem settle (h : s.Alike s') : s.settle.Alike s'.settle := by
  unfold Session.settle
  rw [h.responder, h.kernel, h.node.role]
  split
  · exact h
  · exact { h with responder := rfl, kernel := rfl }

theorem handle (h : s.Alike s') {e e' : Event} (events : e.Alike e') :
    (s'.handle e').1 = (s.handle e).1 ∧ (s.handle e).2.Alike (s'.handle e').2 := by
  obtain ⟨told, alike⟩ := h.happen events
  exact ⟨told, alike.settle⟩

end Alike

/-- After as many events, two sessions have told the same of the last one, their nodes differ in
the number of advertisements sent at most, and have asked for the same in the same order. -/
structure Agrees (p p' : Outcome × Session) : Prop where
  outcome : p'.1 = p.1
  role : p'.2.node.role = p.2.node.role
  timers : p'.2.node.timers = p.2.node.timers
  stats : SameButSent p.2.node.stats p'.2.node.stats
  waits : waits p'.2.lan.exchanges = waits p.2.lan.exchanges
  hostCalls : hostCalls p'.2.lan.exchanges = hostCalls p.2.lan.exchanges
  payloads : payloads p'.2.lan.exchanges = payloads p.2.lan.exchanges
  alike : p.2.Alike p'.2

theorem Alike.agrees {p p' : Outcome × Session} (alike : p.2.Alike p'.2) (told : p'.1 = p.1) :
    Agrees p p' := by
  have calls := calls_of_alike alike.lan.exchanges
  refine ⟨told, alike.node.role, alike.node.timers, alike.node.counts, ?_, ?_, ?_, alike⟩
  · rw [waits_eq, waits_eq, calls]
  · rw [hostCalls, hostCalls, calls]
  · rw [payloads, payloads, calls]

theorem Alike.play {s s' : Session} (h : s.Alike s') {es es' : List Event}
    (events : List.Forall₂ Event.Alike es es') :
    List.Forall₂ Agrees (s.play es) (s'.play es') := by
  induction events generalizing s s' with
  | nil => exact .nil
  | cons first _ ih =>
    obtain ⟨told, alike⟩ := h.handle first
    exact .cons (alike.agrees told) (ih alike)

end Session

/-! ## What has really been sent -/

def Exchange.sent? : Exchange → Option Octets
  | ⟨.send payload, true⟩ => some payload
  | _ => none

def sent (t : List Exchange) : List Octets := t.filterMap Exchange.sent?

theorem sent_append (t u : List Exchange) : sent (t ++ u) = sent t ++ sent u :=
  List.filterMap_append

/-- What is sent has been handed over, and in that order. -/
theorem sent_sublist (t : List Exchange) : (sent t).Sublist (payloads t) := by
  induction t with
  | nil => exact .slnil
  | cons e t ih =>
    obtain ⟨c, r⟩ := e
    cases c with
    | send payload =>
      cases r with
      | true => exact .cons_cons payload ih
      | false => exact .cons payload ih
    | _ => exact ih

namespace Lan

structure Delivers (l : Lan) : Prop where
  sends : ∀ k, l.sendOutages.fails k = false
  exchanges : sent l.exchanges = payloads l.exchanges

theorem Delivers.record {l : Lan} (h : l.Delivers) {e : Exchange}
    (delivered : sent [e] = payloads [e]) : (l.record e).Delivers where
  sends := h.sends
  exchanges := by
    simp only [Lan.record]
    rw [sent_append, payloads_append, h.exchanges, delivered]

theorem sendOutages_countdown (l : Lan) : l.countdown.sendOutages = l.sendOutages := by
  unfold countdown
  split <;> rfl

theorem sendOutages_takeDatagram (l : Lan) (timeout : Nat) :
    (l.takeDatagram timeout).2.sendOutages = l.sendOutages := by
  unfold takeDatagram
  split <;> rfl

theorem sendOutages_receive (l : Lan) (timeout : Nat) :
    (l.receive timeout).2.sendOutages = l.sendOutages := by
  unfold receive
  dsimp only
  split_ifs
  · exact l.sendOutages_countdown
  · exact (sendOutages_takeDatagram _ timeout).trans l.sendOutages_countdown

theorem Delivers.serve {l : Lan} (h : l.Delivers) (c : Call) : (Lan.serve c l).2.Delivers := by
  refine Delivers.record ⟨?_, ?_⟩ ?_
  · cases c with
    | receive timeout => exact (l.sendOutages_receive timeout).symm ▸ h.sends
    | _ => exact h.sends
  · rw [exchanges_answer]
    exact h.exchanges
  · cases c with
    | send payload =>
      have succeeds : (!l.sendOutages.current) = true := by simp [Outages.current, h.sends]
      simp only [answer, succeeds]
      rfl
    | _ => rfl

theorem Delivers.runIn {α : Type} {l : Lan} (h : l.Delivers) (i : Interaction α) :
    (i.runIn Lan.serve l).2.Delivers := by
  induction i generalizing l with
  | done a => exact h
  | ask c k ih => exact ih _ (h.serve c)

end Lan

def Event.Delivers : Event → Prop
  | .outages .send fails => ∀ k, fails k = false
  | _ => True

namespace Session

theorem delivers_steps {s : Session} (h : s.lan.Delivers) (k : Nat) :
    (s.steps k).2.lan.Delivers := by
  induction k generalizing s with
  | zero => exact h
  | succ k ih => exact ih (h.runIn s.node.step)

theorem delivers_handle {s : Session} (h : s.lan.Delivers) {e : Event} (quiet : e.Delivers) :
    (s.handle e).2.lan.Delivers := by
  simp only [handle, lan_settle]
  cases e with
  | step times => exact delivers_steps h times
  | run receives =>
    have entered : (entering s.lan receives).Delivers := by
      unfold entering
      split
      · exact ⟨h.sends, h.exchanges⟩
      · exact h
    have ran := entered.runIn (s.node.runFor (runBound receives))
    simp only [happen, run, ranIn]
    exact ⟨ran.sends, ran.exchanges⟩
  | outages kind fails =>
    cases kind with
    | send => exact ⟨quiet, h.exchanges⟩
    | receive | applyMac | announce => exact ⟨h.sends, h.exchanges⟩
  | frame a =>
    simp only [happen]
    split <;> exact h
  | deliver | setClock | advance | costs | requestShutdown => exact ⟨h.sends, h.exchanges⟩

theorem sublist_of_delivers {s s' : Session} (start : s.Alike s') {es es' : List Event}
    (events : List.Forall₂ Event.Alike es es') (delivers : s.lan.Delivers)
    (quiet : ∀ e ∈ es, e.Delivers) :
    List.Forall₂ (fun p p' => (sent p'.2.lan.exchanges).Sublist (sent p.2.lan.exchanges))
      (s.play es) (s'.play es') := by
  induction events generalizing s s' with
  | nil => exact .nil
  | @cons e e' es es' first _ ih =>
    obtain ⟨told, alike⟩ := start.handle first
    have delivered := delivers_handle delivers (quiet e List.mem_cons_self)
    refine .cons ?_ (ih alike delivered fun e he => quiet e (List.mem_cons_of_mem _ he))
    -- The one that delivers has sent all that either has handed over.
    rw [delivered.exchanges, ← (alike.agrees told).payloads]
    exact sent_sublist _

/-- Which sends and calls to the host fail changes nothing else: neither the path of a node
through whatever surroundings, nor what comes of events for a session. What is really sent is,
in its order, among what is sent when nothing fails. -/
theorem failures_keep_the_course :
    (∀ {n₀ n : Node} {s : List Node.Episode} {ws : List Bool}, Node.Path n₀ s ws n →
      ∀ {t : List Exchange}, List.Forall₂ (Exchange.Alike unlessFailed) (Node.trace s) t →
        ∃ s' n', Node.Path n₀ s' ws n' ∧ Node.trace s' = t ∧
          List.Forall₂ Node.Episode.Alike s s') ∧
    ∀ {s s' : Session} {es es' : List Event}, s.Alike s' → List.Forall₂ Event.Alike es es' →
      List.Forall₂ Agrees (s.play es) (s'.play es') ∧
        (s.lan.Delivers → (∀ e ∈ es, e.Delivers) →
          List.Forall₂ (fun p p' => (sent p'.2.lan.exchanges).Sublist (sent p.2.lan.exchanges))
            (s.play es) (s'.play es')) := by
  constructor
  · intro n₀ n s ws path t answers
    obtain ⟨s', n', path', traced, episodes, -⟩ := path.alike answers
    exact ⟨s', n', path', traced, episodes⟩
  · intro s s' es es' start events
    exact ⟨start.play events, sublist_of_delivers start events⟩

def cutOff (s : Session) : Session :=
  { s with lan := { s.lan with
      sendOutages := .scheduled fun _ => true
      macOutages := .scheduled fun _ => true
      announceOutages := .scheduled fun _ => true } }

theorem alike_cutOff {s : Session} (fresh : s.lan.exchanges = []) : s.Alike s.cutOff where
  node := .of_eq rfl rfl
  lan := by
    refine ⟨rfl, rfl, rfl, rfl, rfl, rfl, ?_⟩
    change List.Forall₂ _ s.lan.exchanges s.lan.exchanges
    rw [fresh]
    exact .nil
  responder := rfl
  kernel := rfl

/-- A tenure of the sample node, the takeover and the release included, on a network that takes
nothing, and the advertisement of a master that is not sent. -/
theorem tenure_cut_off :
    let master := Node.sample.toMaster 2000000
    let broken := { Lan.quiet 3000001 with sendOutages := .scheduled fun _ => true }
    let s := Session.start .sample 0
    let es := [.step 1, .setClock 4000000, .step 1, .outages .announce (· = 0), .run (some 1)]
    (∃ p n', Node.Path master p [] n' ∧ Node.trace p = (master.episode broken).exchanged ∧
      List.Forall₂ Node.Episode.Alike [master.episode (.quiet 3000001)] p) ∧
    List.Forall₂ Agrees (s.play es) (s.cutOff.play es) ∧
      List.Forall₂ (fun p p' => (sent p'.2.lan.exchanges).Sublist (sent p.2.lan.exchanges))
        (s.play es) (s.cutOff.play es) := by
  intro master broken s es
  constructor
  · have path : Node.Path master [master.episode (.quiet 3000001)] [] _ :=
      Node.Path.start.among rfl
    have lans : (Lan.quiet 3000001).Alike broken := ⟨rfl, rfl, rfl, rfl, rfl, rfl, .nil⟩
    exact failures_keep_the_course.1 path (Node.alike_episode master lans)
  · have events : List.Forall₂ Event.Alike es es := List.forall₂_same.mpr fun e _ => .same e
    obtain ⟨agree, quiet⟩ := failures_keep_the_course.2 (alike_cutOff (s := s) rfl) events
    refine ⟨agree, quiet ⟨fun _ => rfl, rfl⟩ ?_⟩
    simp [es, Event.Delivers]

end Session

end VirtualRouter
