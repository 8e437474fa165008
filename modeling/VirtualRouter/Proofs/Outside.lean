import VirtualRouter.Proofs.NodePath
import VirtualRouter.Proofs.Lockstep
import VirtualRouter.Proofs.Statistics

/-!
# A node and what goes on outside

A node is followed together with the outside: time passes, datagrams arrive and wait to be taken,
a shutdown is requested, all of it before, between or in the middle of steps. Surroundings held
in memory are an outside of this kind.
-/

set_option autoImplicit false

namespace VirtualRouter

/-- A datagram that waits to be taken. The label tells it from others of the same text. -/
structure Parcel where
  label : Nat
  text : Octets

structure Outside where
  now : Nat
  queue : List Parcel
  requested : Bool

inductive Occurrence
  | passes (now : Nat)
  | arrives (x : Parcel)
  | requests
  | takes (timeout : Nat) (x : Parcel)
  | exchanges (e : Exchange)

namespace Occurrence

def exchange? : Occurrence → Option Exchange
  | .takes timeout x => some ⟨.receive timeout, .datagram x.text⟩
  | .exchanges e => some e
  | _ => none

def taken? : Occurrence → Option Parcel
  | .takes _ x => some x
  | _ => none

end Occurrence

def exchanges (l : List Occurrence) : List Exchange := l.filterMap Occurrence.exchange?

def taken (l : List Occurrence) : List Parcel := l.filterMap Occurrence.taken?

theorem taken_cons (e : Occurrence) (l : List Occurrence) :
    taken (e :: l) = e.taken?.toList ++ taken l := by
  unfold taken
  rw [List.filterMap_cons]
  cases e.taken? <;> rfl

namespace Outside

/-- The answers that the outside may give without a change to it. Nothing is taken while
nothing waits. -/
inductive Answers (o : Outside) : Exchange → Prop
  | flag : Answers o ⟨.shutdownRequested, o.requested⟩
  | time : Answers o ⟨.clock, o.now⟩
  | silence (timeout : Nat) (empty : o.queue = []) : Answers o ⟨.receive timeout, .timeout⟩
  | failure (timeout : Nat) : Answers o ⟨.receive timeout, .failed⟩
  | effect {c : Call} (may : c.mayFail = true) (r : c.Answer) : Answers o ⟨c, r⟩

inductive Becomes (o : Outside) : Occurrence → Outside → Prop
  | passes (now : Nat) : Becomes o (.passes now) { o with now := now }
  | arrives (x : Parcel) : Becomes o (.arrives x) { o with queue := o.queue ++ [x] }
  | requests : Becomes o .requests { o with requested := true }
  | takes (timeout : Nat) {x : Parcel} {rest : List Parcel} (waiting : o.queue = x :: rest) :
      Becomes o (.takes timeout x) { o with queue := rest }
  | exchanges {e : Exchange} (answered : o.Answers e) : Becomes o (.exchanges e) o

inductive Goes : Outside → List Occurrence → Outside → Prop
  | nil (o : Outside) : Goes o [] o
  | cons {o o' o'' : Outside} {e : Occurrence} {l : List Occurrence} (first : o.Becomes e o')
      (rest : Goes o' l o'') : Goes o (e :: l) o''

end Outside

structure Stretch where
  occurred : List Occurrence
  node : Node
  outside : Outside

/-- In `Course n₀ o₀ ss ws n o` a node that was `n₀` and the outside that was `o₀` have become `n`
and `o`. In each stretch the node rests, makes a step, or ends a run; the runs that have returned
told `ws`. -/
inductive Course (n₀ : Node) (o₀ : Outside) : List Stretch → List Bool → Node → Outside → Prop
  | start : Course n₀ o₀ [] [] n₀ o₀
  | rests {ss : List Stretch} {ws : List Bool} {n : Node} {o o' : Outside} {l : List Occurrence}
      (before : Course n₀ o₀ ss ws n o) (goes : o.Goes l o') (idle : exchanges l = []) :
      Course n₀ o₀ (ss ++ [⟨l, n, o'⟩]) ws n o'
  | steps {ss : List Stretch} {ws : List Bool} {n m : Node} {o o' : Outside} {r : Step}
      {l : List Occurrence} (before : Course n₀ o₀ ss ws n o) (goes : o.Goes l o')
      (run : n.step.Runs (exchanges l) (r, m)) : Course n₀ o₀ (ss ++ [⟨l, m, o'⟩]) ws m o'
  | ends {ss : List Stretch} {ws : List Bool} {n k m : Node} {o o' : Outside} {w : Bool}
      {l : List Occurrence} {t u : List Exchange} (before : Course n₀ o₀ ss ws n o)
      (goes : o.Goes l o') (split : exchanges l = t ++ u)
      (refused : n.step.Runs t (.shutdown, k)) (released : k.release.Runs u (w, m)) :
      Course n₀ o₀ (ss ++ [⟨l, m, o'⟩]) (ws ++ [w]) m o'

namespace Outside

theorem Answers.nothing_taken {o : Outside} {e : Exchange} (h : o.Answers e) :
    e.datagram? = none := by
  cases h with
  | @effect c may r =>
    cases c with
    | receive timeout => cases may
    | _ => rfl
  | _ => rfl

/-- What is received has been taken from the queue. -/
theorem Goes.received_eq {o o' : Outside} {l : List Occurrence} (h : o.Goes l o') :
    received (exchanges l) = (taken l).map Parcel.text := by
  induction h with
  | nil => rfl
  | cons first _ ih =>
    cases first with
    | exchanges answered =>
      exact (List.filterMap_cons_none answered.nothing_taken).trans ih
    | takes => exact congrArg (List.cons _) ih
    | _ => exact ih

end Outside

theorem Course.identity_eq {n₀ n : Node} {o₀ o : Outside} {ss : List Stretch} {ws : List Bool}
    (course : Course n₀ o₀ ss ws n o) : n.identity = n₀.identity := by
  induction course with
  | start => rfl
  | rests _ _ _ ih => exact ih
  | steps _ _ run ih => exact (Node.identity_step run).trans ih
  | ends _ _ _ refused released ih => exact (Node.identity_finish refused released).trans ih

/-! ## Surroundings held in memory -/

theorem exchanges_append (l l' : List Occurrence) :
    exchanges (l ++ l') = exchanges l ++ exchanges l' := List.filterMap_append

namespace Outside

theorem Goes.single {o o' : Outside} {e : Occurrence} (h : o.Becomes e o') : o.Goes [e] o' :=
  .cons h (.nil o')

theorem Goes.append {o o' o'' : Outside} {l l' : List Occurrence} (first : o.Goes l o')
    (rest : o'.Goes l' o'') : o.Goes (l ++ l') o'' := by
  induction first with
  | nil => exact rest
  | cons becomes _ ih => exact .cons becomes (ih rest)

structure Holds (l : Lan) (o : Outside) : Prop where
  now : o.now = l.now
  queue : o.queue.map Parcel.text = l.queue
  requested : o.requested = l.shutdownRequested

def Follows (l : Lan) (t : List Exchange) (l' : Lan) : Prop :=
  ∀ o, Holds l o → ∃ occurred o', exchanges occurred = t ∧ o.Goes occurred o' ∧ Holds l' o'

theorem Follows.append {l l' l'' : Lan} {t u : List Exchange} (first : Follows l t l')
    (rest : Follows l' u l'') : Follows l (t ++ u) l'' := by
  intro o holds
  obtain ⟨k, o', rfl, goes, holds'⟩ := first o holds
  obtain ⟨k', o'', rfl, goes', holds''⟩ := rest o' holds'
  exact ⟨k ++ k', o'', exchanges_append k k', goes.append goes', holds''⟩

/-- An answer that the outside gives without a change to it takes its time. -/
theorem follows_answered {l l' : Lan} {e : Exchange} (answered : ∀ o, Holds l o → o.Answers e)
    (queue : l'.queue = l.queue) (requested : l'.shutdownRequested = l.shutdownRequested) :
    Follows l [e] l' := by
  intro o holds
  have first : o.Becomes (.exchanges e) o := .exchanges (answered o holds)
  refine ⟨[.exchanges e, .passes l'.now], _, rfl, .cons first (.single (.passes l'.now)), ?_⟩
  exact ⟨rfl, holds.queue.trans queue.symm, holds.requested.trans requested.symm⟩

theorem follows_countdown (l : Lan) : Follows l [] l.countdown := by
  intro o holds
  unfold Lan.countdown
  split
  · exact ⟨[], o, rfl, .nil o, holds⟩
  · exact ⟨[.requests], _, rfl, .single .requests, ⟨holds.now, holds.queue, rfl⟩⟩
  · exact ⟨[], o, rfl, .nil o, ⟨holds.now, holds.queue, holds.requested⟩⟩

theorem follows_takeDatagram (l : Lan) (timeout : Nat) :
    Follows l [⟨.receive timeout, (l.takeDatagram timeout).1⟩] (l.takeDatagram timeout).2 := by
  unfold Lan.takeDatagram
  cases waiting : l.queue with
  | nil =>
    refine follows_answered (fun o holds => .silence timeout ?_) waiting.symm rfl
    exact List.map_eq_nil_iff.mp (holds.queue.trans waiting)
  | cons d rest =>
    intro o holds
    obtain ⟨x, xs, queued, rfl, rfl⟩ := List.map_eq_cons_iff.mp (holds.queue.trans waiting)
    refine ⟨[.takes timeout x, .passes (l.now + l.costs.receive)], _, rfl,
      .cons (.takes timeout queued) (.single (.passes _)), ?_⟩
    exact ⟨rfl, rfl, holds.requested⟩

theorem follows_receive (l : Lan) (timeout : Nat) :
    Follows l [⟨.receive timeout, (l.receive timeout).1⟩] (l.receive timeout).2 := by
  have counted := follows_countdown l
  unfold Lan.receive
  dsimp only
  split_ifs
  · exact counted.append (follows_answered (fun _ _ => .failure timeout) rfl rfl)
  · refine counted.append fun o holds => ?_
    exact follows_takeDatagram _ timeout o ⟨holds.now, holds.queue, holds.requested⟩

theorem follows_answer (l : Lan) (c : Call) :
    Follows l [⟨c, (l.answer c).1⟩] (l.answer c).2 := by
  cases c with
  | shutdownRequested =>
    refine follows_answered (fun o holds => ?_) rfl rfl
    rw [Lan.answer, ← holds.requested]
    exact .flag
  | clock =>
    refine follows_answered (fun o holds => ?_) rfl rfl
    rw [Lan.answer, ← holds.now]
    exact .time
  | receive timeout => exact follows_receive l timeout
  | send | applyMac | announce => exact follows_answered (fun _ _ => .effect rfl _) rfl rfl

theorem follows_serve (l : Lan) (c : Call) :
    Follows l [⟨c, (l.answer c).1⟩] (Lan.serve c l).2 := by
  intro o holds
  obtain ⟨k, o', told, goes, holds'⟩ := follows_answer l c o holds
  exact ⟨k, o', told, goes, ⟨holds'.now, holds'.queue, holds'.requested⟩⟩

theorem follows_runIn {α : Type} (i : Interaction α) (l : Lan) :
    ∃ t, i.Runs t (i.runIn Lan.serve l).1 ∧ Follows l t (i.runIn Lan.serve l).2 := by
  induction i generalizing l with
  | done a => exact ⟨[], .done a, fun o holds => ⟨[], o, rfl, .nil o, holds⟩⟩
  | ask c k ih =>
    obtain ⟨t, run, follows⟩ := ih (l.answer c).1 (Lan.serve c l).2
    exact ⟨_, .ask run, (follows_serve l c).append follows⟩

end Outside

namespace Course
open Outside (Holds follows_runIn)

variable {n₀ n : Node} {o₀ o : Outside} {ss : List Stretch} {ws : List Bool}

/-- A step in surroundings held in memory continues a course. -/
theorem step_among (course : Course n₀ o₀ ss ws n o) {l : Lan} (holds : Holds l o) :
    let after := n.step.runIn Lan.serve l
    ∃ s o', Course n₀ o₀ (ss ++ [s]) ws after.1.2 o' ∧ Holds after.2 o' := by
  intro after
  obtain ⟨t, run, follows⟩ := follows_runIn n.step l
  obtain ⟨k, o', rfl, goes, holds'⟩ := follows o holds
  exact ⟨_, o', course.steps goes run, holds'⟩

/-- A run in surroundings held in memory continues a course. -/
theorem run_among (bound : Nat) (course : Course n₀ o₀ ss ws n o) {l : Lan} (holds : Holds l o) :
    let after := (n.runFor bound).runIn Lan.serve l
    ∃ ss' o', Course n₀ o₀ (ss ++ ss') (ws ++ after.1.1.toList) after.1.2 o' ∧
      Holds after.2 o' := by
  induction bound generalizing n o ss l with
  | zero => exact ⟨[], o, by simpa [Node.runFor, Interaction.runIn] using course, holds⟩
  | succ bound ih =>
    obtain ⟨t, run, follows⟩ := follows_runIn n.step l
    obtain ⟨k, o', rfl, goes, holds'⟩ := follows o holds
    rw [Node.runFor, Interaction.runIn_bind]
    generalize n.step.runIn Lan.serve l = after at *
    obtain ⟨⟨r, m⟩, l'⟩ := after
    cases r with
    | proceed =>
      obtain ⟨ss', o'', course', holds''⟩ := ih (course.steps goes run) holds'
      exact ⟨_ :: ss', o'', by simpa using course', holds''⟩
    | shutdown =>
      obtain ⟨t', released, follows'⟩ := follows_runIn m.release l'
      obtain ⟨k', o'', rfl, goes', holds''⟩ := follows' o' holds'
      have ended := course.ends (goes.append goes') (exchanges_append k k') run released
      dsimp only
      rw [Interaction.runIn_bind]
      exact ⟨[_], o'', ended, holds''⟩

theorem steps_among (k : Nat) {s : Session} (course : Course n₀ o₀ ss ws s.node o)
    (holds : Holds s.lan o) : ∃ ss' o', Course n₀ o₀ (ss ++ ss') ws (s.steps k).2.node o' ∧
      Holds (s.steps k).2.lan o' := by
  induction k generalizing s o ss with
  | zero => exact ⟨[], o, by rwa [List.append_nil], holds⟩
  | succ k ih =>
    let after := s.node.step.runIn Lan.serve s.lan
    obtain ⟨first, o', course', holds'⟩ := course.step_among holds
    obtain ⟨ss', o'', course'', holds''⟩ :=
      ih (s := { s with node := after.1.2, lan := after.2 }) course' holds'
    rw [List.append_assoc] at course''
    exact ⟨_, o'', course'', holds''⟩

/-- Whatever event continues a session, it continues the course of its node. A datagram that is
delivered may get any label. -/
theorem handle_among (label : Nat) (e : Event) {s : Session}
    (course : Course n₀ o₀ ss ws s.node o) (holds : Holds s.lan o) :
    ∃ ss' ws' o', Course n₀ o₀ (ss ++ ss') (ws ++ ws') (s.handle e).2.node o' ∧
      Holds (s.handle e).2.lan o' := by
  have same : Course n₀ o₀ (ss ++ []) (ws ++ []) s.node o := by
    rwa [List.append_nil, List.append_nil]
  have alone {l : List Occurrence} {o' : Outside} (goes : o.Goes l o') (idle : exchanges l = []) :
      Course n₀ o₀ (ss ++ [⟨l, s.node, o'⟩]) (ws ++ []) s.node o' := by
    rw [List.append_nil]
    exact course.rests goes idle
  simp only [Session.handle, Session.node_settle, Session.lan_settle]
  cases e with
  | step times =>
    obtain ⟨ss', o', course', holds'⟩ := course.steps_among times holds
    exact ⟨ss', [], o', by rwa [List.append_nil], holds'⟩
  | run receives =>
    have entered : Holds (Session.entering s.lan receives) o := by
      unfold Session.entering
      split
      · exact ⟨holds.now, holds.queue, holds.requested⟩
      · exact holds
    obtain ⟨ss', o', course', holds'⟩ := course.run_among (Session.runBound receives) entered
    simp only [Session.happen, Session.run, Session.ranIn]
    exact ⟨ss', _, o', course', holds'.now, holds'.queue, holds'.requested⟩
  | deliver d =>
    refine ⟨_, [], _, alone (.single (.arrives ⟨label, d⟩)) rfl, holds.now, ?_, holds.requested⟩
    simp [Session.happen, Session.changeLan, holds.queue]
  | setClock now =>
    exact ⟨_, [], _, alone (.single (.passes now)) rfl, rfl, holds.queue, holds.requested⟩
  | advance micros =>
    exact ⟨_, [], _, alone (.single (.passes _)) rfl, rfl, holds.queue, holds.requested⟩
  | requestShutdown =>
    exact ⟨_, [], _, alone (.single .requests) rfl, holds.now, holds.queue, rfl⟩
  | outages kind fails =>
    refine ⟨[], [], o, same, ?_⟩
    cases kind <;> exact ⟨holds.now, holds.queue, holds.requested⟩
  | costs c => exact ⟨[], [], o, same, holds.now, holds.queue, holds.requested⟩
  | frame a =>
    refine ⟨[], [], o, ?_⟩
    unfold Session.happen
    dsimp only
    split <;> exact ⟨same, holds⟩

end Course
end VirtualRouter
