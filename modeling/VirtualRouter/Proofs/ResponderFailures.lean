import VirtualRouter.Proofs.ArpFrames
import VirtualRouter.Proofs.NodeHistory
import Mathlib.Data.List.Induction

/-!
# Failing reads end a responder

A responder gets over an interrupted read while it throws away what is stale, and over no failing
read while it serves. From the read that has ended it on, the node is a master that answers no
request; up to there it answers every one.
-/

set_option autoImplicit false

namespace VirtualRouter

namespace ArpPacket
open Octets

/-- A frame tells all in its first octets. -/
theorem parse?_take {f : Octets} {k : Nat} (enough : frameLength ≤ k) :
    parse? (f.take k) = parse? f :=
  parse?_congr (by rw [List.take_take, Nat.min_eq_left enough])

structure AsksFor (f : Octets) (own : IPv4) (addresses : List IPv4) (q : ArpPacket) : Prop where
  parsed : parse? f = some q
  request : q.op = requestOp
  foreign : q.targetIp ≠ own
  virtual : q.targetIp ∈ addresses

theorem AsksFor.replyTo {f : Octets} {r : Responder} {q : ArpPacket}
    (h : AsksFor f r.own r.addresses q) : r.replyTo f = some (q.answer r.mac) := by
  have cut : parse? (f.take Responder.bufferLength) = some q :=
    (parse?_take (by decide)).trans h.parsed
  rw [Responder.replyTo, reply?, cut]
  exact if_pos ⟨h.request, h.foreign, h.virtual⟩

end ArpPacket

/-- A failing read waits that ends the responder when it gets there. An interrupted read does so
only behind one that has found nothing left, as the responder serves from there on. -/
def Deadly (backlog : List Arrival) : Prop :=
  ∃ before e rest, backlog = before ++ .error e :: rest ∧ e ≠ .wouldBlock ∧
    (e = .interrupted → .error .wouldBlock ∈ before)

theorem deadly_cons {a : Arrival} {q : List Arrival} : Deadly (a :: q) ↔
    (∃ e, a = .error e ∧ e ≠ .wouldBlock ∧ e ≠ .interrupted) ∨
    ∃ before e rest, q = before ++ .error e :: rest ∧ e ≠ .wouldBlock ∧
      (e = .interrupted → .error .wouldBlock ∈ a :: before) := by
  constructor
  · rintro ⟨before, e, rest, split, failure, behind⟩
    cases before with
    | nil =>
      obtain ⟨rfl, -⟩ := List.cons.inj split
      exact .inl ⟨e, rfl, failure, fun same => List.not_mem_nil (behind same)⟩
    | cons b before =>
      obtain ⟨rfl, rfl⟩ := List.cons.inj split
      exact .inr ⟨before, e, rest, rfl, failure, behind⟩
  · rintro (⟨e, rfl, failure, other⟩ | ⟨before, e, rest, rfl, failure, behind⟩)
    · exact ⟨[], e, q, rfl, failure, fun same => absurd same other⟩
    · exact ⟨a :: before, e, rest, rfl, failure, behind⟩

theorem deadly_cons_of_ne {a : Arrival} {q : List Arrival} (other : a ≠ .error .wouldBlock) :
    Deadly (a :: q) ↔ (∃ e, a = .error e ∧ e ≠ .wouldBlock ∧ e ≠ .interrupted) ∨ Deadly q := by
  rw [deadly_cons]
  simp only [List.mem_cons, other.symm, false_or]
  exact Iff.rfl

theorem deadly_wouldBlock_cons {q : List Arrival} :
    Deadly (.error .wouldBlock :: q) ↔ ∃ e, .error e ∈ q ∧ e ≠ .wouldBlock := by
  rw [deadly_cons]
  constructor
  · rintro (⟨e, same, failure, -⟩ | ⟨before, e, rest, rfl, failure, -⟩)
    · exact absurd (Except.error.inj same).symm failure
    · exact ⟨e, by simp, failure⟩
  · rintro ⟨e, member, failure⟩
    obtain ⟨before, rest, rfl⟩ := List.append_of_mem member
    exact .inr ⟨before, e, rest, rfl, failure, fun _ => List.mem_cons_self⟩

namespace Responder

theorem serve_fails_iff (r : Responder) (q : List Arrival) (k : Kernel) :
    (∃ e, (r.serve q k).1 = some e) ↔ ∃ e, .error e ∈ q ∧ e ≠ .wouldBlock := by
  induction q generalizing k with
  | nil => simp [serve]
  | cons a q ih =>
    cases a with
    | ok f => cases replied : r.replyTo f <;> simp [serve, replied, ih]
    | error e =>
      by_cases empty : e = .wouldBlock
      · simp [serve, empty, ih, or_and_right]
      · simp [serve, empty, or_and_right, exists_or]

theorem deadly_iff_drain (q : List Arrival) : Deadly q ↔ (∃ e, drain q = .error e) ∨
    ∃ rest, drain q = .ok rest ∧ ∃ e, .error e ∈ rest ∧ e ≠ .wouldBlock := by
  induction q with
  | nil => simp [drain, Deadly]
  | cons a q ih =>
    cases a with
    | ok f => simpa [drain, deadly_cons_of_ne] using ih
    | error e =>
      by_cases empty : e = .wouldBlock
      · simp [drain, empty, deadly_wouldBlock_cons]
      · by_cases again : e = .interrupted
        · subst again
          simpa [drain, empty, deadly_cons_of_ne] using ih
        · simp [drain, empty, again, deadly_cons_of_ne]

theorem serveQueue_eq (r : Responder) (k : Kernel) : (r.serveQueue k).1 =
    { r with phase := (r.serve r.queue k).1.elim .serving .stopped, queue := [] } := by
  unfold serveQueue
  rcases r.serve r.queue k with ⟨_ | e, k'⟩ <;> rfl

theorem serveQueue_cases (r : Responder) (k : Kernel) :
    ((∃ e, .error e ∈ r.queue ∧ e ≠ .wouldBlock) ∧ ∃ e, (r.serveQueue k).1.phase = .stopped e) ∨
    ((¬ ∃ e, .error e ∈ r.queue ∧ e ≠ .wouldBlock) ∧
      (r.serveQueue k).1 = { r with phase := .serving, queue := [] }) := by
  rw [← r.serve_fails_iff r.queue k, serveQueue_eq]
  cases (r.serve r.queue k).1 with
  | none => exact .inr ⟨nofun, rfl⟩
  | some e => exact .inl ⟨⟨e, rfl⟩, e, rfl⟩

/-- A takeover ends the responder exactly if what waits is deadly. -/
theorem takeover_cases {r : Responder} (waiting : r.phase = .waiting) (k : Kernel) :
    (Deadly r.queue ∧ ∃ e, (r.settle .master k).1.phase = .stopped e) ∨
    (¬ Deadly r.queue ∧ (r.settle .master k).1 = { r with phase := .serving, queue := [] }) := by
  simp only [settle, waiting, if_pos, deadly_iff_drain]
  cases drain r.queue with
  | error e => exact .inl ⟨.inl ⟨e, rfl⟩, e, rfl⟩
  | ok rest =>
    have cases := serveQueue_cases { r with phase := .waiting, queue := rest } k
    simpa using cases

end Responder

def standing (es : List Encounter) : Standing := es.foldl Standing.note (.waiting [])

theorem standing_append_singleton (es : List Encounter) (x : Encounter) :
    standing (es ++ [x]) = (standing es).note x := List.foldl_append

inductive Standing.Ends : Standing → Encounter → Prop
  | serving {e : Errno} (failure : e ≠ .wouldBlock) : Ends .serving (.arrival (.error e))
  | takeover {backlog : List Arrival} (deadly : Deadly backlog) :
      Ends (.waiting backlog) (.published .master)

def Ended (es : List Encounter) : Prop :=
  ∃ before x after, es = before ++ x :: after ∧ (standing before).Ends x

theorem ended_append_singleton {es : List Encounter} {x : Encounter} :
    Ended (es ++ [x]) ↔ Ended es ∨ (standing es).Ends x := by
  constructor
  · rintro ⟨before, y, after, split, ends⟩
    rcases List.eq_nil_or_concat after with rfl | ⟨after, z, rfl⟩
    · obtain ⟨rfl, same⟩ := List.append_inj' split rfl
      cases same
      exact .inr ends
    · rw [List.concat_eq_append, ← List.cons_append, ← List.append_assoc] at split
      obtain ⟨rfl, -⟩ := List.append_inj' split rfl
      exact .inl ⟨before, y, after, rfl, ends⟩
  · rintro (⟨before, y, after, rfl, ends⟩ | ends)
    · exact ⟨before, y, after ++ [x], by simp, ends⟩
    · exact ⟨es, x, [], rfl, ends⟩

namespace Watch

variable {r : Responder} {w : Watch} {s : Standing}

theorem Stands.of_serving (role : w.role = .master)
    (served : w.responder = { r with phase := .serving, queue := [] }) : Stands r w .serving := by
  obtain ⟨_, _, k⟩ := w
  cases role
  cases served
  exact .serving k

theorem Stands.meet_cases (h : Stands r w s) (x : Encounter) :
    (s.Ends x ∧ ∃ e, (w.meet x).responder.phase = .stopped e) ∨
    (¬ s.Ends x ∧ Stands r (w.meet x) (s.note x)) := by
  cases x with
  | published role =>
    by_cases master : role = .master
    · subst master
      cases h with
      | serving k => exact .inr ⟨nofun, .serving k⟩
      | waiting other backlog k =>
        let before : Responder := { r with phase := .waiting, queue := backlog }
        rcases before.takeover_cases rfl k with ⟨deadly, stopped⟩ | ⟨harmless, served⟩
        · exact .inl ⟨.takeover deadly, stopped⟩
        · exact .inr ⟨fun (.takeover deadly) => harmless deadly, of_serving rfl served⟩
    · refine .inr ⟨?_, (h.demoted master).1⟩
      rintro ⟨⟩
      exact master rfl
  | arrival a =>
    cases h with
    | waiting other backlog k =>
      exact .inr ⟨nofun, ((waiting (r := r) other backlog k).stored a).1⟩
    | serving k =>
      rcases Responder.serveQueue_cases { r with phase := .serving, queue := [a] } k with
        ⟨⟨e, member, failure⟩, stopped⟩ | ⟨harmless, served⟩
      · obtain rfl := List.mem_singleton.mp member
        exact .inl ⟨.serving failure, stopped⟩
      · refine .inr ⟨?_, of_serving rfl served⟩
        exact fun (.serving failure) => harmless ⟨_, List.mem_singleton_self _, failure⟩

theorem meet_stopped {e : Errno} (stopped : w.responder.phase = .stopped e) (x : Encounter) :
    (w.meet x).responder = w.responder ∧ (w.meet x).kernel = w.kernel := by
  obtain ⟨role, ⟨own, addresses, mac, phase, queue⟩, k⟩ := w
  cases stopped
  cases x <;> exact ⟨rfl, rfl⟩

variable {es : List Encounter}

theorem meetAll_append_singleton (w : Watch) (es : List Encounter) (x : Encounter) :
    w.meetAll (es ++ [x]) = (w.meetAll es).meet x := List.foldl_append

/-- A responder stands as what it has met lets it stand, until something ends it for good. -/
theorem Stands.meetAll_cases (h : Stands r w (.waiting [])) (es : List Encounter) :
    (Ended es ∧ ∃ e, (w.meetAll es).responder.phase = .stopped e) ∨
    (¬ Ended es ∧ Stands r (w.meetAll es) (standing es)) := by
  induction es using List.reverseRecOn with
  | nil => exact .inr ⟨by simp [Ended], h⟩
  | append_singleton es x ih =>
    rw [ended_append_singleton, meetAll_append_singleton, standing_append_singleton]
    rcases ih with ⟨ended, e, stopped⟩ | ⟨unended, stands⟩
    · exact .inl ⟨.inl ended, e, (congrArg _ (meet_stopped stopped x).1).trans stopped⟩
    · rcases stands.meet_cases x with ⟨ends, stopped⟩ | ⟨harmless, stands⟩
      · exact .inl ⟨.inr ends, stopped⟩
      · exact .inr ⟨not_or.mpr ⟨unended, harmless⟩, stands⟩

/-- What becomes of a frame that arrives while the node is master. -/
theorem Stands.frame_cases (h : Stands r w (.waiting [])) (es : List Encounter)
    (master : (w.meetAll es).role = .master) (f : Octets) :
    let before := w.meetAll es
    let after := before.meet (.arrival (.ok f))
    (Ended es ∧ after.kernel = before.kernel) ∨
    (¬ Ended es ∧ after.kernel = ArpSocket.sendAll (r.replyTo f).toList before.kernel) := by
  rcases h.meetAll_cases es with ⟨ended, e, stopped⟩ | ⟨unended, stands⟩
  · exact .inl ⟨ended, (meet_stopped stopped _).2⟩
  · refine .inr ⟨unended, ?_⟩
    generalize w.meetAll es = before, standing es = s at master stands
    cases stands with
    | serving k => exact ((serving (r := r) k).serves_frame f).2
    | waiting other => exact absurd master other

end Watch

namespace Session

def encounter (s : Session) : Event → Encounter
  | .frame a => .arrival a
  | e => .published (s.happen e).2.node.role

def encounters (s : Session) : List Event → List Encounter
  | [] => []
  | e :: es => s.encounter e :: encounters (s.handle e).2 es

def after (s : Session) (es : List Event) : Session := es.foldl (fun s e => (s.handle e).2) s

def watch? (s : Session) : Option Watch := s.responder.map fun r => ⟨s.node.role, r, s.kernel⟩

theorem beside_steps (k : Nat) (s : Session) :
    (s.steps k).2.responder = s.responder ∧ (s.steps k).2.kernel = s.kernel := by
  induction k generalizing s with
  | zero => exact ⟨rfl, rfl⟩
  | succ k ih => exact ih _

theorem kernel_happen (s : Session) (e : Event) : (s.happen e).2.kernel = s.kernel := by
  cases e with
  | step times => exact (s.beside_steps times).2
  | frame a =>
    unfold happen
    dsimp only
    split <;> rfl
  | _ => rfl

theorem watch?_happen (s : Session) (e : Event) :
    (s.happen e).2.watch? = s.watch?.map (·.hear (s.encounter e)) := by
  have beside (same : (s.happen e).2.responder = s.responder) : (s.happen e).2.watch? =
      s.watch?.map (·.hear (.published (s.happen e).2.node.role)) := by
    rw [watch?, watch?, same, kernel_happen, Option.map_map]
    rfl
  cases e with
  | frame a =>
    obtain ⟨node, lan, responder, kernel⟩ := s
    cases responder with
    | none => rfl
    | some r => cases arrived : r.arrive a <;> simp [happen, watch?, encounter, Watch.hear, arrived]
  | step times => exact beside (s.beside_steps times).1
  | _ => exact beside rfl

theorem watch?_settle (s : Session) : s.settle.watch? = s.watch?.map Watch.settle := by
  obtain ⟨node, lan, responder, kernel⟩ := s
  cases responder <;> rfl

theorem watch?_handle (s : Session) (e : Event) :
    (s.handle e).2.watch? = s.watch?.map (·.meet (s.encounter e)) := by
  simp only [handle, watch?_settle, watch?_happen, Option.map_map]
  rfl

/-- In a session the responder meets what the events are to it. -/
theorem watch?_after (s : Session) (es : List Event) :
    (s.after es).watch? = s.watch?.map (·.meetAll (s.encounters es)) := by
  induction es generalizing s with
  | nil => exact Option.map_id'.symm
  | cons e es ih =>
    calc ((s.handle e).2.after es).watch?
        = (s.handle e).2.watch?.map (·.meetAll ((s.handle e).2.encounters es)) := ih _
      _ = s.watch?.map (·.meetAll (s.encounters (e :: es))) := by
        rw [watch?_handle, Option.map_map]
        rfl

theorem of_watch? {s : Session} {w : Watch} (h : s.watch? = some w) :
    s.node.role = w.role ∧ s.kernel = w.kernel := by
  obtain ⟨r, -, rfl⟩ := Option.map_eq_some_iff.mp h
  exact ⟨rfl, rfl⟩

theorem watch?_withResponder {c : Config} {b : Binding} {n : Node} {now : Nat} {k k' : Kernel}
    {s : Session} (started : Node.start c b = .ok n)
    (opened : (start n now).withResponder k = (.ok s, k')) :
    s.watch? = some (.start b.address c.addresses (Mac.ofRouter c.vrid) k') := by
  obtain ⟨-, p, -, rfl⟩ := Node.start_eq_ok_iff.mp started
  unfold withResponder at opened
  split at opened <;> cases opened
  rfl

variable {s : Session} {own : IPv4} {addresses : List IPv4} {mac : Mac} {k : Kernel}

/-- What becomes of a request that arrives while the node is master. -/
theorem request_cases (watching : s.watch? = some (.start own addresses mac k)) (es : List Event)
    (master : (s.after es).node.role = .master) {f : Octets} {q : ArpPacket}
    (asks : ArpPacket.AsksFor f own addresses q) :
    (Ended (s.encounters es) ∧ (s.after (es ++ [.frame (.ok f)])).kernel = (s.after es).kernel) ∨
    (¬ Ended (s.encounters es) ∧ (s.after (es ++ [.frame (.ok f)])).kernel =
      (ArpSocket.send (q.answer mac) (s.after es).kernel).2) := by
  have begun := Watch.stands_start own addresses mac k
  have before := s.watch?_after es
  rw [watching, Option.map_some] at before
  have told : s.after (es ++ [.frame (.ok f)]) = ((s.after es).handle (.frame (.ok f))).2 :=
    List.foldl_append
  have after := (s.after es).watch?_handle (.frame (.ok f))
  rw [before, Option.map_some] at after
  obtain ⟨role, kernel⟩ := of_watch? before
  rw [told, (of_watch? after).2, kernel]
  have cases := begun.frame_cases (s.encounters es) (role.symm.trans master) f
  rwa [asks.replyTo] at cases

theorem answered_iff_not_ended (watching : s.watch? = some (.start own addresses mac k))
    (es : List Event) (master : (s.after es).node.role = .master) {f : Octets} {q : ArpPacket}
    (asks : ArpPacket.AsksFor f own addresses q) :
    (s.after (es ++ [.frame (.ok f)])).kernel.log.map LogEntry.call =
        (s.after es).kernel.log.map LogEntry.call ++ [.sendPacket (q.answer mac)] ↔
      ¬ Ended (s.encounters es) := by
  rcases request_cases watching es master asks with ⟨ended, same⟩ | ⟨unended, sent⟩
  · rw [same]
    exact iff_of_false (by simp) (not_not.mpr ended)
  · rw [sent]
    exact iff_of_true (ArpSocket.calls_send _ _) unended

/-- A request for a virtual address that arrives while the node is master is answered, and with the
one reply that it asks for, exactly if no read has ended the responder before. Otherwise it is
lost. -/
theorem request_answered_iff {c : Config} {b : Binding} {n : Node} {now : Nat} {k k' : Kernel}
    {s : Session} (started : Node.start c b = .ok n)
    (opened : (start n now).withResponder k = (.ok s, k')) (es : List Event)
    (master : (s.after es).node.role = .master) {f : Octets} {q : ArpPacket}
    (asks : ArpPacket.AsksFor f b.address c.addresses q) :
    let before := (s.after es).kernel
    let after := (s.after (es ++ [.frame (.ok f)])).kernel
    (after.log.map LogEntry.call =
        before.log.map LogEntry.call ++ [.sendPacket (q.answer (Mac.ofRouter c.vrid))] ↔
      ¬ Ended (s.encounters es)) ∧
    (Ended (s.encounters es) → after = before) := by
  have watching := watch?_withResponder started opened
  refine ⟨answered_iff_not_ended watching es master asks, fun ended => ?_⟩
  rcases request_cases watching es master asks with ⟨-, same⟩ | ⟨unended, -⟩
  · exact same
  · exact absurd ended unended

def sample : Session :=
  { start .sample 0 with
    responder := some (.start ⟨10, 0, 0, 2⟩ [⟨10, 0, 0, 100⟩] (Mac.ofRouter 1))
    kernel := (ArpSocket.bind 2 .idle).2 }

theorem withResponder_sample :
    (start .sample 0).withResponder .idle = (.ok sample, sample.kernel) := rfl

theorem asksFor_sample : ArpPacket.AsksFor (ArpPacket.requestBy ⟨10, 0, 0, 21⟩)
    Binding.sample.address Config.sample.addresses (ArpPacket.askedBy ⟨10, 0, 0, 21⟩) :=
  ⟨by decide +kernel, rfl, by decide, by decide⟩

/-- Among what waits for the takeover are an interrupted read and a stale request. The responder
gets over both, and answers the next request. -/
theorem request_answered_past_interruption :
    let f := ArpPacket.requestBy ⟨10, 0, 0, 21⟩
    let q := ArpPacket.askedBy ⟨10, 0, 0, 21⟩
    let es := [.step 1, .frame (.error .interrupted), .frame (.ok f), .setClock 4000000, .step 1]
    Node.start .sample .sample = .ok .sample ∧
      (start .sample 0).withResponder .idle = (.ok sample, sample.kernel) ∧
      (sample.after es).node.role = .master ∧
      ArpPacket.AsksFor f Binding.sample.address Config.sample.addresses q ∧
      ¬ Ended (sample.encounters es) := by
  intro f q es
  have master : (sample.after es).node.role = .master := by decide +kernel
  obtain ⟨answered, -⟩ := request_answered_iff Node.start_sample withResponder_sample es master
    asksFor_sample
  exact ⟨Node.start_sample, withResponder_sample, master, asksFor_sample,
    answered.mp (by decide +kernel)⟩

/-- A read that fails because the network is down, as it is while the hardware address is switched,
or one that is interrupted while the responder serves: a master answers no request after it. -/
theorem request_lost_after_failing_read :
    let f := ArpPacket.requestBy ⟨10, 0, 0, 21⟩
    let q := ArpPacket.askedBy ⟨10, 0, 0, 21⟩
    ArpPacket.AsksFor f Binding.sample.address Config.sample.addresses q ∧
    ∀ es ∈ [[.step 1, .frame (.error ⟨100⟩), .setClock 4000000, .step 1],
        [.step 1, .setClock 4000000, .step 1, .frame (.error .interrupted)]],
      (sample.after es).node.role = .master ∧
        (sample.after (es ++ [.frame (.ok f)])).kernel.log = (sample.after es).kernel.log :=
  ⟨asksFor_sample, by decide +kernel⟩

end Session

end VirtualRouter
