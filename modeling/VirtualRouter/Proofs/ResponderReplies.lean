import VirtualRouter.Arp.Responder

/-!
# What a responder sends

A responder meets the states that the node publishes and what arrives on its socket, and does its
work after each. It answers the frames that arrive while the state is that of a master, one by one
and in their order. What arrives at another time is thrown away before it serves again, however
often the state changes.
-/

set_option autoImplicit false

namespace VirtualRouter

namespace ArpSocket

def sendAll (fs : List Octets) (k : Kernel) : Kernel := fs.foldl (fun k f => (send f k).2) k

theorem sendAll_append (fs gs : List Octets) (k : Kernel) :
    sendAll (fs ++ gs) k = sendAll gs (sendAll fs k) := List.foldl_append

theorem calls_send (f : Octets) (k : Kernel) :
    (send f k).2.log.map LogEntry.call = k.log.map LogEntry.call ++ [.sendPacket f] := by
  simp only [send, Kernel.attempt, Kernel.perform]
  split <;> simp [Kernel.failed, Kernel.record, Kernel.dropFailure]

theorem calls_sendAll (fs : List Octets) (k : Kernel) :
    (sendAll fs k).log.map LogEntry.call = k.log.map LogEntry.call ++ fs.map .sendPacket := by
  induction fs generalizing k with
  | nil => exact (List.append_nil _).symm
  | cons f fs ih =>
    calc (sendAll fs (send f k).2).log.map LogEntry.call
        = (send f k).2.log.map LogEntry.call ++ fs.map .sendPacket := ih _
      _ = k.log.map LogEntry.call ++ [.sendPacket f] ++ fs.map .sendPacket := by rw [calls_send]
      _ = k.log.map LogEntry.call ++ (f :: fs).map .sendPacket := by simp

end ArpSocket

namespace ArpPacket

def answer (q : ArpPacket) (mac : Mac) : Octets :=
  toFrame ⟨replyOp, mac, q.targetIp, q.senderMac, q.senderIp⟩ q.senderMac mac

def askedBy (host : IPv4) : ArpPacket :=
  ⟨requestOp, ⟨2, 0, 0, 0, 0, 9⟩, host, ⟨0, 0, 0, 0, 0, 0⟩, ⟨10, 0, 0, 100⟩⟩

def requestBy (host : IPv4) : Octets := (askedBy host).toFrame Mac.broadcast ⟨2, 0, 0, 0, 0, 9⟩

end ArpPacket

inductive Encounter
  | published (role : Role)
  | arrival (a : Arrival)

structure Watch where
  role : Role
  responder : Responder
  kernel : Kernel

namespace Watch

def settle (w : Watch) : Watch :=
  let (r, k) := w.responder.settle w.role w.kernel
  { w with responder := r, kernel := k }

def hear (w : Watch) : Encounter → Watch
  | .published role => { w with role := role }
  | .arrival a => { w with responder := (w.responder.arrive a).getD w.responder }

def meet (w : Watch) (x : Encounter) : Watch := (w.hear x).settle

def meetAll (w : Watch) (es : List Encounter) : Watch := es.foldl meet w

def start (own : IPv4) (addresses : List IPv4) (mac : Mac) (k : Kernel) : Watch :=
  ⟨.init, .start own addresses mac, k⟩

end Watch

/-- How a responder stands that no read has ended. While it serves it leaves nothing undone. -/
inductive Standing
  | serving
  | waiting (backlog : List Arrival)

namespace Standing

def note : Standing → Encounter → Standing
  | serving, .published role => if role = .master then serving else waiting []
  | serving, .arrival _ => serving
  | waiting backlog, .published role => if role = .master then serving else waiting backlog
  | waiting backlog, .arrival a => waiting (backlog ++ [a])

def Clean : Standing → Prop
  | serving => True
  | waiting backlog => ∀ e, .error e ∉ backlog

theorem Clean.note {s : Standing} (clean : s.Clean) {x : Encounter}
    (read : ∀ e, x ≠ .arrival (.error e)) : (s.note x).Clean := by
  cases s with
  | serving =>
    cases x with
    | published role => cases role <;> simp [Standing.note, Clean]
    | arrival a => trivial
  | waiting backlog =>
    cases x with
    | published role =>
      by_cases master : role = .master
      · simp [Standing.note, master, Clean]
      · simpa [Standing.note, master] using clean
    | arrival a =>
      intro e member
      rcases List.mem_append.mp member with before | last
      · exact clean e before
      · exact read e (congrArg Encounter.arrival (List.mem_singleton.mp last)).symm

end Standing

inductive Watch.Stands (r : Responder) : Watch → Standing → Prop
  | serving (k : Kernel) : Stands r ⟨.master, { r with phase := .serving, queue := [] }, k⟩ .serving
  | waiting {role : Role} (other : role ≠ .master) (backlog : List Arrival) (k : Kernel) :
      Stands r ⟨role, { r with phase := .waiting, queue := backlog }, k⟩ (.waiting backlog)

namespace Responder

theorem serve_single (r : Responder) (f : Octets) (k : Kernel) :
    r.serve [.ok f] k = (none, ArpSocket.sendAll (r.replyTo f).toList k) := by
  simp only [serve]
  cases r.replyTo f <;> rfl

theorem drain_clean {q : List Arrival} (clean : ∀ e, .error e ∉ q) : drain q = .ok [] := by
  induction q with
  | nil => rfl
  | cons a q ih =>
    cases a with
    | ok f => exact ih fun e member => clean e (List.mem_cons_of_mem _ member)
    | error e => exact absurd List.mem_cons_self (clean e)

end Responder

/-- The frames that arrive while the state is that of a master, of all that is met from a state
on. -/
def heardAsMaster : Role → List Encounter → List Octets
  | _, [] => []
  | _, .published role :: es => heardAsMaster role es
  | .master, .arrival (.ok f) :: es => f :: heardAsMaster .master es
  | role, .arrival _ :: es => heardAsMaster role es

namespace Watch

variable {r : Responder} {w : Watch} {s : Standing} {es : List Encounter}

theorem heardAsMaster_cons (w : Watch) (x : Encounter) (es : List Encounter) :
    heardAsMaster w.role (x :: es) =
      heardAsMaster w.role [x] ++ heardAsMaster (w.meet x).role es := by
  obtain ⟨role, r, k⟩ := w
  cases x with
  | published role => rfl
  | arrival a => cases role <;> cases a <;> rfl

namespace Stands

theorem serves_frame (h : Stands r w .serving) (f : Octets) :
    Stands r (w.meet (.arrival (.ok f))) .serving ∧
      (w.meet (.arrival (.ok f))).kernel = ArpSocket.sendAll (r.replyTo f).toList w.kernel := by
  cases h with
  | serving k =>
    have served := Responder.serve_single { r with phase := .serving, queue := [.ok f] } f k
    unfold meet hear
    simp only [settle, Responder.arrive, Option.getD_some, List.nil_append,
      Responder.settle, if_pos, Responder.serveQueue, served]
    exact ⟨.serving _, rfl⟩

theorem demoted (h : Stands r w s) {role : Role} (other : role ≠ .master) :
    Stands r (w.meet (.published role)) (s.note (.published role)) ∧
      (w.meet (.published role)).kernel = w.kernel := by
  cases h with
  | serving k =>
    unfold meet hear
    simp only [settle, Responder.settle, Standing.note, if_neg other]
    exact ⟨.waiting other [] k, trivial⟩
  | waiting _ backlog k =>
    unfold meet hear
    simp only [settle, Responder.settle, Standing.note, if_neg other]
    exact ⟨.waiting other backlog k, trivial⟩

theorem promoted (h : Stands r w s) (clean : s.Clean) :
    Stands r (w.meet (.published .master)) (s.note (.published .master)) ∧
      (w.meet (.published .master)).kernel = w.kernel := by
  cases h with
  | serving k => exact ⟨.serving k, rfl⟩
  | waiting _ backlog k =>
    unfold meet hear
    simp only [settle, Responder.settle, Responder.drain_clean clean]
    exact ⟨.serving k, rfl⟩

theorem stored {backlog : List Arrival} (h : Stands r w (.waiting backlog)) (a : Arrival) :
    Stands r (w.meet (.arrival a)) (.waiting (backlog ++ [a])) ∧
      (w.meet (.arrival a)).kernel = w.kernel := by
  cases h with
  | waiting other _ k =>
    unfold meet hear
    simp only [settle, Responder.arrive, Option.getD_some, Responder.settle, if_neg other]
    exact ⟨.waiting other _ k, trivial⟩

/-- Whatever is met, the responder sends its replies to the frames that arrive as master. -/
theorem meet (h : Stands r w s) (clean : s.Clean) {x : Encounter}
    (read : ∀ e, x ≠ .arrival (.error e)) : Stands r (w.meet x) (s.note x) ∧
      (w.meet x).kernel =
        ArpSocket.sendAll ((heardAsMaster w.role [x]).filterMap r.replyTo) w.kernel := by
  cases x with
  | published role =>
    by_cases master : role = .master
    · exact master ▸ h.promoted clean
    · exact h.demoted master
  | arrival a =>
    cases a with
    | error e => exact absurd rfl (read e)
    | ok f =>
      cases h with
      | serving k =>
        obtain ⟨stands, sent⟩ := (serving k).serves_frame f
        refine ⟨stands, sent.trans ?_⟩
        simp only [heardAsMaster, List.filterMap_cons, List.filterMap_nil]
        cases r.replyTo f <;> rfl
      | @waiting role other backlog k =>
        obtain ⟨stands, same⟩ := (waiting (r := r) other backlog k).stored (.ok f)
        refine ⟨stands, same.trans ?_⟩
        cases role with
        | master => exact absurd rfl other
        | _ => rfl

theorem meetAll (h : Stands r w s) (clean : s.Clean) (reads : ∀ e, .arrival (.error e) ∉ es) :
    (w.meetAll es).kernel =
      ArpSocket.sendAll ((heardAsMaster w.role es).filterMap r.replyTo) w.kernel := by
  induction es generalizing w s with
  | nil => rfl
  | cons x es ih =>
    have read (e : Errno) : x ≠ .arrival (.error e) := fun same =>
      reads e (same ▸ List.mem_cons_self)
    obtain ⟨stands, sent⟩ := h.meet clean read
    calc (w.meetAll (x :: es)).kernel
        = ArpSocket.sendAll ((heardAsMaster (w.meet x).role es).filterMap r.replyTo)
            (w.meet x).kernel :=
          ih stands (clean.note read) fun e member => reads e (List.mem_cons_of_mem _ member)
      _ = _ := by
        rw [sent, ← ArpSocket.sendAll_append, ← List.filterMap_append, ← heardAsMaster_cons]

end Stands

theorem stands_start (own : IPv4) (addresses : List IPv4) (mac : Mac) (k : Kernel) :
    Stands (.start own addresses mac) (start own addresses mac k) (.waiting []) :=
  have other : Role.init ≠ .master := nofun
  .waiting other [] k

/-- If no read fails, then the frames that a responder tries to send are its replies to the frames
that have arrived as master, cut to what one read takes in, in their order. It is the same whether
they can be sent or not. -/
theorem sent_of_heard_as_master (own : IPv4) (addresses : List IPv4) (mac : Mac) (k : Kernel)
    (reads : ∀ e, .arrival (.error e) ∉ es) :
    ((start own addresses mac k).meetAll es).kernel.log.map LogEntry.call =
      k.log.map LogEntry.call ++ (heardAsMaster .init es).filterMap fun f =>
        (ArpPacket.reply? (f.take Responder.bufferLength) own addresses mac).map .sendPacket := by
  have stands := stands_start own addresses mac k
  rw [stands.meetAll nofun reads, ArpSocket.calls_sendAll, List.map_filterMap]
  rfl

/-- Requests come before, in and between two times as master, and the first reply cannot be sent. -/
theorem sent_in_two_times_as_master :
    let mac := Mac.ofRouter 1
    let ask (host : UInt8) : Encounter := .arrival (.ok (ArpPacket.requestBy ⟨10, 0, 0, host⟩))
    let es := [ask 21, .published .backup, ask 22, .published .master, ask 23, .published .backup,
      ask 24, .published .master, ask 25]
    let k := { Kernel.idle with failures := fun name => if name = "send_packet" then [100] else [] }
    let after := ((start ⟨10, 0, 0, 2⟩ [⟨10, 0, 0, 100⟩] mac k).meetAll es).kernel
    (∀ e, .arrival (.error e) ∉ es) ∧
      after.log.map LogEntry.call =
        [.sendPacket ((ArpPacket.askedBy ⟨10, 0, 0, 23⟩).answer mac),
          .sendPacket ((ArpPacket.askedBy ⟨10, 0, 0, 25⟩).answer mac)] ∧
      after.log.map LogEntry.failure = [some ⟨100⟩, none] := by
  intro mac ask es k after
  have reads : ∀ e, .arrival (.error e) ∉ es := by simp [es, ask]
  refine ⟨reads, ?_, by decide +kernel⟩
  exact (sent_of_heard_as_master _ _ mac k reads).trans (by decide +kernel)

end Watch
end VirtualRouter
