import VirtualRouter.Route.Socket

/-!
# What calls of the routing socket do

Every call uses up what was scheduled for its name and is logged. A call that goes through has
its effect besides: a request fills the socket with the answer, a receive takes one buffer off.
-/

set_option autoImplicit false

namespace VirtualRouter

theorem SysM.bind_apply {ε α β : Type} (x : SysM ε α) (f : α → SysM ε β) (k : Kernel) :
    (x >>= f) k =
      match x k with
      | (.ok a, k') => f a k'
      | (.error e, k') => (.error e, k') := by
  change (match x k with | (r, k') => ExceptT.bindCont f r k') = _
  rcases x k with ⟨_ | _, _⟩ <;> rfl

theorem SysM.exists_of_bind_ok {ε α β : Type} {x : SysM ε α} {f : α → SysM ε β} {k k' : Kernel}
    {b : β} (run : (x >>= f) k = (.ok b, k')) :
    ∃ a k₁, x k = (.ok a, k₁) ∧ f a k₁ = (.ok b, k') := by
  rw [bind_apply] at run
  cases made : x k with
  | mk r k₁ =>
    rw [made] at run
    cases r with
    | error e => cases run
    | ok a => exact ⟨a, k₁, rfl, run⟩

namespace Kernel

theorem bind_apply {α β : Type} (x : StateM Kernel α) (f : α → StateM Kernel β) (k : Kernel) :
    (x >>= f) k = f (x k).1 (x k).2 := rfl

def scheduled (k : Kernel) (name : String) (i : Nat) : Option Errno :=
  (k.failures name)[i]?.bind fun e => if e = 0 then none else some ⟨e⟩

theorem nextFailure_eq (k : Kernel) (name : String) : k.nextFailure name = k.scheduled name 0 := by
  unfold nextFailure scheduled
  cases k.failures name <;> rfl

theorem scheduled_dropFailure (k : Kernel) (name : String) (i : Nat) :
    (k.dropFailure name).scheduled name i = k.scheduled name (i + 1) := by
  simp [scheduled, dropFailure]

theorem scheduled_dropFailure_of_ne (k : Kernel) {name other : String} (ne : other ≠ name)
    (i : Nat) : (k.dropFailure name).scheduled other i = k.scheduled other i := by
  simp [scheduled, dropFailure, ne]

def sentDump (k : Kernel) (m : Octets) : Kernel :=
  (k.dropFailure "send_netlink").answerDump.record (.sendNetlink m) none

def sentRequest (k : Kernel) (m : Octets) : Kernel :=
  (k.dropFailure "send_netlink").answerRequest.record (.sendNetlink m) none

def received (k : Kernel) : Kernel :=
  ({ k.dropFailure "recv_netlink" with inbox := k.inbox.tail } : Kernel).record
    .receiveNetlink none

@[simp] theorem log_failed (k : Kernel) (c : SysCall) (e : Errno) :
    (k.failed c e).log = k.log ++ [⟨c, some e⟩] := rfl

@[simp] theorem log_sentDump (k : Kernel) (m : Octets) :
    (k.sentDump m).log = k.log ++ [⟨.sendNetlink m, none⟩] := rfl

@[simp] theorem log_sentRequest (k : Kernel) (m : Octets) :
    (k.sentRequest m).log = k.log ++ [⟨.sendNetlink m, none⟩] := rfl

@[simp] theorem inbox_sentRequest (k : Kernel) (m : Octets) :
    (k.sentRequest m).inbox = [(k.replies.headD (.acknowledged 0)).octets] := rfl

@[simp] theorem log_received (k : Kernel) :
    k.received.log = k.log ++ [⟨.receiveNetlink, none⟩] := rfl

theorem scheduled_sentDump (k : Kernel) (m : Octets) (i : Nat) :
    (k.sentDump m).scheduled "recv_netlink" i = k.scheduled "recv_netlink" i :=
  k.scheduled_dropFailure_of_ne (show "recv_netlink" ≠ "send_netlink" by decide) i

theorem scheduled_sentRequest (k : Kernel) (m : Octets) (i : Nat) :
    (k.sentRequest m).scheduled "recv_netlink" i = k.scheduled "recv_netlink" i :=
  k.scheduled_dropFailure_of_ne (show "recv_netlink" ≠ "send_netlink" by decide) i

theorem scheduled_received (k : Kernel) (i : Nat) :
    k.received.scheduled "recv_netlink" i = k.scheduled "recv_netlink" (i + 1) :=
  k.scheduled_dropFailure "recv_netlink" i

theorem perform_of_failure {α : Type} {k : Kernel} {c : SysCall} {e : Errno}
    (effect : Kernel → Except Errno (α × Kernel)) (failure : k.scheduled c.name 0 = some e) :
    perform c effect k = (.error e, k.failed c e) := by
  rw [← nextFailure_eq] at failure
  simp only [perform, failure, failed]

theorem perform_of_success {α : Type} {k k' : Kernel} {c : SysCall} {a : α}
    {effect : Kernel → Except Errno (α × Kernel)} (through : k.scheduled c.name 0 = none)
    (done : effect (k.dropFailure c.name) = .ok (a, k')) :
    perform c effect k = (.ok a, k'.record c none) := by
  rw [← nextFailure_eq] at through
  simp only [perform, through, done]

end Kernel

namespace RouteSocket
open Kernel

variable {k : Kernel}

theorem netlink_apply {α : Type} (cause : Errno → NetlinkFault) (act : SysM Errno α) :
    netlink cause act k = ((act k).1.mapError fun e => .netlink (cause e), (act k).2) := rfl

theorem send_of_failure (m : Octets) {e : Errno}
    (failure : k.scheduled "send_netlink" 0 = some e) :
    send m k = (.error (.netlink (.cannotSend e)), k.failed (.sendNetlink m) e) := by
  rw [send, netlink_apply, sendNetlink, perform_of_failure _ failure]
  rfl

theorem send_dump {m : Octets} (dump : m.littleAt 4 = routeDumpKind)
    (through : k.scheduled "send_netlink" 0 = none) : send m k = (.ok (), k.sentDump m) := by
  rw [send, netlink_apply, sendNetlink, perform_of_success through (if_pos dump)]
  rfl

theorem send_request {m : Octets} (other : m.littleAt 4 ≠ routeDumpKind)
    (through : k.scheduled "send_netlink" 0 = none) : send m k = (.ok (), k.sentRequest m) := by
  rw [send, netlink_apply, sendNetlink, perform_of_success through (if_neg other)]
  rfl

theorem receive_of_failure {e : Errno} (failure : k.scheduled "recv_netlink" 0 = some e) :
    receive k = (.error (.netlink (.cannotReceive e)), k.failed .receiveNetlink e) := by
  rw [receive, netlink_apply, receiveNetlink, perform_of_failure _ failure]
  rfl

theorem receive_buffer {b : Octets} {rest : List Octets} (held : k.inbox = b :: rest)
    (through : k.scheduled "recv_netlink" 0 = none) :
    receive k = (.ok (b.take netlinkBufferLength), k.received) := by
  obtain ⟨_, _, _, _, inbox, _⟩ := k
  cases (held : inbox = b :: rest)
  rw [receive, netlink_apply, receiveNetlink, perform_of_success through rfl]
  rfl

theorem snapshot_apply (s : RouteSocket) (k : Kernel) :
    s.snapshot k =
      let made := (send (RouteMessage.dumpRequest s.next.sequence) >>= fun _ => do
        let k ← get
        collect (k.inbox.length + 1) []) k
      ((made.1, s.next), made.2) := rfl

end RouteSocket
end VirtualRouter
