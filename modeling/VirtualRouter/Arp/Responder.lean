import VirtualRouter.Arp.Frame
import VirtualRouter.Node.Machine

/-!
# The responder

Answers address resolution requests for the virtual addresses while the node is master. What
arrived before that is thrown away. A failing read ends the responder.
-/

set_option autoImplicit false

namespace VirtualRouter

abbrev Arrival := Except Errno Octets

inductive Responder.Phase
  | waiting
  | serving
  | stopped (e : Errno)
  deriving DecidableEq

structure Responder where
  own : IPv4
  addresses : List IPv4
  mac : Mac
  phase : Responder.Phase
  queue : List Arrival

namespace Responder

def bufferLength : Nat := 1514

def start (own : IPv4) (addresses : List IPv4) (mac : Mac) : Responder :=
  ⟨own, addresses, mac, .waiting, []⟩

def stopped? (r : Responder) : Option Errno :=
  match r.phase with
  | .stopped e => some e
  | _ => none

/-- Throws away what is queued, up to the first read that says that nothing is left. An
interrupted read is repeated; any other failure is final. -/
def drain : List Arrival → Except Errno (List Arrival)
  | [] => .ok []
  | .ok _ :: r => drain r
  | .error e :: r =>
    if e = .wouldBlock then .ok r
    else if e = .interrupted then drain r
    else .error e

def replyTo (r : Responder) (frame : Octets) : Option Octets :=
  ArpPacket.reply? (frame.take bufferLength) r.own r.addresses r.mac

def serve (r : Responder) : List Arrival → Kernel → Option Errno × Kernel
  | [], k => (none, k)
  | .ok f :: rest, k =>
    match r.replyTo f with
    | none => r.serve rest k
    | some reply => r.serve rest (ArpSocket.send reply k).2
  | .error e :: rest, k => if e = .wouldBlock then r.serve rest k else (some e, k)

def serveQueue (r : Responder) (k : Kernel) : Responder × Kernel :=
  match r.serve r.queue k with
  | (none, k) => ({ r with phase := .serving, queue := [] }, k)
  | (some e, k) => ({ r with phase := .stopped e, queue := [] }, k)

def settle (r : Responder) (role : Role) (k : Kernel) : Responder × Kernel :=
  match r.phase with
  | .stopped _ => (r, k)
  | .serving =>
    if role = .master then r.serveQueue k else ({ r with phase := .waiting }, k)
  | .waiting =>
    if role = .master then
      match drain r.queue with
      | .ok rest => { r with queue := rest }.serveQueue k
      | .error e => ({ r with phase := .stopped e, queue := [] }, k)
    else (r, k)

def arrive (r : Responder) (a : Arrival) : Option Responder :=
  match r.phase with
  | .stopped _ => none
  | _ => some { r with queue := r.queue ++ [a] }

end Responder
end VirtualRouter
