import VirtualRouter.Node.Lan
import VirtualRouter.Arp.Responder

/-!
# Sessions

A node, and beside it a responder if one is wanted, in surroundings held in memory, driven by
a sequence of events. The responder does its work after each event.
-/

set_option autoImplicit false

namespace VirtualRouter

inductive CallKind
  | send
  | receive
  | applyMac
  | announce
  deriving DecidableEq

inductive Event
  | step (times : Nat)
  | deliver (datagram : Octets)
  | setClock (now : Nat)
  | advance (micros : Nat)
  | outages (kind : CallKind) (fails : Nat → Bool)
  | costs (costs : Costs)
  | requestShutdown
  | run (receives : Option Nat)
  | frame (arrival : Arrival)

inductive Outcome
  | none
  | steps (results : List Step)
  | finished (wasMaster : Bool)
  | unfinished
  | queued (accepted : Bool)
  deriving DecidableEq

structure Session where
  node : Node
  lan : Lan
  responder : Option Responder
  kernel : Kernel

namespace Session

def steps (s : Session) : Nat → List Step × Session
  | 0 => ([], s)
  | k + 1 =>
    let r := s.node.step.runIn Lan.serve s.lan
    let rest := steps { s with node := r.1.2, lan := r.2 } k
    (r.1.1 :: rest.1, rest.2)

/-- Steps enough for the given number of receives: between two of them, and before the first,
a timer fires at most once. -/
def runBound (receives : Option Nat) : Nat := 2 * receives.getD 0 + 4

def entering (l : Lan) : Option Nat → Lan
  | some (n + 1) => { l with shutdownAfter := some n }
  | _ => l

def ranIn (s : Session) (bound : Nat) (lan : Lan) : Outcome × Session :=
  let r := (s.node.runFor bound).runIn Lan.serve lan
  let after := { s with node := r.1.2, lan := { r.2 with shutdownAfter := none } }
  (r.1.1.elim .unfinished .finished, after)

def run (s : Session) (receives : Option Nat) : Outcome × Session :=
  s.ranIn (runBound receives) (entering s.lan receives)

def setOutages (l : Lan) (kind : CallKind) (o : Outages) : Lan :=
  match kind with
  | .send => { l with sendOutages := o }
  | .receive => { l with receiveOutages := o }
  | .applyMac => { l with macOutages := o }
  | .announce => { l with announceOutages := o }

def changeLan (s : Session) (f : Lan → Lan) : Outcome × Session :=
  (.none, { s with lan := f s.lan })

def happen (s : Session) : Event → Outcome × Session
  | .step times => (.steps (s.steps times).1, (s.steps times).2)
  | .deliver d => s.changeLan fun l => { l with queue := l.queue ++ [d] }
  | .setClock now => s.changeLan fun l => { l with now := now }
  | .advance micros => s.changeLan fun l => { l with now := l.now + micros }
  | .outages kind fails => s.changeLan fun l => setOutages l kind (.scheduled fails)
  | .costs c => s.changeLan fun l => { l with costs := c }
  | .requestShutdown => s.changeLan fun l => { l with shutdownRequested := true }
  | .run receives => s.run receives
  | .frame a =>
    match s.responder.bind (·.arrive a) with
    | some r => (.queued true, { s with responder := some r })
    | none => (.queued false, s)

def settle (s : Session) : Session :=
  match s.responder with
  | none => s
  | some r =>
    let (r, k) := r.settle s.node.role s.kernel
    { s with responder := some r, kernel := k }

def handle (s : Session) (e : Event) : Outcome × Session :=
  let (o, s) := s.happen e
  (o, s.settle)

def start (n : Node) (now : Nat) : Session := ⟨n, .quiet now, none, .idle⟩

def withResponder (s : Session) (k : Kernel) : Except Errno Session × Kernel :=
  match ArpSocket.bind s.node.binding.index k with
  | (.error e, k) => (.error e, k)
  | (.ok _, k) =>
    let r := Responder.start s.node.binding.address s.node.config.addresses s.node.virtualMac
    (.ok { s with responder := some r, kernel := k }, k)

end Session
end VirtualRouter
