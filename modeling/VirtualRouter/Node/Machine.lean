import VirtualRouter.Node.Interaction
import VirtualRouter.Advert.Acceptance
import VirtualRouter.Timers

/-!
# The node of a virtual router

A node is in one of three states. Each step fires the armed timer, or else waits for one
advertisement, for as long as the timer leaves, and acts on it. A requested shutdown ends the
steps; a master then releases its role.
-/

set_option autoImplicit false

namespace VirtualRouter

inductive Role
  | init
  | backup
  | master
  deriving DecidableEq

def Role.name : Role → String
  | .init => "INIT"
  | .backup => "BACKUP"
  | .master => "MASTER"

structure Stats where
  masterTransitions : Nat
  backupTransitions : Nat
  advertsSent : Nat
  advertsReceived : Nat
  invalidAdverts : Nat
  checksumErrors : Nat
  priorityZeroReceived : Nat
  deriving DecidableEq

def Stats.zero : Stats := ⟨0, 0, 0, 0, 0, 0, 0⟩

structure Node where
  config : Config
  binding : Binding
  priority : UInt8
  timers : Timers
  role : Role
  stats : Stats

inductive Step
  | proceed
  | shutdown
  deriving DecidableEq

def dominates (theirPriority : UInt8) (theirs : IPv4) (ourPriority : UInt8) (ours : IPv4) : Bool :=
  ourPriority < theirPriority || (theirPriority == ourPriority && ours.toNat < theirs.toNat)

namespace Node

def effectivePriority (c : Config) (b : Binding) : Except ConfigFault UInt8 :=
  if c.owns b.address then .ok ownerPriority
  else if c.priority = ownerPriority then .error (.ownerPriority b.name)
  else .ok c.priority

def start (c : Config) (b : Binding) : Except ConfigFault Node :=
  match c.fault? with
  | some f => .error f
  | none =>
    match effectivePriority c b with
    | .error f => .error f
    | .ok p => .ok ⟨c, b, p, Timers.start p c.advertMicros, .init, .zero⟩

def virtualMac (n : Node) : Mac := Mac.ofRouter n.config.vrid

def expectation (n : Node) : Expectation :=
  ⟨n.config.version, n.config.vrid, n.config.addresses, n.config.advertInterval⟩

def payload (n : Node) (priority : UInt8) : Octets :=
  (Packet.advertising n.config.version n.config.vrid priority n.config.advertInterval
    n.config.addresses).encode n.binding.address IPv4.vrrpGroup

def countSent (n : Node) : Node :=
  { n with stats := { n.stats with advertsSent := n.stats.advertsSent + 1 } }

def countAccepted (n : Node) (a : Advert) : Node :=
  { n with stats := { n.stats with
      advertsReceived := n.stats.advertsReceived + 1
      priorityZeroReceived :=
        if a.priority = releasePriority then n.stats.priorityZeroReceived + 1
        else n.stats.priorityZeroReceived } }

def countRejected (n : Node) (r : Rejection) : Node :=
  { n with stats := { n.stats with
      invalidAdverts := n.stats.invalidAdverts + 1
      checksumErrors :=
        if r = .checksum then n.stats.checksumErrors + 1 else n.stats.checksumErrors } }

def mapTimers (n : Node) (f : Timers → Timers) : Node := { n with timers := f n.timers }

def toBackup (n : Node) (now : Nat) : Node :=
  { n with
    timers := n.timers.armMasterDown now
    role := .backup
    stats := { n.stats with backupTransitions := n.stats.backupTransitions + 1 } }

def toMaster (n : Node) (now : Nat) : Node :=
  { n with
    timers := n.timers.armAdvert now
    role := .master
    stats := { n.stats with masterTransitions := n.stats.masterTransitions + 1 } }

def resync (n : Node) (a : Advert) : Node :=
  match a.interval with
  | some i => n.mapTimers (·.resync n.config.version i)
  | none => n

open Interaction (call)

def afterSend (n : Node) (sent : Bool) : Node := if sent then n.countSent else n

def sendAdvert (n : Node) (priority : UInt8) : Interaction Node := do
  let sent ← call (.send (n.payload priority))
  return n.afterSend sent

def assertRole (n : Node) : Interaction Node := do
  let n ← n.sendAdvert n.priority
  let now ← call .clock
  return n.mapTimers (·.armAdvert now)

def announceAll (n : Node) : List IPv4 → Interaction Unit
  | [] => pure ()
  | a :: r => do
    let _ ← call (.announce n.binding.index n.virtualMac a)
    n.announceAll r

def becomeMaster (n : Node) : Interaction Node := do
  let _ ← call (.applyMac n.binding n.virtualMac .virtual)
  let n ← n.sendAdvert n.priority
  n.announceAll n.config.addresses
  let now ← call .clock
  return n.toMaster now

def becomeBackup (n : Node) : Interaction Node := do
  let now ← call .clock
  return n.toBackup now

def heard (n : Node) : Reception → Node × Option Advert
  | .datagram d =>
    match n.expectation.accept d with
    | .ok a => (n.countAccepted a, some a)
    | .error r => (n.countRejected r, none)
  | .timeout => (n, none)
  | .failed => (n, none)

def receive (n : Node) (timeout : Nat) : Interaction (Node × Option Advert) := do
  let reception ← call (.receive timeout)
  return n.heard reception

def masterHears (n : Node) (a : Advert) : Interaction Node :=
  if a.priority = releasePriority then n.assertRole
  else if dominates a.priority a.source n.priority n.binding.address then do
    let _ ← call (.applyMac n.binding n.binding.mac .real)
    (n.resync a).becomeBackup
  else return n

def backupHears (n : Node) (a : Advert) (now : Nat) : Node :=
  if a.priority = releasePriority then n.mapTimers (·.armSkew now)
  else if !n.config.preempt || n.priority ≤ a.priority then
    (n.resync a).mapTimers (·.armMasterDown now)
  else n

def masterStep (n : Node) : Interaction Node := do
  let now ← call .clock
  if n.timers.advertFired now then n.assertRole
  else
    match ← n.receive (n.timers.remaining now) with
    | (n, some a) => n.masterHears a
    | (n, none) => return n

def backupStep (n : Node) : Interaction Node := do
  let now ← call .clock
  if n.timers.masterDownFired now then n.becomeMaster
  else
    match ← n.receive (n.timers.remaining now) with
    | (n, some a) =>
      let now ← call .clock
      return n.backupHears a now
    | (n, none) => return n

def act (n : Node) : Interaction Node :=
  match n.role with
  | .init => if n.priority = ownerPriority then n.becomeMaster else n.becomeBackup
  | .master => n.masterStep
  | .backup => n.backupStep

def step (n : Node) : Interaction (Step × Node) := do
  if ← call .shutdownRequested then return (.shutdown, n)
  else
    let n ← n.act
    return (.proceed, n)

/-- Gives up the role of a master, and stops the timers. Tells whether there was a role to
give up. The state stays what it was. -/
def release (n : Node) : Interaction (Bool × Node) :=
  if n.role = .master then do
    let _ ← call (.applyMac n.binding n.binding.mac .real)
    let n ← n.sendAdvert releasePriority
    return (true, n.mapTimers (·.disarm))
  else return (false, n.mapTimers (·.disarm))

/-- Steps until a shutdown is requested, for at most so many steps, and then releases. Tells
whether the node was master, or nothing if no shutdown was requested. -/
def runFor : Nat → Node → Interaction (Option Bool × Node)
  | 0, n => return (none, n)
  | k + 1, n => do
    match ← n.step with
    | (.shutdown, n) =>
      let (wasMaster, n) ← n.release
      return (some wasMaster, n)
    | (.proceed, n) => n.runFor k

end Node
end VirtualRouter
