import VirtualRouter.Fault

/-!
# The operating system

The system calls that the router depends on, as operations on a state that holds the
interfaces, what the routing socket will answer, and which calls will fail. Every call is
logged in order.
-/

set_option autoImplicit false

namespace VirtualRouter

inductive IpOption
  | ttl
  | multicastTtl
  | multicastLoop
  | multicastInterface
  | joinGroup
  | leaveGroup
  deriving DecidableEq

def IpOption.name : IpOption → String
  | ttl => "IP_TTL"
  | multicastTtl => "IP_MULTICAST_TTL"
  | multicastLoop => "IP_MULTICAST_LOOP"
  | multicastInterface => "IP_MULTICAST_IF"
  | joinGroup => "IP_ADD_MEMBERSHIP"
  | leaveGroup => "IP_DROP_MEMBERSHIP"

inductive SysCall
  | openNetlink
  | bindNetlink
  | connectNetlink
  | sendNetlink (message : Octets)
  | receiveNetlink
  | openPacket (protocol : UInt16)
  | bindPacket (index : UInt32) (protocol : UInt16)
  | sendPacket (frame : Octets)
  | openRaw (protocol : UInt8)
  | sendRaw (payload : Octets) (destination : IPv4)
  | setOption (option : IpOption) (value : Octets)
  | openInet
  | nameToIndex (interface : String)
  | getFlags (interface : String)
  | setFlags (interface : String) (flags : UInt16)
  | getMac (interface : String)
  | setMac (interface : String) (mac : Mac)
  | getAddress (interface : String)
  deriving DecidableEq

def SysCall.name : SysCall → String
  | openNetlink => "socket_netlink"
  | bindNetlink => "bind_netlink"
  | connectNetlink => "connect_netlink"
  | sendNetlink _ => "send_netlink"
  | receiveNetlink => "recv_netlink"
  | openPacket _ => "socket_packet"
  | bindPacket _ _ => "bind_packet"
  | sendPacket _ => "send_packet"
  | openRaw _ => "socket_raw"
  | sendRaw _ _ => "send_raw"
  | setOption o _ => o.name
  | openInet => "socket_inet"
  | nameToIndex _ => "if_nametoindex"
  | getFlags _ => "SIOCGIFFLAGS"
  | setFlags _ _ => "SIOCSIFFLAGS"
  | getMac _ => "SIOCGIFHWADDR"
  | setMac _ _ => "SIOCSIFHWADDR"
  | getAddress _ => "SIOCGIFADDR"

structure Interface where
  name : String
  index : UInt32
  flags : UInt16
  mac : Mac
  address : Option IPv4
  busyWhenUp : Bool
  deriving DecidableEq

namespace Interface

def upFlag : UInt16 := 0x1

def promiscuousFlag : UInt16 := 0x100

def isUp (i : Interface) : Bool := i.flags &&& upFlag != 0

end Interface

inductive RouteReply
  | acknowledged (number : Int)
  | raw (message : Octets)

namespace RouteReply

def errorKind : UInt16 := 2

def octets : RouteReply → Octets
  | raw m => m
  | acknowledged n =>
    Octets.little32 36 ++ Octets.little16 errorKind ++ List.replicate 10 0
      ++ Octets.little32 (UInt32.ofNat ((-n) % 4294967296).toNat) ++ List.replicate 16 0

end RouteReply

structure LogEntry where
  call : SysCall
  failure : Option Errno
  deriving DecidableEq

structure Kernel where
  interfaces : List Interface
  /-- The numbers that the coming calls of a name fail with; zero lets a call through. -/
  failures : String → List Int
  dumps : List (List Octets)
  replies : List RouteReply
  inbox : List Octets
  log : List LogEntry

abbrev SysM (ε α : Type) := ExceptT ε (StateM Kernel) α

namespace Kernel

def idle : Kernel := ⟨[], fun _ => [], [], [], [], []⟩

def nextFailure (k : Kernel) (name : String) : Option Errno :=
  match k.failures name with
  | [] => none
  | e :: _ => if e = 0 then none else some ⟨e⟩

def dropFailure (k : Kernel) (name : String) : Kernel :=
  { k with failures := fun m => if m = name then (k.failures name).tail else k.failures m }

def record (k : Kernel) (c : SysCall) (failure : Option Errno) : Kernel :=
  { k with log := k.log ++ [⟨c, failure⟩] }

def failed (k : Kernel) (c : SysCall) (e : Errno) : Kernel :=
  (k.dropFailure c.name).record c (some e)

/-- Makes a call: it fails as scheduled, or else does what `effect` does. -/
def perform {α : Type} (c : SysCall) (effect : Kernel → Except Errno (α × Kernel)) :
    SysM Errno α :=
  fun k =>
    match k.nextFailure c.name with
    | some e => (.error e, k.failed c e)
    | none =>
      match effect (k.dropFailure c.name) with
      | .error e => (.error e, k.failed c e)
      | .ok (a, k') => (.ok a, k'.record c none)

def attempt (c : SysCall) : SysM Errno Unit := perform c fun k => .ok ((), k)

def interface? (k : Kernel) (name : String) : Option Interface :=
  k.interfaces.find? (·.name == name)

def changeInterface (k : Kernel) (name : String) (f : Interface → Interface) : Kernel :=
  { k with interfaces := k.interfaces.map fun i => if i.name == name then f i else i }

def performOn {α : Type} (c : SysCall) (name : String)
    (effect : Interface → Kernel → Except Errno (α × Kernel)) : SysM Errno α :=
  perform c fun k =>
    match k.interface? name with
    | none => .error .noDevice
    | some i => effect i k

def interfaceIndex (name : String) : SysM Errno UInt32 :=
  performOn (.nameToIndex name) name fun i k => .ok (i.index, k)

def getFlags (name : String) : SysM Errno UInt16 :=
  performOn (.getFlags name) name fun i k => .ok (i.flags, k)

def setFlags (name : String) (flags : UInt16) : SysM Errno Unit :=
  performOn (.setFlags name flags) name fun _ k =>
    .ok ((), k.changeInterface name ({ · with flags := flags }))

def getMac (name : String) : SysM Errno Mac :=
  performOn (.getMac name) name fun i k => .ok (i.mac, k)

def setMac (name : String) (mac : Mac) : SysM Errno Unit :=
  performOn (.setMac name mac) name fun i k =>
    if i.busyWhenUp && i.isUp then .error .busy
    else .ok ((), k.changeInterface name ({ · with mac := mac }))

def getAddress (name : String) : SysM Errno IPv4 :=
  performOn (.getAddress name) name fun i k =>
    match i.address with
    | none => .error .addressNotAvailable
    | some a => .ok (a, k)

def routeDumpKind : UInt16 := 26

def answerDump (k : Kernel) : Kernel :=
  { k with inbox := k.dumps.headD [], dumps := k.dumps.tail }

def answerRequest (k : Kernel) : Kernel :=
  { k with inbox := [(k.replies.headD (.acknowledged 0)).octets], replies := k.replies.tail }

/-- Sends a message on the routing socket: what it held is lost, and the answer arrives. -/
def sendNetlink (m : Octets) : SysM Errno Unit :=
  perform (.sendNetlink m) fun k =>
    if m.littleAt 4 = routeDumpKind then .ok ((), k.answerDump) else .ok ((), k.answerRequest)

def netlinkBufferLength : Nat := 65536

def receiveNetlink : SysM Errno Octets :=
  perform .receiveNetlink fun k =>
    match k.inbox with
    | [] => .error .wouldBlock
    | b :: r => .ok (b.take netlinkBufferLength, { k with inbox := r })

end Kernel
end VirtualRouter
