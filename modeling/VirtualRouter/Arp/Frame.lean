import VirtualRouter.Kernel

/-!
# Address resolution frames

Ethernet frames that ask for and tell the hardware address of an IPv4 address, and the reply
that a virtual router gives to a request; and the packet socket that carries them.
-/

set_option autoImplicit false

namespace VirtualRouter

structure ArpPacket where
  op : UInt16
  senderMac : Mac
  senderIp : IPv4
  targetMac : Mac
  targetIp : IPv4
  deriving DecidableEq

namespace ArpPacket

def frameLength : Nat := 42

def etherType : UInt16 := 0x0806
def hardwareType : UInt16 := 1
def protocolType : UInt16 := 0x0800
def requestOp : UInt16 := 1
def replyOp : UInt16 := 2

def bodyOf (f : Octets) : ArpPacket :=
  ⟨f.bigAt 20, Mac.fromOctets f 22, IPv4.fromOctets f 28, Mac.fromOctets f 32,
   IPv4.fromOctets f 38⟩

def parse? (f : Octets) : Option ArpPacket :=
  if f.length < frameLength then none
  else if f.bigAt 12 = etherType ∧ f.bigAt 14 = hardwareType ∧ f.bigAt 16 = protocolType
      ∧ f.byteAt 18 = 6 ∧ f.byteAt 19 = 4 then
    some (bodyOf f)
  else none

def toFrame (p : ArpPacket) (dst src : Mac) : Octets :=
  dst.octets ++ src.octets ++ Octets.big16 etherType ++ Octets.big16 hardwareType
  ++ Octets.big16 protocolType ++ [6, 4] ++ Octets.big16 p.op
  ++ p.senderMac.octets ++ p.senderIp.octets ++ p.targetMac.octets ++ p.targetIp.octets

def gratuitous (mac : Mac) (ip : IPv4) : Octets :=
  toFrame ⟨requestOp, mac, ip, mac, ip⟩ Mac.broadcast mac

/-- The reply on behalf of the virtual router with the given addresses. Requests for the
interface's own address are left to the operating system. -/
def reply? (f : Octets) (own : IPv4) (addresses : List IPv4) (mac : Mac) : Option Octets :=
  match parse? f with
  | none => none
  | some q =>
    if q.op = requestOp ∧ q.targetIp ≠ own ∧ q.targetIp ∈ addresses then
      some (toFrame ⟨replyOp, mac, q.targetIp, q.senderMac, q.senderIp⟩ q.senderMac mac)
    else none

end ArpPacket

namespace ArpSocket

def bind (index : UInt32) : SysM Errno Unit := do
  Kernel.attempt (.openPacket ArpPacket.etherType)
  Kernel.attempt (.bindPacket index ArpPacket.etherType)

def send (frame : Octets) : SysM Errno Unit := Kernel.attempt (.sendPacket frame)

def announce (index : UInt32) (mac : Mac) (ip : IPv4) : SysM Errno Unit := do
  bind index
  send (ArpPacket.gratuitous mac ip)

end ArpSocket
end VirtualRouter
