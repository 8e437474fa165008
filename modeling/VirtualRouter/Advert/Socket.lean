import VirtualRouter.Kernel
import VirtualRouter.Advert.Acceptance

/-!
# The multicast socket

The socket that advertisements are sent from and received on. It is a member of the group of
the protocol on the interface with the local address, from when it is opened until it is
closed.
-/

set_option autoImplicit false

namespace VirtualRouter

structure AdvertSocket where
  localAddress : IPv4
  arrivals : List (Except Errno Octets)

namespace AdvertSocket

def bufferLength : Nat := 2048

def setOption (option : IpOption) (value : Octets) : SysM Errno Unit :=
  Kernel.attempt (.setOption option value)

def membership (address : IPv4) : Octets := IPv4.vrrpGroup.octets ++ address.octets

def connect (address : IPv4) : SysM Errno AdvertSocket := do
  Kernel.attempt (.openRaw Checksum.protocolNumber)
  setOption .ttl (Octets.little32 255)
  setOption .multicastTtl (Octets.little32 255)
  setOption .multicastLoop (Octets.little32 0)
  setOption .multicastInterface address.octets
  setOption .joinGroup (membership address)
  return ⟨address, []⟩

/-- Sends a payload to the group; a socket that cannot take it at once is tried again. The
bound is not reached when it exceeds the number of failures scheduled. -/
def sendWithin : Nat → Octets → SysM Errno Unit
  | 0, _ => throw .wouldBlock
  | bound + 1, payload => fun k =>
    match Kernel.attempt (.sendRaw payload IPv4.vrrpGroup) k with
    | (.ok (), k) => (.ok (), k)
    | (.error e, k) => if e = .wouldBlock then sendWithin bound payload k else (.error e, k)

def send (payload : Octets) : SysM Errno Unit := fun k =>
  sendWithin ((k.failures (SysCall.sendRaw payload IPv4.vrrpGroup).name).length + 1) payload k

def arrive (s : AdvertSocket) (a : Except Errno Octets) : AdvertSocket :=
  { s with arrivals := s.arrivals ++ [a] }

def takeArrival :
    List (Except Errno Octets) → Except Errno (Option Octets) × List (Except Errno Octets)
  | [] => (.ok none, [])
  | .ok d :: r => (.ok (some (d.take bufferLength)), r)
  | .error e :: r => if e = .wouldBlock then takeArrival r else (.error e, r)

def receive (s : AdvertSocket) : Except Errno (Option Octets) × AdvertSocket :=
  let (r, rest) := takeArrival s.arrivals
  (r, { s with arrivals := rest })

def close (s : AdvertSocket) : SysM Errno Unit := setOption .leaveGroup (membership s.localAddress)

end AdvertSocket
end VirtualRouter
