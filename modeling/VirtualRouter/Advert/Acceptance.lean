import VirtualRouter.Advert.Packet

/-!
# Accepting advertisements

Which received datagrams are advertisements of the local virtual router, and what is taken
from them. The checks run in a fixed order and the first that fails is reported.
-/

set_option autoImplicit false

namespace VirtualRouter

structure Expectation where
  version : Version
  vrid : UInt8
  addresses : List IPv4
  advertInterval : UInt16

structure Advert where
  priority : UInt8
  source : IPv4
  interval : Option Nat
  deriving DecidableEq

def requiredTtl : UInt8 := 255

def firstMismatch? : Nat → List IPv4 → List IPv4 → Option (Nat × IPv4)
  | i, a :: as, b :: bs => if a = b then firstMismatch? (i + 1) as bs else some (i, a)
  | _, _, _ => none

namespace Expectation

def length (x : Expectation) : Nat := Packet.encodedLength x.version x.addresses.length

def acceptPacket (x : Expectation) (source : IPv4) (p : Packet) : Except Rejection Advert :=
  if p.vrid ≠ x.vrid then .error (.router p.vrid)
  else if x.version = .v2 ∧ p.authType ≠ 0 then .error (.authType p.authType)
  else if p.addresses.length ≠ x.addresses.length then
    .error (.addressCount (UInt8.ofNat p.addresses.length) x.addresses.length)
  else match firstMismatch? 0 p.addresses x.addresses with
  | some (i, a) => .error (.addressMismatch i a)
  | none =>
    match x.version with
    | .v2 =>
      if p.advertInterval ≠ x.advertInterval then
        .error (.interval p.advertInterval x.advertInterval)
      else .ok ⟨p.priority, source, none⟩
    | .v3 => .ok ⟨p.priority, source, some (x.version.intervalMicros p.advertInterval)⟩

def acceptPayload (x : Expectation) (ip : Ipv4Header) (payload : Octets) :
    Except Rejection Advert :=
  if payload.isEmpty then .error (.tooShort 0 x.length)
  else if payload.byteAt 0 / 16 ≠ x.version.number then
    .error (.version (payload.byteAt 0 / 16))
  else if payload.length < x.length then .error (.tooShort payload.length x.length)
  else if Packet.checksumOf x.version (payload.take x.length) ip.src ip.dst ≠ 0 then
    .error .checksum
  else match Packet.parse (payload.take x.length) with
  | .error r => .error r
  | .ok p => x.acceptPacket ip.src p

/-- Checks a datagram. Its payload ends where the header says, or with the datagram. -/
def accept (x : Expectation) (d : Octets) : Except Rejection Advert :=
  match Ipv4Header.parse d with
  | .error r => .error r
  | .ok ip =>
    if ip.ttl ≠ requiredTtl then .error (.ttl ip.ttl)
    else
      let fin := max (min ip.totalLength d.length) ip.headerLength
      x.acceptPayload ip ((d.take fin).drop ip.headerLength)

end Expectation
end VirtualRouter
