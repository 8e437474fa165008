import VirtualRouter.Address
import VirtualRouter.Timers

/-!
# Advertisements on the wire

The text of an advertisement in both versions: an eight-octet header, the virtual addresses,
and in version 2 eight octets of authentication data, which are always zero. Version 3 puts a
pseudo-header with both addresses before the text that the checksum covers. Around it stand the
part of an IPv4 header that receiving needs, and the header that sending puts before it.
-/

set_option autoImplicit false

namespace VirtualRouter

inductive Rejection
  | shortIpHeader (octets : Nat)
  | ttl (found : UInt8)
  | version (found : UInt8)
  | tooShort (found expected : Nat)
  | checksum
  | router (found : UInt8)
  | authType (found : UInt8)
  | addressCount (found : UInt8) (expected : Nat)
  | addressMismatch (position : Nat) (found : IPv4)
  | interval (found expected : UInt16)
  deriving DecidableEq

def Rejection.message : Rejection → String
  | shortIpHeader n => s!"truncated IP header ({n} bytes)"
  | ttl t => s!"wrong ttl {t.toNat}"
  | version v => s!"wrong version {v.toNat}"
  | tooShort found expected => s!"packet is too short: {found} bytes, expected at least {expected}"
  | checksum => "invalid checksum"
  | router v => s!"invalid vrid {v.toNat}"
  | authType t => s!"authentication type {t.toNat} not supported"
  | addressCount found expected => s!"virtual address count {found.toNat} does not match {expected}"
  | addressMismatch i a => s!"virtual address mismatch at position {i}: " ++ a.toText
  | interval found expected =>
    s!"advertisement interval {found.toNat} does not match {expected.toNat}"

structure Packet where
  version : Version
  vrid : UInt8
  priority : UInt8
  authType : UInt8
  advertInterval : UInt16
  checksum : UInt16
  addresses : List IPv4
  deriving DecidableEq

namespace Checksum

def protocolNumber : UInt8 := 112

def pseudoHeader (src dst : IPv4) (length : UInt16) : Octets :=
  src.octets ++ dst.octets ++ [0, protocolNumber] ++ Octets.big16 length

def withPseudoHeader (d : Octets) (src dst : IPv4) : UInt16 :=
  checksum d (partialSum (pseudoHeader src dst (UInt16.ofNat d.length)) 0)

end Checksum

namespace Packet

def advertising (version : Version) (vrid priority : UInt8) (advertInterval : UInt16)
    (addresses : List IPv4) : Packet :=
  ⟨version, vrid, priority, 0, advertInterval, 0, addresses⟩

def trailerLength : Version → Nat
  | .v2 => 8
  | .v3 => 0

def encodedLength (v : Version) (count : Nat) : Nat := 8 + count * 4 + trailerLength v

def checksumOf (v : Version) (d : Octets) (src dst : IPv4) : UInt16 :=
  match v with
  | .v2 => Checksum.checksum d 0
  | .v3 => Checksum.withPseudoHeader d src dst

/-- The two octets of the interval, behind the authentication type in version 2 and behind
four reserved bits in version 3. -/
def intervalField (v : Version) (interval : UInt16) : Octets :=
  match v with
  | .v2 => [0, UInt8.ofNat interval.toNat]
  | .v3 => Octets.big16 (UInt16.ofNat (interval.toNat % 4096))

def front (p : Packet) : Octets :=
  [UInt8.ofNat (16 * p.version.number.toNat + 1), p.vrid, p.priority,
    UInt8.ofNat p.addresses.length] ++ intervalField p.version p.advertInterval

def back (p : Packet) : Octets :=
  p.addresses.flatMap IPv4.octets ++ List.replicate (trailerLength p.version) 0

def encodeWith (p : Packet) (sum : UInt16) : Octets := p.front ++ Octets.big16 sum ++ p.back

def encode (p : Packet) (src dst : IPv4) : Octets :=
  p.encodeWith (checksumOf p.version (p.encodeWith 0) src dst)

def addressesOf : Octets → List IPv4
  | a :: b :: c :: d :: r => ⟨a, b, c, d⟩ :: addressesOf r
  | _ => []

def authTypeIn : Version → UInt8 → UInt8
  | .v2, x => x
  | .v3, _ => 0

def intervalIn : Version → UInt8 → UInt8 → UInt16
  | .v2, _, y => UInt16.ofNat y.toNat
  | .v3, x, y => Octets.word16 (x % 16) y

def parse (d : Octets) : Except Rejection Packet :=
  if d.length < 8 then .error (.tooShort d.length 8)
  else
    let nibble := d.byteAt 0 / 16
    match Version.ofNumber? nibble with
    | none => .error (.version nibble)
    | some v =>
      let count := (d.byteAt 3).toNat
      if d.length < encodedLength v count then .error (.tooShort d.length (encodedLength v count))
      else .ok {
        version := v
        vrid := d.byteAt 1
        priority := d.byteAt 2
        authType := authTypeIn v (d.byteAt 4)
        advertInterval := intervalIn v (d.byteAt 4) (d.byteAt 5)
        checksum := d.bigAt 6
        addresses := addressesOf ((d.drop 8).take (4 * count)) }

end Packet

structure Ipv4Header where
  headerLength : Nat
  totalLength : Nat
  ttl : UInt8
  src : IPv4
  dst : IPv4
  deriving DecidableEq

namespace Ipv4Header

def lengthIn (d : Octets) : Nat := 4 * ((d.byteAt 0).toNat % 16)

def fields (d : Octets) : Ipv4Header :=
  ⟨lengthIn d, (d.bigAt 2).toNat, d.byteAt 8, IPv4.fromOctets d 12, IPv4.fromOctets d 16⟩

def parse (d : Octets) : Except Rejection Ipv4Header :=
  if d.length < 20 ∨ lengthIn d < 20 ∨ d.length < lengthIn d then .error (.shortIpHeader d.length)
  else .ok (fields d)

def octetsWith (total : Nat) (src : IPv4) (ttl : UInt8) (sum : UInt16) : Octets :=
  [0x45, 0xc0] ++ Octets.big16 (UInt16.ofNat total) ++ [0, 0, 0, 0, ttl, Checksum.protocolNumber]
  ++ Octets.big16 sum ++ src.octets ++ IPv4.vrrpGroup.octets

end Ipv4Header

def datagram (payload : Octets) (src : IPv4) (ttl : UInt8) : Octets :=
  let total := 20 + payload.length
  let sum := Checksum.checksum (Ipv4Header.octetsWith total src ttl 0) 0
  Ipv4Header.octetsWith total src ttl sum ++ payload

end VirtualRouter
