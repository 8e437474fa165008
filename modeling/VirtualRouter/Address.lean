import VirtualRouter.Wire.Octets
import VirtualRouter.Text.Reading

/-!
# Network and hardware addresses

IPv4 addresses with their dotted text and their order as numbers, and Ethernet hardware
addresses with the one that belongs to a virtual router.
-/

set_option autoImplicit false

namespace VirtualRouter

structure IPv4 where
  a : UInt8
  b : UInt8
  c : UInt8
  d : UInt8
  deriving DecidableEq

namespace IPv4

def octets (x : IPv4) : Octets := [x.a, x.b, x.c, x.d]

def toNat (x : IPv4) : Nat :=
  16777216 * x.a.toNat + 65536 * x.b.toNat + 256 * x.c.toNat + x.d.toNat

def ofNat (n : Nat) : IPv4 :=
  ⟨UInt8.ofNat (n / 16777216), UInt8.ofNat (n / 65536), UInt8.ofNat (n / 256), UInt8.ofNat n⟩

def fromOctets (d : Octets) (i : Nat) : IPv4 :=
  ⟨d.byteAt i, d.byteAt (i + 1), d.byteAt (i + 2), d.byteAt (i + 3)⟩

def toText (x : IPv4) : String :=
  s!"{x.a.toNat}.{x.b.toNat}.{x.c.toNat}.{x.d.toNat}"

def number? (cs : List Char) : Option UInt8 :=
  if Text.hasLeadingZero cs || 3 < cs.length then none
  else ((Text.natural? 10 cs).filter (· < 256)).map UInt8.ofNat

def ofText? (s : String) : Option IPv4 :=
  match (Text.fields '.' s.toList).map number? with
  | [some a, some b, some c, some d] => some ⟨a, b, c, d⟩
  | _ => none

def vrrpGroup : IPv4 := ⟨224, 0, 0, 18⟩

@[simp] theorem length_octets (x : IPv4) : x.octets.length = 4 := rfl

end IPv4

structure Mac where
  a : UInt8
  b : UInt8
  c : UInt8
  d : UInt8
  e : UInt8
  f : UInt8
  deriving DecidableEq

namespace Mac

def octets (x : Mac) : Octets := [x.a, x.b, x.c, x.d, x.e, x.f]

def fromOctets (d : Octets) (i : Nat) : Mac :=
  ⟨d.byteAt i, d.byteAt (i + 1), d.byteAt (i + 2), d.byteAt (i + 3), d.byteAt (i + 4),
   d.byteAt (i + 5)⟩

def ofRouter (vrid : UInt8) : Mac := ⟨0x00, 0x00, 0x5e, 0x00, 0x01, vrid⟩

def broadcast : Mac := ⟨0xff, 0xff, 0xff, 0xff, 0xff, 0xff⟩

def octetText (x : UInt8) : String :=
  String.ofList [Nat.digitChar (x.toNat / 16), Nat.digitChar (x.toNat % 16)]

def toText (x : Mac) : String := String.intercalate ":" (x.octets.map octetText)

@[simp] theorem length_octets (x : Mac) : x.octets.length = 6 := rfl

end Mac
end VirtualRouter
