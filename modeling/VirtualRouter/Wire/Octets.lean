/-!
# Words as octets

Sixteen- and thirty-two-bit words in network order (big-endian) and in the order of the
local routing interface (little-endian), over plain lists of octets; and the Internet checksum,
the ones'-complement sum of the big-endian words of a text, complemented.
-/

set_option autoImplicit false

namespace VirtualRouter

abbrev Octets := List UInt8

namespace Octets

def byteAt (d : Octets) (i : Nat) : UInt8 := d.getD i 0

def word16 (hi lo : UInt8) : UInt16 := UInt16.ofNat (256 * hi.toNat + lo.toNat)

def word32 (b3 b2 b1 b0 : UInt8) : UInt32 :=
  UInt32.ofNat (16777216 * b3.toNat + 65536 * b2.toNat + 256 * b1.toNat + b0.toNat)

def big16 (w : UInt16) : Octets := [UInt8.ofNat (w.toNat / 256), UInt8.ofNat w.toNat]

def little16 (w : UInt16) : Octets := [UInt8.ofNat w.toNat, UInt8.ofNat (w.toNat / 256)]

def little32 (w : UInt32) : Octets :=
  [UInt8.ofNat w.toNat, UInt8.ofNat (w.toNat / 256), UInt8.ofNat (w.toNat / 65536),
   UInt8.ofNat (w.toNat / 16777216)]

def bigAt (d : Octets) (i : Nat) : UInt16 := word16 (d.byteAt i) (d.byteAt (i + 1))

def littleAt (d : Octets) (i : Nat) : UInt16 := word16 (d.byteAt (i + 1)) (d.byteAt i)

def doubleAt (d : Octets) (i : Nat) : UInt32 :=
  word32 (d.byteAt (i + 3)) (d.byteAt (i + 2)) (d.byteAt (i + 1)) (d.byteAt i)

@[simp] theorem length_big16 (w : UInt16) : (big16 w).length = 2 := rfl

@[simp] theorem length_little16 (w : UInt16) : (little16 w).length = 2 := rfl

@[simp] theorem length_little32 (w : UInt32) : (little32 w).length = 4 := rfl

end Octets

namespace Checksum

def fold (s : Nat) : Nat := s % 65536 + s / 65536

def partialSum : Octets → Nat → Nat
  | [], s => s
  | [x], s => fold (s + 256 * x.toNat)
  | x :: y :: r, s => partialSum r (fold (s + (256 * x.toNat + y.toNat)))

theorem fold_lt {s : Nat} (h : 65536 ≤ s) : fold s < s := by
  unfold fold; omega

def reduce (s : Nat) : Nat :=
  if 65536 ≤ s then reduce (fold s) else s
termination_by s
decreasing_by exact fold_lt ‹_›

def finish (s : Nat) : UInt16 := UInt16.ofNat (65535 - reduce s)

def checksum (d : Octets) (seed : Nat) : UInt16 := finish (partialSum d seed)

end Checksum
end VirtualRouter
