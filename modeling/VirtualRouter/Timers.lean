/-!
# Protocol versions and timers

The version decides the layout of an advertisement, the unit of its interval, what its
checksum covers, and whether a backup takes over the interval of the master.

Times are microseconds of a clock that may be set at any moment. A deadline that lies further
ahead than its own interval can only mean that the clock was set back, and counts as passed,
so that no timer waits for longer than its interval.
-/

set_option autoImplicit false

namespace VirtualRouter

inductive Version
  | v2
  | v3
  deriving DecidableEq

namespace Version

def number : Version → UInt8
  | v2 => 2
  | v3 => 3

def ofNumber? (n : UInt8) : Option Version :=
  if n = 2 then some v2 else if n = 3 then some v3 else none

def name (v : Version) : String := "VRRPv" ++ toString v.number.toNat

def unitMicros : Version → Nat
  | v2 => 1000000
  | v3 => 10000

def intervalMicros (v : Version) (interval : UInt16) : Nat := interval.toNat * v.unitMicros

def maxInterval : Version → UInt16
  | v2 => 255
  | v3 => 4095

def defaultInterval : Version → UInt16
  | v2 => 1
  | v3 => 100

def resyncs : Version → Bool
  | v2 => false
  | v3 => true

end Version

def signed64 (n : Nat) : Int := (n : Int).bmod 18446744073709551616

/-- Whether a timer armed for `deadline` has fired: the deadline has passed, or more than
`bound` is left. -/
def timerFired (deadline bound now : Nat) : Bool :=
  let left := signed64 deadline - signed64 now
  left < 0 || signed64 bound < left

def skewTime (priority : UInt8) (interval : Nat) : Nat :=
  (256 - priority.toNat) * interval / 256

def masterDownInterval (priority : UInt8) (interval : Nat) : Nat :=
  3 * interval + skewTime priority interval

structure Timers where
  priority : UInt8
  advertInterval : Nat
  masterInterval : Nat
  skew : Nat
  masterDown : Nat
  advertDeadline : Option Nat
  masterDownDeadline : Option Nat
  deriving DecidableEq

namespace Timers

def recompute (t : Timers) : Timers :=
  { t with
    skew := skewTime t.priority t.masterInterval
    masterDown := masterDownInterval t.priority t.masterInterval }

def start (priority : UInt8) (interval : Nat) : Timers :=
  recompute ⟨priority, interval, interval, 0, 0, none, none⟩

def resync (t : Timers) (v : Version) (interval : Nat) : Timers :=
  if v.resyncs then recompute { t with masterInterval := interval } else t

def armAdvert (t : Timers) (now : Nat) : Timers :=
  { t with advertDeadline := some (now + t.advertInterval), masterDownDeadline := none }

def armMasterDown (t : Timers) (now : Nat) : Timers :=
  { t with advertDeadline := none, masterDownDeadline := some (now + t.masterDown) }

def armSkew (t : Timers) (now : Nat) : Timers :=
  { t with advertDeadline := none, masterDownDeadline := some (now + t.skew) }

def disarm (t : Timers) : Timers :=
  { t with advertDeadline := none, masterDownDeadline := none }

def advertFired (t : Timers) (now : Nat) : Bool :=
  t.advertDeadline.any fun d => timerFired d t.advertInterval now

def masterDownFired (t : Timers) (now : Nat) : Bool :=
  t.masterDownDeadline.any fun d => timerFired d t.masterDown now

def remaining (t : Timers) (now : Nat) : Nat :=
  match t.advertDeadline.or t.masterDownDeadline with
  | some d => d - now
  | none => 0

end Timers

end VirtualRouter
