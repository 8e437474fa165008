import VirtualRouter.Fault

/-!
# Configuration of a virtual router

What an operator chooses, the interface it is bound to, and which choices are usable. Intervals
are in the unit of the version.
-/

set_option autoImplicit false

namespace VirtualRouter

structure Config where
  version : Version
  vrid : UInt8
  priority : UInt8
  advertInterval : UInt16
  interface : String
  addresses : List IPv4
  preempt : Bool

structure Binding where
  name : String
  index : UInt32
  mac : Mac
  address : IPv4
  deriving DecidableEq

def releasePriority : UInt8 := 0

def ownerPriority : UInt8 := 255

def defaultPriority : UInt8 := 100

def firstRepeat? : List IPv4 → List IPv4 → Option IPv4
  | _, [] => none
  | seen, a :: r => if a ∈ seen then some a else firstRepeat? (a :: seen) r

namespace Config

def initial : Config where
  version := .v3
  vrid := 1
  priority := defaultPriority
  advertInterval := Version.v3.defaultInterval
  interface := "eth0"
  addresses := []
  preempt := true

def fault? (c : Config) : Option ConfigFault :=
  if c.vrid = 0 then some .zeroRouter
  else if c.priority = releasePriority then some .zeroPriority
  else if c.addresses.isEmpty then some .noAddress
  else if maxAddresses < c.addresses.length then some (.tooManyAddresses c.addresses.length)
  else match firstRepeat? [] c.addresses with
  | some a => some (.repeatedAddress a)
  | none =>
    if c.interface.isEmpty then some .emptyInterface
    else if maxNameLength < c.interface.utf8ByteSize then some (.longInterface c.interface)
    else if c.advertInterval = 0 ∨ c.version.maxInterval < c.advertInterval then
      some (.intervalOutOfRange c.version)
    else none

def advertMicros (c : Config) : Nat := c.version.intervalMicros c.advertInterval

def owns (c : Config) (a : IPv4) : Bool := c.addresses.contains a

end Config
end VirtualRouter
