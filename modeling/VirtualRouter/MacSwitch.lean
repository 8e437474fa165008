import VirtualRouter.Link
import VirtualRouter.Route.Socket
import VirtualRouter.Arp.Frame
import VirtualRouter.Node.Interaction

/-!
# Changing roles on the host

Putting the hardware address of the virtual router on an interface, or its own address back,
without losing the routes through the interface.
-/

set_option autoImplicit false

namespace VirtualRouter.MacSwitch

def outcome {α : Type} (act : SysM Fault α) : StateM Kernel (Except Fault α) := act

def saveRoutes : SysM Fault (List Route) := do
  let s ← RouteSocket.connect
  ExceptT.mk ((·.1) <$> s.snapshot)

def restoreRoutes (routes : List Route) (index : UInt32) : SysM Fault Unit :=
  if routes.isEmpty then return ()
  else do
    let s ← RouteSocket.connect
    ExceptT.mk ((·.1) <$> s.restore routes index)

def firstChange (b : Binding) (mac : Mac) : MacRole → SysM Fault Unit
  | .virtual => Link.setMac b.name mac
  | .real => Link.setPromiscuous b.name false

def secondChange (b : Binding) (mac : Mac) : MacRole → SysM Fault Unit
  | .virtual => Link.setPromiscuous b.name true
  | .real => Link.setMac b.name mac

/-- The two changes to the interface. Frames for the virtual address are taken in from when
the interface carries it until before it is taken off. -/
def linkChanges (b : Binding) (mac : Mac) (role : MacRole) : List (SysM Fault Unit) :=
  [firstChange b mac role, secondChange b mac role]

def runAll : List (SysM Fault Unit) → StateM Kernel (List (Except Fault Unit))
  | [] => pure []
  | act :: rest => do
    let r ← outcome act
    let rs ← runAll rest
    return r :: rs

def firstFault : List (Except Fault Unit) → Except Fault Unit
  | [] => .ok ()
  | .error f :: _ => .error f
  | .ok _ :: rest => firstFault rest

/-- Switches the hardware address of an interface for a role. Every step is made even if an
earlier one failed; routes that cannot be read are taken for none. -/
def switch (b : Binding) (mac : Mac) (role : MacRole) : SysM Fault Unit := ExceptT.mk do
  let saved ← outcome saveRoutes
  let routes := match saved with
    | .ok routes => routes
    | .error _ => []
  let results ← runAll (linkChanges b mac role ++ [restoreRoutes routes b.index])
  return firstFault results

def announce (index : UInt32) (mac : Mac) (address : IPv4) : SysM Fault Unit :=
  (ArpSocket.announce index mac address).adapt .io

end VirtualRouter.MacSwitch
