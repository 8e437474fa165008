import VirtualRouter.Kernel
import VirtualRouter.Config

/-!
# Interfaces

Reading and changing the flags and addresses of an interface by its name.
-/

set_option autoImplicit false

namespace VirtualRouter.Link

def checkName (name : String) : SysM Fault Unit :=
  if name.isEmpty ∨ maxNameLength < name.utf8ByteSize ∨ name.toList.contains (Char.ofNat 0) then
    throw (.interface (.invalidName name))
  else return ()

def openSocket : SysM Fault Unit := (Kernel.attempt .openInet).adapt .io

def request {α : Type} (name call : String) (act : SysM Errno α) : SysM Fault α := do
  checkName name
  act.adapt fun e => .interface (.requestFailed name call e)

def getFlags (name : String) : SysM Fault UInt16 :=
  request name "SIOCGIFFLAGS" (Kernel.getFlags name)

def setFlags (name : String) (flags : UInt16) : SysM Fault Unit :=
  request name "SIOCSIFFLAGS" (Kernel.setFlags name flags)

def index (name : String) : SysM Fault UInt32 :=
  if name.toList.contains (Char.ofNat 0) then throw (.interface (.invalidName name))
  else (Kernel.interfaceIndex name).adapt fun e => .interface (.unknownName name e)

def getMac (name : String) : SysM Fault Mac := do
  openSocket
  request name "SIOCGIFHWADDR" (Kernel.getMac name)

def getAddress (name : String) : SysM Fault IPv4 := do
  openSocket
  request name "SIOCGIFADDR" (Kernel.getAddress name)

def readFlags (name : String) : SysM Fault UInt16 := do
  openSocket
  getFlags name

/-- Changes the hardware address of an interface with the given flags. It is down meanwhile, and
the flags are put back also when the change failed. -/
def replaceMac (name : String) (mac : Mac) (flags : UInt16) : SysM Fault Unit := do
  setFlags name (flags &&& ~~~Interface.upFlag)
  checkName name
  let changed ← observe (request name "SIOCSIFHWADDR" (Kernel.setMac name mac))
  setFlags name flags
  match changed with
  | .ok () => return ()
  | .error f => throw f
where
  observe (act : SysM Fault Unit) : SysM Fault (Except Fault Unit) := fun k =>
    let (r, k) := act k
    (.ok r, k)

def setMac (name : String) (mac : Mac) : SysM Fault Unit := readFlags name >>= replaceMac name mac

def promiscuous (enable : Bool) (flags : UInt16) : UInt16 :=
  if enable then flags ||| Interface.promiscuousFlag else flags &&& ~~~Interface.promiscuousFlag

def toggle (name : String) (enable : Bool) (flags : UInt16) : SysM Fault Unit :=
  if promiscuous enable flags = flags then return ()
  else setFlags name (promiscuous enable flags)

def setPromiscuous (name : String) (enable : Bool) : SysM Fault Unit :=
  readFlags name >>= toggle name enable

def bindingOf (name : String) : SysM Fault Binding := do
  let i ← index name
  let mac ← getMac name
  let address ← getAddress name
  return ⟨name, i, mac, address⟩

end VirtualRouter.Link
