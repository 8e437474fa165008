import VirtualRouter.Route.Message
import VirtualRouter.Kernel

/-!
# Saving and restoring routes

Taking an interface down loses every route through it. The routes are read before, and added
again after, those without a gateway first, so that the gateways are within reach again.
-/

set_option autoImplicit false

namespace VirtualRouter

structure RouteSocket where
  sequence : UInt32
  deriving DecidableEq

def restoreOrder (routes : List Route) : List Route :=
  routes.filter (·.gateway.isNone) ++ routes.filter (·.gateway.isSome)

namespace RouteSocket

def netlink {α : Type} (cause : Errno → NetlinkFault) (act : SysM Errno α) : SysM Fault α :=
  act.adapt fun e => .netlink (cause e)

def ready : SysM Fault RouteSocket := do
  netlink .cannotBind (Kernel.attempt .bindNetlink)
  netlink .cannotConnect (Kernel.attempt .connectNetlink)
  return ⟨0⟩

def connect : SysM Fault RouteSocket := do
  netlink .cannotCreate (Kernel.attempt .openNetlink)
  ready

def next (s : RouteSocket) : RouteSocket := ⟨s.sequence + 1⟩

def send (message : Octets) : SysM Fault Unit :=
  netlink .cannotSend (Kernel.sendNetlink message)

def receive : SysM Fault Octets := netlink .cannotReceive Kernel.receiveNetlink

/-- Receives until the end mark of a dump. Each receive takes a buffer off the socket, so
that `bound` is never reached when it exceeds their number. -/
def collect : Nat → List Route → SysM Fault (List Route)
  | 0, routes => return routes
  | bound + 1, routes => do
    let buffer ← receive
    match DumpChunk.read buffer with
    | .error cause => throw (.netlink cause)
    | .ok chunk =>
      if chunk.done then return routes ++ chunk.routes
      else collect bound (routes ++ chunk.routes)

def snapshot (s : RouteSocket) : StateM Kernel (Except Fault (List Route) × RouteSocket) := do
  let routes ← ExceptT.run do
    send (RouteMessage.dumpRequest s.next.sequence)
    let k ← get
    collect (k.inbox.length + 1) []
  return (routes, s.next)

def replyNumber (reply : Octets) : Int :=
  if 6 ≤ reply.length ∧ reply.littleAt 4 = RouteMessage.errorKind then
    -(RouteMessage.errorCode (reply.drop RouteMessage.headerLength))
  else 0

def add (s : RouteSocket) (r : Route) : SysM Fault Unit := do
  send (RouteMessage.newRoute r s.sequence)
  let reply ← receive
  let number := replyNumber reply
  if number = 0 ∨ number = Errno.alreadyThere.number then return ()
  else throw (.netlink (.routeRefused r.dst ⟨number⟩))

def addAll (s : RouteSocket) : List Route → StateM Kernel (Except Fault Unit × RouteSocket)
  | [] => return (.ok (), s)
  | r :: rest => do
    match ← (s.next.add r).run with
    | .error f => return (.error f, s.next)
    | .ok () => s.next.addAll rest

def restore (s : RouteSocket) (routes : List Route) (index : UInt32) :
    StateM Kernel (Except Fault Unit × RouteSocket) :=
  s.addAll ((restoreOrder routes).filter (·.oif == index))

end RouteSocket
end VirtualRouter
