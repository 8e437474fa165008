import VirtualRouter.Fault

/-!
# Routes as messages

The routes of the main table, as the messages that report and add them. All words are in the
little-endian order of the local interface, and everything is padded to multiples of four. The
messages of one receive buffer are read one after the other: restorable routes are kept, the end
mark ends the dump, and an error or a malformed message fails it.
-/

set_option autoImplicit false

namespace VirtualRouter

structure Route where
  family : UInt8
  dstLen : UInt8
  srcLen : UInt8
  tos : UInt8
  table : UInt8
  protocol : UInt8
  scope : UInt8
  kind : UInt8
  flags : UInt32
  dst : Option IPv4
  src : Option IPv4
  prefSrc : Option IPv4
  gateway : Option IPv4
  oif : UInt32
  iif : Option UInt32
  priority : Option UInt32
  flow : Option UInt32
  metrics : Option Octets
  deriving DecidableEq

namespace Route

def align4 (n : Nat) : Nat := (n + 3) / 4 * 4

def mainTable : UInt8 := 254
def redirectProtocol : UInt8 := 1
def kernelProtocol : UInt8 := 2
def unicastKind : UInt8 := 1
def clonedFlag : UInt32 := 0x200

/-- Whether a route is saved: a unicast route of the main table with an output interface,
neither cloned, nor learned from a redirect, nor installed by the operating system itself. -/
def isRestorable (r : Route) : Bool :=
  r.table == mainTable && r.flags &&& clonedFlag == 0 && r.protocol != redirectProtocol
    && r.protocol != kernelProtocol && r.kind == unicastKind && r.oif != 0

def addressValue? : Octets → Option IPv4
  | [a, b, c, d] => some ⟨a, b, c, d⟩
  | _ => none

def wordValue? : Octets → Option UInt32
  | [b0, b1, b2, b3] => some (Octets.word32 b3 b2 b1 b0)
  | _ => none

def withAttribute (r : Route) (kind : UInt16) (value : Octets) : Route :=
  if kind = 1 then { r with dst := addressValue? value }
  else if kind = 2 then { r with src := addressValue? value }
  else if kind = 3 then { r with iif := wordValue? value }
  else if kind = 4 then { r with oif := (wordValue? value).getD 0 }
  else if kind = 5 then { r with gateway := addressValue? value }
  else if kind = 6 then { r with priority := wordValue? value }
  else if kind = 7 then { r with prefSrc := addressValue? value }
  else if kind = 8 then { r with metrics := some value }
  else if kind = 11 then { r with flow := wordValue? value }
  else r

def readAttributes (r : Route) (d : Octets) : Except NetlinkFault Route :=
  if d.length < 4 then .ok r
  else
    let length := (d.littleAt 0).toNat
    let kind := d.littleAt 2
    if length < 4 ∨ d.length < length then .error (.malformedAttribute kind.toNat length)
    else readAttributes (r.withAttribute kind ((d.take length).drop 4)) (d.drop (align4 length))
termination_by d.length
decreasing_by
  rename_i h hl
  simp only [List.length_drop, align4]
  omega

def parse (d : Octets) : Except NetlinkFault Route :=
  if d.length < 12 then .error (.shortRoute d.length)
  else
    readAttributes {
      family := d.byteAt 0
      dstLen := d.byteAt 1
      srcLen := d.byteAt 2
      tos := d.byteAt 3
      table := d.byteAt 4
      protocol := d.byteAt 5
      scope := d.byteAt 6
      kind := d.byteAt 7
      flags := d.doubleAt 8
      dst := none
      src := none
      prefSrc := none
      gateway := none
      oif := 0
      iif := none
      priority := none
      flow := none
      metrics := none } (d.drop 12)

def encodeAttribute (kind : UInt16) (value : Octets) : Octets :=
  let length := 4 + value.length
  Octets.little16 (UInt16.ofNat length) ++ Octets.little16 kind ++ value
    ++ List.replicate (align4 length - length) 0

def encodeAll (l : List (UInt16 × Octets)) : Octets := l.flatMap fun x => encodeAttribute x.1 x.2

def field {α : Type} (kind : UInt16) (value : α → Octets) (x : Option α) :
    List (UInt16 × Octets) :=
  (x.map fun a => (kind, value a)).toList

def attributes (r : Route) : List (UInt16 × Octets) :=
  field 2 IPv4.octets r.src ++ field 7 IPv4.octets r.prefSrc ++ field 1 IPv4.octets r.dst
  ++ field 5 IPv4.octets r.gateway
  ++ field 11 Octets.little32 r.flow
  ++ field 4 Octets.little32 (if r.oif = 0 then none else some r.oif)
  ++ field 3 Octets.little32 r.iif ++ field 6 Octets.little32 r.priority
  ++ field 8 id r.metrics

def header (r : Route) : Octets :=
  [r.family, r.dstLen, r.srcLen, r.tos, r.table, r.protocol, r.scope, r.kind]
  ++ Octets.little32 r.flags

def body (r : Route) : Octets := r.header ++ encodeAll r.attributes

end Route

/-! ## Messages -/

namespace RouteMessage

def headerLength : Nat := 16

def doneKind : UInt16 := 3
def errorKind : UInt16 := 2
def newRouteKind : UInt16 := 24
def dumpKind : UInt16 := 26

def encode (kind flags : UInt16) (sequence : UInt32) (body : Octets) : Octets :=
  Octets.little32 (UInt32.ofNat (headerLength + body.length)) ++ Octets.little16 kind
  ++ Octets.little16 flags ++ Octets.little32 sequence ++ Octets.little32 0 ++ body

def dumpRequest (sequence : UInt32) : Octets :=
  encode dumpKind 0x301 sequence (2 :: List.replicate 11 0)

def newRoute (r : Route) (sequence : UInt32) : Octets :=
  encode newRouteKind 0x405 sequence r.body

def errorCode (body : Octets) : Int :=
  if body.length < 4 then 0 else ((body.doubleAt 0).toNat : Int).bmod 4294967296

end RouteMessage

structure DumpChunk where
  routes : List Route
  done : Bool
  deriving DecidableEq

namespace DumpChunk

def empty : DumpChunk := ⟨[], false⟩

def keep (c : DumpChunk) (r : Route) : DumpChunk :=
  if r.isRestorable then { c with routes := c.routes ++ [r] } else c

def readFrom (c : DumpChunk) (d : Octets) : Except NetlinkFault DumpChunk :=
  if d.length < RouteMessage.headerLength then .ok c
  else
    let length := (d.doubleAt 0).toNat
    let kind := d.littleAt 4
    if length < RouteMessage.headerLength ∨ d.length < length then
      .error (.malformedMessage length)
    else
      let body := (d.take length).drop RouteMessage.headerLength
      if kind = RouteMessage.doneKind then .ok { c with done := true }
      else if kind = RouteMessage.errorKind then
        .error (.dumpRefused (-(RouteMessage.errorCode body)))
      else if kind = RouteMessage.newRouteKind then
        match Route.parse body with
        | .error e => .error e
        | .ok r => readFrom (c.keep r) (d.drop (Route.align4 length))
      else readFrom c (d.drop (Route.align4 length))
termination_by d.length
decreasing_by
  all_goals
    simp only [List.length_drop, Route.align4, RouteMessage.headerLength] at *
    omega

def read (d : Octets) : Except NetlinkFault DumpChunk := readFrom empty d

end DumpChunk

end VirtualRouter
