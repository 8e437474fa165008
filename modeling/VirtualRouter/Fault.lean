import VirtualRouter.Address
import VirtualRouter.Errno
import VirtualRouter.Timers
import VirtualRouter.Text.Quoted

/-!
# Faults

Everything that can stop an operation of the router, as causes, with the text of each cause.
-/

set_option autoImplicit false

namespace VirtualRouter

inductive NetlinkFault
  | cannotCreate (e : Errno)
  | cannotBind (e : Errno)
  | cannotConnect (e : Errno)
  | cannotSend (e : Errno)
  | cannotReceive (e : Errno)
  | shortRoute (octets : Nat)
  | malformedAttribute (kind octets : Nat)
  | malformedMessage (octets : Nat)
  | dumpRefused (number : Int)
  | routeRefused (destination : Option IPv4) (e : Errno)
  deriving DecidableEq

namespace NetlinkFault

def destinationText : Option IPv4 → String
  | none => "None"
  | some a => "Some(" ++ a.toText ++ ")"

def message : NetlinkFault → String
  | cannotCreate e => "Failed to create netlink socket: " ++ e.message
  | cannotBind e => "Failed to bind netlink socket: " ++ e.message
  | cannotConnect e => "Failed to connect netlink socket: " ++ e.message
  | cannotSend e => "Failed to send netlink message: " ++ e.message
  | cannotReceive e => "Failed to receive netlink message: " ++ e.message
  | shortRoute n => s!"rtmsg truncated to {n} bytes"
  | malformedAttribute kind n => s!"malformed route attribute {kind} ({n} bytes)"
  | malformedMessage n => s!"malformed netlink message length {n}"
  | dumpRefused n => s!"route dump failed: errno {n}"
  | routeRefused d e => "RTM_NEWROUTE for " ++ destinationText d ++ " failed: " ++ e.message

end NetlinkFault

inductive InterfaceFault
  | invalidName (name : String)
  | unknownName (name : String) (e : Errno)
  | requestFailed (name request : String) (e : Errno)
  deriving DecidableEq

def InterfaceFault.message : InterfaceFault → String
  | invalidName name => "invalid interface name " ++ Text.quoted name
  | unknownName name e => name ++ ": no such interface: " ++ e.message
  | requestFailed name request e => name ++ ": " ++ request ++ " failed: " ++ e.message

inductive PathFault
  | refused (e : Errno)
  | nulInPath
  | notText
  deriving DecidableEq

def PathFault.message : PathFault → String
  | refused e => e.message
  | nulInPath => "file name contained an unexpected NUL byte"
  | notText => "stream did not contain valid UTF-8"

inductive ConfigFault
  | zeroRouter
  | zeroPriority
  | noAddress
  | tooManyAddresses (count : Nat)
  | repeatedAddress (address : IPv4)
  | emptyInterface
  | longInterface (name : String)
  | intervalOutOfRange (version : Version)
  | ownerPriority (interface : String)
  | unsupportedVersion (number : UInt8)
  | interfaceMissing
  | routerMissing
  | unknownLogFormat (format : String)
  | cannotReadFile (path : String) (why : PathFault)
  | malformedFile (path : String)
  | cannotOpenLog (path : String) (why : PathFault)
  deriving DecidableEq

def maxAddresses : Nat := 16

def maxNameLength : Nat := 15

def ConfigFault.message : ConfigFault → String
  | zeroRouter => "VRID must be between 1 and 255"
  | zeroPriority => "Priority must be between 1 and 255"
  | noAddress => "At least one virtual IP is required"
  | tooManyAddresses n => s!"At most {maxAddresses} virtual IPs are supported, got {n}"
  | repeatedAddress a => "Duplicate virtual IP " ++ a.toText
  | emptyInterface => "Interface name is required"
  | longInterface name =>
    "Interface name " ++ name ++ s!" is longer than {maxNameLength} characters"
  | intervalOutOfRange v =>
    s!"Advertisement interval must be between 1 and {v.maxInterval.toNat} for " ++ v.name
  | ownerPriority name =>
    "priority 255 is reserved for the owner of a virtual address, " ++ name ++ " owns none"
  | unsupportedVersion n => s!"unsupported protocol version {n.toNat}"
  | interfaceMissing => "interface name is required (-i)"
  | routerMissing => "virtual router ID is required (-v)"
  | unknownLogFormat f =>
    "unknown log format " ++ Text.quoted f ++ ", expected \"text\" or \"json\""
  | cannotReadFile path why => "cannot read " ++ path ++ ": " ++ why.message
  | malformedFile path => path ++ ": malformed document"
  | cannotOpenLog path why => "cannot open log file " ++ path ++ ": " ++ why.message

inductive PidFileFault
  | alreadyExists (path interface : String)
  | cannotCreate (path : String) (why : PathFault)
  | cannotWrite (path : String) (why : PathFault)
  | cannotRemove (path : String) (why : PathFault)
  deriving DecidableEq

def PidFileFault.message : PidFileFault → String
  | alreadyExists path name =>
    path ++ " already exists, is another vrrpd running on " ++ name ++ "?"
  | cannotCreate path why => "cannot create " ++ path ++ ": " ++ why.message
  | cannotWrite path why => "cannot write " ++ path ++ ": " ++ why.message
  | cannotRemove path why => "cannot remove " ++ path ++ ": " ++ why.message

inductive FaultKind
  | io
  | netlink
  | interface
  | config
  | pidFile
  | other
  deriving DecidableEq

namespace FaultKind

def label : FaultKind → String
  | io => "IO error"
  | netlink => "Netlink error"
  | interface => "Interface error"
  | config => "Configuration error"
  | pidFile => "PID file error"
  | other => "Unknown error"

def describe (k : FaultKind) (detail : String) : String := k.label ++ ": " ++ detail

end FaultKind

inductive Fault
  | io (e : Errno)
  | netlink (cause : NetlinkFault)
  | interface (cause : InterfaceFault)
  | config (cause : ConfigFault)
  | pidFile (cause : PidFileFault)
  deriving DecidableEq

namespace Fault

def kind : Fault → FaultKind
  | io _ => .io
  | netlink _ => .netlink
  | interface _ => .interface
  | config _ => .config
  | pidFile _ => .pidFile

def detail : Fault → String
  | io e => e.message
  | netlink c => c.message
  | interface c => c.message
  | config c => c.message
  | pidFile c => c.message

def message (f : Fault) : String := f.kind.describe f.detail

end Fault
end VirtualRouter
