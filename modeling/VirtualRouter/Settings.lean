import VirtualRouter.CommandLine
import VirtualRouter.ConfigFile
import VirtualRouter.Config
import VirtualRouter.FileSystem

/-!
# Settings of the daemon

What the command line and the configuration file say together. The command line wins.
-/

set_option autoImplicit false

namespace VirtualRouter

structure Settings where
  router : Config
  daemonize : Bool
  pidDir : String
  logLevel : String
  logJson : Bool
  logFile : String

namespace Settings

def defaultPidDir : String := "/var/run"
def defaultLogDir : String := "/var/log"
def defaultLogLevel : String := "info"

def version (line : CommandLine) (file : FileConfig) : Except ConfigFault Version :=
  match line.protocol, file.protocol with
  | some v, _ => .ok v
  | none, some n =>
    match Version.ofNumber? n with
    | some v => .ok v
    | none => .error (.unsupportedVersion n)
  | none, none => .ok .v3

def routerConfig (line : CommandLine) (file : FileConfig) (v : Version) (interface : String)
    (vrid : UInt8) : Config where
  version := v
  vrid := vrid
  priority := (line.priority.or file.priority).getD defaultPriority
  advertInterval := (line.interval.or file.advertInterval).getD v.defaultInterval
  interface := interface
  addresses := if line.addresses.isEmpty then file.addresses else line.addresses
  preempt := !line.noPreempt && file.preempt.getD true

def wantsJson (line : CommandLine) (file : FileConfig) : Except ConfigFault Bool :=
  if line.logJson then .ok true
  else match file.logging.format with
  | none => .ok false
  | some f =>
    if f = "text" then .ok false
    else if f = "json" then .ok true
    else .error (.unknownLogFormat f)

def resolve (line : CommandLine) (file : FileConfig) : Except ConfigFault Settings := do
  let v ← version line file
  let interface ← match line.ifname.or file.interface with
    | some name => Except.ok name
    | none => .error .interfaceMissing
  let vrid ← match line.vrid.or file.vrid with
    | some n => Except.ok n
    | none => .error .routerMissing
  let router := routerConfig line file v interface vrid
  match router.fault? with
  | some f => .error f
  | none =>
    let json ← wantsJson line file
    return {
      router := router
      daemonize := line.daemonize || file.daemonize
      pidDir := (line.pidDir.or file.pidDir).getD defaultPidDir
      logLevel := (line.logLevel.or file.logging.level).getD defaultLogLevel
      logJson := json
      logFile := (line.logFile.or file.logging.file).getD
        (Path.join defaultLogDir ("vrrpd_" ++ interface ++ ".log")) }

end Settings
end VirtualRouter
