import VirtualRouter.Settings
import VirtualRouter.PidFile

/-!
# The command

Reads the command line and the configuration file, and prints the settings that follow, or why
there are none.
-/

set_option autoImplicit false

open VirtualRouter

namespace VirtualRouter

def Config.toText (c : Config) : String :=
  String.intercalate "\n" [
    "version: " ++ c.version.name,
    "interface: " ++ c.interface,
    "virtual router: " ++ toString c.vrid.toNat,
    "priority: " ++ toString c.priority.toNat,
    "interval: " ++ toString c.advertInterval.toNat,
    "preempt: " ++ toString c.preempt,
    "addresses: " ++ String.intercalate ", " (c.addresses.map IPv4.toText)]

def Settings.toText (s : Settings) : String :=
  String.intercalate "\n" [
    s.router.toText,
    "daemonize: " ++ toString s.daemonize,
    "process file: " ++ PidFile.pathFor s.pidDir s.router.interface,
    "log: " ++ s.logLevel ++ (if s.logJson then " as JSON" else "") ++ " to " ++ s.logFile]

def UsageError.message : UsageError → String
  | .unknownArgument => "unknown argument"
  | .missingValue => "a value is missing"
  | .malformedValue => "a value is malformed"
  | .unneededValue => "an argument takes no value"
  | .repeated => "an argument is given twice"
  | .helpRequested =>
    "usage: vrrpd [-dn] [-i NAME] [-v VRID] [-p PRIORITY] [-I INTERVAL] [-P 2|3] [--config PATH] "
      ++ "[--pid-dir DIR] [--log-level LEVEL] [--log-file PATH] [--log-json] [VIRTUAL_IP]..."
  | .versionRequested => "vrrpd"

def settingsFor (line : CommandLine) (file : Option (String × String)) :
    Except ConfigFault Settings :=
  match file with
  | none => Settings.resolve line .empty
  | some (path, text) =>
    match FileConfig.ofText? text with
    | some c => Settings.resolve line c
    | none => .error (.malformedFile path)

end VirtualRouter

def readConfig (line : CommandLine) : IO (Option (String × String)) := do
  match line.config with
  | none => return none
  | some path => return some (path, ← IO.FS.readFile path)

def main (args : List String) : IO UInt32 := do
  match CommandLine.parse args with
  | .error e =>
    IO.eprintln e.message
    return if e = .helpRequested ∨ e = .versionRequested then 0 else 2
  | .ok line =>
    match settingsFor line (← readConfig line) with
    | .error f =>
      IO.eprintln (Fault.config f).message
      return 1
    | .ok s =>
      IO.println s.toText
      return 0
