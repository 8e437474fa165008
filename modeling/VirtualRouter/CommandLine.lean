import VirtualRouter.Address
import VirtualRouter.Timers

/-!
# The command line

Arguments are read from left to right. A value is looked at only when the next argument that
is known comes, or at the end, so that an unknown argument is reported before a bad value in
front of it.
-/

set_option autoImplicit false

namespace VirtualRouter

structure CommandLine where
  daemonize : Bool
  ifname : Option String
  vrid : Option UInt8
  noPreempt : Bool
  priority : Option UInt8
  interval : Option UInt16
  protocol : Option Version
  config : Option String
  pidDir : Option String
  logLevel : Option String
  logFile : Option String
  logJson : Bool
  addresses : List IPv4
  deriving DecidableEq

inductive UsageError
  | unknownArgument
  | missingValue
  | malformedValue
  | unneededValue
  | repeated
  | helpRequested
  | versionRequested
  deriving DecidableEq

namespace CommandLine

def empty : CommandLine where
  daemonize := false
  ifname := none
  vrid := none
  noPreempt := false
  priority := none
  interval := none
  protocol := none
  config := none
  pidDir := none
  logLevel := none
  logFile := none
  logJson := false
  addresses := []

inductive Flag
  | daemonize
  | noPreempt
  | logJson
  deriving DecidableEq

inductive Setting
  | ifname
  | vrid
  | priority
  | interval
  | protocol
  | config
  | pidDir
  | logLevel
  | logFile
  deriving DecidableEq

inductive Argument
  | flag (f : Flag)
  | setting (o : Setting)
  | help
  | version

def longArgument? (name : String) : Option Argument :=
  match name with
  | "daemonize" => some (.flag .daemonize)
  | "no-preempt" => some (.flag .noPreempt)
  | "log-json" => some (.flag .logJson)
  | "ifname" => some (.setting .ifname)
  | "vrid" => some (.setting .vrid)
  | "priority" => some (.setting .priority)
  | "interval" => some (.setting .interval)
  | "protocol" => some (.setting .protocol)
  | "config" => some (.setting .config)
  | "pid-dir" => some (.setting .pidDir)
  | "log-level" => some (.setting .logLevel)
  | "log-file" => some (.setting .logFile)
  | "help" => some .help
  | "version" => some .version
  | _ => none

def shortArgument? (letter : Char) : Option Argument :=
  match letter with
  | 'd' => some (.flag .daemonize)
  | 'n' => some (.flag .noPreempt)
  | 'i' => some (.setting .ifname)
  | 'v' => some (.setting .vrid)
  | 'p' => some (.setting .priority)
  | 'I' => some (.setting .interval)
  | 'P' => some (.setting .protocol)
  | 'h' => some .help
  | 'V' => some .version
  | _ => none

def isOn (c : CommandLine) : Flag → Bool
  | .daemonize => c.daemonize
  | .noPreempt => c.noPreempt
  | .logJson => c.logJson

def turnOn (c : CommandLine) : Flag → CommandLine
  | .daemonize => { c with daemonize := true }
  | .noPreempt => { c with noPreempt := true }
  | .logJson => { c with logJson := true }

def isGiven (c : CommandLine) : Setting → Bool
  | .ifname => c.ifname.isSome
  | .vrid => c.vrid.isSome
  | .priority => c.priority.isSome
  | .interval => c.interval.isSome
  | .protocol => c.protocol.isSome
  | .config => c.config.isSome
  | .pidDir => c.pidDir.isSome
  | .logLevel => c.logLevel.isSome
  | .logFile => c.logFile.isSome

/-! ## Values -/

def integer? (s : String) : Option Int :=
  match s.toList with
  | '+' :: r => (Text.natural? 10 r).map Int.ofNat
  | '-' :: r => (Text.natural? 10 r).map fun n => -Int.ofNat n
  | r => (Text.natural? 10 r).map Int.ofNat

def inRange (low high : Int) (s : String) : Except UsageError Nat :=
  match integer? s with
  | some n => if low ≤ n ∧ n ≤ high then .ok n.toNat else .error .malformedValue
  | none => .error .malformedValue

def protocol? (s : String) : Option Version :=
  if s.toList.head? = some '-' then none
  else match integer? s with
  | some 2 => some .v2
  | some 3 => some .v3
  | _ => none

def octet (s : String) : Except UsageError UInt8 := (inRange 1 255 s).map UInt8.ofNat

def path (s : String) : Except UsageError String :=
  if s.isEmpty then .error .missingValue else .ok s

def withSetting (c : CommandLine) (o : Setting) (s : String) : Except UsageError CommandLine :=
  match o with
  | .ifname => .ok { c with ifname := some s }
  | .vrid => (octet s).map fun n => { c with vrid := some n }
  | .priority => (octet s).map fun n => { c with priority := some n }
  | .interval => (inRange 0 65535 s).map fun n => { c with interval := some (UInt16.ofNat n) }
  | .protocol =>
    match protocol? s with
    | some v => .ok { c with protocol := some v }
    | none => .error .malformedValue
  | .config => (path s).map fun p => { c with config := some p }
  | .pidDir => (path s).map fun p => { c with pidDir := some p }
  | .logLevel => .ok { c with logLevel := some s }
  | .logFile => (path s).map fun p => { c with logFile := some p }

def give (c : CommandLine) (o : Setting) (s : String) : Except UsageError CommandLine :=
  if c.isGiven o then .error .repeated else c.withSetting o s

def withAddresses (c : CommandLine) : List String → Except UsageError CommandLine
  | [] => .ok c
  | s :: r =>
    match IPv4.ofText? s with
    | some a => { c with addresses := c.addresses ++ [a] }.withAddresses r
    | none => .error .malformedValue

/-! ## Reading -/

inductive Pending
  | nothing
  | awaiting (o : Setting)
  | value (o : Setting) (s : String)
  | words (ws : List String)

structure Reading where
  result : CommandLine
  pending : Pending

namespace Reading

def resolve (r : Reading) : Except UsageError CommandLine :=
  match r.pending with
  | .nothing => .ok r.result
  | .awaiting _ => .error .missingValue
  | .value o s => r.result.give o s
  | .words ws => r.result.withAddresses ws

def flag (r : Reading) (f : Flag) : Except UsageError Reading := do
  let c ← r.resolve
  if c.isOn f then .error .repeated else .ok ⟨c.turnOn f, .nothing⟩

def setting (r : Reading) (o : Setting) : Option String → Except UsageError Reading
  | none => do
    let c ← r.resolve
    return ⟨c, .awaiting o⟩
  | some s => do
    let c ← r.resolve
    let c ← c.give o s
    return ⟨c, .nothing⟩

def finish (r : Reading) (e : UsageError) : Except UsageError Reading := do
  let _ ← r.resolve
  .error e

def long (r : Reading) (name : String) (value : Option String) : Except UsageError Reading :=
  match longArgument? name with
  | none => .error .unknownArgument
  | some (.setting o) => r.setting o value
  | some (.flag f) => if value.isSome then .error .unneededValue else r.flag f
  | some .help => if value.isSome then .error .unneededValue else r.finish .helpRequested
  | some .version => if value.isSome then .error .unneededValue else r.finish .versionRequested

def attached : List Char → Option String
  | [] => none
  | '=' :: cs => some (String.ofList cs)
  | cs => some (String.ofList cs)

def short (r : Reading) : List Char → Except UsageError Reading
  | [] => .ok r
  | c :: cs =>
    match shortArgument? c with
    | none => .error .unknownArgument
    | some (.setting o) => r.setting o (attached cs)
    | some (.flag f) =>
      match r.flag f with
      | .ok r => r.short cs
      | .error e => .error e
    | some .help => r.finish .helpRequested
    | some .version => r.finish .versionRequested

def word (r : Reading) (s : String) : Except UsageError Reading :=
  match r.pending with
  | .words ws => .ok { r with pending := .words (ws ++ [s]) }
  | _ => do
    let c ← r.resolve
    return ⟨c, .words [s]⟩

def splitLong (cs : List Char) : String × Option String :=
  let name := String.ofList (cs.takeWhile (· != '='))
  match cs.dropWhile (· != '=') with
  | [] => (name, none)
  | _ :: value => (name, some (String.ofList value))

def read (onlyWords : Bool) (r : Reading) : List String → Except UsageError CommandLine
  | [] => r.resolve
  | s :: rest =>
    if onlyWords then
      match r.word s with
      | .ok r => r.read true rest
      | .error e => .error e
    else
      match s.toList with
      | ['-', '-'] => r.read true rest
      | '-' :: '-' :: cs =>
        match r.long (splitLong cs).1 (splitLong cs).2 with
        | .ok r => r.read false rest
        | .error e => .error e
      | '-' :: c :: cs =>
        match r.short (c :: cs) with
        | .ok r => r.read false rest
        | .error e => .error e
      | _ =>
        match r.pending with
        | .awaiting o => { r with pending := .value o s }.read false rest
        | _ =>
          match r.word s with
          | .ok r => r.read false rest
          | .error e => .error e

end Reading

def parse (args : List String) : Except UsageError CommandLine :=
  Reading.read false ⟨.empty, .nothing⟩ args

end CommandLine
end VirtualRouter
