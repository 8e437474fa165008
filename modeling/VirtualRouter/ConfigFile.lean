import VirtualRouter.Yaml.Document
import VirtualRouter.Address

/-!
# The configuration file

What a configuration file may hold. Every field may be left out; a field that is unknown or
given twice makes the file unusable.
-/

set_option autoImplicit false

namespace VirtualRouter

structure LogConfig where
  level : Option String
  format : Option String
  file : Option String
  deriving DecidableEq

structure FileConfig where
  interface : Option String
  vrid : Option UInt8
  priority : Option UInt8
  protocol : Option UInt8
  advertInterval : Option UInt16
  preempt : Option Bool
  addresses : List IPv4
  daemonize : Bool
  pidDir : Option String
  logging : LogConfig
  deriving DecidableEq

def LogConfig.empty : LogConfig := ⟨none, none, none⟩

def FileConfig.empty : FileConfig :=
  ⟨none, none, none, none, none, none, [], false, none, .empty⟩

namespace Yaml

def nullTexts : List String := ["", "~", "null", "Null", "NULL"]

def optional {α : Type} (read : Value → Option α) : Value → Option (Option α)
  | .scalar t true => if nullTexts.contains t then some none else (read (.scalar t true)).map some
  | x => (read x).map some

def text? : Value → Option String
  | .scalar t _ => some t
  | _ => none

def bool? : Value → Option Bool
  | .scalar t true =>
    if ["true", "True", "TRUE"].contains t then some true
    else if ["false", "False", "FALSE"].contains t then some false
    else none
  | _ => none

def number? (cs : List Char) : Option Nat :=
  let cs := match cs with
    | '+' :: r => r
    | _ => cs
  match cs with
  | '0' :: 'x' :: r => Text.natural? 16 r
  | '0' :: 'o' :: r => Text.natural? 8 r
  | '0' :: 'b' :: r => Text.natural? 2 r
  | _ => if Text.hasLeadingZero cs then none else Text.natural? 10 cs

def numberBelow? (limit : Nat) : Value → Option Nat
  | .scalar t true => (number? t.toList).filter (· < limit)
  | _ => none

def octet? (x : Value) : Option UInt8 := (numberBelow? 256 x).map UInt8.ofNat

def word? (x : Value) : Option UInt16 := (numberBelow? 65536 x).map UInt16.ofNat

def address? (x : Value) : Option IPv4 := (text? x).bind IPv4.ofText?

def addresses? : Value → Option (List IPv4)
  | .sequence items => items.mapM address?
  | .scalar "" true => some []
  | _ => none

def fields? (known : List String) : Value → Option (List (String × Value))
  | .mapping entries => do
    let fields ← entries.mapM fun e => (text? e.1).map fun k => (k, e.2)
    let keys := fields.map (·.1)
    if (∀ k ∈ keys, k ∈ known) ∧ keys.Nodup then some fields else none
  | .scalar "" true => some []
  | _ => none

def field {α : Type} (fields : List (String × Value)) (name : String) (default : α)
    (read : Value → Option α) : Option α :=
  match fields.lookup name with
  | some x => read x
  | none => some default

end Yaml

open Yaml in
def LogConfig.ofValue? (x : Value) : Option LogConfig := do
  let fs ← fields? ["level", "format", "file"] x
  return {
    level := ← field fs "level" none (optional text?)
    format := ← field fs "format" none (optional text?)
    file := ← field fs "file" none (optional text?) }

open Yaml in
def FileConfig.ofValue? (x : Value) : Option FileConfig := do
  let fs ← fields? ["interface", "vrid", "priority", "protocol", "advert_interval", "preempt",
    "virtual_ips", "daemonize", "pid_dir", "logging"] x
  return {
    interface := ← field fs "interface" none (optional text?)
    vrid := ← field fs "vrid" none (optional octet?)
    priority := ← field fs "priority" none (optional octet?)
    protocol := ← field fs "protocol" none (optional octet?)
    advertInterval := ← field fs "advert_interval" none (optional word?)
    preempt := ← field fs "preempt" none (optional bool?)
    addresses := ← field fs "virtual_ips" [] addresses?
    daemonize := ← field fs "daemonize" false bool?
    pidDir := ← field fs "pid_dir" none (optional text?)
    logging := ← field fs "logging" .empty LogConfig.ofValue? }

def FileConfig.ofText? (s : String) : Option FileConfig :=
  (Yaml.Value.ofText? s).bind FileConfig.ofValue?

end VirtualRouter
