import VirtualRouter.FileSystem
import VirtualRouter.ConfigFile

/-!
# Files of the daemon

The process identifier file, which exists for as long as one instance holds it, the
configuration file, and the log file.
-/

set_option autoImplicit false

namespace VirtualRouter

structure PidFile where
  path : String
  deriving DecidableEq

namespace PidFile

def fileName (interface : String) : String := "vrrpd_" ++ interface ++ ".pid"

def pathFor (dir interface : String) : String := Path.join dir (fileName interface)

def content (process : Nat) : Octets := Text.toUtf8 (toString process ++ "\n")

def drop (p : PidFile) (fs : FileSystem) : FileSystem :=
  match fs.remove p.path with
  | .ok fs => fs
  | .error _ => fs

/-- Creates the file for an interface and writes the process into it. A file that is there
already belongs to another instance; one that cannot be written is removed again. -/
def claim (dir interface : String) (process : Nat) (fs : FileSystem) :
    Except PidFileFault PidFile × FileSystem :=
  let path := pathFor dir interface
  match fs.openWrite path true with
  | .error why =>
    if why = .refused .alreadyThere then (.error (.alreadyExists path interface), fs)
    else (.error (.cannotCreate path why), fs)
  | .ok (l, fs) =>
    match fs.writeContent l (content process) with
    | (.ok (), fs) => (.ok ⟨path⟩, fs)
    | (.error e, fs) => (.error (.cannotWrite path (.refused e)), PidFile.drop ⟨path⟩ fs)

def release (p : PidFile) (fs : FileSystem) : Except PidFileFault Unit × FileSystem :=
  match fs.remove p.path with
  | .ok fs => (.ok (), fs)
  | .error why => (.error (.cannotRemove p.path why), fs)

end PidFile

def FileConfig.load (fs : FileSystem) (path : String) : Except ConfigFault FileConfig :=
  match fs.readText path with
  | .error why => .error (.cannotReadFile path why)
  | .ok s =>
    match FileConfig.ofText? s with
    | some c => .ok c
    | none => .error (.malformedFile path)

def openLog (fs : FileSystem) (path : String) : Except ConfigFault FileSystem :=
  match fs.openWrite path false with
  | .ok (_, fs) => .ok fs
  | .error why => .error (.cannotOpenLog path why)

end VirtualRouter
