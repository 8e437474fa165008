import VirtualRouter.Fault
import VirtualRouter.Text.Reading

/-!
# Files and directories

A file system in memory, with the failures that operations on paths report. A path is relative
to the working directory unless it starts with a slash.
-/

set_option autoImplicit false

namespace VirtualRouter

namespace Path

/-- The path of a name in a directory. A name that is itself an absolute path replaces the
directory, and no slash is added where there is one. -/
def join (dir name : String) : String :=
  if name.toList.head? = some '/' then name
  else if dir.isEmpty then name
  else if dir.toList.getLast? = some '/' then dir ++ name
  else dir ++ "/" ++ name

end Path

inductive FileEntry
  | directory
  | file (content : Octets)
  deriving DecidableEq

abbrev Location := List String

structure FileSystem where
  entries : List (Location × FileEntry)
  workingDirectory : Location
  /-- The numbers that the coming writes of content fail with; zero lets a write through. -/
  writeFailures : List Int

namespace FileSystem

def fresh : FileSystem := ⟨[(["work"], .directory)], ["work"], []⟩

def entry? (fs : FileSystem) (l : Location) : Option FileEntry :=
  if l = [] then some .directory else fs.entries.lookup l

def put (fs : FileSystem) (l : Location) (e : FileEntry) : FileSystem :=
  { fs with entries := (l, e) :: fs.entries.filter fun x => x.1 != l }

def erase (fs : FileSystem) (l : Location) : FileSystem :=
  { fs with entries := fs.entries.filter fun x => x.1 != l }

def maxName : Nat := 255
def pathLimit : Nat := 4096

def parts (path : String) : List String := (Text.fields '/' path.toList).map String.ofList

def walk (fs : FileSystem) : Location → List String → Except Errno Location
  | l, [] => .ok l
  | l, p :: r =>
    if p = "" ∨ p = "." then walk fs l r
    else if p = ".." then walk fs l.dropLast r
    else if maxName < p.utf8ByteSize then .error .nameTooLong
    else match fs.entry? (l ++ [p]) with
    | none => .error .notFound
    | some (.file _) => .error .notDirectory
    | some .directory => walk fs (l ++ [p]) r

def base (fs : FileSystem) (path : String) : Location :=
  if path.toList.head? = some '/' then [] else fs.workingDirectory

inductive Target
  | directory (l : Location)
  | name (l : Location) (name : String) (slash : Bool)

def target (fs : FileSystem) (path : String) : Except PathFault Target :=
  if path.toList.contains (Char.ofNat 0) then .error .nulInPath
  else if path.isEmpty then .error (.refused .notFound)
  else if pathLimit ≤ path.utf8ByteSize then .error (.refused .nameTooLong)
  else
    let all := parts path
    let named := all.reverse.dropWhile (· == "")
    match named with
    | [] => .ok (.directory (fs.base path))
    | last :: before =>
      match fs.walk (fs.base path) before.reverse with
      | .error e => .error (.refused e)
      | .ok l =>
        if last = "." then .ok (.directory l)
        else if last = ".." then .ok (.directory l.dropLast)
        else if maxName < last.utf8ByteSize then .error (.refused .nameTooLong)
        else .ok (.name l last (all.getLast? == some ""))

def openWrite (fs : FileSystem) (path : String) (exclusive : Bool) :
    Except PathFault (Location × FileSystem) :=
  match fs.target path with
  | .error f => .error f
  | .ok (.directory _) => .error (.refused .isDirectory)
  | .ok (.name l name slash) =>
    if slash then .error (.refused .isDirectory)
    else match fs.entry? (l ++ [name]) with
    | none => .ok (l ++ [name], fs.put (l ++ [name]) (.file []))
    | some .directory =>
      .error (.refused (if exclusive then .alreadyThere else .isDirectory))
    | some (.file _) =>
      if exclusive then .error (.refused .alreadyThere) else .ok (l ++ [name], fs)

def writeContent (fs : FileSystem) (l : Location) (content : Octets) :
    Except Errno Unit × FileSystem :=
  let failure := fs.writeFailures.headD 0
  let fs := { fs with writeFailures := fs.writeFailures.tail }
  if failure = 0 then (.ok (), fs.put l (.file content)) else (.error ⟨failure⟩, fs)

def write (fs : FileSystem) (path : String) (content : Octets) :
    Except PathFault Unit × FileSystem :=
  match fs.openWrite path false with
  | .error f => (.error f, fs)
  | .ok (l, fs) =>
    match (fs.put l (.file [])).writeContent l content with
    | (.ok (), fs) => (.ok (), fs)
    | (.error e, fs) => (.error (.refused e), fs)

def read (fs : FileSystem) (path : String) : Except PathFault Octets :=
  match fs.target path with
  | .error f => .error f
  | .ok (.directory _) => .error (.refused .isDirectory)
  | .ok (.name l name slash) =>
    match fs.entry? (l ++ [name]) with
    | none => .error (.refused .notFound)
    | some .directory => .error (.refused .isDirectory)
    | some (.file content) =>
      if slash then .error (.refused .notDirectory) else .ok content

def readText (fs : FileSystem) (path : String) : Except PathFault String :=
  match fs.read path with
  | .error f => .error f
  | .ok content =>
    match Text.ofUtf8? content with
    | some s => .ok s
    | none => .error .notText

def remove (fs : FileSystem) (path : String) : Except PathFault FileSystem :=
  match fs.target path with
  | .error f => .error f
  | .ok (.directory _) => .error (.refused .isDirectory)
  | .ok (.name l name slash) =>
    match fs.entry? (l ++ [name]) with
    | none => .error (.refused .notFound)
    | some .directory => .error (.refused .isDirectory)
    | some (.file _) =>
      if slash then .error (.refused .notDirectory) else .ok (fs.erase (l ++ [name]))

def makeWay (fs : FileSystem) : Location → List String → Bool × FileSystem
  | _, [] => (true, fs)
  | l, p :: r =>
    if p = "" ∨ p = "." then makeWay fs l r
    else if p = ".." then makeWay fs l.dropLast r
    else if maxName < p.utf8ByteSize then (false, fs)
    else match fs.entry? (l ++ [p]) with
    | none => (fs.put (l ++ [p]) .directory).makeWay (l ++ [p]) r
    | some .directory => makeWay fs (l ++ [p]) r
    | some (.file _) => (false, fs)

def makeDirectory (fs : FileSystem) (path : String) : Bool × FileSystem :=
  if path.toList.contains (Char.ofNat 0) ∨ pathLimit ≤ path.utf8ByteSize then (false, fs)
  else
    fs.makeWay (fs.base path) (parts path)

def files (fs : FileSystem) : List (String × Octets) :=
  fs.entries.filterMap fun x =>
    match x.2 with
    | .directory => none
    | .file content =>
      if fs.workingDirectory.isPrefixOf x.1 then
        some ("/".intercalate (x.1.drop fs.workingDirectory.length), content)
      else none

end FileSystem
end VirtualRouter
