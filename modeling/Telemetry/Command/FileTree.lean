import Telemetry.Config.Schema

/-! Files held in memory, for running commands away from a file system. A path is followed name by
name from directory to directory, and faults are worded as the system words them. -/
namespace Telemetry.Command

/-- Files of one directory and of those below it, by their paths, and sockets beside them. -/
structure FileTree where
  files : List (String × Bytes)
  sockets : List String := []
  deriving DecidableEq, Repr

namespace FileTree

def absent : String := "No such file or directory (os error 2)"
def noDevice : String := "No such device or address (os error 6)"
def throughFile : String := "Not a directory (os error 20)"
def isDirectory : String := "Is a directory (os error 21)"
def noSpace : String := "No space left on device (os error 28)"
def tooLong : String := "File name too long (os error 36)"
def nullByte : String := "file name contained an unexpected NUL byte"

def nameLimit : Nat := 255

def pathLimit : Nat := 4096

def socketPathLimit : Nat := 108

/-- Names on the way from the directory of the tree, or from the root behind a slash. Directories
above that of the tree are pairs of dots. -/
abbrev Place := List String

def enter (place : Place) (name : String) : Place :=
  if name = "" ∨ name = "." then place
  else if name ≠ ".." then place ++ [name]
  else
    match place.getLast? with
    | none => [".."]
    | some last =>
      if last = ".." then place ++ [".."] else if last = "/" then place else place.dropLast

def start (path : String) : Place := if path.startsWith "/" then ["/"] else []

def locate (path : String) : Place := (path.splitOn "/").foldl enter (start path)

inductive Entry
  | file (content : Bytes)
  | directory
  | socket
  /-- A device that takes everything written to it, or one that is always full. -/
  | device (full : Bool)
  deriving DecidableEq, Repr

def systemDirectories : List String :=
  ["bin", "dev", "etc", "home", "lib", "opt", "proc", "root", "run", "sbin", "sys", "tmp", "usr",
    "var"]

/-- What is known outside of the tree: the directories above it, the root with the directories in
it, and two devices. -/
def systemFound? : Place → Option Entry
  | ["/"] => some .directory
  | ["/", name] => if systemDirectories.contains name then some .directory else none
  | ["/", "dev", "null"] => some (.device false)
  | ["/", "dev", "full"] => some (.device true)
  | place => if place.all (· = "..") then some .directory else none

def encloses (place : Place) (file : Place) : Bool :=
  place.length < file.length && place.isPrefixOf file

def found? (tree : FileTree) (place : Place) : Option Entry :=
  match tree.files.find? fun file => locate file.1 = place with
  | some file => some (.file file.2)
  | none =>
    if tree.sockets.any fun path => locate path = place then some .socket
    else if tree.files.any fun file => encloses place (locate file.1) then some .directory
    else systemFound? place

def walk (tree : FileTree) : Place → List String → Except String Place
  | place, [] => .ok place
  | place, name :: names =>
    if nameLimit < name.utf8ByteSize then .error tooLong
    else
      match tree.found? (enter place name) with
      | none => .error absent
      | some .directory => walk tree (enter place name) names
      | some _ => .error throughFile

/-- The last name on a path, the directory that holds it, and whether a slash follows. -/
structure Target where
  directory : Place
  name : String
  slash : Bool
  deriving DecidableEq, Repr

def target (tree : FileTree) (path : String) : Except String Target := do
  if path.toList.contains '\x00' then throw nullByte
  if path = "" then throw absent
  if pathLimit ≤ path.utf8ByteSize then throw tooLong
  let names := (path.splitOn "/").filter (· ≠ "")
  let directory ← walk tree (start path) names.dropLast
  return { directory := directory, name := names.getLastD ".", slash := path.endsWith "/" }

/-- The last name stands for a directory whatever the tree holds. -/
def Target.isDots (target : Target) : Bool := target.name = "." || target.name = ".."

def Target.found? (tree : FileTree) (target : Target) : Except String (Option Entry) :=
  if nameLimit < target.name.utf8ByteSize then .error tooLong
  else .ok (tree.found? (enter target.directory target.name))

def read (tree : FileTree) (path : String) : FileContent := do
  let target ← tree.target path
  match ← target.found? tree with
  | none => throw absent
  | some .directory => throw isDirectory
  | some entry =>
    if target.slash then throw throughFile
    match entry with
    | .file content => return content
    | .device _ => return []
    | _ => throw noDevice

/-- What writing a file meets: its directory must be there, and a path that asks for a directory
is refused before the file is looked for. -/
def write (tree : FileTree) (path : String) : Except String Unit := do
  let target ← tree.target path
  if target.isDots || target.slash then throw isDirectory
  match ← target.found? tree with
  | none => return ()
  | some (.file _) => return ()
  | some .directory => throw isDirectory
  | some .socket => throw noDevice
  | some (.device full) => if full then throw noSpace

def socketPath? (endpoint : String) : Option String :=
  let path := String.ofList (endpoint.toList.drop 6)
  if endpoint.startsWith "ipc://" && path ≠ "" && !path.toList.contains '\n' then some path
  else none

def socketFound? (tree : FileTree) (endpoint : String) : Except String (Option Entry) :=
  match socketPath? endpoint with
  | none => .error "transport not supported"
  | some path => do
    if socketPathLimit ≤ path.utf8ByteSize then throw "path too long for a socket"
    (← tree.target path).found? tree

/-- What binding a socket meets: nothing else may have its name. -/
def bindSocket (tree : FileTree) (endpoint : String) : Except String Unit := do
  if (← tree.socketFound? endpoint).isSome then throw "address in use"

def reachSocket (tree : FileTree) (endpoint : String) : Except String Unit := do
  if (← tree.socketFound? endpoint) ≠ some .socket then throw "connection refused"

def withPublisher (tree : FileTree) (endpoint : String) : FileTree :=
  { tree with sockets := (socketPath? endpoint).toList ++ tree.sockets }

end FileTree
end Telemetry.Command
