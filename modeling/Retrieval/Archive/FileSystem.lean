import Retrieval.Archive.Path
import Retrieval.Utf8

/-!
# A file system

As much of a file system as saving and loading an index needs: files and directories under names,
and three actions, each of which succeeds or leaves what it has not done undone.  A path is walked
from the root, or from the working directory if it is relative, name by name; every name but the
last must be a directory.  Names and paths have only so many octets, none of them zero.  There are
no links: what a place holds it holds under its own names only, and nobody else changes it
meanwhile.

An action that nothing stands in the way of may be refused all the same, for want of permission or
because a device fails, or broken off in the middle, when a disk is full.  Which actions are is not
up to the file system as it is described here, so it is given from outside, as a list of rulings.
-/

namespace Retrieval.Archive

/-- What a place holds. -/
inductive Node where
  | directory
  | file (octets : List UInt8)
  deriving Repr, DecidableEq

/-- A place: the names that lead to it from the root, which is the place without names. -/
abbrev Place := List (List Char)

/-- Files and directories by place; what is not listed is not there.  Relative paths start at the
working directory. -/
structure FileSystem where
  nodes : List (Place × Node) := []
  workingDirectory : Place := []
  deriving Repr, DecidableEq

/-- Why an action fails. -/
inductive FileError where
  | missing (path : Path)
  | notDirectory (path : Path)
  | isDirectory (path : Path)
  | tooLong (path : Path)
  | nulOctet (path : Path)
  /-- The action was refused or broken off. -/
  | refused (path : Path)
  deriving Repr, DecidableEq

namespace FileError

/-- The words for the error. -/
def message : FileError → String
  | missing path => s!"no such file or directory: {path}"
  | notDirectory path => s!"not a directory: {path}"
  | isDirectory path => s!"is a directory: {path}"
  | tooLong path => s!"name too long: {path}"
  | nulOctet _ => "file name contained an unexpected NUL byte"
  | refused path => s!"input/output error: {path}"

end FileError

namespace FileSystem

/-- What a place holds.  The working directory and those above it are always there. -/
def node? (fs : FileSystem) (place : Place) : Option Node :=
  if place <+: fs.workingDirectory then some .directory else fs.nodes.lookup place

/-- The file system with what a place holds replaced. -/
def put (fs : FileSystem) (place : Place) (node : Node) : FileSystem :=
  { fs with nodes := (place, node) :: fs.nodes.filter (·.1 ≠ place) }

/-- The file system with nothing at a place. -/
def remove (fs : FileSystem) (place : Place) : FileSystem :=
  { fs with nodes := fs.nodes.filter (·.1 ≠ place) }

/-- Where a path starts. -/
def origin (fs : FileSystem) (path : Path) : Place :=
  if path.isAbsolute then [] else fs.workingDirectory

/-- The place that a name leads to from a directory.  Nothing is above the root. -/
def enter (place : Place) (name : List Char) : Place :=
  if name = ['.'] then place
  else if name = ['.', '.'] then place.dropLast
  else place ++ [name]

/-- The number of octets that a name may have. -/
def nameLimit : Nat := 255

/-- The number of octets that a path may have. -/
def pathLimit : Nat := 4095

/-- Whether a name has more octets than it may. -/
def isLongName (name : List Char) : Bool :=
  nameLimit < (Utf8.encode name).length

/-- What is wrong with the text of a path, whatever there is under it. -/
def pathFault? (path : Path) : Option FileError :=
  if path.toList.contains '\x00' then some (.nulOctet path)
  else if pathLimit < path.utf8ByteSize then some (.tooLong path)
  else none

/-- The place that names lead to from a place, if all but the last are directories and none is too
long. -/
def walk (fs : FileSystem) (path : Path) (place : Place) :
    List (List Char) → Except FileError Place
  | [] => .ok place
  | name :: rest =>
    match fs.node? place with
    | some .directory =>
      if isLongName name then .error (.tooLong path) else walk fs path (enter place name) rest
    | some (.file _) => .error (.notDirectory path)
    | none => .error (.missing path)

/-- The place of a path. -/
def locate (fs : FileSystem) (path : Path) : Except FileError Place :=
  if path.isEmpty then .error (.missing path)
  else match pathFault? path with
    | some reason => .error reason
    | none => fs.walk path (fs.origin path) path.names

/-- Whether a path ends as only that of a directory may: with a slash or a dot. -/
def namesDirectory (path : Path) : Bool :=
  match path.toList.reverse with
  | '/' :: _ => true
  | '.' :: '/' :: _ => true
  | '.' :: '.' :: '/' :: _ => true
  | _ => false

/-- What is at a path. -/
def find (fs : FileSystem) (path : Path) : Except FileError Node := do
  match fs.node? (← fs.locate path) with
  | some (.file octets) =>
    if namesDirectory path then .error (.notDirectory path) else return .file octets
  | some .directory => return .directory
  | none => .error (.missing path)

/-- Whether anything is at a path. -/
def contains (fs : FileSystem) (path : Path) : Bool :=
  (fs.find path).toOption.isSome

/-- The octets of a file. -/
def fetch (fs : FileSystem) (path : Path) : Except FileError (List UInt8) := do
  match ← fs.find path with
  | .file octets => return octets
  | .directory => .error (.isDirectory path)

/-- The order of names by their UTF-8 octets, which is that of their code points. -/
def nameLe (a b : List Char) : Bool :=
  !List.lex b a (· < ·)

/-- The names of what a directory holds, ascending. -/
def namesIn (fs : FileSystem) (place : Place) : List (List Char) :=
  (fs.nodes.filterMap fun (other, _) =>
    match other.getLast? with
    | some name => if other.dropLast = place then some name else none
    | none => none).mergeSort nameLe

/-! ## Actions -/

/-- Makes the directories that names lead through from a place, as far as they are missing. -/
def makeDirectoriesFrom (path : Path) (place : Place) :
    List (List Char) → FileSystem → FileSystem × Except FileError Unit
  | [], fs => (fs, .ok ())
  | name :: rest, fs =>
    let next := enter place name
    match fs.node? next with
    | some .directory => makeDirectoriesFrom path next rest fs
    | some (.file _) => (fs, .error (.notDirectory path))
    | none =>
      if isLongName name then (fs, .error (.tooLong path))
      else makeDirectoriesFrom path next rest (fs.put next .directory)

/-- The place where a file may be put under a path. -/
def locateFile (fs : FileSystem) (path : Path) : Except FileError Place := do
  let place ← fs.locate path
  match fs.node? place with
  | some .directory => .error (.isDirectory path)
  | _ => if namesDirectory path then .error (.notDirectory path) else return place

/-- What can be done to a file system. -/
inductive Action where
  /-- Makes a directory and those above it. -/
  | makeDirectories (path : Path)
  /-- Writes a file, in place of an earlier one. -/
  | write (path : Path) (octets : List UInt8)
  /-- Moves a file, in place of another. -/
  | rename (source target : Path)
  deriving Repr, DecidableEq

/-- What an action does, and whether it succeeds. -/
def perform (fs : FileSystem) : Action → FileSystem × Except FileError Unit
  | .makeDirectories path =>
    match pathFault? path with
    | some reason => (fs, .error reason)
    | none => makeDirectoriesFrom path (fs.origin path) path.names fs
  | .write path octets =>
    match fs.locateFile path with
    | .ok place => (fs.put place (.file octets), .ok ())
    | .error reason => (fs, .error reason)
  | .rename source target =>
    match fs.fetch source, fs.locate source, fs.locateFile target with
    | .ok octets, .ok sourcePlace, .ok targetPlace =>
      ((fs.remove sourcePlace).put targetPlace (.file octets), .ok ())
    | .error reason, _, _ => (fs, .error reason)
    | _, .error reason, _ => (fs, .error reason)
    | _, _, .error reason => (fs, .error reason)

/-- What is decided about an action from outside. -/
inductive Ruling where
  | carryOut
  /-- The action does nothing. -/
  | refuse
  /-- The action is broken off after a part: so many directories are made, or octets written.  To
  move a file cannot be divided. -/
  | breakOff (part : Nat)
  deriving Repr, DecidableEq

/-- The path that an action fails at. -/
def Action.path : Action → Path
  | .makeDirectories path | .write path _ | .rename path _ => path

/-- What is done of an action that is broken off, and what stood in the way of that. -/
def performPart (fs : FileSystem) (part : Nat) : Action → FileSystem × Except FileError Unit
  | .makeDirectories path =>
    match pathFault? path with
    | some reason => (fs, .error reason)
    | none => makeDirectoriesFrom path (fs.origin path) (path.names.take part) fs
  | .write path octets => fs.perform (.write path (octets.take part))
  | .rename _ _ => (fs, .ok ())

/-- What an action does under a ruling, and whether it succeeds. -/
def attempt (fs : FileSystem) (action : Action) : Ruling → FileSystem × Except FileError Unit
  | .carryOut => fs.perform action
  | .refuse => (fs, .error (.refused action.path))
  | .breakOff part =>
    match fs.performPart part action with
    | (fs, .ok ()) => (fs, .error (.refused action.path))
    | (fs, .error reason) => (fs, .error reason)

/-- What actions do one after the other, up to the first that fails.  The rulings are taken in turn,
and when there are no more of them the actions are carried out. -/
def performAll (fs : FileSystem) (actions : List Action) (rulings : List Ruling := []) :
    FileSystem × Except FileError Unit :=
  match actions with
  | [] => (fs, .ok ())
  | action :: rest =>
    match fs.attempt action (rulings.headD .carryOut) with
    | (fs, .ok ()) => fs.performAll rest rulings.tail
    | (fs, .error reason) => (fs, .error reason)

/-- The file system with a file put at a path and directories made up to it, as far as nothing is in
the way. -/
def install (fs : FileSystem) (path : Path) (octets : List UInt8) : FileSystem :=
  let fs := match path.parent? with
    | some parent => (fs.perform (.makeDirectories parent)).1
    | none => fs
  (fs.perform (.write path octets)).1

end FileSystem

end Retrieval.Archive
