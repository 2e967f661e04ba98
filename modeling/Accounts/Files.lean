import Accounts.Backing
import Accounts.Files.Tree
import Accounts.Text.Utf8

/-!
A tree of files and directories, with what a program can do to it here: read a
file, append to one (its directories are made first), and look at its mode.
Paths are byte strings with slashes; those that do not start with one are taken
from the working directory. Bytes may not get into a file even where its path is
in order: the disk can be full.
-/

namespace Accounts

structure Files where
  /-- The tree from the root, which is a directory. -/
  root : FileTree
  working : List Name
  /-- Why bytes cannot be written to any file, if they cannot. -/
  writeFault : Option Fault
  /-- How many of its bytes a write that fails leaves behind, if it leaves so much as a new file. -/
  leftover : Option Nat
  deriving Repr

structure Spot where
  /-- The names on the way from the root, the last of them first. -/
  place : List Name
  found : Option FileTree
  deriving Repr

namespace Files

def slash : Byte := 0x2f

/-- The name of a directory inside itself. -/
def here : Name := [0x2e]

/-- The name of the directory around a directory. -/
def above : Name := [0x2e, 0x2e]

def privateMode : Nat := 0o600

def sharedMode : Nat := 0o644

def directoryMode : Nat := 0o755

def maxNameBytes : Nat := 255

def maxPathBytes : Nat := 4095

def names (path : Bytes) : List Name := (path.splitOn slash).filter (· ≠ [])

/-- Whether a piece between slashes is a name that counts in the directory part of a path: a dot
counts in front only. -/
def isPlain (piece : Bytes × Nat) : Bool := piece.1 ≠ [] && (piece.1 ≠ here || piece.2 = 0)

/-- The starts of a path that end in one of its names, the shortest first. -/
def starts (path : Bytes) : List Bytes :=
  let pieces := path.splitOn slash
  (pieces.zipIdx.filter isPlain).map fun piece => [slash].intercalate (pieces.take (piece.2 + 1))

/-- The paths of the directories around a path, the innermost first. -/
def around (path : Bytes) : List Bytes := (starts path).dropLast.reverse

/-- The spot of a place, given with its last name first. -/
def spotAt (files : Files) (place : List Name) : Spot := ⟨place, files.root.get? place.reverse⟩

def start (files : Files) (path : Bytes) : Spot :=
  files.spotAt (if path.head? = some slash then [] else files.working.reverse)

def next (files : Files) (place : List Name) (directory : FileTree) (name : Name) : Spot :=
  if name = here then ⟨place, some directory⟩
  else if name = above then files.spotAt place.tail
  else ⟨name :: place, directory.entry? name⟩

/-- Where names lead to from a spot. Every spot on the way has to be a directory; there need be
nothing at the last one. -/
def walk (files : Files) : Spot → List Name → Except Fault Spot
  | spot, [] => .ok spot
  | ⟨_, none⟩, _ :: _ => .error .missing
  | ⟨_, some (.file ..)⟩, _ :: _ => .error .notDirectory
  | ⟨place, some (.directory entries)⟩, name :: rest =>
      if maxNameBytes < name.length then .error .nameTooLong
      else files.walk (files.next place (.directory entries) name) rest

/-- What is wrong with a path before any directory is looked at. -/
def pathFault (path : Bytes) : Option Fault :=
  if path.contains 0 then some .zeroByteInPath
  else if path = [] then some .missing
  else if maxPathBytes < path.length then some .nameTooLong
  else none

def endsWithSlash (path : Bytes) : Bool := path.getLast? == some slash

/-- Where a path leads to. Behind a slash at the end there has to be a directory. -/
def locate (files : Files) (path : Bytes) : Except Fault Spot :=
  match pathFault path with
  | some fault => .error fault
  | none =>
      files.walk (files.start path) (names path ++ if endsWithSlash path then [here] else [])

def found? (files : Files) (path : Bytes) : Option FileTree :=
  (files.locate path).toOption.bind Spot.found

def read (files : Files) (path : Bytes) : Except Fault Bytes :=
  match files.locate path with
  | .error fault => .error fault
  | .ok spot =>
      match spot.found with
      | none => .error .missing
      | some (.directory _) => .error .directory
      | some (.file content _) => .ok content

def mode? (files : Files) (path : Bytes) : Option Nat :=
  (files.found? path).map fun tree =>
    match tree with
    | .directory _ => directoryMode
    | .file _ mode => mode

def isDirectory (files : Files) (path : Bytes) : Bool :=
  match files.found? path with
  | some (.directory _) => true
  | _ => false

def put (files : Files) (place : List Name) (tree : FileTree) : Files :=
  { files with root := FileTree.put tree place files.root }

def makeDirectory (files : Files) (path : Bytes) : Except Fault Files :=
  match pathFault path with
  | some fault => .error fault
  | none =>
      match files.walk (files.start path) (names path) with
      | .error fault => .error fault
      | .ok spot =>
          match spot.found with
          | some _ => .error .exists
          | none => .ok (files.put spot.place.reverse .empty)

/-- Makes directories, given innermost first, those that others need before these. What was made
before a fault stays. -/
def ensureDirectories (files : Files) : List Bytes → Except Fault Unit × Files
  | [] => (.ok (), files)
  | path :: outer =>
      match files.makeDirectory path with
      | .ok files => (.ok (), files)
      | .error .missing =>
          match files.ensureDirectories outer with
          | (.error fault, files) => (.error fault, files)
          | (.ok (), files) => settle files (files.makeDirectory path) path
      | .error fault => settle files (.error fault) path
where
  /-- A directory that is there already will do. -/
  settle (files : Files) (made : Except Fault Files) (path : Bytes) : Except Fault Unit × Files :=
    match made with
    | .ok files => (.ok (), files)
    | .error fault =>
        if fault = .exists && files.isDirectory path then (.ok (), files)
        else (.error fault, files)

/-- The file that bytes are added to; there need be none yet. The last name is not looked at where a
slash follows it. -/
def locateFile (files : Files) (path : Bytes) : Except Fault Spot :=
  match pathFault path with
  | some fault => .error fault
  | none =>
      let steps := if endsWithSlash path then (names path).dropLast ++ [here] else names path
      match files.walk (files.start path) steps with
      | .error fault => .error fault
      | .ok spot =>
          if endsWithSlash path then .error .directory
          else
            match spot.found with
            | some (.directory _) => .error .directory
            | _ => .ok spot

/-- Makes the directories around a path and finds its file. -/
def openFile (files : Files) (path : Bytes) : Except Fault Spot × Files :=
  match files.ensureDirectories (around path) with
  | (.error fault, files) => (.error fault, files)
  | (.ok (), files) => (files.locateFile path, files)

/-- Adds bytes at the end of the file at a spot; a new file is for its owner alone. -/
def withBytes (files : Files) (spot : Spot) (bytes : Bytes) : Files :=
  files.put spot.place.reverse <|
    match spot.found with
    | some (.file content mode) => .file (content ++ bytes) mode
    | _ => .file bytes privateMode

def append (files : Files) (path bytes : Bytes) : Except Fault Unit × Files :=
  match files.openFile path with
  | (.error fault, files) => (.error fault, files)
  | (.ok spot, files) =>
      match files.writeFault with
      | none => (.ok (), files.withBytes spot bytes)
      | some fault =>
          match files.leftover with
          | none => (.error fault, files)
          | some count => (.error fault, files.withBytes spot (bytes.take count))

/-- The file of a path as a place for records. A file that is missing holds nothing yet. -/
def backing (files : Files) (path : String) : Backing where
  location := path
  content := (files.read (utf8 path)).toOption
  readFault := match files.read (utf8 path) with
    | .ok _ | .error .missing => none
    | .error fault => some fault
  appendFault := match (files.openFile (utf8 path)).1 with
    | .ok _ => files.writeFault
    | .error fault => some fault
  leftover := match (files.openFile (utf8 path)).1 with
    | .ok _ => files.leftover
    | .error _ => none
  tried := false

/-- Does to a file what was done to its backing. -/
def save (files : Files) (before after : Backing) : Files :=
  if after.tried then
    let known := (before.content.getD []).length
    (files.append (utf8 after.location) ((after.content.getD []).drop known)).2
  else files

def emptyAt (working : Name) : Files :=
  ⟨.directory [(working, .empty)], [working], none, none⟩

def withFile (files : Files) (path content : Bytes) : Files :=
  files.put (files.working ++ names path) (.file content sharedMode)

/-- Makes a directory at a path from the working directory, unless it is there. -/
def withDirectory (files : Files) (path : Bytes) : Files :=
  let place := files.working ++ names path
  files.put place ((files.root.get? place).getD .empty)

end Files

end Accounts
