import ApiAnnotator.CommandLine.Host
import ApiAnnotator.Table

/-!
# Disks

A disk is a tree of directories with files, seen from one of the directories. A place in the tree is
given by the names that lead to it from the root.

A path is followed part by part, and each part needs a directory to be followed from: an empty part
and a single dot stay there, two dots lead to the directory around it, and a name leads into it. So
a path can fail on the way although its end exists.

## Main definitions

* `Disk` — files and directories by place.
* `Disk.locate` — the place that a path leads to.
* `Disk.read`, `Disk.makeDirectory`, `Disk.write` — the actions of a host.
* `Disk.host` — the disk as a host.
-/

namespace ApiAnnotator.CommandLine

/-- Files and directories by place, and the place that relative paths start from. -/
structure Disk where
  files : Table ByteArray := ∅
  directories : Names := ∅
  workingDirectory : List String := []

/-- What is at a place. -/
inductive Entry where
  | file (content : ByteArray)
  | directory
  | nothing

namespace Disk

/-- A place as a key. -/
def key (place : List String) : String :=
  Text.join "/" place

/-- What is at a place. The working directory and all directories around it exist. -/
def entry (d : Disk) (place : List String) : Entry :=
  match d.files[key place]? with
  | some content => .file content
  | none =>
    if place.isPrefixOf d.workingDirectory ∨ key place ∈ d.directories then .directory else .nothing

/-- The most bytes in a name. -/
def longestName : Nat := 255

/-- The most bytes in a path. -/
def longestPath : Nat := 4095

/-- Follows one part of a path. -/
def follow (d : Disk) (place : List String) (part : String) : Except SystemError (List String) :=
  match d.entry place with
  | .file _ => .error .notADirectory
  | .nothing => .error .notFound
  | .directory =>
    if part = "" ∨ part = "." then .ok place
    else if part = ".." then .ok place.dropLast
    else if longestName < part.utf8ByteSize then .error .nameTooLong
    else .ok (place ++ [part])

/-- The place that the given parts of a path lead to; there may be nothing at it. -/
def locate (d : Disk) (path : String) (parts : List String) : Except SystemError (List String) :=
  if path = "" then .error .notFound
  else if longestPath < path.utf8ByteSize then .error .nameTooLong
  else parts.foldlM d.follow (if Path.isAbsolute path then [] else d.workingDirectory)

/-- The content of a file. -/
def read (d : Disk) (path : String) : Except SystemError ByteArray := do
  match d.entry (← d.locate path (Path.parts path)) with
  | .file content => .ok content
  | .directory => .error .isADirectory
  | .nothing => .error .notFound

/-- The parts of a path before the slashes at its end. -/
def partsToEnd (path : String) : List String :=
  (Path.parts path).reverse.dropWhile (· = "") |>.reverse

/-- The disk with one more directory. -/
def makeDirectory (d : Disk) (path : String) : Except SystemError Disk := do
  let place ← d.locate path (partsToEnd path)
  match d.entry place with
  | .nothing => .ok { d with directories := d.directories.insert (key place) }
  | _ => .error .alreadyExists

/-- The disk with a file of the given content. A slash at the end of the path asks for a directory,
which cannot be written, whatever the name before the slash is. -/
def write (d : Disk) (path : String) (content : ByteArray) : Except SystemError Disk := do
  if path.toList.getLast? = some '/' then
    discard (d.locate path ((partsToEnd path).dropLast ++ ["."]))
    .error .isADirectory
  else
    let place ← d.locate path (Path.parts path)
    match d.entry place with
    | .directory => .error .isADirectory
    | _ => .ok { d with files := d.files.insert (key place) content }

/-- An action that gives the next disk or leaves the disk as it is. -/
def change (action : Disk → Except SystemError Disk) : StateM Disk (Except SystemError Unit) :=
  modifyGet fun d =>
    match action d with
    | .ok d' => (.ok (), d')
    | .error e => (.error e, d)

/-- A disk as a host. -/
def host : Host (StateM Disk) where
  read path := return (← get).read path
  makeDirectory path := change fun d => d.makeDirectory path
  write path content := change fun d => d.write path content

/-- The disk with the given files, seen from a directory. -/
def ofFiles (workingDirectory : List String) (files : List (String × ByteArray)) : Disk :=
  files.foldl (fun d (path, content) => ((host.save path content).run d).2) { workingDirectory }

end Disk

end ApiAnnotator.CommandLine
