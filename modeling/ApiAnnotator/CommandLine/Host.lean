import ApiAnnotator.Text.Pieces

/-!
# Hosts

A command runs on a host, which reads files, writes files and makes directories. The host may be the
machine or a disk that is a value, and the command is the same on both.

A file is saved by first making the directories around it. They are asked for from the innermost one
outwards, until one is there or can be made, so nothing is asked about directories further out.

## Main definitions

* `SystemError` — why a host refuses, with its wording.
* `Host` — what a command runs on.
* `Path.around` — the directories around the end of a path.
* `Host.ensureDirectories`, `Host.save`.
-/

namespace ApiAnnotator.CommandLine

/-- Why a host refuses to do something. -/
inductive SystemError where
  | notFound
  | alreadyExists
  | notADirectory
  | isADirectory
  | nameTooLong
  | other (text : String)
  deriving DecidableEq

/-- The wording of a system error. -/
def SystemError.message : SystemError → String
  | notFound => "No such file or directory (os error 2)"
  | alreadyExists => "File exists (os error 17)"
  | notADirectory => "Not a directory (os error 20)"
  | isADirectory => "Is a directory (os error 21)"
  | nameTooLong => "File name too long (os error 36)"
  | other text => text

/-- What a command runs on. -/
structure Host (m : Type → Type) where
  read : String → m (Except SystemError ByteArray)
  makeDirectory : String → m (Except SystemError Unit)
  write : String → ByteArray → m (Except SystemError Unit)

namespace Path

/-- Whether a path starts at the root. -/
def isAbsolute (path : String) : Bool :=
  path.toList.head? == some '/'

/-- The parts between the slashes of a path. -/
def parts (path : String) : List String :=
  Text.splitAll '/' path

/-- The parts of a path that count for its directories. Empty parts do not, and neither do single
dots, except at the beginning. -/
def places (path : String) : List String :=
  ((parts path).take 1).filter (· ≠ "") ++
    ((parts path).drop 1).filter fun part => part ≠ "" ∧ part ≠ "."

/-- The directories around the end of a path, from the innermost one outwards. The root and the
working directory are left out. -/
def around (path : String) : List String :=
  let start := if isAbsolute path then "/" else ""
  ((List.range (places path).length).drop 1).reverse.map fun count =>
    start ++ Text.join "/" ((places path).take count)

end Path

namespace Host

variable [Monad m] (host : Host m)

/-- Makes a directory, unless it is there already. A directory, and nothing else, holds a single dot
that stands for itself, so a second one of that name is refused because it exists. -/
def ensureDirectory (path : String) : m (Except SystemError Unit) := do
  match ← host.makeDirectory path with
  | .error .alreadyExists =>
    match ← host.makeDirectory (path ++ "/.") with
    | .error .alreadyExists => return .ok ()
    | _ => return .error .alreadyExists
  | result => return result

/-- Makes directories within each other, given from the innermost one outwards. -/
def ensureDirectories : List String → m (Except SystemError Unit)
  | [] => return .ok ()
  | innermost :: outer => do
    match ← host.ensureDirectory innermost with
    | .error .notFound =>
      match ← ensureDirectories outer with
      | .ok () => host.ensureDirectory innermost
      | .error e => return .error e
    | result => return result

/-- Writes a file after making the directories around it. -/
def save (path : String) (content : ByteArray) : m (Except SystemError Unit) := do
  match ← host.ensureDirectories (Path.around path) with
  | .ok () => host.write path content
  | .error e => return .error e

end Host

end ApiAnnotator.CommandLine
