import AuditTrail.Config.Directory

/-!
# Where the paths of log files lead

The path of a log file is followed by the system, and two paths may well lead to the same file. What
is said about logging holds for every way in which they may be followed. The way given here is that
of a system without links, in which the names of a path lead from directory to directory, from that
of the process on or from the root. Places above the project directory or beside it are written
with names `..` in front.
-/

namespace AuditTrail

/-- How a system follows the path of a file that is to be written: the place to which the path
leads, if it leads to one, and the directory in which those on the way have been made. -/
abbrev Following := String → Directory → Option FilePath × Directory

namespace FilePath

/-- The place is the project directory or lies above it. -/
def isAbove (place : FilePath) : Bool :=
  place.all (· = "..")

/-- The directory of a place, where some names lead from the root to the project directory. The root
is its own directory. -/
def parent (home place : FilePath) : FilePath :=
  if place.isAbove then
    if place.length < home.length then ".." :: place else place
  else place.dropLast

/-- The place of a name in the directory at a place. -/
def child (home place : FilePath) (name : String) : FilePath :=
  if place.getLast? = some ".." && home[home.length - place.length]? = some name then
    place.dropLast
  else place ++ [name]

/-- The place to which some names lead from another one, by directories that are made where there
is nothing yet. -/
def walk (home : FilePath) :
    (names : List String) → FilePath → Directory → Option FilePath × Directory
  | [], place, directory => (some place, directory)
  | name :: names, place, directory =>
    if name = ".." then walk home names (parent home place) directory
    else
      let place := child home place name
      if place.isAbove then walk home names place directory
      else
        match directory.find place with
        | .directory => walk home names place directory
        | .missing => walk home names place (directory.insert place .directory)
        | .file _ | .blocked => (none, directory)

/-- Names with this character are refused. -/
def isRefused (name : String) : Bool :=
  name.toList.contains '\x00'

/-- The place to which the path of a file leads. A path that ends like that of a directory leads
nowhere, but the directories on its way are made. -/
def follow (home : FilePath) (path : String) (directory : Directory) :
    Option FilePath × Directory :=
  let pieces := path.toList.splitOn '/'
  let names := FilePath.ofString path
  let start := if path.toList.head? = some '/' then home.map fun _ ↦ ".." else []
  if names.dropLast.any isRefused then (none, directory)
  else
    match walk home names.dropLast start directory with
    | (none, directory) => (none, directory)
    | (some place, directory) =>
      match names.getLast? with
      | none => (none, directory)
      | some last =>
        let file := child home place last
        let isFile := pieces.getLast? = some last.toList && last ≠ ".." && !file.isAbove
        if isFile && !isRefused last then (some file, directory)
        else (none, directory)

end FilePath

end AuditTrail
