import AuditTrail.Entries

/-!
# Directories

The files below a project directory, by their paths. Every directory on the way to an entry exists
as well.
-/

namespace AuditTrail

/-- What is found under a path. -/
inductive FileEntry where
  | file (bytes : List UInt8)
  | directory
  deriving DecidableEq, Repr

/-- The names on the way to an entry, from the project directory on. -/
abbrev FilePath := List String

/-- The names on a path from the project directory on, without those that lead nowhere. -/
def FilePath.ofString (path : String) : FilePath :=
  ((path.toList.splitOn '/').map String.ofList).filter fun name ↦ name ≠ "" && name ≠ "."

/-- The entries below a project directory. -/
abbrev Directory := List (FilePath × FileEntry)

/-- The outcome of looking a path up. -/
inductive Found where
  | missing
  /-- A file stands in the way. -/
  | blocked
  | file (bytes : List UInt8)
  | directory
  deriving DecidableEq, Repr

namespace Directory

/-- The directory with an entry, in place of the one under the same path. -/
def insert (path : FilePath) (entry : FileEntry) (directory : Directory) : Directory :=
  (path, entry) :: directory.filter fun other ↦ other.1 ≠ path

/-- What is found under a path. -/
def find (path : FilePath) (directory : Directory) : Found :=
  match directory.find? fun entry ↦ entry.1 = path with
  | some (_, .file bytes) => .file bytes
  | some (_, .directory) => .directory
  | none =>
    if directory.any fun entry ↦ entry.2 ≠ .directory && entry.1.isPrefixOf path then .blocked
    else if path = [] || directory.any fun entry ↦ path.isPrefixOf entry.1 then .directory
    else .missing

theorem find_insert_self (path : FilePath) (bytes : List UInt8) (directory : Directory) :
    (directory.insert path (.file bytes)).find path = .file bytes := by
  simp [find, insert]

end Directory

end AuditTrail
