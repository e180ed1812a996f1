import AuditTrail.Logging.Filter
import AuditTrail.Logging.Line
import AuditTrail.Logging.Path

/-!
# Logging to files

A process sets its logging up once. From then on every event that the filter lets through is
written to the file that repeats all output, if there is one, and events of the audit target also
to the audit file, always as JSON lines. Files are created along with their directories, and what
they hold already stays. An open file is the place to which its path led.
-/

namespace AuditTrail

/-- Why logging cannot be set up. -/
inductive LogError where
  | noFile
  | alreadySet
  deriving DecidableEq, Repr

/-- The message of an error, without what it says about the file. -/
def LogError.message : LogError → String
  | noFile => "failed to open log file"
  | alreadySet => "failed to initialize logging"

/-- The directory with some bytes at the end of a file, which is created if it is missing. -/
def Directory.append? (path : FilePath) (bytes : List UInt8) (directory : Directory) :
    Option Directory :=
  match directory.find path with
  | .missing => some (directory.insert path (.file bytes))
  | .file before => some (directory.insert path (.file (before ++ bytes)))
  | .blocked | .directory => none

/-- Where the log events of a process go. -/
structure Logger where
  filter : Log.Filter
  format : Log.Format
  file : Option FilePath
  auditFile : Option FilePath
  deriving DecidableEq, Repr

namespace Logger

/-- The logger of a setup with its open files. -/
def ofConfig (environment : Environment) (config : LogConfig) (file auditFile : Option FilePath) :
    Logger where
  filter := .ofEnvironment environment config.level
  format := config.format
  file
  auditFile

/-- Opens the file of a path for what comes at its end. -/
def openFile (follow : Following) (path : String) (directory : Directory) :
    Option FilePath × Directory :=
  match follow path directory with
  | (none, directory) => (none, directory)
  | (some place, directory) =>
    match directory.append? place [] with
    | some directory => (some place, directory)
    | none => (none, directory)

/-- Opens the file of a path if there is a path. -/
def openGiven (follow : Following) (path : Option String) (directory : Directory) :
    Option (Option FilePath) × Directory :=
  match path with
  | none => (some none, directory)
  | some path =>
    let (place, directory) := openFile follow path directory
    (place.map some, directory)

/-- Opens the files of a setup, up to the first one that cannot be opened, and gives the logger that
writes to them. -/
def ofFiles (follow : Following) (environment : Environment) (config : LogConfig)
    (directory : Directory) : Option Logger × Directory :=
  match openGiven follow config.file directory with
  | (none, directory) => (none, directory)
  | (some file, directory) =>
    let (auditFile, directory) := openGiven follow config.auditFile directory
    (auditFile.map (ofConfig environment config file), directory)

/-- The directory after a write to a file, which stays as it is if the file cannot be written. -/
def append (path : Option FilePath) (bytes : List UInt8) (directory : Directory) : Directory :=
  match path with
  | some path => (directory.append? path bytes).getD directory
  | none => directory

/-- The directory after an event. -/
def write (time : Instant) (event : Log.Event) (logger : Logger) (directory : Directory) :
    Directory :=
  if logger.filter.admits event then
    let directory := append logger.file (event.written logger.format time) directory
    if event.target = Log.auditTarget then
      append logger.auditFile (event.written .json time) directory
    else directory
  else directory

end Logger

/-- The logging of a process, which does nothing before it is set up, and the files around it. -/
structure Logging where
  logger : Option Logger
  directory : Directory
  deriving DecidableEq, Repr

namespace Logging

/-- Sets logging up. The files are opened even if there is a logger already. -/
def init (follow : Following) (environment : Environment) (config : LogConfig)
    (logging : Logging) : Option LogError × Logging :=
  match Logger.ofFiles follow environment config logging.directory with
  | (none, directory) => (some .noFile, { logging with directory })
  | (some logger, directory) =>
    if logging.logger.isSome then (some .alreadySet, { logging with directory })
    else (none, { logger := some logger, directory })

/-- Logs an event. -/
def emit (time : Instant) (event : Log.Event) (logging : Logging) : Logging :=
  match logging.logger with
  | some logger => { logging with directory := logger.write time event logging.directory }
  | none => logging

end Logging

end AuditTrail
