import AuditTrail.Capture.LogSink
import AuditTrail.Proofs.Json.Line

/-!
# The audit file

What the audit file of a process holds after any sequence of events and records.  Every event that
the filter lets through adds to it: one line if its target is that of the audit trail, and before
that whatever the mirror file takes if the mirror is the same file.

Whether the file keeps the trail, one line for each record that the sink took and nothing of other
targets, is a question of two settings.

* The filter stands before the audit file too.  Below the level of information it drops the records
  of a channel, although the sink takes them.
* The mirror file repeats all output.  If its path leads to the audit file, then every record has
  two lines there and the events of other targets have one.

With a level that lets information through and a mirror elsewhere, if there is one, the file keeps
the trail, and only then (`auditFile_keepsTrail_iff`).  Events of the audit target that are no
records have their line if the level lets them through.
-/

namespace AuditTrail

/-! ## Files under other paths -/

namespace Directory

variable {path other : FilePath} {entry : FileEntry} {bytes more : List UInt8}
  {directory after : Directory}

theorem find_eq_file_iff : directory.find path = .file bytes ↔
    directory.find? (fun entry ↦ entry.1 = path) = some (path, .file bytes) := by
  rw [find.eq_def]
  constructor
  · intro found
    split at found
    next at_path held eq =>
      obtain rfl : held = bytes := Found.file.inj found
      obtain rfl : at_path = path := by simpa using List.find?_some eq
      exact eq
    next => cases found
    next => split_ifs at found
  · intro eq
    rw [eq]

/-- A file stays when an entry is put in under another path. -/
theorem find_insert_of_ne (ne : other ≠ path) (found : directory.find path = .file bytes) :
    (directory.insert other entry).find path = .file bytes := by
  rw [find_eq_file_iff] at found ⊢
  rw [insert, List.find?_cons_of_neg (by simpa using ne), List.find?_filter, ← found]
  congr 1
  funext held
  by_cases at_path : held.1 = path
  · simp [at_path, ne.symm]
  · simp [at_path]

theorem append?_of_file (found : directory.find path = .file bytes) :
    directory.append? path more = some (directory.insert path (.file (bytes ++ more))) := by
  rw [append?, found]

/-- Appending puts a file in. -/
theorem exists_insert_of_append?_eq (eq : directory.append? path more = some after) :
    ∃ bytes, after = directory.insert path (.file bytes) := by
  rw [append?.eq_def] at eq
  split at eq
  · exact ⟨_, (Option.some_inj.mp eq).symm⟩
  · exact ⟨_, (Option.some_inj.mp eq).symm⟩
  · cases eq
  · cases eq

/-- What something was appended to is a file. -/
theorem find_of_append?_eq (eq : directory.append? path more = some after) :
    ∃ bytes, after.find path = .file bytes := by
  obtain ⟨bytes, rfl⟩ := exists_insert_of_append?_eq eq
  exact ⟨bytes, find_insert_self path bytes directory⟩

/-- A file stays when something is appended to another one. -/
theorem find_append?_of_ne (ne : other ≠ path) (found : directory.find path = .file bytes)
    (eq : directory.append? other more = some after) : after.find path = .file bytes := by
  obtain ⟨_, rfl⟩ := exists_insert_of_append?_eq eq
  exact find_insert_of_ne ne found

end Directory

namespace Logger

variable {logger : Logger} {path other : FilePath} {file : Option FilePath}
  {bytes more : List UInt8} {directory after : Directory}

theorem find_append_self (found : directory.find path = .file bytes) :
    (append (some path) more directory).find path = .file (bytes ++ more) := by
  rw [append, Directory.append?_of_file found, Option.getD_some, Directory.find_insert_self]

theorem find_append_of_ne (ne : file ≠ some path) (found : directory.find path = .file bytes) :
    (append file more directory).find path = .file bytes := by
  cases file with
  | none => exact found
  | some other =>
    rw [append]
    cases append_eq : directory.append? other more with
    | none => exact found
    | some after =>
      exact Directory.find_append?_of_ne (fun eq ↦ ne (congrArg some eq)) found append_eq

/-- A file that was opened is there. -/
theorem find_of_openFile_eq {follow : Following} {name : String}
    (opened : openFile follow name directory = (some path, after)) :
    ∃ bytes, after.find path = .file bytes := by
  rw [openFile] at opened
  split at opened
  next => cases congrArg Prod.fst opened
  next place followed _ =>
    split at opened
    next last append_eq =>
      cases opened
      exact Directory.find_of_append?_eq append_eq
    next => cases congrArg Prod.fst opened

/-- With an audit file, both files are opened, first the mirror and then the audit file. -/
theorem ofFiles_eq {follow : Following} {environment : Environment} {config : LogConfig}
    {name : String} (auditFile_eq : config.auditFile = some name)
    (opened : ofFiles follow environment config directory = (some logger, after)) :
    ∃ mirror between place, openGiven follow config.file directory = (some mirror, between) ∧
      openFile follow name between = (some place, after) ∧
      logger = ofConfig environment config mirror (some place) := by
  rw [ofFiles] at opened
  split at opened
  next => cases congrArg Prod.fst opened
  next mirror between mirror_eq =>
    rw [auditFile_eq, openGiven] at opened
    dsimp only at opened
    rcases open_eq : openFile follow name between with ⟨_ | place, reached⟩
    · rw [open_eq] at opened
      cases congrArg Prod.fst opened
    · rw [open_eq] at opened
      cases opened
      exact ⟨mirror, between, place, mirror_eq, open_eq, rfl⟩

/-! ## What an event adds -/

/-- What an event adds to the audit file, which the mirror file may be as well. -/
def addition (logger : Logger) (path : FilePath) (time : Instant) (event : Log.Event) :
    List UInt8 :=
  if logger.filter.admits event then
    (if logger.file = some path then event.written logger.format time else []) ++
      (if event.target = Log.auditTarget then event.written .json time else [])
  else []

/-- An event adds to the audit file and takes nothing from it. -/
theorem find_write (auditFile_eq : logger.auditFile = some path)
    (found : directory.find path = .file bytes) (time : Instant) (event : Log.Event) :
    (logger.write time event directory).find path =
      .file (bytes ++ logger.addition path time event) := by
  have mirrored : (append logger.file (event.written logger.format time) directory).find path =
      .file (bytes ++
        if logger.file = some path then event.written logger.format time else []) := by
    split_ifs with same
    · rw [same]
      exact find_append_self found
    · rw [List.append_nil]
      exact find_append_of_ne same found
  by_cases admitted : logger.filter.admits event
  · rw [write, if_pos admitted, addition, if_pos admitted, ← List.append_assoc]
    by_cases on_target : event.target = Log.auditTarget
    · rw [if_pos on_target, if_pos on_target, auditFile_eq]
      exact find_append_self mirrored
    · rw [if_neg on_target, if_neg on_target, List.append_nil]
      exact mirrored
  · rw [write, if_neg admitted, addition, if_neg admitted, List.append_nil]
    exact found

end Logger

namespace LogStep

/-- When a step is taken. -/
def time : LogStep → Instant
  | event time _ => time
  | record time _ => time

/-- The event that a step logs. -/
def logged : LogStep → Log.Event
  | event _ logged => logged
  | record _ written => written.logEvent

theorem run_eq (step : LogStep) (logging : Logging) :
    step.run logging = (none, logging.emit step.time step.logged) := by
  cases step <;> rfl

end LogStep

namespace Logging

variable {logger : Logger} {path : FilePath} {bytes : List UInt8} {logging : Logging}

/-- The audit file after some steps: what it held before and what each of them added. -/
theorem find_runAll (logger_eq : logging.logger = some logger)
    (auditFile_eq : logger.auditFile = some path)
    (found : logging.directory.find path = .file bytes) (steps : List LogStep) :
    (LogStep.runAll steps logging).directory.find path =
      .file (bytes ++ steps.flatMap fun step ↦ logger.addition path step.time step.logged) := by
  induction steps generalizing logging bytes with
  | nil =>
    rw [List.flatMap_nil, List.append_nil]
    exact found
  | cons step steps ih =>
    have emit_eq : (step.run logging).2 =
        { logging with directory := logger.write step.time step.logged logging.directory } := by
      rw [LogStep.run_eq, emit, logger_eq]
    rw [LogStep.runAll, List.foldl_cons, emit_eq, List.flatMap_cons, ← List.append_assoc]
    exact ih logger_eq (Logger.find_write auditFile_eq found step.time step.logged)

/-- Logging is set up by opening the files of a logger. -/
theorem ofFiles_of_init_eq {follow : Following} {environment : Environment} {config : LogConfig}
    {before after : Logging} (set_up : before.init follow environment config = (none, after)) :
    ∃ logger, Logger.ofFiles follow environment config before.directory =
      (some logger, after.directory) ∧ after.logger = some logger := by
  rw [init] at set_up
  split at set_up
  next => cases congrArg Prod.fst set_up
  next logger directory opened =>
    split_ifs at set_up with present
    · cases congrArg Prod.fst set_up
    · cases set_up
      exact ⟨logger, opened, rfl⟩

end Logging

/-! ## The trail -/

/-- One line of a file, with its end. -/
def IsLine (bytes : List UInt8) : Prop :=
  ∃ text, bytes = text ++ [10] ∧ 10 ∉ text

namespace Log.Event

variable {event : Log.Event} {time : Instant}

/-- An event is one line as a document. -/
theorem isLine_written_json : IsLine (event.written .json time) := by
  refine ⟨Text.Utf8.ofString (event.document time).render, ?_, Json.newline_not_mem_render _⟩
  rw [written, Text.Utf8.ofString, Text.Utf8.encode, String.toList_append, List.flatMap_append]
  rfl

/-- Something is written for an event in every format. -/
theorem written_ne_nil {format : Log.Format} : event.written format time ≠ [] := by
  rw [written.eq_def, Text.Utf8.ofString, Text.Utf8.encode, String.toList_append,
    List.flatMap_append]
  exact List.append_ne_nil_of_right_ne_nil _ (by decide)

end Log.Event

namespace AuditRecord

/-- Records are logged at the level of information or at a more severe one. -/
theorem verbosity_level_le (channel : Channel) :
    (level channel).verbosity ≤ Log.Level.info.verbosity := by
  cases channel <;> decide

/-- There are records on every channel. -/
theorem exists_channel_eq (channel : Channel) : ∃ record : AuditRecord, record.channel = channel :=
  ⟨.payload channel ⟨default, default, default, "", "", none⟩ "" none, rfl⟩

end AuditRecord

namespace LogStep

variable {level : Log.Level} {logger : Logger} {path : FilePath}

/-- The line that is due to a step: every record has one, and an event if it is one of the audit
target that the level lets through. -/
def line? (level : Log.Level) : LogStep → Option (List UInt8)
  | event time logged =>
    if logged.target = Log.auditTarget ∧ logged.level.verbosity ≤ level.verbosity then
      some (logged.written .json time)
    else none
  | record time written => some (written.logEvent.written .json time)

/-- The lines that are due to some steps, in their order. What the sink refuses has none. -/
def trail (level : Log.Level) : List LogStep → Logging → List (List UInt8)
  | [], _ => []
  | step :: steps, logging =>
    match step.run logging with
    | (none, after) => (step.line? level).toList ++ trail level steps after
    | (some _, after) => trail level steps after

theorem trail_cons (step : LogStep) (steps : List LogStep) (logging : Logging) :
    trail level (step :: steps) logging = (step.line? level).toList ++
      trail level steps (logging.emit step.time step.logged) := by
  rw [trail, run_eq]

theorem isLine_of_line? {step : LogStep} : ∀ line ∈ step.line? level, IsLine line := by
  intro line mem
  cases step with
  | event time logged =>
    rw [line?] at mem
    split_ifs at mem with due
    · obtain rfl := Option.some_inj.mp mem
      exact Log.Event.isLine_written_json
    · cases mem
  | record time written =>
    obtain rfl := Option.some_inj.mp mem
    exact Log.Event.isLine_written_json

/-- The trail is made of lines. -/
theorem isLine_of_mem_trail (steps : List LogStep) (logging : Logging) :
    ∀ line ∈ trail level steps logging, IsLine line := by
  induction steps generalizing logging with
  | nil => exact List.forall_mem_nil _
  | cons step steps ih =>
    intro line mem
    rw [trail_cons, List.mem_append, Option.mem_toList] at mem
    rcases mem with due | later
    · exact isLine_of_line? line due
    · exact ih _ line later

/-- A record adds its line and what the mirror takes if it is the same file, or nothing if the
filter drops its channel. -/
theorem addition_record (filter_eq : logger.filter = .ofLevel level) (time : Instant)
    (written : AuditRecord) :
    logger.addition path time written.logEvent =
      if (AuditRecord.level written.channel).verbosity ≤ level.verbosity then
        (if logger.file = some path then written.logEvent.written logger.format time else []) ++
          written.logEvent.written .json time
      else [] := by
  have on_target : written.logEvent.target = Log.auditTarget := rfl
  have level_eq : written.logEvent.level = AuditRecord.level written.channel := rfl
  simp only [Logger.addition, filter_eq, Log.Filter.admits_ofLevel, level_eq, decide_eq_true_eq,
    if_pos on_target]

/-- With a filter that lets information through and a mirror file elsewhere, a step adds what is due
to it. -/
theorem addition_eq (filter_eq : logger.filter = .ofLevel level)
    (lets : Log.Level.info.verbosity ≤ level.verbosity) (apart : logger.file ≠ some path)
    (step : LogStep) :
    logger.addition path step.time step.logged = (step.line? level).toList.flatten := by
  cases step with
  | event time logged =>
    simp only [LogStep.time, LogStep.logged, Logger.addition, filter_eq,
      Log.Filter.admits_ofLevel, decide_eq_true_eq, if_neg apart, List.nil_append, line?]
    by_cases admitted : logged.level.verbosity ≤ level.verbosity
    · by_cases on_target : logged.target = Log.auditTarget
      · simp [admitted, on_target]
      · simp [on_target]
    · simp [admitted]
  | record time written =>
    have admitted := (AuditRecord.verbosity_level_le written.channel).trans lets
    rw [LogStep.time, LogStep.logged, addition_record filter_eq, if_pos admitted, if_neg apart,
      List.nil_append, line?, Option.toList_some, List.flatten_singleton]

theorem flatten_trail (filter_eq : logger.filter = .ofLevel level)
    (lets : Log.Level.info.verbosity ≤ level.verbosity) (apart : logger.file ≠ some path)
    (steps : List LogStep) (logging : Logging) :
    (trail level steps logging).flatten =
      steps.flatMap fun step ↦ logger.addition path step.time step.logged := by
  induction steps generalizing logging with
  | nil => rfl
  | cons step steps ih =>
    rw [trail_cons, List.flatten_append, ih, List.flatMap_cons,
      addition_eq filter_eq lets apart step]

end LogStep

namespace Logging

/-- Whatever comes next, the file goes on with the lines of the trail and with nothing else. -/
def KeepsTrail (level : Log.Level) (path : FilePath) (logging : Logging) : Prop :=
  ∃ bytes, logging.directory.find path = .file bytes ∧ ∀ steps,
    (LogStep.runAll steps logging).directory.find path =
        .file (bytes ++ (LogStep.trail level steps logging).flatten) ∧
      ∀ line ∈ LogStep.trail level steps logging, IsLine line

variable {level : Log.Level} {logger : Logger} {path : FilePath} {logging : Logging}

/-- A file that keeps the trail takes from every step what is due to it. -/
theorem KeepsTrail.addition_eq (keeps : logging.KeepsTrail level path)
    (logger_eq : logging.logger = some logger) (auditFile_eq : logger.auditFile = some path)
    (step : LogStep) :
    logger.addition path step.time step.logged = (step.line? level).toList.flatten := by
  obtain ⟨bytes, found, goes_on⟩ := keeps
  have held := find_runAll logger_eq auditFile_eq found [step]
  rw [(goes_on [step]).1, LogStep.trail_cons, LogStep.trail, List.append_nil,
    List.flatMap_singleton] at held
  exact (List.append_cancel_left (Found.file.inj held)).symm

theorem KeepsTrail.addition_record (keeps : logging.KeepsTrail level path)
    (filter_eq : logger.filter = .ofLevel level) (logger_eq : logging.logger = some logger)
    (auditFile_eq : logger.auditFile = some path) (time : Instant) (written : AuditRecord) :
    (if (AuditRecord.level written.channel).verbosity ≤ level.verbosity then
        (if logger.file = some path then written.logEvent.written logger.format time else []) ++
          written.logEvent.written .json time
      else []) = written.logEvent.written .json time := by
  have added := keeps.addition_eq logger_eq auditFile_eq (.record time written)
  rw [LogStep.time, LogStep.logged, LogStep.addition_record filter_eq, LogStep.line?,
    Option.toList_some, List.flatten_singleton] at added
  exact added

/-- A record on a channel that the filter drops is missed. -/
theorem KeepsTrail.lets_information (keeps : logging.KeepsTrail level path)
    (filter_eq : logger.filter = .ofLevel level) (logger_eq : logging.logger = some logger)
    (auditFile_eq : logger.auditFile = some path) :
    Log.Level.info.verbosity ≤ level.verbosity := by
  by_contra drops
  obtain ⟨record, channel_eq⟩ := AuditRecord.exists_channel_eq .info
  have added := keeps.addition_record filter_eq logger_eq auditFile_eq default record
  rw [channel_eq, AuditRecord.level, if_neg drops] at added
  exact Log.Event.written_ne_nil added.symm

/-- A record on the channel of errors, which no filter drops, has a second line in a mirror that is
the same file. -/
theorem KeepsTrail.mirror_ne (keeps : logging.KeepsTrail level path)
    (filter_eq : logger.filter = .ofLevel level) (logger_eq : logging.logger = some logger)
    (auditFile_eq : logger.auditFile = some path) : logger.file ≠ some path := by
  intro same
  obtain ⟨record, channel_eq⟩ := AuditRecord.exists_channel_eq .error
  have added := keeps.addition_record filter_eq logger_eq auditFile_eq default record
  have admitted : Log.Level.error.verbosity ≤ level.verbosity := by cases level <;> decide
  rw [channel_eq, AuditRecord.level, if_pos admitted, if_pos same] at added
  exact Log.Event.written_ne_nil (List.append_left_eq_self.mp added)

/-- The file keeps the trail behind a filter that is a level if that lets information through and
the mirror file is another one, and only then. -/
theorem keepsTrail_iff (filter_eq : logger.filter = .ofLevel level)
    (logger_eq : logging.logger = some logger) (auditFile_eq : logger.auditFile = some path)
    (there : ∃ bytes, logging.directory.find path = .file bytes) :
    logging.KeepsTrail level path ↔
      Log.Level.info.verbosity ≤ level.verbosity ∧ logger.file ≠ some path := by
  constructor
  · intro keeps
    exact ⟨keeps.lets_information filter_eq logger_eq auditFile_eq,
      keeps.mirror_ne filter_eq logger_eq auditFile_eq⟩
  · rintro ⟨lets, apart⟩
    obtain ⟨bytes, found⟩ := there
    refine ⟨bytes, found, fun steps ↦ ⟨?_, LogStep.isLine_of_mem_trail steps logging⟩⟩
    rw [LogStep.flatten_trail filter_eq lets apart]
    exact find_runAll logger_eq auditFile_eq found steps

/-- After logging was set up with an audit file and the general variable unset, the file to which
the path of the audit file leads goes on with what every step adds to it, in whatever way paths are
followed.  That is the trail if and only if the level lets information through and the path of the
mirror file does not lead to the same file. -/
theorem auditFile_keepsTrail_iff {follow : Following} {environment : Environment}
    {config : LogConfig} {name : String} {before after : Logging}
    (unset : environment.get? LogConfig.filterKey = none)
    (auditFile_eq : config.auditFile = some name)
    (set_up : before.init follow environment config = (none, after)) :
    ∃ mirror between place bytes,
      Logger.openGiven follow config.file before.directory = (some mirror, between) ∧
      Logger.openFile follow name between = (some place, after.directory) ∧
      after.directory.find place = .file bytes ∧
      (∀ steps, (LogStep.runAll steps after).directory.find place =
        .file (bytes ++ steps.flatMap fun step ↦
          (Logger.ofConfig environment config mirror (some place)).addition place step.time
            step.logged)) ∧
      (after.KeepsTrail config.level place ↔
        Log.Level.info.verbosity ≤ config.level.verbosity ∧ mirror ≠ some place) := by
  obtain ⟨logger, opened, logger_eq⟩ := ofFiles_of_init_eq set_up
  obtain ⟨mirror, between, place, mirror_eq, open_eq, rfl⟩ := Logger.ofFiles_eq auditFile_eq opened
  obtain ⟨bytes, found⟩ := Logger.find_of_openFile_eq open_eq
  have filter_eq : (Logger.ofConfig environment config mirror (some place)).filter =
      .ofLevel config.level := by
    rw [Logger.ofConfig, Log.Filter.ofEnvironment, unset]
    rfl
  exact ⟨mirror, between, place, bytes, mirror_eq, open_eq, found, find_runAll logger_eq rfl found,
    keepsTrail_iff filter_eq logger_eq rfl ⟨bytes, found⟩⟩

/-- At the level of errors, without a mirror file, the audit file does not keep the trail. -/
theorem errorLevel_misses :
    ∃ after, Logging.init (FilePath.follow []) [] { level := .error, auditFile := some "audit.log" }
      ⟨none, []⟩ = (none, after) ∧ ¬ after.KeepsTrail .error ["audit.log"] := by
  have set_up : Logging.init (FilePath.follow []) []
      { level := .error, auditFile := some "audit.log" } ⟨none, []⟩ =
      (none, ⟨some ⟨.ofLevel .error, .pretty, none, some ["audit.log"]⟩,
        [(["audit.log"], .file [])]⟩) := by
    decide +kernel
  have open_eq : Logger.openFile (FilePath.follow []) "audit.log" [] =
      (some ["audit.log"], [(["audit.log"], .file [])]) := by
    decide +kernel
  refine ⟨_, set_up, fun keeps ↦ ?_⟩
  obtain ⟨mirror, between, place, -, mirror_eq, audit_eq, -, -, keeps_iff⟩ :=
    auditFile_keepsTrail_iff rfl rfl set_up
  cases mirror_eq
  cases open_eq.symm.trans audit_eq
  exact absurd (keeps_iff.mp keeps).1 (by decide)

end Logging

end AuditTrail
