import HealthReport.CommandLine.Execution
import Std.Time.Format

/-!
The outer layer of the two programs: a host that reads environment and files and writes what a run
says. The first argument names the program.
-/
open HealthReport

namespace HealthReport.Main

/-- The fault behind an error of the system. -/
def fileFault (error : IO.Error) : FileFault :=
  let numbered (given : UInt32) (details : String) : FileFault :=
    let number := if given < 0x80000000 then given else 0 - given
    if number = 2 then .notFound
    else if number = 17 then .alreadyExists
    else if number = 20 then .notDirectory
    else if number = 21 then .isDirectory
    else if number = 36 then .nameTooLong
    else .other (details ++ " (os error " ++ toString number ++ ")")
  match error with
  | .noFileOrDirectory _ number details => numbered number details
  | .alreadyExists _ number details => numbered number details
  | .inappropriateType _ number details => numbered number details
  | .invalidArgument _ number details => numbered number details
  | .permissionDenied _ number details => numbered number details
  | .resourceExhausted _ number details => numbered number details
  | .noSuchThing _ number details => numbered number details
  | other => .other (toString other)

def attempt {α : Type} (action : IO α) : IO (Except FileFault α) := do
  match ← action.toBaseIO with
  | .ok value => return .ok value
  | .error error => return .error (fileFault error)

def readFile (path : Path) : IO (Except FileFault Bytes) := do
  return (← attempt (IO.FS.readBinFile (Path.shown path))).map ByteArray.toList

/-- Whether a path can be followed to its end. -/
def isThere (path : Path) : IO Bool := do
  return (← attempt (IO.FS.realPath (Path.shown path))).isOk

/-- Opens a log file for writing at its end. -/
def openLog (path : Path) : IO (Except Log.FileProblem IO.FS.Handle) := do
  match Log.splitPath? path with
  | none => return .error (.noName path)
  | some (directory, name) =>
    match ← attempt (IO.FS.createDirAll (Path.shown directory)) with
    | .error fault => return .error (.directory directory fault)
    | .ok _ =>
      match ← attempt (IO.FS.Handle.mk (Path.shown (Path.join directory name)) .append) with
      | .error fault => return .error (.file path fault)
      | .ok handle => return .ok handle

/-- The time in a log record, to the microsecond. -/
def timestamp : IO String := do
  let now := Std.Time.WallTime.ofTimestamp (← Std.Time.Timestamp.now) Std.Time.TimeZone.Offset.zero
  return (Std.Time.PlainDateTime.ofWallTime now).format "uuuu-MM-dd'T'HH:mm:ss.SSSSSS'Z'"

/-- The logging of the process: the subscriber and the log file. -/
structure Logging where
  subscriber : Option Log.Subscriber
  log : Option IO.FS.Handle

/-- Writes a notice to the standard error stream and, if it is a record, to the log file. -/
def emit (logging : Logging) (notice : CommandLine.Notice) : IO Unit := do
  if CommandLine.passes logging.subscriber notice then
    match notice, logging.subscriber with
    | .text words, _ => IO.eprint words
    | .record r, some s =>
      let time ← timestamp
      IO.eprint (r.written time s.layout)
      if let some handle := logging.log then
        handle.putStr (r.line time)
    | .record _, none => return ()

/-- The variables that a run looks at. -/
def readEnvironment : IO Environment := do
  let names := ["LOG_LEVEL", "LOG_FORMAT", "LOG_FILE", "OUTPUT_FORMAT"].map Environment.variableName
  names.foldlM
    (fun held name => do
      match ← IO.getEnv name with
      | some value => return held.set name (Utf8.encode value)
      | none => return held)
    Environment.empty

/-- Sets logging up: the subscriber, the log file and the records about it. -/
def setup (config : LogConfig) :
    IO (Except Log.SetupFault Log.Subscriber × Option IO.FS.Handle × List Log.Record) := do
  match Log.Filter.ofText? config.level with
  | none => return (.error (.invalidDirective config.level), none, [])
  | some filter =>
    let subscriber := Log.Subscriber.ofConfig config filter none
    match config.file with
    | none => return (.ok subscriber, none, [])
    | some path =>
      match ← openLog path with
      | .ok handle => return (.ok subscriber, some handle, [])
      | .error problem => return (.ok subscriber, none, [Log.disabledRecord problem])

/-- The system of the process. -/
def host : CommandLine.Host (StateT Logging IO) where
  environment := readEnvironment
  install config := do
    let (answer, log, opening) ← setup config
    set (Logging.mk answer.toOption log)
    return (answer.map fun _ => (), opening)
  exists? path := isThere path
  read path := readFile path
  say notice := do emit (← get) notice
  print text := IO.print text

def runProgram (p : CommandLine.Program) (words : List String) : IO UInt32 := do
  let status ← (CommandLine.execute host p (words.map Utf8.encode)).run' ⟨none, none⟩
  return UInt32.ofNat status

end HealthReport.Main

/-- Runs the program that the first argument names on the arguments after it. -/
def main (words : List String) : IO UInt32 := do
  match words with
  | "verify-report" :: rest => HealthReport.Main.runProgram .verifyReport rest
  | "check-detection" :: rest => HealthReport.Main.runProgram .checkDetection rest
  | _ =>
    IO.eprintln "usage: verify-report ARGUMENTS... or check-detection ARGUMENTS..."
    return 2
