/-
  PolicyBench — the program.

  Runs the program on the system it is started on: its files, its clock, the
  settings of the environment for the filters of the trace and of the messages on
  the terminal, and the standard streams.

  * `System` is the program's view of that system, a `Host`;
  * `main` is the entry point.
-/
import PolicyBench.Cli.Run
import Std.Time.Format

namespace PolicyBench.Cli

/-- Effects on the system, with the trace if one is open. -/
abbrev System := StateT (Option IO.FS.Handle) IO

/-- The failure that the system reports. -/
def fileError (e : IO.Error) : FileError :=
  match e with
  | .noFileOrDirectory _ code details => ofCode code.toNat details
  | .inappropriateType _ code details => ofCode code.toNat details
  | .resourceExhausted _ code details => ofCode code.toNat details
  | .invalidArgument _ code details => ofCode code.toNat details
  | .permissionDenied _ code details => ofCode code.toNat details
  | .otherError code details => ofCode code.toNat details
  | e => .other (toString e)
where
  /-- The failure with a number. -/
  ofCode (code : Nat) (details : String) : FileError :=
    match code with
    | 2 => .notFound
    | 6 => .noDevice
    | 20 => .notDirectory
    | 21 => .isDirectory
    | 28 => .noSpace
    | 36 => .nameTooLong
    | code => .other (details ++ " (os error " ++ Nat.repr code ++ ")")

/-- Reads a file. -/
def readSystemFile (path : Path) : IO (Except ReadError Text.Bytes) := do
  if '\x00' ∈ path.text.toList then return .error (.opening .nulInPath)
  match ← EIO.toBaseIO (IO.FS.Handle.mk path.text .read) with
  | .error e => return .error (.opening (fileError e))
  | .ok handle =>
    match ← EIO.toBaseIO handle.readBinToEnd with
    | .error e => return .error (.reading (fileError e))
    | .ok content => return .ok content.data.toList

/-- Writes a file in place of any that is there, one buffer after another. -/
def writeSystemFile (path : Path) (content : Text.Bytes) : IO (Except WriteError Unit) := do
  if '\x00' ∈ path.text.toList then return .error (.opening .nulInPath)
  match ← EIO.toBaseIO (IO.FS.Handle.mk path.text .write) with
  | .error e => return .error (.opening (fileError e))
  | .ok handle =>
    let bytes : ByteArray := ⟨content.toArray⟩
    for number in List.range (bytes.size / Csv.bufferSize + 1) do
      let start := number * Csv.bufferSize
      let buffer := bytes.extract start (start + Csv.bufferSize)
      if let .error e ← EIO.toBaseIO (do handle.write buffer; handle.flush) then
        return .error (.writing start (fileError e))
    return .ok ()

/-- Writes a line to a trace; a trace that cannot be written is lost. -/
def writeTrace (handle : IO.FS.Handle) (text : String) : IO Unit := do
  discard <| EIO.toBaseIO (do handle.putStr text; handle.flush)

/-- The time of day, in UTC. -/
def systemTime : IO String := do
  let now ← Std.Time.Timestamp.now
  let wall := Std.Time.WallTime.ofDuration now.toDurationSinceUnixEpoch
  return (Std.Time.PlainDateTime.ofWallTime wall).format "uuuu-MM-dd'T'HH:mm:ss.SSSSSS'Z'"

instance : Host System where
  readFile path := readSystemFile path
  writeFile path content := writeSystemFile path content
  openTrace path keep := do
    match ← EIO.toBaseIO (IO.FS.Handle.mk path.text (if keep then .append else .write)) with
    | .error e =>
      IO.eprintln ("Unable to open log file " ++ Text.quoted path.text ++ ": " ++
        (fileError e).message)
      return false
    | .ok handle =>
      set (some handle)
      return true
  trace text := do
    if let some handle ← get then
      writeTrace handle text
  time := systemTime

end PolicyBench.Cli

open PolicyBench.Cli in
/-- Runs the program on its arguments. -/
def main (arguments : List String) : IO UInt32 := do
  let setting ← IO.getEnv "RUST_LOG_FILE"
  let terminal ← IO.getEnv "RUST_LOG"
  let (outcome, _) ← (run setting arguments terminal : System Outcome).run none
  IO.print outcome.output
  if let some e := outcome.error then
    IO.eprintln e.text
  return .ofNat outcome.exitCode
