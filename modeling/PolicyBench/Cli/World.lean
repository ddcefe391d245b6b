/-
  PolicyBench — a system in memory.

  A run of the program can be carried out on a file system in memory.  The trace
  is an open file: it is written from where the last line ended, or always at
  the end of the file if it was opened to be kept.

  * `World` is such a system, and `StateM World` a `Host`;
  * `World.output` is all that appears on the standard output;
  * `World.trace` writes a line to the trace.
-/
import PolicyBench.Cli.Run

namespace PolicyBench.Cli

/-- A file that is open for writing. -/
structure OpenFile where
  location : Location
  /-- where the next byte goes; `none` if that is always the end -/
  position : Option Nat
  deriving Repr

/-- The files, and the trace if one is open. -/
structure World where
  files : FileSystem
  traceFile : Option OpenFile := none
  deriving Repr

namespace World

/-- The time that a trace shows. -/
def moment : String := "2000-01-01T00:00:00.000000Z"

/-- Opens the trace; whether that succeeds. -/
def openTrace (path : Path) (keep : Bool) (w : World) : Bool × World :=
  match w.files.openForWriting path (!keep) with
  | .error _ => (false, w)
  | .ok (location, files) => (true, ⟨files, some ⟨location, if keep then none else some 0⟩⟩)

/-- The number of bytes at a place. -/
def size (w : World) (location : Location) : Nat :=
  match w.files.get? location with
  | some (.file content) => content.length
  | _ => 0

/-- Writes to the trace, as much as its file takes. -/
def trace (text : String) (w : World) : World :=
  match w.traceFile with
  | none => w
  | some file =>
    let bytes := Text.utf8 text
    let position := file.position.getD (w.size file.location)
    let accepted := w.files.accepted file.location position bytes.length
    ⟨w.files.writeAt file.location position bytes,
      some { file with position := file.position.map (· + accepted) }⟩

/-- What appears on the standard output: what was written to it as a file, and
    then the output of the run. -/
def output (w : World) (outcome : Outcome) : Text.Bytes :=
  w.files.shown ++ Text.utf8 outcome.output

end World

instance : Host (StateM World) where
  readFile path := fun w => (w.files.read path, w)
  writeFile path content := fun w =>
    let (outcome, files) := w.files.write path content
    (outcome, { w with files })
  openTrace path keep := fun w => w.openTrace path keep
  trace text := fun w => ((), w.trace text)
  time := fun w => (World.moment, w)

end PolicyBench.Cli
