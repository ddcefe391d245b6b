/-
  PolicyBench — a file system.

  A tree of directories with files, devices and links, given by the entry at
  each place.  A place is the list of names on the way from the root.

  * `FileError` says why an operation fails, `FileError.message` in words;
  * `FileSystem.read` gives the content of a file; opening it and reading it
    can fail separately (`ReadError`);
  * `FileSystem.write` creates or replaces a file, `FileSystem.writeAt` changes
    it from a position on; a file may take only a first part of what is written
    (`FileSystem.accepted`); the standard output is a device as well, and
    `FileSystem.shown` is what was written to it;
  * `FileSystem.remove` and `FileSystem.put` delete a file and store one along
    with the directories on its way.
-/
import PolicyBench.Path
import PolicyBench.Text.Utf8

namespace PolicyBench

open Text (Bytes)

/-! ## Failures -/

/-- Why an operation on a file fails. -/
inductive FileError where
  | notFound
  /-- the name is that of a device that is not there -/
  | noDevice
  | notDirectory
  | isDirectory
  | noSpace
  | nameTooLong
  /-- the path holds a NUL character -/
  | nulInPath
  /-- the content is no UTF-8 text -/
  | notText
  /-- any other refusal of the operating system -/
  | other (description : String)
  deriving DecidableEq, Repr

/-- The failure in words. -/
def FileError.message : FileError → String
  | notFound => "No such file or directory (os error 2)"
  | noDevice => "No such device or address (os error 6)"
  | notDirectory => "Not a directory (os error 20)"
  | isDirectory => "Is a directory (os error 21)"
  | noSpace => "No space left on device (os error 28)"
  | nameTooLong => "File name too long (os error 36)"
  | nulInPath => "file name contained an unexpected NUL byte"
  | notText => "stream did not contain valid UTF-8"
  | other description => description

/-- A file was not read: it could not be opened, or its content not be had. -/
inductive ReadError where
  | opening (problem : FileError)
  | reading (problem : FileError)
  deriving DecidableEq, Repr

/-- The problem, whichever step it came from. -/
def ReadError.problem : ReadError → FileError
  | opening problem => problem
  | reading problem => problem

/-- A file was not written: it could not be opened, or took only part of its
    content. -/
inductive WriteError where
  | opening (problem : FileError)
  | writing (accepted : Nat) (problem : FileError)
  deriving DecidableEq, Repr

/-! ## Places -/

/-- The names on the way from the root. -/
abbrev Location := List String

/-- What is at a place. -/
inductive Entry where
  | file (content : Bytes)
  | directory
  /-- a device that takes everything and holds nothing -/
  | sink
  /-- a device that takes nothing -/
  | full
  /-- the standard output, with what was written to it -/
  | output (written : Bytes)
  /-- a device that is not there -/
  | unavailable
  /-- another name of a place -/
  | link (target : Location)
  deriving DecidableEq, Repr

/-- The entries below the root, and the directory that relative paths start from. -/
structure FileSystem where
  entries : List (Location × Entry)
  working : Location
  /-- how many bytes a file at a place can hold, where the system sets a limit -/
  limits : List (Location × Nat) := []
  deriving Repr

namespace FileSystem

/-- The entry at a place; the root is a directory. -/
def get? (fs : FileSystem) (at_ : Location) : Option Entry :=
  if at_ = [] then some .directory
  else (fs.entries.find? fun e => e.1 == at_).map Prod.snd

/-- Puts an entry at a place. -/
def setEntry (fs : FileSystem) (at_ : Location) (entry : Entry) : FileSystem :=
  { fs with entries := (at_, entry) :: fs.entries.filter fun e => e.1 != at_ }

/-- How many bytes a file at a place can hold; `none` if there is no limit. -/
def limit? (fs : FileSystem) (at_ : Location) : Option Nat :=
  (fs.limits.find? fun e => e.1 == at_).map Prod.snd

/-- Removes the entry at a place. -/
def dropEntry (fs : FileSystem) (at_ : Location) : FileSystem :=
  { fs with entries := fs.entries.filter fun e => e.1 != at_ }

/-- The place that is meant by a place: a link means its target. -/
def follow (fs : FileSystem) (at_ : Location) : Location :=
  match fs.get? at_ with
  | some (.link target) => target
  | _ => at_

/-- One step of a path, taken in a directory.  The entry reached need not exist. -/
def step (fs : FileSystem) (at_ : Location) (part : String) : Except FileError Location :=
  match fs.get? at_ with
  | none => .error .notFound
  | some .directory =>
    if part = "" ∨ part = "." then .ok at_
    else if part = ".." then .ok at_.dropLast
    else if 255 < part.utf8ByteSize then .error .nameTooLong
    else .ok (fs.follow (at_ ++ [part]))
  | some _ => .error .notDirectory

/-- The steps of a path, unless it cannot name anything. -/
def parts (p : Path) : Except FileError (List String) :=
  if '\x00' ∈ p.text.toList then .error .nulInPath
  else if p.text = "" then .error .notFound
  else if 4096 ≤ p.text.utf8ByteSize then .error .nameTooLong
  else .ok ((Text.parts '/' p.text.toList).map String.ofList)

/-- Where the steps of a path start. -/
def start (fs : FileSystem) (p : Path) : Location :=
  if p.isAbsolute then [] else fs.working

/-- The place that a path names. -/
def locate (fs : FileSystem) (p : Path) : Except FileError Location := do
  (← parts p).foldlM fs.step (fs.start p)

/-- The steps of a path before the last one that is not empty, and that one. -/
def beforeLast? (all : List String) : Option (List String × String) :=
  match all.reverse.dropWhile (· = "") with
  | [] => none
  | last :: before => some (before.reverse, last)

/-- The place where a path creates a file.  Slashes at its end ask for a
    directory, which no file can be, whatever the name before them. -/
def locateNew (fs : FileSystem) (p : Path) : Except FileError Location := do
  let all ← parts p
  match beforeLast? all with
  | none => .error .isDirectory
  | some (before, last) =>
    let directory ← fs.step (← before.foldlM fs.step (fs.start p)) "."
    if all.getLast? = some "" then .error .isDirectory
    else
      let at_ ← fs.step directory last
      if fs.get? at_ = some .directory then .error .isDirectory else .ok at_

/-! ## Operations -/

/-- The content of the file that a path names. -/
def read (fs : FileSystem) (p : Path) : Except ReadError Bytes :=
  match fs.locate p with
  | .error problem => .error (.opening problem)
  | .ok at_ =>
    match fs.get? at_ with
    | none => .error (.opening .notFound)
    | some (.file content) => .ok content
    | some .directory => .error (.reading .isDirectory)
    | some .unavailable => .error (.opening .noDevice)
    | some _ => .ok []

/-- The text of the file that a path names. -/
def readText (fs : FileSystem) (p : Path) : Except FileError String :=
  match fs.read p with
  | .error e => .error e.problem
  | .ok content =>
    match Text.ofUtf8? content with
    | some text => .ok text
    | none => .error .notText

/-- Opens a file for writing, creating it if it is missing; `truncate` empties it.
    Where the system tells about its processes nothing can be created. -/
def openForWriting (fs : FileSystem) (p : Path) (truncate : Bool) :
    Except FileError (Location × FileSystem) :=
  match fs.locateNew p with
  | .error problem => .error problem
  | .ok at_ =>
    match fs.get? at_ with
    | none =>
      if at_.head? = some "proc" then .error .notFound
      else .ok (at_, fs.setEntry at_ (.file []))
    | some (.file _) => .ok (at_, if truncate then fs.setEntry at_ (.file []) else fs)
    | some .unavailable => .error .noDevice
    | some _ => .ok (at_, fs)

/-- The content `old` with `new` written from byte `position` on; a gap before it
    is filled with zeros. -/
def overwrite (old : Bytes) (position : Nat) (new : Bytes) : Bytes :=
  old.take position ++ List.replicate (position - old.length) 0 ++ new ++
    old.drop (position + new.length)

/-- How many of `count` bytes from `position` on a file at a place takes. -/
def fitting (fs : FileSystem) (at_ : Location) (position count : Nat) : Nat :=
  match fs.limit? at_ with
  | none => count
  | some limit => min count (limit - position)

/-- How many of `count` bytes are taken at a place. -/
def accepted (fs : FileSystem) (at_ : Location) (position count : Nat) : Nat :=
  match fs.get? at_ with
  | some (.file _) => fs.fitting at_ position count
  | some .full => 0
  | _ => count

/-- Writes into an open file from a position on, as much as it takes; a device has
    no positions. -/
def writeAt (fs : FileSystem) (at_ : Location) (position : Nat) (new : Bytes) : FileSystem :=
  let taken := new.take (fs.accepted at_ position new.length)
  if taken = [] then fs
  else
    match fs.get? at_ with
    | some (.file old) => fs.setEntry at_ (.file (overwrite old position taken))
    | some (.output written) => fs.setEntry at_ (.output (written ++ taken))
    | _ => fs

/-- Replaces the content of a file, creating it if it is missing.  A file that
    could be opened is left with a first part of the content if it does not take
    all of it. -/
def write (fs : FileSystem) (p : Path) (content : Bytes) :
    Except WriteError Unit × FileSystem :=
  match fs.openForWriting p true with
  | .error problem => (.error (.opening problem), fs)
  | .ok (at_, opened) =>
    let accepted := opened.accepted at_ 0 content.length
    (if accepted = content.length then .ok () else .error (.writing accepted .noSpace),
      opened.writeAt at_ 0 content)

/-- Deletes a file; whether there was one. -/
def remove (fs : FileSystem) (p : Path) : Bool × FileSystem :=
  match fs.locate p with
  | .error _ => (false, fs)
  | .ok at_ =>
    match fs.get? at_ with
    | none => (false, fs)
    | some .directory => (false, fs)
    | some _ => (true, fs.dropEntry at_)

/-- Takes the steps of a path, as far as they lead, and makes directories where
    nothing is yet. -/
def makeDirectories (fs : FileSystem) (at_ : Location) : List String → FileSystem
  | [] => fs
  | part :: rest =>
    match fs.step at_ part with
    | .error _ => fs
    | .ok next =>
      (if (fs.get? next).isSome then fs else fs.setEntry next .directory).makeDirectories next rest

/-- Makes a directory and those on its way. -/
def putDirectory (fs : FileSystem) (p : Path) : FileSystem :=
  match parts p with
  | .error _ => fs
  | .ok all => fs.makeDirectories (fs.start p) all

/-- Stores a file, making the directories on its way. -/
def put (fs : FileSystem) (p : Path) (content : Bytes) : FileSystem :=
  match (parts p).map beforeLast? with
  | .ok (some (before, _)) => ((fs.makeDirectories (fs.start p) before).write p content).2
  | _ => fs

/-! ## A system -/

/-- Where the standard streams are: input, output, errors. -/
def streamLocation (stream : Nat) : Location := ["proc", "self", "fd", Nat.repr stream]

/-- What was written to the standard output as a file. -/
def shown (fs : FileSystem) : Bytes :=
  match fs.get? (streamLocation 1) with
  | some (.output written) => written
  | _ => []

/-- The directories of a system. -/
def systemDirectories : List Location :=
  [["bin"], ["boot"], ["dev"], ["etc"], ["home"], ["lib"], ["media"], ["mnt"], ["opt"], ["proc"],
    ["proc", "self"], ["proc", "self", "fd"], ["root"], ["run"], ["sbin"], ["srv"], ["sys"],
    ["tmp"], ["usr"], ["var"]]

/-- The devices of a system.  There is no terminal, and nothing comes in by the
    standard input. -/
def devices : List (Location × Entry) :=
  [(["dev", "null"], .sink), (["dev", "zero"], .sink), (["dev", "random"], .sink),
    (["dev", "urandom"], .sink), (["dev", "full"], .full), (["dev", "tty"], .unavailable),
    (streamLocation 0, .sink), (streamLocation 1, .output []), (streamLocation 2, .sink),
    (["dev", "stdin"], .link (streamLocation 0)), (["dev", "stdout"], .link (streamLocation 1)),
    (["dev", "stderr"], .link (streamLocation 2)), (["dev", "fd"], .link ["proc", "self", "fd"])]

/-- A system with its devices and an empty working directory. -/
def fresh : FileSystem where
  working := ["work", "here"]
  entries :=
    [(["work"], .directory), (["work", "here"], .directory)] ++
      systemDirectories.map (·, .directory) ++ devices

end FileSystem

end PolicyBench
