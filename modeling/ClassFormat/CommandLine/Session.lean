import ClassFormat.ClassFile.Reader
import ClassFormat.CommandLine.Arguments
import ClassFormat.CommandLine.Folder
import ClassFormat.Listing.Contents
import ClassFormat.Listing.Outline
import ClassFormat.Text.Control

/-!
# A run of the program

A run reads one file, decodes it, and prints the view that was asked for or writes it to a file. It
is written against any way of reading and writing files, so that it runs on a disk and on a `Folder`
alike.

## Main definitions

* `ClassFormat.Transcript` — what a run leaves on its channels.
* `ClassFormat.FileStore` — a way of reading and writing files.
* `ClassFormat.Invocation.run`, `ClassFormat.Request.run` — a run.
* `ClassFormat.Folder.store` — files in a folder that is held as a value.

## Design

The log is kept as lines and in order. What a decode noted before it failed stays in the log, in
front of the line that tells the failure.
-/

namespace ClassFormat

/-- What a run leaves on its channels. -/
structure Transcript where
  /-- Whether the arguments were refused. -/
  refused : Bool := false
  exitCode : UInt32 := 0
  /-- What is printed. -/
  printed : String := ""
  /-- The lines of the log. -/
  log : List String := []
  deriving DecidableEq, Repr

/-- A way of reading and writing files. -/
structure FileStore (m : Type → Type) where
  read : String → m (Except FileFault Bytes)
  write : String → String → m (Except FileFault Unit)

/-- A line of the log. -/
def logLine (level : Level) (text : String) : String :=
  level.name ++ " " ++ text ++ "\n"

namespace Invocation

/-- The most detail that the log shows. -/
def detail (invocation : Invocation) : Level :=
  match invocation.verbosity with
  | 0 => .warn
  | 1 => .info
  | 2 => .debug
  | _ => .trace

/-- The lines of the log for notes, as far as their detail is asked for. -/
def logLines (invocation : Invocation) (notes : List (Level × String)) : List String :=
  (notes.filter fun note => note.1.rank ≤ invocation.detail.rank).map fun note =>
    logLine note.1 note.2

/-- Colour is for the eye: a file never gets any. -/
def palette (invocation : Invocation) : Palette :=
  .ofColour (invocation.colour && invocation.output.isNone)

/-- The view that was asked for. -/
def render (invocation : Invocation) (file : ClassFile) : String :=
  match invocation.view with
  | .contents => file.contents invocation.palette
  | .outline => file.outline invocation.palette

/-- What comes of the content of the input file: the lines of the log, and the view or the text of
what went wrong. -/
def view? (invocation : Invocation) (content : Bytes) : List String × Except String String :=
  let outcome := ClassFile.reader invocation.options (.ofBytes content)
  let opened := "read class file path=" ++ invocation.input ++ Event.field "len" content.length
  let notes := (.info, opened) :: outcome.journal.map fun event => (event.level, event.text)
  let result := match outcome.result with
    | .ok file => .ok (invocation.render file)
    | .error fault =>
      .error (": ".intercalate (("decoding " ++ invocation.input) :: fault.chain))
  (invocation.logLines notes, result)

/-- A run that ends with a failure. Its text repeats names from outside, so it is disarmed. -/
def failure (log : List String) (text : String) : Transcript where
  exitCode := 1
  log := log ++ [logLine .error (Control.disarm text)]

/-- A run. -/
def run {m : Type → Type} [Monad m] (invocation : Invocation) (store : FileStore m) :
    m Transcript := do
  match ← store.read invocation.input with
  | .error fault => return failure [] ("reading " ++ invocation.input ++ ": " ++ fault.message)
  | .ok content =>
    match invocation.view? content, invocation.output with
    | (log, .error text), _ => return failure log text
    | (log, .ok text), none => return { printed := text, log }
    | (log, .ok text), some path =>
      match ← store.write path text with
      | .error fault => return failure log ("writing " ++ path ++ ": " ++ fault.message)
      | .ok () => return { log }

end Invocation

/-- The name of the program, or of the part of it that shows a view, and its version. -/
def versionText (part : Option View) : String :=
  let name := match part with
    | none => "class-dump"
    | some view => "class-dump-" ++ view.word
  name ++ " 0.1.0\n"

/-- How the program is called. -/
def usageText : String :=
  "USAGE:\n    class-dump [-v]... [--color] [--strict] [--max-version <N>] [--verify-pool] " ++
    "<dump|decompile> <input> [output]\n"

/-- A run for whatever the arguments come to. -/
def Request.run {m : Type → Type} [Monad m] (request : Request) (store : FileStore m) :
    m Transcript :=
  match request with
  | .perform invocation => invocation.run store
  | .version part => return { printed := versionText part }
  | .help => return { printed := usageText }
  | .refused => return { refused := true, exitCode := 1, log := [usageText] }

/-- Files in a folder that is held as a value. -/
def Folder.store : FileStore (StateM Folder) where
  read path := do
    return (← get).read path
  write path text := do
    match (← get).write path text.toUTF8.toList with
    | .ok folder =>
      set folder
      return .ok ()
    | .error fault => return .error fault

end ClassFormat
