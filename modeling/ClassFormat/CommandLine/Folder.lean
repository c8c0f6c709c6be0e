import ClassFormat.Bytes.BigEndian

/-!
# Folders of files

A folder of files that is held as a value, in which the command line can be run without touching a
disk.

## Main definitions

* `ClassFormat.FileFault` — why a file cannot be read or written.
* `ClassFormat.Folder` — files by name.
* `ClassFormat.Folder.resolve` — what a path leads to.
* `ClassFormat.Folder.read`, `ClassFormat.Folder.write` — the content of a file, and the folder with
  a file changed.
-/

namespace ClassFormat

/-- Why a file cannot be read or written. -/
inductive FileFault where
  /-- There is no such file or folder. -/
  | missing
  /-- A file stands where a folder is needed. -/
  | notFolder
  /-- A folder stands where a file is needed. -/
  | isFolder
  /-- A name or a path has more bytes than the system takes. -/
  | nameTooLong
  /-- Anything else, in the system's words. -/
  | other (text : String)
  deriving DecidableEq, Repr

/-- The text of a fault, with the number that the system gives it. -/
def FileFault.message : FileFault → String
  | missing => "No such file or directory (os error 2)"
  | notFolder => "Not a directory (os error 20)"
  | isFolder => "Is a directory (os error 21)"
  | nameTooLong => "File name too long (os error 36)"
  | other text => text

/-- Files by name, in no particular order. -/
structure Folder where
  files : List (String × Bytes)

namespace Folder

/-- The content of the file with a name. -/
def find? (folder : Folder) (name : String) : Option Bytes :=
  folder.files.lookup name

/-- The folder with a file added or replaced. -/
def insert (folder : Folder) (name : String) (content : Bytes) : Folder where
  files := (name, content) :: folder.files.filter fun file => file.1 != name

/-! ## Walking along a path -/

/-- A folder on the way. Outside of the folder at hand there is what every system has. -/
inductive Location where
  /-- The folder at hand, in which there are files only. -/
  | here
  /-- Some folder above it, of which nothing else is known. -/
  | above
  /-- A folder of the system, by its names from the root. -/
  | system (names : List String)
  deriving DecidableEq, Repr

/-- The folder above a folder; the root is above itself. -/
def Location.up : Location → Location
  | here | above => above
  | system names => system names.dropLast

/-- The folders that every system has. -/
def systemFolders : List (List String) :=
  [[], ["dev"], ["tmp"]]

/-- The file that is always empty, whatever is written to it. -/
def nullDevice : List String :=
  ["dev", "null"]

/-- What stands under a name. -/
inductive Entry where
  | folder (location : Location)
  | file (content : Bytes)
  | vacant

/-- What stands under a name in a folder. -/
def entryAt (folder : Folder) (location : Location) (name : String) : Entry :=
  match location with
  | .here =>
    match folder.find? name with
    | some content => .file content
    | none => .vacant
  | .above => .vacant
  | .system names =>
    let names := names ++ [name]
    if systemFolders.contains names then .folder (.system names)
    else if names = nullDevice then .file []
    else .vacant

/-- Whether a name has more bytes than the system takes. -/
def isLong (name : String) : Bool :=
  255 < name.utf8ByteSize

/-- Goes on to the folder that the next part of a path names. -/
def enter (folder : Folder) (location : Location) (part : String) : Except FileFault Location :=
  if part = "." then .ok location
  else if part = ".." then .ok location.up
  else if isLong part then .error .nameTooLong
  else
    match folder.entryAt location part with
    | .folder inner => .ok inner
    | .file _ => .error .notFolder
    | .vacant => .error .missing

/-- What a path leads to. -/
inductive Target where
  /-- A folder that is there. -/
  | folder
  /-- A name in a folder, and whether a slash behind it asks for a folder. -/
  | named (location : Location) (name : String) (slash : Bool)

/-- What a path leads to. All parts but the last have to be folders; empty parts do not count. -/
def resolve (folder : Folder) (path : String) : Except FileFault Target :=
  let chars := path.toList
  let parts := ((chars.splitOn '/').filter fun part => !part.isEmpty).map String.ofList
  let start := if chars.head? = some '/' then .system [] else .here
  if chars.isEmpty then .error .missing
  else if 4096 ≤ path.utf8ByteSize then .error .nameTooLong
  else
    match parts.getLast? with
    | none => .ok .folder
    | some last => do
      let location ← parts.dropLast.foldlM folder.enter start
      if last = "." ∨ last = ".." then
        return .folder
      else
        return .named location last (chars.getLast? = some '/')

/-- The content of the file at a path. -/
def read (folder : Folder) (path : String) : Except FileFault Bytes := do
  match ← folder.resolve path with
  | .folder => throw .isFolder
  | .named location name slash =>
    if isLong name then
      throw .nameTooLong
    else
      match folder.entryAt location name with
      | .folder _ => throw .isFolder
      | .file content => if slash then throw .notFolder else return content
      | .vacant => throw .missing

/-- The folder with the file at a path added or replaced. What is written outside of it does not
show in it. -/
def write (folder : Folder) (path : String) (content : Bytes) : Except FileFault Folder := do
  match ← folder.resolve path with
  | .folder => throw .isFolder
  | .named location name slash =>
    if slash then
      throw .isFolder
    else if isLong name then
      throw .nameTooLong
    else
      match folder.entryAt location name with
      | .folder _ => throw .isFolder
      | .file _ | .vacant =>
        return if location = .here then folder.insert name content else folder

/-! ## Comparing -/

/-- The files of a folder that an earlier folder does not have with the same content. -/
def changesFrom (folder earlier : Folder) : List (String × Bytes) :=
  folder.files.filter fun file => earlier.find? file.1 != some file.2

end Folder

end ClassFormat
