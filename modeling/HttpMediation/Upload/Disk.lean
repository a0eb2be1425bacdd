import HttpMediation.Dict
import HttpMediation.Error

/-!
# Disk — two directories, and calls that may fail

An upload works on two directories: one to stage files in and one to keep them in.  A `Disk` is what
both hold, and which calls fail for reasons outside this library.  A failing creation or renaming
has no effect; a failing write or copy may have written some of its bytes.  Removing a file does not
fail.

* `Disk.create`, `append`, `sync`, `rename`, `copy` : the calls that can fail.
* `Disk.remove` : removes a file if it is there.
-/

namespace HttpMediation

/-- What stands under a name in a directory. -/
inductive DirectoryEntry
  | file (content : List UInt8)
  | directory
  deriving DecidableEq

/-- The entries of a directory by name. -/
abbrev Directory := Dict DirectoryEntry

/-- The two directories of an upload. -/
inductive Place
  | staging
  | storage
  deriving DecidableEq, Repr

/-- A failure from outside: what is reported, and how many bytes have been written before it. -/
structure DiskFault where
  kind : IoKind
  written : Nat := 0

/-- The directories, `none` for one that does not exist, and the calls so far. -/
structure Disk where
  staging : Option Directory
  storage : Option Directory
  /-- Whether the call with this number fails. -/
  fails : Nat → Option DiskFault := fun _ => none
  calls : Nat := 0

namespace Disk

/-- The longest name of a file, in bytes. -/
def maxNameSize : Nat := 255

/-- The longest name that a path has room for behind its directory, in bytes. -/
def maxPathNameSize : Nat := 4073

/-- The longest content of a file, in bytes: a place in a file is a number with a sign in 64 bits. -/
def maxContentSize : Nat := 0x7fffffffffffffff

/-- The directory of that place. -/
def directory? : Place → Disk → Option Directory
  | .staging, d => d.staging
  | .storage, d => d.storage

/-- Changes the directory of that place, if it exists. -/
def modify (f : Directory → Directory) : Place → Disk → Disk
  | .staging, d => { d with staging := d.staging.map f }
  | .storage, d => { d with storage := d.storage.map f }

/-- The content of a file. -/
def content? (p : Place) (name : String) (d : Disk) : Option (List UInt8) :=
  match (d.directory? p).bind (·.get? name) with
  | some (.file content) => some content
  | _ => none

/-- Puts a file into a directory. -/
def put (p : Place) (name : String) (content : List UInt8) (d : Disk) : Disk :=
  d.modify (·.insert name (.file content)) p

/-- Removes a file. -/
def remove (p : Place) (name : String) (d : Disk) : Disk :=
  d.modify (·.erase name) p

/-- Counts a call, and says whether it fails. -/
def attempt (d : Disk) : Option DiskFault × Disk :=
  (d.fails d.calls, { d with calls := d.calls + 1 })

/-- What keeps a new file from getting a name.  That a path is too long is found before its directory
is looked up, that a name is too long only in its directory. -/
def refusal? (p : Place) (name : String) (d : Disk) : Option IoKind :=
  match d.directory? p with
  | none => some (if maxPathNameSize < name.utf8ByteSize then .invalidFilename else .notFound)
  | some dir =>
    if maxNameSize < name.utf8ByteSize then some .invalidFilename
    else if dir.contains name then some .alreadyExists
    else none

/-- Creates an empty file under a name that is still free. -/
def create (p : Place) (name : String) (d : Disk) : Except IoKind Unit × Disk :=
  match d.attempt with
  | (some f, d) => (.error f.kind, d)
  | (none, d) =>
    match d.refusal? p name with
    | some k => (.error k, d)
    | none => (.ok (), d.put p name [])

/-- Writes bytes to the end of a file, as many as the file has room for. -/
def append (p : Place) (name : String) (bytes : List UInt8) (d : Disk) :
    Except IoKind Unit × Disk :=
  let content := (d.content? p name).getD []
  match d.attempt with
  | (some f, d) => (.error f.kind, d.put p name (content ++ bytes.take f.written))
  | (none, d) =>
    if maxContentSize < content.length + bytes.length then
      (.error .fileTooLarge, d.put p name ((content ++ bytes).take maxContentSize))
    else (.ok (), d.put p name (content ++ bytes))

/-- Waits until everything is written. -/
def sync (d : Disk) : Except IoKind Unit × Disk :=
  match d.attempt with
  | (some f, d) => (.error f.kind, d)
  | (none, d) => (.ok (), d)

/-- Moves a staged file onto a name of the storage. -/
def rename (source target : String) (d : Disk) : Except IoKind Unit × Disk :=
  match d.attempt with
  | (some f, d) => (.error f.kind, d)
  | (none, d) =>
    match d.content? .staging source with
    | none => (.error .notFound, d)
    | some content => (.ok (), (d.put .storage target content).remove .staging source)

/-- Copies a staged file onto a name of the storage. -/
def copy (source target : String) (d : Disk) : Except IoKind Unit × Disk :=
  match d.content? .staging source, d.attempt with
  | none, (_, d) => (.error .notFound, d)
  | some content, (some f, d) =>
    (.error f.kind, d.put .storage target (content.take f.written))
  | some content, (none, d) => (.ok (), d.put .storage target content)

end Disk

end HttpMediation
