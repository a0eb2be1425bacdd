import HttpMediation.Config.Basic
import HttpMediation.Encoding.Hex
import HttpMediation.Random
import HttpMediation.Upload.Body
import HttpMediation.Upload.FileName
import HttpMediation.Upload.Scanner
import HttpMediation.Upload.Storage

/-!
# Sanitizer — uploads that succeed as a whole or leave no trace

Every part is checked and copied into a staged file; then all staged files are scanned; only then
are they moved into the storage.  Whatever goes wrong on the way, the staged files are removed, and
so are the files that have already been moved.

* `UploadSanitizer.stage` : one part becomes a staged file.
* `UploadSanitizer.stageAll`, `scanAll`, `storeAll` : the three phases.
* `UploadSanitizer.accept` : an upload.
-/

namespace HttpMediation

open Text

/-! ## Uploads -/

/-- A part of an upload, as the client sent it. -/
structure UploadPart where
  name : Tainted String
  contentType : Tainted String
  body : List ReadEvent

/-- What the transport delivers: a part, or why it cannot go on. -/
abbrev UploadStream := List (Except Error UploadPart)

/-- A part that has been checked and copied. -/
structure StagedFile where
  /-- The name in the staging directory. -/
  file : String
  name : String
  contentType : String
  size : Nat
  deriving DecidableEq, Repr

/-- A file that has passed every check and now lies in the storage. -/
structure UploadedFile where
  staged : StagedFile
  /-- The name in the storage. -/
  storedName : String
  deriving DecidableEq, Repr

/-- Checks and stores uploads. -/
structure UploadSanitizer where
  names : FileNameRule
  /-- Small letters only. -/
  contentTypes : List String
  maxFileSize : UInt64
  maxFiles : Nat
  deriving DecidableEq

namespace UploadSanitizer

variable {σ : Type}

/-- A sanitizer for the settings. -/
def new (config : UploadConfig) : UploadSanitizer where
  names := .new config.allowedExtensions config.maxFilenameLen
  contentTypes := config.allowedContentTypes.map lower
  maxFileSize := config.maxFileSize
  maxFiles := config.maxFiles

/-! ## Staging -/

/-- A content type without its parameters, in small letters. -/
def baseType (contentType : String) : String :=
  lower (String.ofList (trim isBlank (contentType.toList.takeWhile (· != ';'))))

/-- The content type of a part, if it is an allowed one. -/
def checkType (u : UploadSanitizer) (contentType : Tainted String) : Except Error String :=
  if u.contentTypes.contains (baseType contentType.inner) then .ok (baseType contentType.inner)
  else .error (.validation "content type not allowed")

/-- The name of a staged file. -/
def stagingName (bytes : List UInt8) : String :=
  "upload-" ++ Hex.encode bytes ++ ".part"

/-- How many random bytes make a staging name. -/
def stagingSize : Nat := 16

/-- Copies the body of a part into a new staged file; nothing is left of a copy that fails. -/
def stageBody (u : UploadSanitizer) (file : String) (body : List ReadEvent) (d : Disk) :
    Except Error Nat × Disk :=
  match d.create .staging file with
  | (.error k, d) => (.error (.ofIo k), d)
  | (.ok _, d) =>
    match Upload.copyBounded u.maxFileSize file body d with
    | (.error e, d) => (.error e, d.remove .staging file)
    | (.ok size, d) => (.ok size, d)

/-- Checks a part and copies it. -/
def stage (u : UploadSanitizer) (p : UploadPart) (d : Disk) (r : RandomSource) :
    Except Error StagedFile × Disk × RandomSource :=
  match u.names.sanitize p.name, u.checkType p.contentType with
  | .error e, _ => (.error e, d, r)
  | .ok _, .error e => (.error e, d, r)
  | .ok name, .ok contentType =>
    let (bytes, r) := r.draw stagingSize
    let file := stagingName bytes
    match u.stageBody file p.body d with
    | (.error e, d) => (.error e, d, r)
    | (.ok size, d) => (.ok ⟨file, name.inner, contentType, size⟩, d, r)

/-- Removes staged files. -/
def unstage (staged : List StagedFile) (d : Disk) : Disk :=
  staged.foldl (fun d s => d.remove .staging s.file) d

/-- Stages all parts, after those that are staged already; after an error none is left. -/
def stageAll (u : UploadSanitizer) : UploadStream → (staged : List StagedFile) → Disk →
    RandomSource → Except Error (List StagedFile) × Disk × RandomSource
  | [], staged, d, r => (.ok staged, d, r)
  | .error e :: _, staged, d, r => (.error e, unstage staged d, r)
  | .ok p :: rest, staged, d, r =>
    if staged.length = u.maxFiles then
      (.error (.validation "too many files in upload"), unstage staged d, r)
    else
      match u.stage p d r with
      | (.error e, d, r) => (.error e, unstage staged d, r)
      | (.ok s, d, r) => stageAll u rest (staged ++ [s]) d r

/-! ## Scanning -/

/-- Shows a staged file to the scanner. -/
def scan (scanner : Scanner σ) (s : StagedFile) (d : Disk) (state : σ) :
    Except Error Unit × Disk × σ :=
  let (o, state) := scanner.scan s.contentType ((d.content? .staging s.file).getD []) state
  (o.verdict, if o.removesFile then d.remove .staging s.file else d, state)

/-- Shows staged files to the scanner until it refuses one. -/
def scanAll (scanner : Scanner σ) : List StagedFile → Disk → σ → Except Error Unit × Disk × σ
  | [], d, state => (.ok (), d, state)
  | s :: rest, d, state =>
    match scan scanner s d state with
    | (.error e, d, state) => (.error e, d, state)
    | (.ok _, d, state) => scanAll scanner rest d state

/-! ## Storing -/

/-- Removes files from the storage. -/
def withdraw (stored : List UploadedFile) (d : Disk) : Disk :=
  stored.foldl (fun d f => d.remove .storage f.storedName) d

/-- Moves staged files into the storage, after those that are there already; after an error none of
them is left anywhere. -/
def storeAll : List StagedFile → (stored : List UploadedFile) → Disk →
    Except Error (List UploadedFile) × Disk
  | [], stored, d => (.ok stored, d)
  | s :: rest, stored, d =>
    match Upload.moveInto s.file s.name d with
    | (.error e, d) => (.error e, unstage (s :: rest) (withdraw stored d))
    | (.ok name, d) => storeAll rest (stored ++ [⟨s, name⟩]) d

/-! ## The whole upload -/

/-- Accepts an upload with all of its parts, or none of them. -/
def accept (u : UploadSanitizer) (scanner : Scanner σ) (stream : UploadStream) (d : Disk)
    (state : σ) (r : RandomSource) :
    Except Error (List UploadedFile) × Disk × σ × RandomSource :=
  match u.stageAll stream [] d r with
  | (.error e, d, r) => (.error e, d, state, r)
  | (.ok staged, d, r) =>
    match scanAll scanner staged d state with
    | (.error e, d, state) => (.error e, unstage staged d, state, r)
    | (.ok _, d, state) =>
      let (stored, d) := storeAll staged [] d
      (stored, d, state, r)

end UploadSanitizer

end HttpMediation
