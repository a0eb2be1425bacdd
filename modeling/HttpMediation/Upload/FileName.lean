import HttpMediation.Encoding.Percent
import HttpMediation.Error
import HttpMediation.Text.Basic
import HttpMediation.Trust

/-!
# FileName — names that a client may give a file

A name is checked as it stands and once percent-decoded, so that an escape cannot hide a separator.
The first problem is the one that is reported.

* `FileNameRule.problem?` : the first problem of a name, if it has one.
* `FileNameRule.sanitize` : lets a name through unchanged or refuses it.
-/

namespace HttpMediation

open Text

/-- Why a file may not have a name. -/
inductive FileNameProblem
  | notUtf8
  | empty
  | tooLong
  | path
  | drive
  | dot
  | disallowed
  | reserved
  | noExtension
  | extension
  deriving DecidableEq, Repr

namespace FileNameProblem

/-- The problem in words. -/
def text : FileNameProblem → String
  | notUtf8 => "file name is not valid UTF-8"
  | empty => "file name is empty"
  | tooLong => "file name is too long"
  | path => "file name contains a path"
  | drive => "file name contains a drive letter"
  | dot => "file name has a leading or trailing dot"
  | disallowed => "file name contains a disallowed character"
  | reserved => "file name is a reserved device name"
  | noExtension => "file name has no extension"
  | extension => "file extension not allowed"

/-- The problem as an error. -/
def error (p : FileNameProblem) : Error := .validation p.text

end FileNameProblem

/-- Which extensions names may have and how long names may be. -/
structure FileNameRule where
  /-- Small letters, no leading dots. -/
  allowedExtensions : List String
  maxLen : Nat
  deriving DecidableEq

namespace FileNameRule

/-- A rule for extensions as they are written in settings. -/
def new (extensions : List String) (maxLen : Nat) : FileNameRule :=
  ⟨extensions.map fun e => lower (String.ofList (e.toList.dropWhile (· == '.'))), maxLen⟩

/-! ## Reserved names -/

/-- Names of devices, which some systems open whatever the extension. -/
def reservedNames : List String :=
  ["CON", "PRN", "AUX", "NUL", "COM1", "COM2", "COM3", "COM4", "COM5", "COM6", "COM7", "COM8",
    "COM9", "LPT1", "LPT2", "LPT3", "LPT4", "LPT5", "LPT6", "LPT7", "LPT8", "LPT9"]

/-- The part before the first dot, blanks at its end dropped. -/
def stem (name : List Char) : List Char :=
  trimEnd isBlank (name.takeWhile (· != '.'))

/-- Whether the name stands for a device. -/
def isReserved (name : List Char) : Bool :=
  reservedNames.any fun r => sameName r (String.ofList (stem name))

/-! ## Checks -/

/-- The characters of a name. -/
def isFileNameChar (c : Char) : Bool :=
  isAsciiAlphanum c || c == '.' || c == '_' || c == '-' || c == ' '

/-- A separator, or the character that ends a name in some systems. -/
def isSeparator (c : Char) : Bool :=
  c == '/' || c == '\x5c' || c == '\x00'

/-- A letter and a colon at the front name a drive. -/
def hasDrive : List Char → Bool
  | c :: ':' :: _ => c.isAlpha
  | _ => false

/-- The first problem of the characters of a name. -/
def shapeProblem? (maxLen : Nat) (name : List Char) : Option FileNameProblem :=
  if name.isEmpty then some .empty
  else if maxLen < (String.ofList name).utf8ByteSize then some .tooLong
  else if name.any isSeparator || occurs ['.', '.'] name then some .path
  else if hasDrive name then some .drive
  else if name.head? = some '.' || endsWith (fun c => c == '.' || c == ' ') name then some .dot
  else if !name.all isFileNameChar then some .disallowed
  else if isReserved name then some .reserved
  else none

/-- The problem of the extension, in any case of letters. -/
def extensionProblem? (r : FileNameRule) (name : List Char) : Option FileNameProblem :=
  match cutLast '.' name with
  | none => some .noExtension
  | some (_, ext) =>
    if r.allowedExtensions.contains (lower (String.ofList ext)) then none else some .extension

/-- The first problem of the name: as it stands, then decoded, then its extension. -/
def problem? (r : FileNameRule) (name : List Char) : Option FileNameProblem :=
  match Percent.decodeText? name with
  | none => some .notUtf8
  | some decoded =>
    (shapeProblem? r.maxLen name).or
      ((shapeProblem? r.maxLen decoded).or (r.extensionProblem? name))

/-- Lets the name through or refuses it with its first problem. -/
def check (r : FileNameRule) (name : String) : Except Error String :=
  match r.problem? name.toList with
  | some p => .error p.error
  | none => .ok name

/-- Checks a client's name. -/
def sanitize (r : FileNameRule) (name : Tainted String) : Except Error (Verified String) :=
  (r.check name.inner).map Verified.mk

end FileNameRule

end HttpMediation
