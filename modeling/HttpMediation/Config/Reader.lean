import HttpMediation.Config.Validation
import HttpMediation.Encoding.Utf8
import HttpMediation.Toml.Document

/-!
# Reader — settings from a TOML document

A document names what it changes; everything else keeps its default.  Unknown names do not count.  A
section is a table, or a list of its values in the order of the section's fields.

* `Config.ofDocument?` : the settings of a document, if its values are of the right kinds.
* `Config.ofToml`, `Config.ofFile` : settings that are also valid.
-/

namespace HttpMediation

open Toml

/-! ## Values -/

namespace Toml.Value

def text? : Value → Option String
  | text s => some s
  | _ => none

/-- A number that is not negative. -/
def nat? : Value → Option Nat
  | integer n => if n < 0 then none else some n.toNat
  | _ => none

def list? : Value → Option (List Value)
  | array items => some items
  | tables items => some items
  | _ => none

def texts? (v : Value) : Option (List String) :=
  v.list?.bind fun items => items.mapM text?

/-- The named values of a table. -/
def entries? : Value → Option Entries
  | table _ entries => some entries
  | _ => none

/-- Whether there is nothing in an array or a table. -/
def isVoid : Value → Bool
  | array items | tables items => items.isEmpty
  | table _ entries => entries.isEmpty
  | _ => false

end Toml.Value

/-! ## Sections -/

/-- The values of a section, by their place or by their name. -/
inductive Section
  | listed (items : List Value)
  | named (entries : Entries)

namespace Section

/-- A section without values. -/
def void : Section := named []

/-- The section that a value stands for; a date stands for an empty one. -/
def ofValue? : Value → Option Section
  | .table _ entries => some (named entries)
  | .array items | .tables items => some (listed items)
  | .date _ => some void
  | _ => none

/-- The value of a field. -/
def field? (place : Nat) (name : String) : Section → Option Value
  | listed items => items[place]?
  | named entries => entries.lookup name

/-- Reads a field, or keeps its default if there is no value. -/
def read {α : Type} (s : Section) (place : Nat) (name : String) (kind : Value → Option α)
    (fallback : α) : Option α :=
  match s.field? place name with
  | some v => kind v
  | none => some fallback

end Section

/-- The value of a name in settings, as a text or as a table with one void entry. -/
def SameSite.ofValue? : Value → Option SameSite
  | .text s => ofName? s
  | .table _ [(name, v)] => if v.isVoid then ofName? name else .none
  | _ => .none

def CsrfConfig.ofSection? (s : Section) : Option CsrfConfig := do
  let d : CsrfConfig := {}
  return {
    parameterName := ← s.read 0 "parameter_name" Value.text? d.parameterName
    tokenBytes := ← s.read 1 "token_bytes" Value.nat? d.tokenBytes }

def CookieConfig.ofSection? (s : Section) : Option CookieConfig := do
  let d : CookieConfig := {}
  return {
    stateCookieName := ← s.read 0 "state_cookie_name" Value.text? d.stateCookieName
    sessionCookieName := ← s.read 1 "session_cookie_name" Value.text? d.sessionCookieName
    sameSite := ← s.read 2 "same_site" SameSite.ofValue? d.sameSite
    maxCookieLen := ← s.read 3 "max_cookie_len" Value.nat? d.maxCookieLen }

def HeaderConfig.ofSection? (s : Section) : Option HeaderConfig := do
  let d : HeaderConfig := {}
  return {
    maxNameLen := ← s.read 0 "max_name_len" Value.nat? d.maxNameLen
    maxValueLen := ← s.read 1 "max_value_len" Value.nat? d.maxValueLen
    forbiddenValueChars := ← s.read 2 "forbidden_value_chars" Value.text? d.forbiddenValueChars
    contentType := ← s.read 3 "content_type" Value.text? d.contentType }

/-- The allowed places of all contexts. -/
def contextsOf? (v : Value) : Option (Dict (List String)) := do
  let entries ← v.entries?
  return .ofList (← entries.mapM fun (name, places) => places.texts?.map fun l => (name, l))

def RedirectConfig.ofSection? (s : Section) : Option RedirectConfig := do
  let d : RedirectConfig := {}
  return {
    contexts := ← s.read 0 "contexts" contextsOf? d.contexts
    forwardNamespace := ← s.read 1 "forward_namespace" Value.text? d.forwardNamespace }

def UploadConfig.ofSection? (s : Section) : Option UploadConfig := do
  let d : UploadConfig := {}
  return {
    maxFileSize := UInt64.ofNat (← s.read 0 "max_file_size" Value.nat? d.maxFileSize.toNat)
    maxFiles := ← s.read 1 "max_files" Value.nat? d.maxFiles
    allowedContentTypes :=
      ← s.read 2 "allowed_content_types" Value.texts? d.allowedContentTypes
    allowedExtensions := ← s.read 3 "allowed_extensions" Value.texts? d.allowedExtensions
    maxFilenameLen := ← s.read 4 "max_filename_len" Value.nat? d.maxFilenameLen }

def LoggingConfig.ofSection? (s : Section) : Option LoggingConfig := do
  let d : LoggingConfig := {}
  return {
    mask := ← s.read 0 "mask" Value.text? d.mask
    sensitiveParameters :=
      ← s.read 1 "sensitive_parameters" (fun v => v.texts?.map TextSet.ofList) d.sensitiveParameters
    maxValueLen := ← s.read 2 "max_value_len" Value.nat? d.maxValueLen }

/-! ## Documents -/

namespace Config

/-- The section of that name. -/
def section? (document : Entries) (name : String) : Option Section :=
  match document.lookup name with
  | some v => Section.ofValue? v
  | none => some .void

/-- The settings of a document. -/
def ofDocument? (document : Entries) : Option Config := do
  return {
    csrf := ← CsrfConfig.ofSection? (← section? document "csrf")
    cookies := ← CookieConfig.ofSection? (← section? document "cookies")
    headers := ← HeaderConfig.ofSection? (← section? document "headers")
    redirects := ← RedirectConfig.ofSection? (← section? document "redirects")
    uploads := ← UploadConfig.ofSection? (← section? document "uploads")
    logging := ← LoggingConfig.ofSection? (← section? document "logging") }

/-- The settings of a text. -/
def ofToml (source : String) : Except Error Config :=
  match (parse? source).bind ofDocument? with
  | none => .error (invalid "<toml>")
  | some c => c.validate.map fun _ => c

/-- The settings of a file: its bytes, or why it cannot be read. -/
def ofFile (contents : Except IoKind (List UInt8)) : Except Error Config :=
  match contents with
  | .error k => .error (.ofIo k)
  | .ok bytes =>
    match Utf8.decode? bytes with
    | none => .error (.ofIo .invalidData)
    | some s => ofToml (String.ofList s)

end Config

end HttpMediation
