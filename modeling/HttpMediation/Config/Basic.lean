import HttpMediation.Dict

/-!
# Config — the settings of a mediator

Six sections, each with defaults for a deployment that sets nothing.  A section may hold values that
no component accepts; `Config.validate` says which.
-/

namespace HttpMediation

/-- How far a cookie travels with requests of other sites. -/
inductive SameSite
  | strict
  | lax
  | none
  deriving DecidableEq, Repr

namespace SameSite

/-- The attribute's value on the wire, and its name in settings. -/
def name : SameSite → String
  | strict => "Strict"
  | lax => "Lax"
  | none => "None"

/-- Every value, in the order of the type. -/
def all : List SameSite := [strict, lax, none]

/-- The value of that name. -/
def ofName? (s : String) : Option SameSite :=
  all.find? (·.name == s)

end SameSite

/-- Anti-forgery tokens. -/
structure CsrfConfig where
  /-- The request parameter that carries the token. -/
  parameterName : String := "csrf_token"
  /-- How many random bytes a token has. -/
  tokenBytes : Nat := 32
  deriving DecidableEq

/-- Cookies that the library writes. -/
structure CookieConfig where
  stateCookieName : String := "state"
  sessionCookieName : String := "SESSIONID"
  sameSite : SameSite := .lax
  /-- The limit on a whole rendered cookie, in bytes. -/
  maxCookieLen : Nat := 4096
  deriving DecidableEq

/-- Headers that the library writes. -/
structure HeaderConfig where
  maxNameLen : Nat := 64
  maxValueLen : Nat := 4096
  /-- Characters that no header value may hold, besides those the rule excludes. -/
  forbiddenValueChars : String := ""
  contentType : String := "text/html; charset=UTF-8"
  deriving DecidableEq

/-- Where redirects and forwards may go. -/
structure RedirectConfig where
  /-- The allowed places of each context. -/
  contexts : Dict (List String) := .empty
  /-- The directory that forwards stay in. -/
  forwardNamespace : String := "/WEB-INF/"
  deriving DecidableEq

/-- Files that clients send. -/
structure UploadConfig where
  maxFileSize : UInt64 := 10485760
  maxFiles : Nat := 16
  allowedContentTypes : List String := ["image/png", "image/jpeg", "application/pdf", "text/plain"]
  allowedExtensions : List String := ["png", "jpg", "jpeg", "pdf", "txt"]
  maxFilenameLen : Nat := 255
  deriving DecidableEq

/-- Request logs. -/
structure LoggingConfig where
  /-- What is shown in place of a sensitive value. -/
  mask : String := "********"
  /-- The parameters whose values are masked. -/
  sensitiveParameters : TextSet := .ofList ["password", "passwd", "secret", "token", "ssn"]
  maxValueLen : Nat := 256
  deriving DecidableEq

/-- All settings. -/
structure Config where
  csrf : CsrfConfig := {}
  cookies : CookieConfig := {}
  headers : HeaderConfig := {}
  redirects : RedirectConfig := {}
  uploads : UploadConfig := {}
  logging : LoggingConfig := {}
  deriving DecidableEq

end HttpMediation
