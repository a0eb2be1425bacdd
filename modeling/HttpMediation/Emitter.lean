import HttpMediation.Config.Basic
import HttpMediation.Cookie
import HttpMediation.Exchange
import HttpMediation.Field

/-!
# Emitter — headers and cookies that cannot be misread

An `Emitter` turns what a handler wants to send into header writes.  Every part is checked by the
rule of its field before anything is written, so a header cannot be split and a cookie cannot carry
an attribute that was not asked for.

* `Emission` : what a handler may ask for.
* `Emitter.writes` : the header writes of an emission, or its first problem.
* `Emitter.emit` : carries the writes out on an exchange, all or none.
-/

namespace HttpMediation

/-- Checked settings for headers and cookies: every limit is positive. -/
structure Emitter where
  headers : HeaderConfig
  cookies : CookieConfig
  maxNameLen_pos : 0 < headers.maxNameLen
  maxValueLen_pos : 0 < headers.maxValueLen
  maxCookieLen_pos : 0 < cookies.maxCookieLen

/-- What a handler may ask to be sent. -/
inductive Emission
  | cookie (c : Cookie)
  | addHeader (name value : String)
  | setHeader (name value : String)
  /-- Forbids storing the response. -/
  | noCache
  /-- The configured content type, which names a character set. -/
  | contentType
  /-- Makes the client forget one cookie. -/
  | killCookie (name : String)
  /-- Makes the client forget every cookie it sent. -/
  | killAll
  deriving Repr

namespace Emitter

/-- An emitter for the settings, unless a limit is zero. -/
def new (headers : HeaderConfig) (cookies : CookieConfig) : Except Error Emitter :=
  if h : 0 < headers.maxNameLen ∧ 0 < headers.maxValueLen ∧ 0 < cookies.maxCookieLen then
    .ok ⟨headers, cookies, h.1, h.2.1, h.2.2⟩
  else .error (.validation "header and cookie length limits must be positive")

/-! ## Field rules -/

/-- The characters that the settings forbid in values. -/
def forbidden (e : Emitter) : List Char :=
  e.headers.forbiddenValueChars.toList

/-- The rule for header names. -/
def headerName (e : Emitter) : FieldSanitizer :=
  ⟨.headerName, e.headers.maxNameLen, e.maxNameLen_pos, []⟩

/-- The rule for header values. -/
def headerValue (e : Emitter) : FieldSanitizer :=
  ⟨.headerValue, e.headers.maxValueLen, e.maxValueLen_pos, e.forbidden⟩

/-- The rule for cookie names. -/
def cookieName (e : Emitter) : FieldSanitizer :=
  ⟨.cookieName, e.headers.maxNameLen, e.maxNameLen_pos, []⟩

/-- The rule for cookie values. -/
def cookieValue (e : Emitter) : FieldSanitizer :=
  ⟨.cookieValue, e.cookies.maxCookieLen, e.maxCookieLen_pos, []⟩

/-- The rule for a cookie's domain and path. -/
def cookieAttribute (e : Emitter) : FieldSanitizer :=
  ⟨.cookieAttribute, e.headers.maxValueLen, e.maxValueLen_pos, []⟩

/-- The rule for a whole rendered cookie. -/
def cookieHeader (e : Emitter) : FieldSanitizer :=
  ⟨.headerValue, e.cookies.maxCookieLen, e.maxCookieLen_pos, e.forbidden⟩

/-! ## Headers -/

/-- A header whose name and value keep their rules. -/
def verifyHeader (e : Emitter) (name value : String) : Except Error Header := do
  let name ← e.headerName.check name
  let value ← e.headerValue.check value
  return ⟨name, value⟩

/-- A content type that leaves the character set open invites misreading. -/
def namesCharset (contentType : String) : Bool :=
  Text.occurs "charset=".toList (Text.lower contentType).toList

/-- The header that says how to read the response. -/
def contentTypeHeader (e : Emitter) : Except Error Header :=
  if namesCharset e.headers.contentType then e.verifyHeader "Content-Type" e.headers.contentType
  else .error (.validation "content type must name a charset")

/-- The writes that forbid storing the response; all are checked before the first is made. -/
def noCacheWrites (e : Emitter) : Except Error (List HeaderWrite) := do
  let noStore ← e.verifyHeader "Cache-Control" "no-store"
  let noCache ← e.verifyHeader "Cache-Control" "no-cache"
  let revalidate ← e.verifyHeader "Cache-Control" "must-revalidate"
  let expires ← e.verifyHeader "Expires" "-1"
  return [.set noStore, .add noCache, .add revalidate, .set expires]

/-! ## Cookies -/

/-- An attribute with a checked value; nothing when there is none. -/
def attributeText (e : Emitter) (label : String) : Option String → Except Error String
  | none => .ok ""
  | some value => do
    let value ← e.cookieAttribute.check value
    return "; " ++ label ++ "=" ++ value

/-- The lifetime, never negative. -/
def maxAgeText : Option Int → String
  | none => ""
  | some seconds => "; Max-Age=" ++ toString (max seconds 0)

/-- The header line that sets the cookie: always `HttpOnly`, `Secure` on TLS. -/
def cookieText (e : Emitter) (secure : Bool) (c : Cookie) : Except Error String := do
  let name ← e.cookieName.check c.name
  let value ← e.cookieValue.check c.value
  let domain ← e.attributeText "Domain" c.domain
  let path ← e.attributeText "Path" c.path
  return name ++ "=" ++ value ++ maxAgeText c.maxAge ++ domain ++ path ++
    (if secure then "; Secure" else "") ++ "; HttpOnly" ++ "; SameSite=" ++ e.cookies.sameSite.name

/-- The header that sets the cookie, checked once more as a whole. -/
def renderCookie (e : Emitter) (secure : Bool) (c : Cookie) : Except Error Header := do
  let text ← e.cookieText secure c
  let text ← e.cookieHeader.check text
  return ⟨"Set-Cookie", text⟩

/-- The expiring headers of the presented cookies, each name once; every name is checked before the
first header is rendered. -/
def killAllHeaders (e : Emitter) (request : Request) : Except Error (List Header) := do
  let names ← request.cookieNames.mapM e.cookieName.check
  names.eraseDups.mapM fun name => e.renderCookie request.secure (.expired name)

/-! ## Emissions -/

/-- What has to be written for the emission. -/
def writes (e : Emitter) (request : Request) : Emission → Except Error (List HeaderWrite)
  | .cookie c => do return [.add (← e.renderCookie request.secure c)]
  | .addHeader name value => do return [.add (← e.verifyHeader name value)]
  | .setHeader name value => do return [.set (← e.verifyHeader name value)]
  | .noCache => e.noCacheWrites
  | .contentType => do return [.set (← e.contentTypeHeader)]
  | .killCookie name => do return [.add (← e.renderCookie request.secure (.expired name))]
  | .killAll => do return (← e.killAllHeaders request).map .add

/-- Writes the emission to the response, or leaves the response alone. -/
def emit (e : Emitter) (m : Emission) (x : Exchange) : Except Error Unit × Exchange :=
  x.write (e.writes x.request m)

end Emitter

end HttpMediation
