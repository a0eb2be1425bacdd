import HttpMediation.Config.Basic
import HttpMediation.Error
import HttpMediation.Text.Basic

/-!
# Validation — settings that components can work with

`Config.problems` lists everything that is wrong with the settings, so that an operator sees all of
it at once; `Config.validate` refuses settings that have problems.
-/

namespace HttpMediation

open Text

/-- What is wrong with a setting. -/
inductive ConfigProblem
  | shortToken
  | parameterName
  /-- The name of a cookie; the problem names the setting. -/
  | cookieName (setting : String)
  | cookieLimit
  | headerLimit
  | contentType
  | forwardNamespace
  | emptyContext (context : String)
  | badEntry (context : String)
  | uploadLimit
  | fileNameLimit
  | emptyMask
  deriving DecidableEq, Repr

/-- The problem in words. -/
def ConfigProblem.text : ConfigProblem → String
  | shortToken => "csrf.token_bytes must be at least 16 (128 bits)"
  | parameterName => "csrf.parameter_name must be non-empty [A-Za-z0-9_-]"
  | cookieName setting => "cookies." ++ setting ++ " must be non-empty [A-Za-z0-9_-]"
  | cookieLimit => "cookies.max_cookie_len must be positive"
  | headerLimit => "headers length limits must be positive"
  | contentType => "headers.content_type must name a charset"
  | forwardNamespace => "redirects.forward_namespace must be a directory like /WEB-INF/"
  | emptyContext context => "redirects.contexts." ++ context ++ " is empty"
  | badEntry context =>
    "redirects.contexts." ++ context ++ ": entries must be /paths or http(s) URLs"
  | uploadLimit => "uploads limits must be positive"
  | fileNameLimit => "uploads.max_filename_len must be within 1..=255"
  | emptyMask => "logging.mask must not be empty"

/-! ## Conditions -/

/-- A name of letters, digits, underscores and hyphens. -/
def isPlainName (s : String) : Bool :=
  !s.toList.isEmpty && s.toList.all isNameChar

/-- Whether a content type says how text is encoded. -/
def namesCharset (s : String) : Bool :=
  occurs "charset=".toList (lower s).toList

/-- Whether a text looks like a directory other than the root. -/
def isProperDirectory (s : String) : Bool :=
  ['/'].isPrefixOf s.toList && endsWith (· == '/') s.toList && s != "/"

/-- Whether an entry looks like a path or like the URL of a web page. -/
def looksLikePlace (s : String) : Bool :=
  let s := s.toList
  (['/'].isPrefixOf s && !(['/', '/'].isPrefixOf s)) ||
    "https://".toList.isPrefixOf s || "http://".toList.isPrefixOf s

/-! ## Problems of a section -/

/-- The problem, if something is not as it should be. -/
def ConfigProblem.ifNot (good : Bool) (p : ConfigProblem) : List ConfigProblem :=
  if good then [] else [p]

open ConfigProblem (ifNot)

def CsrfConfig.problems (c : CsrfConfig) : List ConfigProblem :=
  ifNot (16 ≤ c.tokenBytes) .shortToken ++
    ifNot (isPlainName c.parameterName) .parameterName

def CookieConfig.problems (c : CookieConfig) : List ConfigProblem :=
  ifNot (isPlainName c.stateCookieName) (.cookieName "state_cookie_name") ++
    ifNot (isPlainName c.sessionCookieName) (.cookieName "session_cookie_name") ++
    ifNot (0 < c.maxCookieLen) .cookieLimit

def HeaderConfig.problems (c : HeaderConfig) : List ConfigProblem :=
  ifNot (0 < c.maxNameLen && 0 < c.maxValueLen) .headerLimit ++
    ifNot (namesCharset c.contentType) .contentType

/-- The problems of one context. -/
def contextProblems (context : String) (entries : List String) : List ConfigProblem :=
  ifNot (!entries.isEmpty) (.emptyContext context) ++
    entries.flatMap fun e => ifNot (looksLikePlace e) (.badEntry context)

def RedirectConfig.problems (c : RedirectConfig) : List ConfigProblem :=
  ifNot (isProperDirectory c.forwardNamespace) .forwardNamespace ++
    c.contexts.entries.flatMap fun e => contextProblems e.1 e.2

def UploadConfig.problems (c : UploadConfig) : List ConfigProblem :=
  ifNot (0 < c.maxFileSize && 0 < c.maxFiles) .uploadLimit ++
    ifNot (0 < c.maxFilenameLen && c.maxFilenameLen ≤ 255) .fileNameLimit

def LoggingConfig.problems (c : LoggingConfig) : List ConfigProblem :=
  ifNot (!c.mask.toList.isEmpty) .emptyMask

/-! ## All settings -/

namespace Config

/-- Everything that is wrong, section after section. -/
def problems (c : Config) : List ConfigProblem :=
  c.csrf.problems ++ c.cookies.problems ++ c.headers.problems ++ c.redirects.problems ++
    c.uploads.problems ++ c.logging.problems

/-- The error about settings. -/
def invalid (reason : String) : Error :=
  .validation ("invalid configuration: " ++ reason)

/-- Accepts settings without problems. -/
def validate (c : Config) : Except Error Unit :=
  if c.problems.isEmpty then .ok ()
  else .error (invalid ("; ".intercalate (c.problems.map ConfigProblem.text)))

end Config

end HttpMediation
