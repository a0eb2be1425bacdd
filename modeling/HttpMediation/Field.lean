import HttpMediation.Error
import HttpMediation.Text.Basic
import HttpMediation.Trust

/-!
# Field — what may stand in a header or a cookie

A `FieldSanitizer` is a rule, a limit and a list of further forbidden characters.  It lets a text
through unchanged or names the first rule that the text breaks, in this order: emptiness, length,
line breaks, characters.

* `FieldRule.allows` : the characters of each field, after RFC 9110 and RFC 6265.
* `FieldSanitizer.check` : the first problem of a text, if it has one.
* `neutralize` : what a text looks like in a log.
-/

namespace HttpMediation

open Text

/-! ## Rules -/

/-- The fields that a response is written from. -/
inductive FieldRule
  | headerName
  | headerValue
  | cookieName
  | cookieValue
  | cookieAttribute
  deriving DecidableEq, Repr

namespace FieldRule

/-- Every rule, in the order of the type. -/
def all : List FieldRule :=
  [headerName, headerValue, cookieName, cookieValue, cookieAttribute]

/-- The rule's name in settings. -/
def name : FieldRule → String
  | headerName => "HeaderName"
  | headerValue => "HeaderValue"
  | cookieName => "CookieName"
  | cookieValue => "CookieValue"
  | cookieAttribute => "CookieAttribute"

/-- The field in words. -/
def label : FieldRule → String
  | headerName => "header name"
  | headerValue => "header value"
  | cookieName => "cookie name"
  | cookieValue => "cookie value"
  | cookieAttribute => "cookie attribute"

/-- The characters of a token: letters, digits and fifteen marks. -/
def isTokenChar (c : Char) : Bool :=
  isAsciiAlphanum c || "!#$%&\x27*+-.^_\x60|~".toList.contains c

/-- A printing character of ASCII, the space excluded. -/
def isVisible (c : Char) : Bool :=
  '!' ≤ c && c ≤ '~'

/-- The characters that the field may hold. -/
def allows : FieldRule → Char → Bool
  | headerName, c => isTokenChar c
  | cookieName, c => isTokenChar c
  | headerValue, c => c == '\t' || c == ' ' || isVisible c
  | cookieValue, c => isVisible c && !"\x22,;\x5c".toList.contains c
  | cookieAttribute, c => isVisible c && !";,".toList.contains c

/-- A value may be empty, a name may not. -/
def allowsEmpty : FieldRule → Bool
  | headerValue => true
  | cookieValue => true
  | _ => false

end FieldRule

/-! ## Checking -/

/-- Why a text may not stand in a field. -/
inductive FieldProblem
  | empty
  | tooLong (limit : Nat)
  | lineBreak
  | disallowed
  deriving DecidableEq, Repr

/-- The problem as an error about the field. -/
def FieldProblem.error (rule : FieldRule) : FieldProblem → Error
  | empty => .validation (rule.label ++ " is empty")
  | tooLong limit =>
    .validation (rule.label ++ " exceeds maximum length of " ++ toString limit)
  | lineBreak => .validation (rule.label ++ " contains a line break")
  | disallowed => .validation (rule.label ++ " contains a disallowed character")

/-- A rule with a positive limit on the bytes of a text. -/
structure FieldSanitizer where
  rule : FieldRule
  maxLen : Nat
  maxLen_pos : 0 < maxLen
  forbidden : List Char := []

namespace FieldSanitizer

/-- What is said about a limit of zero, which no sanitizer has. -/
def zeroLimit : String := "max_len must be greater than 0"

/-- The sanitizer of that limit, unless the limit is zero. -/
def ofLimit? (rule : FieldRule) (maxLen : Nat) (forbidden : List Char) : Option FieldSanitizer :=
  if h : 0 < maxLen then some ⟨rule, maxLen, h, forbidden⟩ else none

/-- A character that the rule has and that is not forbidden besides. -/
def allows (s : FieldSanitizer) (c : Char) : Bool :=
  s.rule.allows c && !s.forbidden.contains c

/-- The first problem of the text. -/
def problem? (s : FieldSanitizer) (value : String) : Option FieldProblem :=
  if value.toList.isEmpty && !s.rule.allowsEmpty then some .empty
  else if s.maxLen < value.utf8ByteSize then some (.tooLong s.maxLen)
  else if value.toList.any (fun c => c == '\r' || c == '\n') then some .lineBreak
  else if value.toList.all s.allows then none
  else some .disallowed

/-- Lets the text through or refuses it with its first problem. -/
def check (s : FieldSanitizer) (value : String) : Except Error String :=
  match s.problem? value with
  | some p => .error (p.error s.rule)
  | none => .ok value

/-- Checks a client's text. -/
def sanitize (s : FieldSanitizer) (value : Tainted String) : Except Error (Verified String) :=
  (s.check value.inner).map Verified.mk

end FieldSanitizer

/-! ## Logs -/

/-- The text as a log shows it: cut to a number of characters, controls replaced. -/
def neutralize (maxLen : Nat) (s : String) : String :=
  String.ofList ((s.toList.take maxLen).map fun c => if isControl c then '_' else c)

end HttpMediation
