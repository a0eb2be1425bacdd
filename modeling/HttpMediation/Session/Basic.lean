import HttpMediation.Csrf
import HttpMediation.Dict

/-!
# Session — what a site remembers about a client
-/

namespace HttpMediation

/-- The value of an attribute. -/
inductive AttributeValue
  | text (s : String)
  | number (n : Int)
  deriving DecidableEq

namespace AttributeValue

/-- The value, if it is a text. -/
def text? : AttributeValue → Option String
  | text s => some s
  | number _ => none

/-- The value, if it is a number. -/
def number? : AttributeValue → Option Int
  | text _ => none
  | number n => some n

end AttributeValue

/-- The attributes of a session by name. -/
abbrev Attributes := Dict AttributeValue

/-- A session: the identifier that the client presents, what the site remembers, and the token that
the client's requests have to carry. -/
structure Session where
  id : String
  attributes : Attributes
  token : Token
  deriving DecidableEq

namespace Session

/-- How many random bytes an identifier has. -/
def idSize : Nat := 32

/-- The identifier of random bytes. -/
def idOfBytes (bytes : List UInt8) : String :=
  Base64Url.encodeText bytes

/-- The value of an attribute. -/
def attribute? (s : Session) (name : String) : Option AttributeValue :=
  s.attributes.get? name

/-- Gives an attribute a value. -/
def setAttribute (name : String) (value : AttributeValue) (s : Session) : Session :=
  { s with attributes := s.attributes.insert name value }

/-- Gives the session another token. -/
def setToken (t : Token) (s : Session) : Session :=
  { s with token := t }

end Session

end HttpMediation
