import HttpMediation.Config.Basic
import HttpMediation.Encoding.Base64Url
import HttpMediation.Error
import HttpMediation.Random
import HttpMediation.Trust

/-!
# Csrf — tokens against forged requests

A session has a secret token that every link and form of the site carries.  A request that does not
present it did not come from the site.

* `TokenManager.issue` : a fresh token.
* `TokenManager.embed` : a URL that carries the token as its last parameter.
* `TokenManager.verify` : whether a presented value is the token.
-/

namespace HttpMediation

/-- An anti-forgery token, in the letters of URL-safe base64. -/
structure Token where
  text : String
  deriving DecidableEq

namespace Token

/-- The token as a secret. -/
def secret (t : Token) : Secret := ⟨t.text.toUTF8.data.toList⟩

/-- Whether the text is the token. -/
def isPresentedBy (t : Token) (candidate : String) : Bool :=
  t.secret.agrees candidate.toUTF8.data.toList

end Token

/-- Issues and checks tokens. -/
structure TokenManager where
  parameterName : String
  tokenBytes : Nat
  deriving DecidableEq

namespace TokenManager

/-- A manager for the settings. -/
def new (config : CsrfConfig) : TokenManager :=
  ⟨config.parameterName, config.tokenBytes⟩

/-- The token of random bytes. -/
def ofBytes (bytes : List UInt8) : Token :=
  ⟨Base64Url.encodeText bytes⟩

/-- A fresh token: one draw. -/
def issue (m : TokenManager) (r : RandomSource) : Token × RandomSource :=
  let (bytes, r) := r.draw m.tokenBytes
  (ofBytes bytes, r)

/-! ## Links -/

/-- What stands between a URL without fragment and one more parameter. -/
def separator (base : List Char) : List Char :=
  if !base.contains '?' then ['?']
  else if base.getLast? = some '?' ∨ base.getLast? = some '&' then []
  else ['&']

/-- The URL with the token as its last parameter, in front of its fragment. -/
def embed (m : TokenManager) (url : String) (token : Token) : String :=
  let base := url.toList.takeWhile (· != '#')
  let fragment := url.toList.dropWhile (· != '#')
  String.ofList (base ++ separator base ++ m.parameterName.toList ++ '=' :: token.text.toList ++
    fragment)

/-! ## Checks -/

/-- Only the expected token passes; anything else looks like a forged request. -/
def verify (expected : Token) : Option (Tainted String) → Except Error Unit
  | none => .error (.intrusion "csrf token missing")
  | some candidate =>
    if expected.isPresentedBy candidate.inner then .ok ()
    else .error (.intrusion "csrf token mismatch")

end TokenManager

end HttpMediation
