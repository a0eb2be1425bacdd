import HttpMediation.Encoding.Form
import HttpMediation.Method
import HttpMediation.Text.Basic

/-!
# Request — what the client asked for

* `Request.queryOf` : the query of a URL text, from its first `?` up to the first `#` behind it.
* `Request.parameters` : the parameters of the query, then those of the body.
* `Request.header?`, `cookie?`, `parameter?` : the first one of a name.
-/

namespace HttpMediation

/-- A request as the server received it. -/
structure Request where
  method : Method := .get
  url : String := "/"
  remoteAddr : String := "127.0.0.1"
  secure : Bool := false
  headers : List (String × String) := []
  cookies : List (String × String) := []
  /-- The parameters of the body. -/
  form : List (String × String) := []
  deriving DecidableEq, Repr

namespace Request

/-- The text behind the first `?`, up to the next `#`; nothing without a `?`. -/
def queryOf (url : List Char) : List Char :=
  ((url.dropWhile (· != '?')).drop 1).takeWhile (· != '#')

/-- The text before the first `?` or `#`. -/
def pathOf (url : List Char) : List Char :=
  url.takeWhile fun c => c != '?' && c != '#'

/-- The parameters of the URL and then those of the body. -/
def parameters (r : Request) : List (String × String) :=
  Form.decode (queryOf r.url.toList) ++ r.form

/-- The value of the first header with that name, letter case aside. -/
def header? (r : Request) (name : String) : Option String :=
  (r.headers.find? fun h => Text.sameName h.1 name).map (·.2)

/-- The value of the first cookie with exactly that name. -/
def cookie? (r : Request) (name : String) : Option String :=
  r.cookies.lookup name

/-- The value of the first parameter with exactly that name. -/
def parameter? (r : Request) (name : String) : Option String :=
  r.parameters.lookup name

/-- The names of the cookies, in their order and with repetitions. -/
def cookieNames (r : Request) : List String :=
  r.cookies.map (·.1)

/-- The names of the parameters, each once, in the order of first appearance. -/
def parameterNames (r : Request) : List String :=
  (r.parameters.map (·.1)).eraseDups

end Request

end HttpMediation
