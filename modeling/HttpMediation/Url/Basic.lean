import HttpMediation.Url.Host

/-!
# Url — addresses of the web

Absolute URLs of the schemes `http` and `https` as the WHATWG URL standard reads and writes them.
The parts of a `Url` are in their written form: whatever needs an escape has one.

* `Url.text` : the one spelling of a URL.
* `Url.origin` : scheme, host and port, the default port filled in.
-/

namespace HttpMediation

/-- The schemes of the web. -/
inductive Scheme
  | http
  | https
  deriving DecidableEq, Repr

namespace Scheme

/-- The scheme's name. -/
def name : Scheme → String
  | http => "http"
  | https => "https"

/-- The port that is meant when none is named. -/
def defaultPort : Scheme → Nat
  | http => 80
  | https => 443

/-- The scheme of that name, in any case of letters. -/
def ofName? (s : List Char) : Option Scheme :=
  [http, https].find? fun scheme => Text.sameName scheme.name (String.ofList s)

end Scheme

/-- A web address. -/
structure Url where
  scheme : Scheme
  username : List Char := []
  password : Option (List Char) := none
  host : Host
  /-- Never the default port of the scheme. -/
  port : Option Nat := none
  /-- What stands behind each `/` of the path. -/
  path : List (List Char)
  query : Option (List Char) := none
  fragment : Option (List Char) := none
  deriving DecidableEq, Repr

/-- Whose address it is: what has to agree for two URLs to lead to one server. -/
structure Origin where
  scheme : Scheme
  host : Host
  port : Nat
  deriving DecidableEq, Repr

namespace Url

/-- The origin of the URL. -/
def origin (u : Url) : Origin :=
  ⟨u.scheme, u.host, u.port.getD u.scheme.defaultPort⟩

/-! ## Writing -/

/-- User name and password in front of the host. -/
def userText (u : Url) : List Char :=
  match u.username, u.password with
  | [], none => []
  | name, none => name ++ ['@']
  | name, some word => name ++ ':' :: word ++ ['@']

/-- The port behind the host. -/
def portText (u : Url) : List Char :=
  match u.port with
  | none => []
  | some port => ':' :: (toString port).toList

/-- The path, each segment behind a `/`. -/
def pathText (u : Url) : List Char :=
  u.path.flatMap ('/' :: ·)

/-- A part that stands behind a mark when it is there. -/
def behind (mark : Char) : Option (List Char) → List Char
  | none => []
  | some part => mark :: part

/-- The one spelling of the URL. -/
def text (u : Url) : List Char :=
  u.scheme.name.toList ++ "://".toList ++ u.userText ++ u.host.text ++ u.portText ++ u.pathText ++
    behind '?' u.query ++ behind '#' u.fragment

end Url

end HttpMediation
