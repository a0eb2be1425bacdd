import HttpMediation.Config.Basic
import HttpMediation.Exchange
import HttpMediation.Redirect.Path
import HttpMediation.Url.Parser

/-!
# Guard — redirects and forwards to allowed places

Every context of the application has a list of allowed places: paths of the site, or origins with a
path.  A location is resolved first and compared afterwards.

* `AllowEntry.parse?`, `Target.resolve?` : what an allowed place and a location mean.
* `AllowEntry.admits` : whether a place allows a target.
* `RedirectGuard.check` : the location to send, or a refusal.
* `RedirectGuard.redirect`, `forward` : write the location to the response.
-/

namespace HttpMediation

open Text

/-! ## Places and targets -/

/-- An allowed place. -/
inductive AllowEntry
  /-- A directory or a file of this site, in normal form. -/
  | path (path : List Char)
  /-- A directory or a file of another site. -/
  | origin (origin : Origin) (path : List Char)
  deriving DecidableEq, Repr

/-- What a location means. -/
inductive Target
  /-- A place of this site: its path in normal form, and the query and fragment as they came. -/
  | relative (path rest : List Char)
  /-- A place of any site: the URL, and its path decoded and in normal form. -/
  | absolute (url : Url) (path : List Char)
  deriving DecidableEq, Repr

/-- Starts at the root of this site, and not with two slashes, which would name a host. -/
def isSitePath (s : List Char) : Bool :=
  ['/'].isPrefixOf s && !(['/', '/'].isPrefixOf s)

namespace AllowEntry

/-- The place that a setting means. -/
def parse? (entry : String) : Option AllowEntry :=
  let s := entry.toList
  if isSitePath s then (Path.normalize s).map path
  else do
    let url ← Url.parse? s
    if !url.username.isEmpty then none
    return origin url.origin (← Path.normalize url.pathText)

/-- Whether the target is this place or lies in it. -/
def admits : AllowEntry → Target → Bool
  | path dir, .relative p _ => Path.within p dir
  | origin o dir, .absolute url p => url.origin == o && Path.within p dir
  | _, _ => false

end AllowEntry

namespace Target

/-- Characters that no location may hold: what browsers drop, trim or read as a slash. -/
def isUnsafe (c : Char) : Bool :=
  isControl c || isBlank c || c == '\x5c'

/-- A place of this site: its decoded path must not name a host. -/
def resolveRelative? (s : List Char) : Option Target := do
  let (raw, rest) := cutAt (fun c => c == '?' || c == '#') s
  let decoded ← Path.decodeFully raw
  if ['/', '/'].isPrefixOf decoded || decoded.contains '\x5c' then none
  return relative (← Path.normalize decoded) rest

/-- Whether the location names a web scheme and a host. -/
def isAbsolute (s : List Char) : Bool :=
  let start := s.map Char.toLower
  "http://".toList.isPrefixOf start || "https://".toList.isPrefixOf start

/-- A place of any site, reached without a user name or a password. -/
def resolveAbsolute? (s : List Char) : Option Target := do
  let url ← Url.parse? s
  if !url.username.isEmpty || url.password.isSome then none
  let decoded ← Path.decodeFully url.pathText
  if decoded.contains '\x5c' then none
  return absolute url (← Path.normalize decoded)

/-- What the location means, if it means one thing only. -/
def resolve? (location : String) : Option Target :=
  let s := location.toList
  if s.isEmpty || s.any isUnsafe then none
  else if ['/'].isPrefixOf s then resolveRelative? s
  else if isAbsolute s then resolveAbsolute? s
  else none

/-- The text that is sent for the target. -/
def text : Target → String
  | relative path rest => String.ofList (Path.write path ++ rest)
  | absolute url _ => String.ofList url.text

/-- Whether the target is of this site and lies in the directory. -/
def isWithin (dir : List Char) : Target → Bool
  | relative path _ => Path.within path dir
  | absolute _ _ => false

end Target

/-! ## The guard -/

/-- The allowed places of every context, and the directory that forwards stay in. -/
structure RedirectGuard where
  contexts : Dict (List AllowEntry)
  forwardNamespace : List Char

namespace RedirectGuard

/-- The places of one context. -/
def readContext (context : String) (entries : List String) : Except Error (List AllowEntry) :=
  match entries.mapM AllowEntry.parse? with
  | some places => .ok places
  | none => .error (.validation ("invalid allow-list entry in context " ++ context))

/-- A guard for the settings, if every place and the directory of forwards can be read. -/
def new (config : RedirectConfig) : Except Error RedirectGuard := do
  let contexts ← config.contexts.entries.mapM fun e => do return (e.1, ← readContext e.1 e.2)
  match Path.normalize config.forwardNamespace.toList with
  | some dir => .ok ⟨.ofList contexts, dir⟩
  | none => .error (.validation "invalid forward namespace")

/-- The places of a context. -/
def places (g : RedirectGuard) (context : String) : Except Error (List AllowEntry) :=
  match g.contexts.get? context with
  | some places => .ok places
  | none => .error (.accessControl "unknown redirect context")

/-- The location to send: it must resolve, and a place of the context must admit it. -/
def check (g : RedirectGuard) (context : String) (location : Tainted String) :
    Except Error (Verified String) := do
  let places ← g.places context
  match Target.resolve? location.inner with
  | some target =>
    if places.any (·.admits target) then .ok ⟨target.text⟩
    else .error (.accessControl "redirect destination not allowed")
  | none => .error (.accessControl "redirect destination not allowed")

/-- The path to hand the request on to: besides, it must lie in the directory of forwards. -/
def checkForward (g : RedirectGuard) (context : String) (location : Tainted String) :
    Except Error (Verified String) := do
  let places ← g.places context
  match Target.resolve? location.inner with
  | some target =>
    if target.isWithin g.forwardNamespace && places.any (·.admits target) then .ok ⟨target.text⟩
    else .error (.accessControl "forward destination not allowed")
  | none => .error (.accessControl "forward destination not allowed")

/-- Writes a checked text to the response, or leaves the response alone. -/
def send (checked : Except Error (Verified String)) (put : String → Response → Response)
    (x : Exchange) : Except Error Unit × Exchange :=
  match checked with
  | .ok text => (.ok (), x.mapResponse (put text.inner))
  | .error e => (.error e, x)

/-- Sends the client to the location. -/
def redirect (g : RedirectGuard) (context : String) (location : Tainted String) (x : Exchange) :
    Except Error Unit × Exchange :=
  send (g.check context location) Response.redirectTo x

/-- Hands the request on to the location. -/
def forward (g : RedirectGuard) (context : String) (location : Tainted String) (x : Exchange) :
    Except Error Unit × Exchange :=
  send (g.checkForward context location) Response.forwardTo x

end RedirectGuard

end HttpMediation
