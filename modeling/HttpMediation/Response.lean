import HttpMediation.Text.Basic

/-!
# Response — what has been written for the client

A response under construction: headers in the order of writing, and at most one redirect and one
forward target, the last one written.

* `Response.add` : writes one more header.
* `Response.set` : writes a header in place of all with its name, letter case aside.
* `Response.values` : what has been written under a name.
-/

namespace HttpMediation

/-- A header line. -/
structure Header where
  name : String
  value : String
  deriving DecidableEq, Repr

/-- A response under construction. -/
structure Response where
  headers : List Header := []
  redirect : Option String := none
  forward : Option String := none
  deriving DecidableEq, Repr

/-- One way to write a header. -/
inductive HeaderWrite
  | add (h : Header)
  | set (h : Header)
  deriving DecidableEq, Repr

namespace Response

/-- Writes the header behind all others. -/
def add (h : Header) (r : Response) : Response :=
  { r with headers := r.headers ++ [h] }

/-- Drops every header of that name and writes this one behind the others. -/
def set (h : Header) (r : Response) : Response :=
  { r with headers := r.headers.filter (fun g => !Text.sameName g.name h.name) ++ [h] }

/-- Carries out one write. -/
def write (r : Response) : HeaderWrite → Response
  | .add h => r.add h
  | .set h => r.set h

/-- Carries out the writes in their order. -/
def writeAll (ws : List HeaderWrite) (r : Response) : Response :=
  ws.foldl write r

/-- Sends the client elsewhere. -/
def redirectTo (location : String) (r : Response) : Response :=
  { r with redirect := some location }

/-- Hands the request on inside the server. -/
def forwardTo (path : String) (r : Response) : Response :=
  { r with forward := some path }

/-- The values under the name, in the order of writing. -/
def values (r : Response) (name : String) : List String :=
  (r.headers.filter fun h => Text.sameName h.name name).map (·.value)

/-- Nothing has been written. -/
def isUntouched (r : Response) : Bool :=
  r.headers.isEmpty && r.redirect.isNone && r.forward.isNone

end Response

end HttpMediation
