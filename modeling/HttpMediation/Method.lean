import HttpMediation.Error

/-!
# Method — the request methods

The methods that a mediated request may use.  Their names are case-sensitive, as RFC 9110 has them.
-/

namespace HttpMediation

/-- A request method. -/
inductive Method
  | get
  | head
  | post
  | put
  | delete
  | patch
  | options
  deriving DecidableEq, Repr

namespace Method

/-- The name on the wire. -/
def name : Method → String
  | get => "GET"
  | head => "HEAD"
  | post => "POST"
  | put => "PUT"
  | delete => "DELETE"
  | patch => "PATCH"
  | options => "OPTIONS"

/-- Every method, in the order of the type. -/
def all : List Method :=
  [get, head, post, put, delete, patch, options]

/-- The method of that name. -/
def parse (s : String) : Except Error Method :=
  match all.find? (·.name == s) with
  | some m => .ok m
  | none => .error (.validation "unsupported http method")

end Method

end HttpMediation
