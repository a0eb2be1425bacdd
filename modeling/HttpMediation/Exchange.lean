import HttpMediation.Error
import HttpMediation.Request
import HttpMediation.Response
import HttpMediation.Trust

/-!
# Exchange — one request and its response

An `Exchange` is what every operation on a request works on.  What it reads from the client stays
`Tainted`.  Operations that write go through `Exchange.write`, which either carries out all of its
writes or none.
-/

namespace HttpMediation

/-- A request, the response to it and the name under which both are logged. -/
structure Exchange where
  id : String
  request : Request
  response : Response := {}

namespace Exchange

/-! ## Reading -/

/-- The first header of that name. -/
def header? (x : Exchange) (name : String) : Option (Tainted String) :=
  (x.request.header? name).map Tainted.mk

/-- The first cookie of that name. -/
def cookie? (x : Exchange) (name : String) : Option (Tainted String) :=
  (x.request.cookie? name).map Tainted.mk

/-- The first parameter of that name. -/
def parameter? (x : Exchange) (name : String) : Option (Tainted String) :=
  (x.request.parameter? name).map Tainted.mk

/-- A request that carries or changes something sensitive uses TLS and is a `POST`. -/
def assertSecure (x : Exchange) : Except Error Unit :=
  if !x.request.secure then .error (.accessControl "request must use TLS")
  else if x.request.method ≠ .post then .error (.accessControl "request must use POST")
  else .ok ()

/-! ## Writing -/

/-- The exchange with a changed response. -/
def mapResponse (f : Response → Response) (x : Exchange) : Exchange :=
  { x with response := f x.response }

/-- Carries out all writes, or reports why there are none and changes nothing. -/
def write (ws : Except Error (List HeaderWrite)) (x : Exchange) : Except Error Unit × Exchange :=
  match ws with
  | .ok ws => (.ok (), x.mapResponse (Response.writeAll ws))
  | .error e => (.error e, x)

end Exchange

end HttpMediation
