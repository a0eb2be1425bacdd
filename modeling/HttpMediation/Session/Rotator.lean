import HttpMediation.Emitter
import HttpMediation.Session.Store

/-!
# Rotator — sessions get new identifiers

An identifier that somebody planted before a client logged in must be dead afterwards.  A rotation
removes the session from its old identifier before it keeps it under the new one, so that no request
ever finds both alive; when a later step fails, it puts the old session back.

* `Rotator.establish` : a new session.
* `Rotator.rotate` : the session under a new identifier, with a new token.
* `Rotator.change` : rotates the session of a request and tells the client.
-/

namespace HttpMediation

/-- Creates and rotates sessions. -/
structure Rotator where
  tokens : TokenManager
  /-- The cookie that carries the identifier. -/
  cookieName : String := "SESSIONID"

namespace Rotator

variable {σ : Type}

/-- The error when there is no session to work on. -/
def noSession : Error := .authentication "no active session"

/-- Draws an identifier and then a token. -/
def drawSession (r : Rotator) {α : Type} (next : String → Token → Plan α) : Plan α :=
  .draw Session.idSize fun id =>
    .draw r.tokens.tokenBytes fun token =>
      next (Session.idOfBytes id) (TokenManager.ofBytes token)

/-! ## New sessions -/

/-- Creates a session and keeps it. -/
def establish (r : Rotator) (attributes : Attributes) : Plan (Except Error Session) :=
  r.drawSession fun id token =>
    let s : Session := ⟨id, attributes, token⟩
    .call (.save s) fun
      | .ok _ => .done (.ok s)
      | .error e => .done (.error e)

/-! ## Rotation -/

/-- Takes a rotation back that could not be completed because of `e`. -/
def restore (old new : Session) (e : Error) (x : σ) : Plan (Except Error Session × σ) :=
  .call (.invalidate new.id) fun
    | .error f => .done (.error f, x)
    | .ok _ => .call (.save old) fun
      | .error f => .done (.error f, x)
      | .ok _ => .done (.error e, x)

/-- Completes a rotation, or takes it back. -/
def complete (commit : Session → σ → Except Error Unit × σ) (old new : Session) (x : σ) :
    Plan (Except Error Session × σ) :=
  match commit new x with
  | (.ok _, x) => .done (.ok new, x)
  | (.error e, x) => restore old new e x

/-- Moves a session: the old identifier dies first. -/
def move (commit : Session → σ → Except Error Unit × σ) (id : String) (old new : Session) (x : σ) :
    Plan (Except Error Session × σ) :=
  .call (.invalidate id) fun
    | .error e => .done (.error e, x)
    | .ok _ => .call (.save new) fun
      | .error e => .call (.save old) fun _ => .done (.error e, x)
      | .ok _ => complete commit old new x

/-- Rotates the session of an identifier; the last step, `commit`, may still refuse it. -/
def rotateThen (r : Rotator) (commit : Session → σ → Except Error Unit × σ) (id : String) (x : σ) :
    Plan (Except Error Session × σ) :=
  .call (.load id) fun
    | .error e => .done (.error e, x)
    | .ok none => .done (.error noSession, x)
    | .ok (some old) =>
      r.drawSession fun newId token => move commit id old { old with id := newId, token := token } x

/-- Rotates the session of an identifier. -/
def rotate (r : Rotator) (id : String) : Plan (Except Error Session × Unit) :=
  r.rotateThen (fun _ x => (.ok (), x)) id ()

/-! ## The session of a request -/

/-- The cookie that tells the client its identifier. -/
def sessionCookie (r : Rotator) (s : Session) : Cookie :=
  { name := r.cookieName, value := s.id, path := some "/" }

/-- Rotates the session that the request's cookie names and sets the cookie anew; when the cookie
cannot be set the session stays where it was. -/
def change (r : Rotator) (emitter : Emitter) (x : Exchange) :
    Plan (Except Error Session × Exchange) :=
  match x.cookie? r.cookieName with
  | none => .done (.error noSession, x)
  | some id => r.rotateThen (fun s x => emitter.emit (.cookie (r.sessionCookie s)) x) id.inner x

end Rotator

/-! ## Requests -/

/-- Whether the request carries the token of the session. -/
def TokenManager.verifyRequest (m : TokenManager) (x : Exchange) (s : Session) : Except Error Unit :=
  verify s.token (x.parameter? m.parameterName)

end HttpMediation
