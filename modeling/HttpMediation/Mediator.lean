import HttpMediation.Config.Validation
import HttpMediation.Redirect.Guard
import HttpMediation.RequestLog
import HttpMediation.Sealing.Codec
import HttpMediation.Session.Rotator
import HttpMediation.Upload.Sanitizer

/-!
# Mediator — every component from one configuration

A `Mediator` stands between an application and its clients.  It exists only for settings that have
been validated, and all of its components agree on them.

* `Mediator.new` : validates the settings and puts the components together.
* `Mediator.tokens`, `rotator`, `uploads`, `logger` : the components that the settings alone decide.
* `Mediator.emit`, `encryptCookie`, `changeSession`, `verifyToken` : operations on an exchange.
-/

namespace HttpMediation

/-- The components that can fail to be built, and the settings of all. -/
structure Mediator where
  config : Config
  codec : Codec
  emitter : Emitter
  redirects : RedirectGuard

namespace Mediator

/-- The error when nobody supplies a key. -/
def keyMissing : Error := .validation "a key provider is required"

/-- A mediator for the settings: they are validated first, then a key is asked for, then the
components are built. -/
def new (config : Config) (keys : Option KeySource) : Except Error Mediator := do
  config.validate
  match keys with
  | none => .error keyMissing
  | some keys =>
    let redirects ← RedirectGuard.new config.redirects
    let emitter ← Emitter.new config.headers config.cookies
    return {
      config := config
      codec := { keys := keys, cookieName := config.cookies.stateCookieName }
      emitter := emitter
      redirects := redirects }

/-! ## Components -/

/-- Issues and checks anti-forgery tokens. -/
def tokens (m : Mediator) : TokenManager := .new m.config.csrf

/-- Creates and rotates sessions. -/
def rotator (m : Mediator) : Rotator :=
  { tokens := m.tokens, cookieName := m.config.cookies.sessionCookieName }

/-- Checks and stores uploads. -/
def uploads (m : Mediator) : UploadSanitizer := .new m.config.uploads

/-- Writes log lines. -/
def logger (m : Mediator) : RequestLogger := .new m.config.logging m.config.csrf

/-! ## Responses -/

/-- Sends headers and cookies. -/
def emit (m : Mediator) (e : Emission) (x : Exchange) : Except Error Unit × Exchange :=
  m.emitter.emit e x

/-- Sends the client to a location that the context allows. -/
def redirect (m : Mediator) (context : String) (location : Tainted String) (x : Exchange) :
    Except Error Unit × Exchange :=
  m.redirects.redirect context location x

/-- Hands the request on to a location that the context allows. -/
def forward (m : Mediator) (context : String) (location : Tainted String) (x : Exchange) :
    Except Error Unit × Exchange :=
  m.redirects.forward context location x

/-! ## State -/

/-- Writes state into the state cookie. -/
def encryptCookie (m : Mediator) (state : StateMap) (x : Exchange) (r : RandomSource) :
    Except Error Unit × Exchange × RandomSource :=
  m.codec.encryptCookie m.emitter state x r

/-- Reads the state that the request's state cookie carries. -/
def decryptCookie (m : Mediator) (x : Exchange) : Except Error StateMap :=
  m.codec.decryptCookie x

/-! ## Sessions -/

/-- Gives the session of the request another identifier and tells the client. -/
def changeSession (m : Mediator) (x : Exchange) : Plan (Except Error Session × Exchange) :=
  m.rotator.change m.emitter x

/-- A URL that carries the session's token. -/
def embedToken (m : Mediator) (url : String) (s : Session) : String :=
  m.tokens.embed url s.token

/-- Gives the session a fresh token. -/
def resetToken (m : Mediator) (s : Session) (r : RandomSource) : Session × RandomSource :=
  let (token, r) := m.tokens.issue r
  (s.setToken token, r)

/-- Whether the request carries the session's token. -/
def verifyToken (m : Mediator) (x : Exchange) (s : Session) : Except Error Unit :=
  m.tokens.verifyRequest x s

/-! ## Logs -/

/-- The log line of an exchange under the policy, or under the default one. -/
def logLine (m : Mediator) (policy : Option ParameterPolicy) (x : Exchange) : String :=
  m.logger.line (policy.getD m.logger.defaultPolicy) x

end Mediator

end HttpMediation
