import HttpMediation.Emitter
import HttpMediation.Random
import HttpMediation.Sealing.Blob
import HttpMediation.StateMap

/-!
# Codec — state that clients hold

A `Codec` writes state, single values and queries as blobs and reads them back.  Every operation
asks once for the key.  Whatever keeps a blob from being read, the error is the same, so that an
error tells nothing about blobs.

* `Codec.encrypt`, `Codec.decrypt` : a text and its blob, for any purpose.
* `Codec.encryptState`, `encryptValue`, `encryptQuery`, `encryptCookie` : one purpose each.
-/

namespace HttpMediation

/-- Where a codec takes its key from. -/
inductive KeySource
  /-- There is a key at hand. -/
  | held (key : Aes.Key)
  /-- The keeper of the keys does not answer. -/
  | unavailable
  deriving DecidableEq

namespace KeySource

/-- The key at hand. -/
def key? : KeySource → Option Aes.Key
  | held key => some key
  | unavailable => none

end KeySource

/-- Writes and reads blobs. -/
structure Codec where
  keys : KeySource
  /-- The cookie that carries state. -/
  cookieName : String := "state"

namespace Codec

/-- The only error of writing. -/
def encryptFailed : Error := .encryption "unable to encrypt protected value"

/-- The only error of reading. -/
def decryptFailed : Error := .encryption "unable to decrypt protected value"

/-- The codec that goes on with another key. -/
def rotate (key : Aes.Key) (c : Codec) : Codec :=
  { c with keys := .held key }

/-! ## Any purpose -/

/-- The blob of a text, with a fresh nonce; without a key nothing is drawn.

A cipher that refused a text would be answered with `encryptFailed` as well.  This is no case here, nor in the
operations below: `Gcm.encrypt` takes every text.  The mode has a limit for the length of a text, about 2³⁶
bytes, but no value that a client is to hold comes near it. -/
def encrypt (c : Codec) (purpose : Purpose) (text : List Char) (r : RandomSource) :
    Except Error String × RandomSource :=
  match c.keys.key? with
  | none => (.error encryptFailed, r)
  | some key =>
    let (nonce, r) := r.draw Gcm.nonceSize
    (.ok (String.ofList (Blob.write key purpose nonce text)), r)

/-- The text of a blob. -/
def decrypt (c : Codec) (purpose : Purpose) (blob : Tainted String) : Except Error (List Char) :=
  match c.keys.key?.bind fun key => Blob.read? key purpose blob.inner.toList with
  | some text => .ok text
  | none => .error decryptFailed

/-! ## State -/

/-- Writes state for a place that the caller chooses. -/
def encryptState (c : Codec) (state : StateMap) (r : RandomSource) :
    Except Error String × RandomSource :=
  c.encrypt .state state.toForm r

/-- Reads state. -/
def decryptState (c : Codec) (blob : Tainted String) : Except Error StateMap :=
  (c.decrypt .state blob).map StateMap.ofForm

/-! ## Hidden fields -/

/-- Writes the value of a hidden field. -/
def encryptValue (c : Codec) (value : String) (r : RandomSource) :
    Except Error String × RandomSource :=
  c.encrypt .hiddenField value.toList r

/-- Reads the value of a hidden field. -/
def decryptValue (c : Codec) (blob : Tainted String) : Except Error String :=
  (c.decrypt .hiddenField blob).map String.ofList

/-! ## Queries -/

/-- A query without the question mark in front of it. -/
def bareQuery : List Char → List Char
  | '?' :: query => query
  | query => query

/-- Writes a query. -/
def encryptQuery (c : Codec) (query : String) (r : RandomSource) :
    Except Error String × RandomSource :=
  c.encrypt .queryString (bareQuery query.toList) r

/-- Reads the parameters of a query. -/
def decryptQuery (c : Codec) (blob : Tainted String) : Except Error StateMap :=
  (c.decrypt .queryString blob).map StateMap.ofForm

/-! ## The state cookie -/

/-- The state cookie with a blob in it. -/
def stateCookie (c : Codec) (blob : String) : Cookie :=
  { name := c.cookieName, value := blob, path := some "/" }

/-- Writes state into the state cookie. -/
def encryptCookie (c : Codec) (emitter : Emitter) (state : StateMap) (x : Exchange)
    (r : RandomSource) : Except Error Unit × Exchange × RandomSource :=
  match c.encrypt (.cookie c.cookieName) state.toForm r with
  | (.error e, r) => (.error e, x, r)
  | (.ok blob, r) =>
    let (done, x) := emitter.emit (.cookie (c.stateCookie blob)) x
    (done, x, r)

/-- Reads the state that the request's state cookie carries. -/
def decryptCookie (c : Codec) (x : Exchange) : Except Error StateMap :=
  match x.cookie? c.cookieName with
  | none => .error decryptFailed
  | some blob => (c.decrypt (.cookie c.cookieName) blob).map StateMap.ofForm

end Codec

end HttpMediation
