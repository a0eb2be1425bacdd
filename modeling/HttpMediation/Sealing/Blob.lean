import HttpMediation.Encoding.Base64Url
import HttpMediation.Encoding.Utf8
import HttpMediation.Sealing.Gcm

/-!
# Blob — a text that only the holder of the key can read or make

A blob is a version byte, a nonce and what `Gcm.encrypt` makes of the text, written in the letters
of `Base64Url`.  The purpose of the blob is bound to it without being part of it.

* `Purpose` : what a blob is for.
* `Blob.write`, `Blob.read?` : a text as a blob, and back.
-/

namespace HttpMediation

/-- What a blob is for; one made for a purpose is refused for all others. -/
inductive Purpose
  | hiddenField
  | queryString
  | state
  | cookie (name : String)
  deriving DecidableEq, Repr

namespace Blob

/-- The first byte of every blob. -/
def version : UInt8 := 1

end Blob

namespace Purpose

/-- The purpose in words. -/
def label : Purpose → String
  | hiddenField => "hidden-field"
  | queryString => "query-string"
  | state => "state"
  | cookie name => "cookie:" ++ name

/-- The bytes that bind a blob to its purpose. -/
def associatedData (p : Purpose) : List UInt8 :=
  Blob.version :: Utf8.encode p.label.toList

end Purpose

namespace Blob

/-- The bytes of a blob. -/
def bytes (key : Aes.Key) (purpose : Purpose) (nonce : List UInt8) (text : List Char) :
    List UInt8 :=
  version :: (nonce ++ Gcm.encrypt key nonce purpose.associatedData (Utf8.encode text))

/-- The blob that holds the text. -/
def write (key : Aes.Key) (purpose : Purpose) (nonce : List UInt8) (text : List Char) : List Char :=
  Base64Url.encode (bytes key purpose nonce text)

/-- Whether there is a version, a nonce and a tag. -/
def isComplete (bytes : List UInt8) : Bool :=
  1 + Gcm.nonceSize + Gcm.tagSize ≤ bytes.length

/-- The text that the bytes hold. -/
def ofBytes? (key : Aes.Key) (purpose : Purpose) : List UInt8 → Option (List Char)
  | v :: rest =>
    if v = version && isComplete (v :: rest) then do
      let nonce := rest.take Gcm.nonceSize
      let text ← Gcm.decrypt? key nonce purpose.associatedData (rest.drop Gcm.nonceSize)
      Utf8.decode? text
    else none
  | [] => none

/-- The text that the blob holds, if the blob is whole, of this key and for this purpose. -/
def read? (key : Aes.Key) (purpose : Purpose) (blob : List Char) : Option (List Char) := do
  ofBytes? key purpose (← Base64Url.decode? blob)

end Blob

end HttpMediation
