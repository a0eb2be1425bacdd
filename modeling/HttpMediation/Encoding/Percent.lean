import HttpMediation.Encoding.Hex
import HttpMediation.Encoding.Utf8

/-!
# Percent — escapes of bytes in URLs

A percent escape is `%` and two hexadecimal digits.  A `%` without two digits behind it stands for
itself.

* `decode` : one round of decoding, bytes to bytes.
* `decodeText?` : the decoded bytes as a text, if they are one.
* `encode` : every byte outside a class becomes an escape with capital digits.
-/

namespace HttpMediation.Percent

/-- The number of a digit that is a byte of ASCII. -/
def digit? (b : UInt8) : Option Nat :=
  Hex.digit? (Char.ofNat b.toNat)

/-- The byte that two digits stand for. -/
def pair? (hi lo : UInt8) : Option UInt8 :=
  match digit? hi, digit? lo with
  | some x, some y => some (UInt8.ofNat (x * 16 + y))
  | _, _ => none

/-- Replaces every escape by its byte; whatever is no escape stays. -/
def decode : List UInt8 → List UInt8
  | [] => []
  | a :: r =>
    if a = 0x25 then
      match r with
      | hi :: lo :: r2 =>
        match pair? hi lo with
        | some b => b :: decode r2
        | none => a :: decode (hi :: lo :: r2)
      | short => a :: short
    else a :: decode r

/-- The text that the decoded bytes spell. -/
def decodeText? (s : List Char) : Option (List Char) :=
  Utf8.decode? (decode (Utf8.encode s))

/-- The escape of a byte. -/
def escape (b : UInt8) : List Char :=
  ['%', Hex.upperDigit (b.toNat / 16), Hex.upperDigit (b.toNat % 16)]

/-- The character of a byte that is kept; only bytes of ASCII may be kept. -/
def encodeBytes (keep : Char → Bool) (b : List UInt8) : List Char :=
  b.flatMap fun x =>
    if x < 0x80 && keep (Char.ofNat x.toNat) then [Char.ofNat x.toNat] else escape x

/-- Escapes every byte of the text that is no kept character of ASCII. -/
def encode (keep : Char → Bool) (s : List Char) : List Char :=
  encodeBytes keep (Utf8.encode s)

end HttpMediation.Percent
