import HttpMediation.Encoding.Percent

/-!
# Form — parameters as one text

The format `application/x-www-form-urlencoded` of the WHATWG URL standard.

* `decode` : pieces between `&`, cut at their first `=`; empty pieces are skipped, `+` is a space,
  escapes are decoded and ill-formed bytes replaced.
* `encode` : letters, digits and `*-._` stay, a space becomes `+`, every other byte an escape.
-/

namespace HttpMediation.Form

/-- The characters that are written as they are. -/
def keeps (c : Char) : Bool :=
  c.isAlphanum || c == '*' || c == '-' || c == '.' || c == '_'

/-- A written name or value as a text. -/
def decodePart (b : List UInt8) : String :=
  String.ofList (Utf8.decodeLossy (Percent.decode (b.map fun x => if x = 0x2b then 0x20 else x)))

/-- The name is before the first `=`; without one the value is empty. -/
def decodePiece (b : List UInt8) : String × String :=
  (decodePart (b.takeWhile (· != 0x3d)), decodePart ((b.dropWhile (· != 0x3d)).drop 1))

/-- The parameters of a written form, in their order. -/
def decode (s : List Char) : List (String × String) :=
  (((Utf8.encode s).splitOn 0x26).filter fun piece => !piece.isEmpty).map decodePiece

/-- A byte of a written name or value. -/
def encodeByte (b : UInt8) : List Char :=
  if b = 0x20 then ['+']
  else if b < 0x80 && keeps (Char.ofNat b.toNat) then [Char.ofNat b.toNat]
  else Percent.escape b

/-- A name or value in writing. -/
def encodePart (s : String) : List Char :=
  (Utf8.encode s.toList).flatMap encodeByte

/-- Name and value around a `=`. -/
def encodePair (p : String × String) : List Char :=
  encodePart p.1 ++ '=' :: encodePart p.2

/-- The parameters in writing, between `&`. -/
def encode (l : List (String × String)) : List Char :=
  List.intercalate ['&'] (l.map encodePair)

end HttpMediation.Form
