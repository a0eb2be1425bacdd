/-!
# Utf8 — texts as bytes

* `encode` : the bytes of a text.
* `decode?` : the text of bytes that are well-formed UTF-8.
* `decodeLossy` : the text of any bytes; each maximal ill-formed part becomes U+FFFD, as the
  Unicode standard (§3.9) and the WHATWG encoding standard have it.
-/

namespace HttpMediation.Utf8

/-- The bytes of a text. -/
def encode (s : List Char) : List UInt8 :=
  s.flatMap String.utf8EncodeChar

/-- The text of the bytes, if they are well-formed. -/
def decode? (b : List UInt8) : Option (List Char) :=
  (String.fromUTF8? b.toByteArray).map String.toList

/-! ## Replacement of ill-formed parts -/

/-- The character that stands for what cannot be read. -/
def replacement : Char := Char.ofNat 0xfffd

/-- A byte that continues a character. -/
def isContinuation (b : UInt8) : Bool :=
  0x80 ≤ b && b ≤ 0xbf

/-- Whether the second byte may follow the first byte of a three-byte character. -/
def fitsSecondOfThree (first second : UInt8) : Bool :=
  if first == 0xe0 then 0xa0 ≤ second && second ≤ 0xbf
  else if first == 0xed then 0x80 ≤ second && second ≤ 0x9f
  else isContinuation second

/-- Whether the second byte may follow the first byte of a four-byte character. -/
def fitsSecondOfFour (first second : UInt8) : Bool :=
  if first == 0xf0 then 0x90 ≤ second && second ≤ 0xbf
  else if first == 0xf4 then 0x80 ≤ second && second ≤ 0x8f
  else isContinuation second

/-- The character whose bits are spread over the bytes. -/
def join2 (a b : UInt8) : Char :=
  Char.ofNat ((a.toNat % 32) * 64 + b.toNat % 64)

/-- The character whose bits are spread over the bytes. -/
def join3 (a b c : UInt8) : Char :=
  Char.ofNat ((a.toNat % 16) * 4096 + (b.toNat % 64) * 64 + c.toNat % 64)

/-- The character whose bits are spread over the bytes. -/
def join4 (a b c d : UInt8) : Char :=
  Char.ofNat ((a.toNat % 8) * 262144 + (b.toNat % 64) * 4096 + (c.toNat % 64) * 64 + d.toNat % 64)

/-- Reads every character that is there and replaces every maximal part that is none. -/
def decodeLossy : List UInt8 → List Char
  | [] => []
  | a :: r =>
    if a < 0x80 then Char.ofNat a.toNat :: decodeLossy r
    else if 0xc2 ≤ a && a ≤ 0xdf then
      match r with
      | [] => [replacement]
      | b :: r1 =>
        if isContinuation b then join2 a b :: decodeLossy r1
        else replacement :: decodeLossy (b :: r1)
    else if 0xe0 ≤ a && a ≤ 0xef then
      match r with
      | [] => [replacement]
      | b :: r1 =>
        if fitsSecondOfThree a b then
          match r1 with
          | [] => [replacement]
          | c :: r2 =>
            if isContinuation c then join3 a b c :: decodeLossy r2
            else replacement :: decodeLossy (c :: r2)
        else replacement :: decodeLossy (b :: r1)
    else if 0xf0 ≤ a && a ≤ 0xf4 then
      match r with
      | [] => [replacement]
      | b :: r1 =>
        if fitsSecondOfFour a b then
          match r1 with
          | [] => [replacement]
          | c :: r2 =>
            if isContinuation c then
              match r2 with
              | [] => [replacement]
              | d :: r3 =>
                if isContinuation d then join4 a b c d :: decodeLossy r3
                else replacement :: decodeLossy (d :: r3)
            else replacement :: decodeLossy (c :: r2)
        else replacement :: decodeLossy (b :: r1)
    else replacement :: decodeLossy r

end HttpMediation.Utf8
