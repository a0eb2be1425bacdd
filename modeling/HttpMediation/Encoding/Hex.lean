/-!
# Hex — bytes as pairs of hexadecimal digits
-/

namespace HttpMediation.Hex

/-- The digit of a number below 16, in small letters. -/
def lowerDigit (n : Nat) : Char :=
  if n < 10 then Char.ofNat (48 + n) else Char.ofNat (87 + n)

/-- The digit of a number below 16, in capital letters. -/
def upperDigit (n : Nat) : Char :=
  if n < 10 then Char.ofNat (48 + n) else Char.ofNat (55 + n)

/-- The number that the digit stands for, in either case of letters. -/
def digit? (c : Char) : Option Nat :=
  if '0' ≤ c ∧ c ≤ '9' then some (c.toNat - 48)
  else if 'a' ≤ c ∧ c ≤ 'f' then some (c.toNat - 87)
  else if 'A' ≤ c ∧ c ≤ 'F' then some (c.toNat - 55)
  else none

/-- Two small digits for each byte. -/
def encode (b : List UInt8) : String :=
  String.ofList (b.flatMap fun x => [lowerDigit (x.toNat / 16), lowerDigit (x.toNat % 16)])

/-- The number in hexadecimal, without leading zeros. -/
def number (n : Nat) : String :=
  String.ofList (Nat.toDigits 16 n)

end HttpMediation.Hex
