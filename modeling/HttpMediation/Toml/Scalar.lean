import HttpMediation.Encoding.Hex
import HttpMediation.Text.Basic
import HttpMediation.Toml.Value

/-!
# Scalar — numbers, dates and truth values

These values are written without quotes, as a run of letters, digits and the marks `+ - _ . :`.  The
whole run decides what it is.

* `Toml.integer?`, `Toml.isReal`, `Toml.isMoment` : the three kinds of numbers.
* `Toml.scalar` : the value of a run.
-/

namespace HttpMediation.Toml

open Text

/-! ## Digits -/

/-- The digits of a number, without the underscores between them. -/
def digits? (isDigit : Char → Bool) (s : List Char) : Option (List Char) :=
  let groups := s.splitOn '_'
  if groups.all (fun g => !g.isEmpty && g.all isDigit) then some groups.flatten else none

/-- The value of digits. -/
def valueOf (base : Nat) (digits : List Char) : Nat :=
  digits.foldl (fun n c => n * base + (Hex.digit? c).getD 0) 0

/-- A sign in front, and the rest; `true` stands for the minus. -/
def cutSign : List Char → Bool × List Char
  | '-' :: r => (true, r)
  | '+' :: r => (false, r)
  | s => (false, s)

/-- The digits of a decimal number, which has no zero in front. -/
def decimal? (s : List Char) : Option (List Char) :=
  match digits? Char.isDigit s with
  | some ['0'] => some ['0']
  | some ('0' :: _) => none
  | d => d

/-! ## Integers -/

/-- A whole number of 64 bits with its sign. -/
def bounded? (n : Int) : Option Int :=
  if -9223372036854775808 ≤ n ∧ n ≤ 9223372036854775807 then some n else none

/-- The integer that the run writes. -/
def integer? : List Char → Option Int
  | '0' :: 'x' :: r =>
    (digits? (fun c => (Hex.digit? c).isSome) r).bind fun d => bounded? (valueOf 16 d)
  | '0' :: 'o' :: r => (digits? (fun c => '0' ≤ c && c ≤ '7') r).bind fun d => bounded? (valueOf 8 d)
  | '0' :: 'b' :: r => (digits? (fun c => c == '0' || c == '1') r).bind fun d => bounded? (valueOf 2 d)
  | s => do
    let (minus, r) := cutSign s
    let n : Int := valueOf 10 (← decimal? r)
    bounded? (if minus then -n else n)

/-! ## Numbers with a fraction or an exponent -/

/-- The least number that is too large for 64 bits of floating point. -/
def overflow : Nat := (Nat.pow 2 54 - 1) * Nat.pow 2 970

/-- Whether digits times a power of ten are too large. -/
def overflows (digits : List Char) (exponent : Int) : Bool :=
  let digits := digits.dropWhile (· == '0')
  let size : Int := digits.length + exponent
  if digits.isEmpty || size < 300 then false
  else if 320 < size then true
  else if 0 ≤ exponent then overflow ≤ valueOf 10 digits * Nat.pow 10 exponent.toNat
  else overflow * Nat.pow 10 (-exponent).toNat ≤ valueOf 10 digits

/-- Cuts the exponent off a number. -/
def cutExponent (s : List Char) : Option (List Char × Option Int) :=
  match cutAt (fun c => c == 'e' || c == 'E') s with
  | (m, []) => some (m, none)
  | (m, _ :: r) => do
    let (minus, r) := cutSign r
    let n : Int := valueOf 10 (← digits? Char.isDigit r)
    return (m, some (if minus then -n else n))

/-- Cuts the fraction off a number. -/
def cutFraction (s : List Char) : Option (List Char × Option (List Char)) :=
  match cutAt (· == '.') s with
  | (m, []) => some (m, none)
  | (m, _ :: r) => (digits? Char.isDigit r).map fun d => (m, some d)

/-- Whether the run is a number with a fraction or an exponent, or no number at all by name.  One
that is too large is refused, unless it is negative. -/
def isReal (s : List Char) : Bool :=
  let (minus, r) := cutSign s
  if r == "inf".toList || r == "nan".toList then true
  else
    match cutExponent r with
    | none => false
    | some (m, exponent) =>
      match cutFraction m with
      | none => false
      | some (whole, fraction) =>
        match decimal? whole with
        | none => false
        | some d =>
          let f := fraction.getD []
          (fraction.isSome || exponent.isSome) &&
            (minus || !overflows (d ++ f) (exponent.getD 0 - f.length))

/-! ## Dates and times -/

/-- A number of a fixed count of digits. -/
def fixed? (size : Nat) (s : List Char) : Option Nat :=
  if s.length = size && s.all Char.isDigit then some (valueOf 10 s) else none

/-- How many days a month has. -/
def daysOf (year month : Nat) : Nat :=
  if month = 2 then
    if year % 4 = 0 && (year % 100 != 0 || year % 400 = 0) then 29 else 28
  else if month = 4 || month = 6 || month = 9 || month = 11 then 30
  else 31

/-- Whether the run is a date of the calendar. -/
def isDate (s : List Char) : Bool :=
  match s.splitOn '-' with
  | [y, m, d] =>
    match fixed? 4 y, fixed? 2 m, fixed? 2 d with
    | some y, some m, some d => 1 ≤ m && m ≤ 12 && 1 ≤ d && d ≤ daysOf y m
    | _, _, _ => false
  | _ => false

/-- Whether there is an hour and a minute. -/
def isClock (hour minute : List Char) : Bool :=
  (fixed? 2 hour).any (· ≤ 23) && (fixed? 2 minute).any (· ≤ 59)

/-- Whether the run is a time of the day; a minute may have a leap second. -/
def isTime (s : List Char) : Bool :=
  let (clock, fraction) := cutAt (· == '.') s
  (fraction.isEmpty || (fraction.length != 1 && (fraction.drop 1).all Char.isDigit)) &&
    match clock.splitOn ':' with
    | [h, m, sec] => isClock h m && (fixed? 2 sec).any (· ≤ 60)
    | _ => false

/-- Whether the run is a distance from universal time. -/
def isOffset : List Char → Bool
  | ['Z'] | ['z'] => true
  | c :: r =>
    (c == '+' || c == '-') &&
      match r.splitOn ':' with
      | [h, m] => isClock h m
      | _ => false
  | [] => false

/-- Whether the run is a time, with or without a distance from universal time. -/
def isZonedTime (s : List Char) : Bool :=
  let (time, offset) := cutAt (fun c => c == 'Z' || c == 'z' || c == '+' || c == '-') s
  isTime time && (offset.isEmpty || isOffset offset)

/-- Whether the run is a date, a time or both. -/
def isMoment (s : List Char) : Bool :=
  isDate s || isTime s ||
    (isDate (s.take 10) &&
      match s.drop 10 with
      | c :: time => (c == 'T' || c == 't' || c == ' ') && isZonedTime time
      | [] => false)

/-! ## Runs -/

/-- A character of a run. -/
def isRunChar (c : Char) : Bool :=
  isNameChar c || c == '+' || c == '.' || c == ':'

/-- Cuts a run off; between a date and a time there may be a space. -/
def cutRun (s : List Char) : List Char × List Char :=
  let (run, rest) := cutAt (!isRunChar ·) s
  match rest with
  | ' ' :: c :: r =>
    if c.isDigit && isDate run then
      let (time, rest) := cutAt (!isRunChar ·) (c :: r)
      (run ++ ' ' :: time, rest)
    else (run, rest)
  | _ => (run, rest)

/-- The value of a run. -/
def scalar (run : List Char) : Option Value :=
  if run == "true".toList then some (.boolean true)
  else if run == "false".toList then some (.boolean false)
  else if isMoment run then some (.date (String.ofList run))
  else if isReal run then some (.real (String.ofList run))
  else (integer? run).map .integer

end HttpMediation.Toml
