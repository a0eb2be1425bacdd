/-!
# Punycode — labels in ASCII

The encoding of RFC 3492: the ASCII characters of a label stay in front, and one number for each
other character says which it is and where it stands.

* `encode` : a label in ASCII, without the marker that domain names put in front.
* `decode?` : the label that the text stands for, if there is one.
-/

namespace HttpMediation.Punycode

/-! ## Numbers -/

/-- The digit of a number below 36. -/
def digit (n : Nat) : Char :=
  if n < 26 then Char.ofNat (97 + n) else Char.ofNat (22 + n)

/-- The number of a digit, in either case of letters. -/
def value? (c : Char) : Option Nat :=
  if 'a' ≤ c ∧ c ≤ 'z' then some (c.toNat - 97)
  else if 'A' ≤ c ∧ c ≤ 'Z' then some (c.toNat - 65)
  else if '0' ≤ c ∧ c ≤ '9' then some (c.toNat - 22)
  else none

/-- The least digit that says "more digits follow" at this place: between 1 and 26. -/
def threshold (bias k : Nat) : Nat :=
  if k ≤ bias then 1 else if bias + 26 ≤ k then 26 else k - bias

theorem threshold_pos (bias k : Nat) : 0 < threshold bias k := by
  unfold threshold; split
  · omega
  · split <;> omega

/-- Scales a difference down until it is small. -/
def shrink (delta k : Nat) : Nat :=
  if 455 < delta then shrink (delta / 35) (k + 36) else k + 36 * delta / (delta + 38)
termination_by delta
decreasing_by omega

/-- The bias for the next number. -/
def adapt (delta points : Nat) (first : Bool) : Nat :=
  let delta := if first then delta / 700 else delta / 2
  shrink (delta + delta / points) 0

/-! ## Encoding -/

/-- A number in digits of varying base. -/
def encodeNumber (bias k q : Nat) : List Char :=
  let t := threshold bias k
  if q < t then [digit q]
  else digit (t + (q - t) % (36 - t)) :: encodeNumber bias (k + 36) ((q - t) / (36 - t))
termination_by q
decreasing_by
  have := threshold_pos bias k
  have := Nat.div_le_self (q - threshold bias k) (36 - threshold bias k)
  omega

/-- How far encoding has come. -/
structure Encoder where
  delta : Nat := 0
  bias : Nat := 72
  handled : Nat
  output : List Char

/-- Passes over the label once for the character `m`. -/
def Encoder.pass (basic m : Nat) (label : List Char) (e : Encoder) : Encoder :=
  label.foldl (fun e c =>
    if c.toNat < m then { e with delta := e.delta + 1 }
    else if c.toNat = m then
      { delta := 0
        bias := adapt e.delta (e.handled + 1) (e.handled == basic)
        handled := e.handled + 1
        output := e.output ++ encodeNumber e.bias 36 e.delta }
    else e) e

/-- The characters above ASCII, each once and in increasing order. -/
def extended (label : List Char) : List Nat :=
  ((label.map Char.toNat).filter (0x80 ≤ ·)).mergeSort.eraseDups

/-- The label in ASCII. -/
def encode (label : List Char) : List Char :=
  let basic := label.filter (·.toNat < 0x80)
  let start : Encoder := {
    handled := basic.length
    output := if basic.isEmpty then [] else basic ++ ['-'] }
  ((extended label).foldl (fun (s : Nat × Encoder) m =>
    let e := { s.2 with delta := s.2.delta + (m - s.1) * (s.2.handled + 1) }
    let e := e.pass basic.length m label
    (m + 1, { e with delta := e.delta + 1 })) (0x80, start)).2.output

/-! ## Decoding -/

/-- Reads a number that is added to `i`, every digit counting `weight` times its value. -/
def decodeNumber (bias k weight i : Nat) : List Char → Option (Nat × List Char)
  | [] => none
  | c :: r =>
    match value? c with
    | none => none
    | some d =>
      let t := threshold bias k
      if d < t then some (i + d * weight, r)
      else decodeNumber bias (k + 36) (weight * (36 - t)) (i + d * weight) r

theorem length_of_decodeNumber {bias k weight i j : Nat} {s r : List Char}
    (h : decodeNumber bias k weight i s = some (j, r)) : r.length < s.length := by
  induction s generalizing k weight i with
  | nil => simp [decodeNumber] at h
  | cons c s ih =>
    simp only [decodeNumber] at h
    split at h
    · simp at h
    · split at h
      · simp only [Option.some.injEq, Prod.mk.injEq] at h
        simp [← h.2]
      · have := ih h
        simp only [List.length_cons]
        omega

/-- Inserts one character for each number that is left. -/
def decodeFrom (n i bias : Nat) (label : List Char) (s : List Char) : Option (List Char) :=
  if s.isEmpty then some label
  else
    match _h : decodeNumber bias 36 1 i s with
    | none => none
    | some (j, r) =>
      let points := label.length + 1
      let m := n + j / points
      if 0x10ffff < m ∨ (0xd800 ≤ m ∧ m < 0xe000) then none
      else
        let place := j % points
        decodeFrom m (place + 1) (adapt (j - i) points (i == 0))
          (label.take place ++ Char.ofNat m :: label.drop place) r
termination_by s.length
decreasing_by exact length_of_decodeNumber _h

/-- The label that the text stands for: what is before the last `-` stays as it is, and a `-` with
nothing before it separates nothing. -/
def decode? (s : List Char) : Option (List Char) :=
  let digits := (s.reverse.takeWhile (· != '-')).reverse
  let basic := (s.reverse.dropWhile (· != '-')).drop 1
  if basic.isEmpty then decodeFrom 0x80 0 72 [] s
  else decodeFrom 0x80 0 72 basic.reverse digits

end HttpMediation.Punycode
