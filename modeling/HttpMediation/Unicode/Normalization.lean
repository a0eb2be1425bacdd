import HttpMediation.Unicode.CombiningClass
import HttpMediation.Unicode.Composite

/-!
# Normalization — one spelling for each character

Normalization Form C of the Unicode standard (§3.11) for texts of characters that a domain name may
hold: every character is taken apart, marks are put into the order of their classes, and what can be
composed is composed again.

* `nfc` : the normal form of a text.
-/

namespace HttpMediation.Unicode

/-! ## Hangul syllables -/

/-- The parts of a Hangul syllable. -/
def hangulParts? (c : Char) : Option (List Char) :=
  if 0xac00 ≤ c.toNat ∧ c.toNat < 0xac00 + 11172 then
    let place := c.toNat - 0xac00
    let lead := Char.ofNat (0x1100 + place / 588)
    let vowel := Char.ofNat (0x1161 + place % 588 / 28)
    if place % 28 = 0 then some [lead, vowel]
    else some [lead, vowel, Char.ofNat (0x11a7 + place % 28)]
  else none

/-- The Hangul syllable of a lead and a vowel, or of such a syllable and a tail. -/
def hangulCompose? (a b : Char) : Option Char :=
  if 0x1100 ≤ a.toNat ∧ a.toNat < 0x1113 ∧ 0x1161 ≤ b.toNat ∧ b.toNat < 0x1176 then
    some (Char.ofNat (0xac00 + ((a.toNat - 0x1100) * 21 + (b.toNat - 0x1161)) * 28))
  else if 0xac00 ≤ a.toNat ∧ a.toNat < 0xac00 + 11172 ∧ (a.toNat - 0xac00) % 28 = 0 ∧
      0x11a7 < b.toNat ∧ b.toNat < 0x11c3 then
    some (Char.ofNat (a.toNat + (b.toNat - 0x11a7)))
  else none

/-! ## Taking apart -/

/-- The parts of a character, down to the given depth. -/
def decomposeTo : Nat → Char → List Char
  | 0, c => [c]
  | depth + 1, c =>
    match hangulParts? c with
    | some parts => parts
    | none =>
      match Composite.parts? c with
      | some (a, b) => decomposeTo depth a ++ [b]
      | none => [c]

/-- The parts of a character; in the table no character is nested deeper. -/
def decompose (c : Char) : List Char :=
  if c.toNat < 0xc0 then [c] else decomposeTo 4 c

/-- Puts a character in front of ordered ones, behind the marks of a lower class. -/
def settleMark (c : Char) : List Char → List Char
  | [] => [c]
  | d :: r =>
    if 0 < combiningClass c ∧ 0 < combiningClass d ∧ combiningClass d < combiningClass c then
      d :: settleMark c r
    else c :: d :: r

/-- The marks behind each starter in the order of their classes, equal ones in their old order. -/
def orderMarks (s : List Char) : List Char :=
  s.foldr settleMark []

/-! ## Composing -/

/-- The character composed of a starter and one behind it. -/
def compose? (a b : Char) : Option Char :=
  (hangulCompose? a b).or (Composite.compose? a b)

/-- Composes with the last starter whatever reaches it; `marks` holds the characters since then that
did not combine, the last one first. -/
def composeFrom (starter : Char) (marks : List Char) : List Char → List Char
  | [] => starter :: marks.reverse
  | c :: r =>
    let reaches := match marks with
      | [] => true
      | m :: _ => combiningClass m < combiningClass c
    match if reaches then compose? starter c else none with
    | some whole => composeFrom whole marks r
    | none =>
      if combiningClass c = 0 then starter :: marks.reverse ++ composeFrom c [] r
      else composeFrom starter (c :: marks) r

/-- Composes an ordered text; marks in front of the first starter stay. -/
def composeAll : List Char → List Char
  | [] => []
  | c :: r => if combiningClass c = 0 then composeFrom c [] r else c :: composeAll r

/-- Normalization Form C.  No character below U+00C0 has parts or combines with one of its like. -/
def nfc (s : List Char) : List Char :=
  if s.all (·.toNat < 0xc0) then s else composeAll (orderMarks (s.flatMap decompose))

end HttpMediation.Unicode
