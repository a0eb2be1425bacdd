import HttpMediation.Unicode.Bidi
import HttpMediation.Unicode.DomainMapping
import HttpMediation.Unicode.Joining
import HttpMediation.Unicode.Mark
import HttpMediation.Unicode.Normalization
import HttpMediation.Url.Punycode

/-!
# DomainName — international names in ASCII

UTS #46 as the URL standard uses it: non-transitional, with the rules for joiners and for text from
right to left, without a rule for hyphens and without length limits on names.  Which characters are
forbidden is asked last: a less-than sign that has become part of a composed character is none.

* `DomainName.toAscii?` : the ASCII form of a name, if the name is a valid one.
-/

namespace HttpMediation.DomainName

open Unicode

/-! ## Characters -/

/-- The characters of ASCII that no host name may hold. -/
def isForbidden (c : Char) : Bool :=
  c.toNat ≤ 0x20 || c.toNat == 0x7f || "#%/:<>?@[\x5c]^|".toList.contains c

/-- A character of ASCII. -/
def isAscii (c : Char) : Bool :=
  c.toNat < 0x80

/-- The mark in front of a label that is written in Punycode. -/
def aceMark : List Char := "xn--".toList

/-- The character that keeps letters from joining. -/
def nonJoiner : Char := Char.ofNat 0x200c

/-- The character that makes letters join. -/
def joiner : Char := Char.ofNat 0x200d

/-! ## Rules for labels -/

/-- Whether the letters around a non-joiner would join without it; `before` is read backwards. -/
def wouldJoin (before after : List Char) : Bool :=
  ((before.dropWhile joinsThrough.contains).head?.any fun c =>
      joinsLeft.contains c || joinsBoth.contains c) &&
    ((after.dropWhile joinsThrough.contains).head?.any fun c =>
      joinsRight.contains c || joinsBoth.contains c)

/-- Joiners stand behind a virama, and non-joiners also between letters that would join. -/
def joinersFit (before : List Char) : List Char → Bool
  | [] => true
  | c :: r =>
    let afterVirama := before.head?.any fun b => combiningClass b == viramaClass
    (if c = nonJoiner then afterVirama || wouldJoin before r
      else if c = joiner then afterVirama
      else true) && joinersFit (c :: before) r

/-- Whether the characters of a label are in order, whatever its direction. -/
def isLabel (label : List Char) : Bool :=
  label.all isAscii ||
    (label.all isDomainChar && !label.head?.any marks.contains && joinersFit [] label)

/-! ## Labels -/

/-- A label as it is read and as it is written. -/
structure Label where
  unicode : List Char
  ascii : List Char

/-- The longest label that Punycode stands for, written or read. -/
def maxUnicode : Nat := 1000

/-- The longest Punycode that is read, the mark in front of it left aside. -/
def maxPunycode : Nat := 2000

/-- A label that is written in Punycode: what it stands for is no ASCII and is in normal form. -/
def readAce? (label : List Char) : Option Label := do
  let punycode := label.drop aceMark.length
  if !label.all isAscii || maxPunycode < punycode.length then none
  let unicode ← Punycode.decode? punycode
  if unicode.all isAscii || maxUnicode < unicode.length || nfc unicode != unicode then none
  return ⟨unicode, label⟩

/-- A label of a mapped and normalised name. -/
def readLabel? (label : List Char) : Option Label :=
  if aceMark.isPrefixOf label then readAce? label
  else if label.all isAscii then some ⟨label, label⟩
  else if maxUnicode < label.length then none
  else some ⟨label, aceMark ++ Punycode.encode label⟩

/-! ## Names -/

/-- The name with every character mapped. -/
def mapped? (name : List Char) : Option (List Char) :=
  (name.mapM mapDomainChar).map List.flatten

/-- The name in ASCII, if every label is in order and no forbidden character is left when marks have
been composed with what they stand on. -/
def toAscii? (name : List Char) : Option (List Char) := do
  let mapped ← mapped? name
  let labels ← ((nfc mapped).splitOn '.').mapM readLabel?
  let bidi := labels.any (·.unicode.any isRightToLeft)
  if !labels.all (fun l => isLabel l.unicode && (!bidi || keepsBidiRule l.unicode)) then none
  let ascii := List.intercalate ['.'] (labels.map (·.ascii))
  if ascii.any isForbidden then none
  return ascii

end HttpMediation.DomainName
