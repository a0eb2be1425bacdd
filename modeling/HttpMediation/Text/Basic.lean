/-!
# Text — character classes and cuts

The classes of characters that the rules of this library name, and the few ways in which it cuts a
text.  All of them work on code points; lengths that are limits are counted in UTF-8 bytes
(`String.utf8ByteSize`).

* `isControl`, `isBlank` : the Unicode classes Cc and White_Space.
* `lower`, `sameName` : letter case of ASCII only, every other character stays as it is.
* `cutAt`, `trim` : cutting at the first character of a class, trimming a class at both ends.
-/

namespace HttpMediation.Text

/-! ## Classes -/

/-- The control characters: Unicode's general category Cc. -/
def isControl (c : Char) : Bool :=
  c.val < 0x20 || (0x7f ≤ c.val && c.val < 0xa0)

/-- The characters with Unicode's property White_Space. -/
def isBlank (c : Char) : Bool :=
  (0x09 ≤ c.val && c.val ≤ 0x0d) || c.val == 0x20 || c.val == 0x85 || c.val == 0xa0 ||
    c.val == 0x1680 || (0x2000 ≤ c.val && c.val ≤ 0x200a) || c.val == 0x2028 || c.val == 0x2029 ||
    c.val == 0x202f || c.val == 0x205f || c.val == 0x3000

/-- A letter or a digit of ASCII. -/
def isAsciiAlphanum (c : Char) : Bool :=
  c.isAlphanum

/-- The letters, digits and two marks that a configured name may hold. -/
def isNameChar (c : Char) : Bool :=
  c.isAlphanum || c == '_' || c == '-'

/-! ## Letter case -/

/-- The text with the capital letters of ASCII made small. -/
def lower (s : String) : String :=
  s.map Char.toLower

/-- Names are the same when they differ in the case of ASCII letters only. -/
def sameName (a b : String) : Bool :=
  lower a == lower b

/-! ## Cuts -/

/-- The part before the first character of the class, and the rest from that character on. -/
def cutAt (stop : Char → Bool) (s : List Char) : List Char × List Char :=
  (s.takeWhile (!stop ·), s.dropWhile (!stop ·))

/-- A text is cut where the first character of the class stands. -/
theorem cutAt_of_head {stop : Char → Bool} {s rest : List Char} (hs : ∀ c ∈ s, stop c = false)
    (hrest : ∀ c ∈ rest.head?, stop c = true) : cutAt stop (s ++ rest) = (s, rest) := by
  have hpass : ∀ c ∈ s, (!stop c) = true := fun c hc => by rw [hs c hc]; rfl
  unfold cutAt
  rw [List.takeWhile_append_of_pos hpass, List.dropWhile_append_of_pos hpass]
  cases rest with
  | nil => simp
  | cons c rest => simp [hrest c rfl]

theorem cutAt_of_forall {stop : Char → Bool} {s : List Char} (hs : ∀ c ∈ s, stop c = false) :
    cutAt stop s = (s, []) := by
  have hcut : cutAt stop (s ++ []) = (s, []) := cutAt_of_head hs (by simp)
  rwa [List.append_nil] at hcut

/-- Drops the characters of the class from the end. -/
def trimEnd (drop : Char → Bool) (s : List Char) : List Char :=
  (s.reverse.dropWhile drop).reverse

/-- Drops the characters of the class from both ends. -/
def trim (drop : Char → Bool) (s : List Char) : List Char :=
  trimEnd drop (s.dropWhile drop)

/-- The text without the blanks at its ends. -/
def trimBlank (s : String) : String :=
  String.ofList (trim isBlank s.toList)

/-- Whether the text `part` occurs in the text. -/
def occurs {α : Type} [BEq α] (part : List α) : List α → Bool
  | [] => part.isEmpty
  | x :: r => part.isPrefixOf (x :: r) || occurs part r

/-- The last character, if it is of the class. -/
def endsWith (last : Char → Bool) (s : List Char) : Bool :=
  s.getLast?.any last

/-- The pieces of a text around its last character `c`, if it has one. -/
def cutLast (c : Char) (s : List Char) : Option (List Char × List Char) :=
  match s.reverse.dropWhile (· != c) with
  | [] => none
  | _ :: before => some (before.reverse, (s.reverse.takeWhile (· != c)).reverse)

end HttpMediation.Text
