/-!
# RangeSet — properties of characters as ranges

The tables of this folder are texts: ranges of code points in hexadecimal, in increasing order,
with blanks between them.  `lo-hi` is a range and `lo` a single code point.  A table is read once
and then searched by halving.

* `RangeSet.ofText` : the ranges of a table.
* `RangeSet.contains` : whether a character is in one of them.
-/

namespace HttpMediation.Unicode

/-- The number that small hexadecimal digits stand for. -/
def hexValue (digits : List Char) : Nat :=
  digits.foldl (fun n c => n * 16 + (if c.isDigit then c.toNat - 48 else c.toNat - 87)) 0

/-- The entries of a table. -/
def tableEntries (lines : List String) : List (List Char) :=
  lines.flatMap fun l => (l.toList.splitOn ' ').filter (!·.isEmpty)

/-- The last place from `lo` and before `hi` whose start is not above `c`; `lo` if there is none. -/
def lastStart (start : Nat → Nat) (c lo hi : Nat) : Nat :=
  if hi ≤ lo + 1 then lo
  else if start ((lo + hi) / 2) ≤ c then lastStart start c ((lo + hi) / 2) hi
  else lastStart start c lo ((lo + hi) / 2)
termination_by hi - lo

/-- A set of characters. -/
structure RangeSet where
  ranges : Array (Nat × Nat)

namespace RangeSet

/-- A range of a table. -/
def readRange (entry : List Char) : Nat × Nat :=
  match entry.splitOn '-' with
  | [lo, hi] => (hexValue lo, hexValue hi)
  | _ => (hexValue entry, hexValue entry)

/-- The set of a table. -/
def ofText (lines : List String) : RangeSet :=
  ⟨((tableEntries lines).map readRange).toArray⟩

/-- Whether the character is in the set. -/
def contains (s : RangeSet) (c : Char) : Bool :=
  let r := s.ranges.getD
    (lastStart (fun i => (s.ranges.getD i (0, 0)).1) c.toNat 0 s.ranges.size) (1, 0)
  r.1 ≤ c.toNat && c.toNat ≤ r.2

end RangeSet

end HttpMediation.Unicode
