import HttpMediation.Encoding.Hex

/-!
# Text — texts in quotes

A text stands in double quotes, where a backslash starts an escape, or in single quotes, where
nothing does.  Three quotes of a kind begin a text that may span lines.

* `Toml.quoted` : reads a text on one line.
* `Toml.quotedLines` : reads a text that spans lines.
-/

namespace HttpMediation.Toml

/-! ## Characters and lines -/

/-- A blank inside a line. -/
def isGap (c : Char) : Bool := c == ' ' || c == '\t'

/-- A character that stands for itself in comments and texts: no control but the tab. -/
def isPlain (c : Char) : Bool := c == '\t' || (0x20 ≤ c.toNat && c.toNat != 0x7f)

/-- What follows a line break. -/
def newline? : List Char → Option (List Char)
  | '\n' :: r => some r
  | '\r' :: '\n' :: r => some r
  | _ => none

/-- Skips blanks and line breaks. -/
def skipLines : List Char → List Char
  | ' ' :: r => skipLines r
  | '\t' :: r => skipLines r
  | '\n' :: r => skipLines r
  | '\r' :: '\n' :: r => skipLines r
  | s => s

/-! ## Pieces -/

/-- The character that stands for a number in hexadecimal digits. -/
def scalar? (digits : List Char) : Option Char := do
  let values ← digits.mapM Hex.digit?
  let n := values.foldl (fun n d => n * 16 + d) 0
  if n.isValidChar then some (Char.ofNat n) else none

/-- Reads a number of hexadecimal digits as a character. -/
def codePoint (size : Nat) (s : List Char) : Option (List Char × List Char) :=
  if s.length < size then none
  else (scalar? (s.take size)).map fun c => ([c], s.drop size)

/-- What an escape of one letter stands for. -/
def escape? : Char → Option Char
  | 'b' => some '\x08'
  | 't' => some '\t'
  | 'n' => some '\n'
  | 'f' => some '\x0c'
  | 'r' => some '\r'
  | '\x22' => some '\x22'
  | '\x5c' => some '\x5c'
  | _ => none

/-- Reads what follows a backslash. -/
def escaped : List Char → Option (List Char × List Char)
  | 'u' :: r => codePoint 4 r
  | 'U' :: r => codePoint 8 r
  | c :: r => (escape? c).map fun c => ([c], r)
  | [] => none

/-- Reads what follows a backslash in a text that spans lines: at the end of a line it hides the
line break and the blanks after it. -/
def escapedLine (s : List Char) : Option (List Char × List Char) :=
  match newline? (s.dropWhile isGap) with
  | some r => some ([], skipLines r)
  | none => escaped s

/-- How a text is written. -/
structure Quotes where
  mark : Char
  spansLines : Bool

namespace Quotes

/-- How many quotes there are in front. -/
def run (q : Quotes) (s : List Char) : Nat :=
  (s.takeWhile (· == q.mark)).length

/-- Reads a piece of the text, unless the text ends or breaks off here. -/
def piece (q : Quotes) : List Char → Option (List Char × List Char)
  | [] => none
  | c :: r =>
    if c = q.mark then
      if q.spansLines && q.run (c :: r) < 3 then some ([c], r) else none
    else if c = '\x5c' && q.mark = '\x22' then
      if q.spansLines then escapedLine r else escaped r
    else if isPlain c then some ([c], r)
    else if q.spansLines then (newline? (c :: r)).map fun r => (['\n'], r)
    else none

/-- Reads pieces as long as there are some, at most `n`. -/
def pieces (q : Quotes) : Nat → List Char → List Char × List Char
  | 0, s => ([], s)
  | n + 1, s =>
    match q.piece s with
    | none => ([], s)
    | some (p, r) =>
      let (ps, r) := pieces q n r
      (p ++ ps, r)

end Quotes

/-! ## Texts -/

/-- Reads the rest of a text on one line. -/
def quoted (mark : Char) (s : List Char) : Option (String × List Char) :=
  match Quotes.pieces ⟨mark, false⟩ s.length s with
  | (body, c :: r) => if c = mark then some (String.ofList body, r) else none
  | (_, []) => none

/-- Reads the rest of a text that spans lines.  A line break right at its start does not count, and
up to two quotes right before its end belong to it. -/
def quotedLines (mark : Char) (s : List Char) : Option (String × List Char) :=
  let q : Quotes := ⟨mark, true⟩
  let (body, r) := q.pieces s.length ((newline? s).getD s)
  let n := min (q.run r) 5
  if n < 3 then none
  else some (String.ofList (body ++ List.replicate (n - 3) mark), r.drop n)

end HttpMediation.Toml
