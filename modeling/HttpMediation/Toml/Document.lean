import HttpMediation.Toml.Scalar
import HttpMediation.Toml.Text

/-!
# Document — reading TOML 1.0

A document is read line by line.  Values in brackets and braces nest only so far; the count of
further levels is what the reader of values recurs on.

* `Toml.value` : reads a value.
* `Toml.parse?` : the table that a document stands for.
-/

namespace HttpMediation.Toml

open Text

/-! ## Keys -/

/-- How many parts a dotted key may not reach, and how deep values may not nest. -/
def depthLimit : Nat := 80

/-- Reads a part of a key. -/
def keyPart : List Char → Option (String × List Char)
  | '\x22' :: r => quoted '\x22' r
  | '\x27' :: r => quoted '\x27' r
  | s =>
    match cutAt (!isNameChar ·) s with
    | ([], _) => none
    | (name, r) => some (String.ofList name, r)

/-- Reads at most `n` parts of a key with dots between them. -/
def keyParts : Nat → List Char → Option (Key × List Char)
  | 0, _ => none
  | n + 1, s => do
    let (k, r) ← keyPart (s.dropWhile isGap)
    match r.dropWhile isGap with
    | '.' :: r => (keyParts n r).map fun (ks, r) => (k :: ks, r)
    | r => some ([k], r)

/-- Reads a dotted key and the blanks around it. -/
def key (s : List Char) : Option (Key × List Char) :=
  keyParts (depthLimit - 1) s

/-! ## Spaces between values -/

/-- Skips blanks, line breaks and comments; after a character that no comment may hold there is
nothing left to read. -/
def skipSpace : (inComment : Bool) → List Char → List Char
  | false, '#' :: r => skipSpace true r
  | false, ' ' :: r => skipSpace false r
  | false, '\t' :: r => skipSpace false r
  | _, '\n' :: r => skipSpace false r
  | _, '\r' :: '\n' :: r => skipSpace false r
  | false, s => s
  | true, c :: r => if isPlain c then skipSpace true r else []
  | true, [] => []

/-- Reads the end of a line: blanks, a comment, and a line break or the end of the document. -/
def lineEnd (s : List Char) : Option (List Char) :=
  let rest := match s.dropWhile isGap with
    | '#' :: r => r.dropWhile isPlain
    | r => r
  if rest.isEmpty then some [] else newline? rest

/-! ## Values -/

/-- Reads the rest of an array of at most `n` values. -/
def elements (item : List Char → Option (Value × List Char)) :
    Nat → List Char → Option (List Value × List Char)
  | 0, _ => none
  | n + 1, s =>
    match skipSpace false s with
    | ']' :: r => some ([], r)
    | s => do
      let (v, r) ← item s
      match skipSpace false r with
      | ',' :: r => (elements item n r).map fun (vs, r) => (v :: vs, r)
      | ']' :: r => some ([v], r)
      | _ => none

/-- Reads a key, the sign between them and a value. -/
def assignment (item : List Char → Option (Value × List Char)) (s : List Char) :
    Option (Key × Value × List Char) := do
  match ← key s with
  | (k, '=' :: r) =>
    let (v, r) ← item (r.dropWhile isGap)
    return (k, v, r)
  | _ => none

/-- Reads the rest of a table between braces with at least one and at most `n` entries. -/
def inlineEntries (item : List Char → Option (Value × List Char)) (entries : Entries) :
    Nat → List Char → Option (Entries × List Char)
  | 0, _ => none
  | n + 1, s => do
    let (k, v, r) ← assignment item s
    let entries ← assign v k entries
    match r.dropWhile isGap with
    | ',' :: r => inlineEntries item entries n r
    | '\x7d' :: r => some (entries, r)
    | _ => none

/-- Reads the rest of a table between braces. -/
def inlineTable (item : List Char → Option (Value × List Char)) (s : List Char) :
    Option (Value × List Char) :=
  match s.dropWhile isGap with
  | '\x7d' :: r => some (.table .inline [], r)
  | r => (inlineEntries item [] s.length r).map fun (entries, r) => (.table .inline entries, r)

/-- Reads a value in which at most so many brackets and braces are open at a time. -/
def value : (levels : Nat) → List Char → Option (Value × List Char)
  | _, '\x22' :: '\x22' :: '\x22' :: r =>
    (quotedLines '\x22' r).map fun (s, r) => (.text s, r)
  | _, '\x27' :: '\x27' :: '\x27' :: r =>
    (quotedLines '\x27' r).map fun (s, r) => (.text s, r)
  | _, '\x22' :: r => (quoted '\x22' r).map fun (s, r) => (.text s, r)
  | _, '\x27' :: r => (quoted '\x27' r).map fun (s, r) => (.text s, r)
  | 0, '[' :: _ => none
  | 0, '\x7b' :: _ => none
  | n + 1, '[' :: r => (elements (value n) (r.length + 1) r).map fun (vs, r) => (.array vs, r)
  | n + 1, '\x7b' :: r => inlineTable (value n) r
  | _, s =>
    let (run, r) := cutRun s
    (scalar run).map fun v => (v, r)

/-! ## Lines -/

/-- Reads a header and the end of its line. -/
def header (close : List Char) (s : List Char) : Option (Key × List Char) := do
  let (k, r) ← key s
  if close.isPrefixOf r then return (k, ← lineEnd (r.drop close.length)) else none

/-- Reads at most `n` lines that follow the given header into the document. -/
def lines : Nat → Key → Entries → List Char → Option Entries
  | 0, _, _, _ => none
  | n + 1, here, doc, s =>
    match s.dropWhile isGap with
    | [] => some doc
    | '[' :: '[' :: r => do
      let (k, r) ← header [']', ']'] r
      lines n k (← openElement k doc) r
    | '[' :: r => do
      let (k, r) ← header [']'] r
      lines n k (← openTable k doc) r
    | c :: r =>
      if c = '#' || c = '\n' || c = '\r' then do
        lines n here doc (← lineEnd (c :: r))
      else do
        let (k, v, r) ← assignment (value (depthLimit - 1)) (c :: r)
        lines n here (← within (assign v k) here doc) (← lineEnd r)

/-- The table of a document; a byte order mark in front of it does not count. -/
def parse? (document : String) : Option Entries :=
  let s := match document.toList with
    | '\ufeff' :: r => r
    | s => s
  lines (s.length + 1) [] [] s

end HttpMediation.Toml
