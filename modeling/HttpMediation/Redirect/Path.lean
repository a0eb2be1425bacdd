import HttpMediation.Encoding.Percent
import HttpMediation.Text.Basic

/-!
# Path — paths inside a site

Paths are compared after decoding and after dot segments are removed, so that no spelling of a path
leads somewhere else than the comparison saw.

* `Path.settle` : a path decoded until decoding changes nothing, within a number of rounds.
* `Path.normalize` : a path without `.`, `..` and empty segments inside.
* `Path.within` : whether a path is a directory or lies in it, segment by segment.
* `Path.write` : a decoded path in written form.
-/

namespace HttpMediation.Path

open Text

/-! ## Decoding -/

/-- How often a path is decoded; one that still changes in the last round is refused. -/
def maxRounds : Nat := 4

/-- Decodes until nothing changes.  A round that meets bytes which are no text, or a control
character, refuses the path, and so does the lack of another round. -/
def settle : Nat → List Char → Option (List Char)
  | 0, _ => none
  | rounds + 1, s =>
    match Percent.decodeText? s with
    | none => none
    | some t => if t.any isControl then none else if t = s then some s else settle rounds t

/-- The path as every decoder reads it in the end. -/
def decodeFully (s : List Char) : Option (List Char) :=
  settle maxRounds s

/-! ## Dot segments -/

/-- The segments of what follows the leading slash. -/
def segments (body : List Char) : List (List Char) :=
  body.splitOn '/'

/-- Whether a segment names no directory of its own: it is empty, `.` or `..`. -/
def isDirectoryMark (segment : List Char) : Bool :=
  segment.isEmpty || segment == ['.'] || segment == ['.', '.']

/-- Follows the segments from a directory, which is given backwards; nothing is above the root. -/
def follow (dir : List (List Char)) : List (List Char) → Option (List (List Char))
  | [] => some dir.reverse
  | s :: r =>
    if s = ['.', '.'] then
      match dir with
      | [] => none
      | _ :: above => follow above r
    else if s.isEmpty || s == ['.'] then follow dir r
    else follow (s :: dir) r

/-- The path of the segments; a directory other than the root ends with a slash. -/
def join (isDirectory : Bool) (dir : List (List Char)) : List Char :=
  '/' :: List.intercalate ['/'] dir ++ (if isDirectory && !dir.isEmpty then ['/'] else [])

/-- The path without dot segments and without empty segments; a path that does not start at the
root or climbs above it has no normal form. -/
def normalize : List Char → Option (List Char)
  | '/' :: body =>
    (follow [] (segments body)).map (join ((segments body).getLast?.any isDirectoryMark))
  | _ => none

/-! ## Containment -/

/-- Whether the path is the directory or lies in it; slashes at the directory's end do not count. -/
def within (path dir : List Char) : Bool :=
  let dir := trimEnd (· == '/') dir
  dir.isEmpty || path == dir || (dir ++ ['/']).isPrefixOf path

/-! ## Writing -/

/-- The characters that a written path keeps. -/
def keeps (c : Char) : Bool :=
  0x20 < c.toNat && c.toNat < 0x7f && !"\x22#%<>?\x60\x7b\x7d".toList.contains c

/-- The path in written form: one round of decoding gives it back. -/
def write (path : List Char) : List Char :=
  Percent.encode keeps path

end HttpMediation.Path
