import HttpMediation.Url.Basic

/-!
# Parser — reading web addresses

How the WHATWG URL standard reads an absolute URL of the web.  The text is cut at its marks one
after another: scheme, authority, path, query, fragment; then every part is brought into its written
form.

* `Url.parse?` : the URL of a text.
* `Url.removeDots` : the path without `.` and `..`.
-/

namespace HttpMediation.Url

open Text

/-! ## What is escaped -/

/-- A character that every part of a URL escapes. -/
def isAlwaysEscaped (c : Char) : Bool :=
  c.toNat < 0x20 || 0x7f ≤ c.toNat

/-- Keeps a character unless it is escaped everywhere or named here. -/
def keepsAllBut (marks : String) (c : Char) : Bool :=
  !isAlwaysEscaped c && !marks.toList.contains c

/-- The characters that a fragment keeps. -/
def fragmentKeeps : Char → Bool := keepsAllBut " \x22<>\x60"

/-- The characters that a query keeps. -/
def queryKeeps : Char → Bool := keepsAllBut " \x22#<>\x27"

/-- The characters that a path keeps. -/
def pathKeeps : Char → Bool := keepsAllBut " \x22#<>?\x60\x7b\x7d"

/-- The characters that a user name or a password keeps. -/
def userKeeps : Char → Bool := keepsAllBut " \x22#<>?\x60\x7b\x7d/:;=@[\x5c]^|"

/-! ## Cutting -/

/-- The text without what URLs never hold: controls and spaces at the ends, tabs and line breaks
anywhere. -/
def strip (s : List Char) : List Char :=
  (trim (·.toNat ≤ 0x20) s).filter fun c => c != '\t' && c != '\n' && c != '\r'

/-- A slash of either direction. -/
def isSlash (c : Char) : Bool :=
  c == '/' || c == '\x5c'

/-- What ends the authority. -/
def endsAuthority (c : Char) : Bool :=
  isSlash c || c == '?' || c == '#'

/-- The host before the first colon outside brackets, and the rest from the colon on. -/
def cutPort (bracketed : Bool) : List Char → List Char × List Char
  | [] => ([], [])
  | c :: r =>
    if c = ':' ∧ ¬bracketed then ([], c :: r)
    else
      let (host, port) := cutPort (if c = '[' then true else if c = ']' then false else bracketed) r
      (c :: host, port)

/-- The port behind a colon: none when nothing follows or when it is the default. -/
def readPort? (scheme : Scheme) : List Char → Option (Option Nat)
  | [] => some none
  | _ :: digits =>
    if !digits.all Char.isDigit then none
    else if digits.isEmpty then some none
    else (Host.number? 10 digits).bind fun n =>
      if 65535 < n then none else some (if n = scheme.defaultPort then none else some n)

/-- User name and password; an empty password counts as none. -/
def readUser (user : List Char) : List Char × Option (List Char) :=
  let (name, word) := cutAt (· == ':') user
  (Percent.encode userKeeps name,
    if word.length < 2 then none else some (Percent.encode userKeeps (word.drop 1)))

/-! ## Paths -/

/-- A segment that stands for the directory itself. -/
def isSingleDot (segment : List Char) : Bool :=
  [".", "%2e", "%2E"].any fun dot => dot.toList == segment

/-- A segment that stands for the directory above. -/
def isDoubleDot (segment : List Char) : Bool :=
  ["..", "%2e%2e", "%2e%2E", "%2E%2e", "%2E%2E", "%2e.", "%2E.", ".%2e", ".%2E"].any fun dots =>
    dots.toList == segment

/-- A segment that names a drive; no `..` removes it. -/
def isDrive : List Char → Bool
  | [letter, mark] => letter.isAlpha && (mark == ':' || mark == '|')
  | _ => false

/-- The directory above, given the segments backwards. -/
def up : List (List Char) → List (List Char)
  | [] => []
  | segment :: above => if isDrive segment then segment :: above else above

/-- Follows the segments from a directory, which is given backwards; a last segment that stands for
a directory leaves an empty one. -/
def removeDotsFrom (dir : List (List Char)) : List (List Char) → List (List Char)
  | [] => dir.reverse
  | s :: r =>
    if isDoubleDot s then removeDotsFrom (if r.isEmpty then [] :: up dir else up dir) r
    else if isSingleDot s then removeDotsFrom (if r.isEmpty then [] :: dir else dir) r
    else removeDotsFrom (s :: dir) r

/-- The path without segments that stand for a directory. -/
def removeDots (segments : List (List Char)) : List (List Char) :=
  removeDotsFrom [] segments

/-- The segments of a path, which is empty or starts with a slash. -/
def readPath (path : List Char) : List (List Char) :=
  removeDots (((path.drop 1).splitOnP isSlash).map (Percent.encode pathKeeps))

/-! ## The parser -/

/-- The URL of what follows the scheme, the authority starting at once. -/
def parseAuthority? (scheme : Scheme) (s : List Char) : Option Url := do
  let (beforeFragment, fragment) := cutAt (· == '#') s
  let (beforeQuery, query) := cutAt (· == '?') beforeFragment
  let (authority, path) := cutAt endsAuthority beforeQuery
  let (user, place) := (cutLast '@' authority).getD ([], authority)
  let (hostText, portText) := cutPort false place
  let host ← Host.parse? hostText
  let port ← readPort? scheme portText
  let (username, password) := readUser user
  return {
    scheme := scheme
    username := username
    password := password
    host := host
    port := port
    path := readPath path
    query := if query.isEmpty then none else some (Percent.encode queryKeeps (query.drop 1))
    fragment :=
      if fragment.isEmpty then none else some (Percent.encode fragmentKeeps (fragment.drop 1)) }

/-- The URL that the text spells, if it is an absolute URL of the web. -/
def parse? (s : List Char) : Option Url :=
  let (name, rest) := cutAt (· == ':') (strip s)
  match rest with
  | [] => none
  | _ :: behindColon => do
    let scheme ← Scheme.ofName? name
    parseAuthority? scheme (behindColon.dropWhile isSlash)

end HttpMediation.Url
