import HttpMediation.Encoding.Percent
import HttpMediation.Text.Basic
import HttpMediation.Url.DomainName

/-!
# Host — where a URL leads

A host is a domain name in ASCII, an IPv4 address or an IPv6 address, read and written as the URL
standard says.  A name whose last part is a number must be an IPv4 address.

* `Host.parse?` : the host of a text.
* `Host.text` : the one spelling of a host.
-/

namespace HttpMediation

/-- The host of a URL. -/
inductive Host
  | domain (name : List Char)
  | ipv4 (address : Nat)
  /-- Eight pieces of sixteen bits. -/
  | ipv6 (pieces : List Nat)
  deriving DecidableEq, Repr

namespace Host

/-! ## IPv4 -/

/-- A digit in a base up to sixteen. -/
def digit? (base : Nat) (c : Char) : Option Nat :=
  (Hex.digit? c).bind fun d => if d < base then some d else none

/-- A number without signs; the empty text is zero. -/
def number? (base : Nat) (digits : List Char) : Option Nat :=
  digits.foldlM (fun n c => (digit? base c).map (n * base + ·)) 0

/-- A part of an IPv4 address: decimal, octal with a leading `0`, hexadecimal with `0x`. -/
def ipv4Part? : List Char → Option Nat
  | [] => none
  | '0' :: 'x' :: digits => number? 16 digits
  | '0' :: 'X' :: digits => number? 16 digits
  | '0' :: d :: digits => number? 8 (d :: digits)
  | digits => number? 10 digits

/-- The parts of a name around its dots; one dot at the end is no part. -/
def parts (name : List Char) : List (List Char) :=
  let parts := name.splitOn '.'
  if parts.getLast? = some [] then parts.dropLast else parts

/-- Whether the last part of the name is a number, well-formed or not. -/
def endsInNumber (name : List Char) : Bool :=
  (parts name).getLast?.any fun part =>
    (!part.isEmpty && part.all Char.isDigit) || (ipv4Part? part).isSome

/-- The address of up to four numbers; the last one fills all places that are left. -/
def joinIpv4? (numbers : List Nat) : Option Nat :=
  match numbers.reverse with
  | [] => none
  | last :: front =>
    if 3 < front.length ∨ front.any (255 < ·) ∨ Nat.pow 256 (4 - front.length) ≤ last then none
    else some (front.reverse.zipIdx.foldl (fun a p => a + p.1 * Nat.pow 256 (3 - p.2)) last)

/-- The IPv4 address of a name. -/
def ipv4? (name : List Char) : Option Nat :=
  ((parts name).mapM ipv4Part?).bind joinIpv4?

/-- Four decimal numbers between dots. -/
def ipv4Text (address : Nat) : List Char :=
  ".".toList.intercalate
    ([16777216, 65536, 256, 1].map fun unit => (toString (address / unit % 256)).toList)

/-! ## IPv6 -/

/-- A piece of an address: one to four hexadecimal digits. -/
def piece? (digits : List Char) : Option Nat :=
  if digits.isEmpty || 4 < digits.length then none else number? 16 digits

/-- A number up to 255 without leading zeros. -/
def octet? (digits : List Char) : Option Nat :=
  if digits.isEmpty || (1 < digits.length && digits.head? = some '0') then none
  else (number? 10 digits).bind fun n => if n < 256 then some n else none

/-- The two pieces of four numbers between dots. -/
def dottedPieces? (text : List Char) : Option (List Nat) := do
  match ← (text.splitOn '.').mapM octet? with
  | [a, b, c, d] => return [a * 256 + b, c * 256 + d]
  | _ => none

/-- The pieces of a text between colons; the last part may be an IPv4 address. -/
def tailPieces? (text : List Char) : Option (List Nat) :=
  if text.isEmpty then some []
  else
    let parts := text.splitOn ':'
    match parts.getLast? with
    | none => some []
    | some last =>
      if last.contains '.' then do
        return (← parts.dropLast.mapM piece?) ++ (← dottedPieces? last)
      else parts.mapM piece?

/-- The pieces of a text between colons. -/
def headPieces? (text : List Char) : Option (List Nat) :=
  if text.isEmpty then some [] else (text.splitOn ':').mapM piece?

/-- The text before the first `::` and the text behind it. -/
def cutGap : List Char → Option (List Char × List Char)
  | [] => none
  | [_] => none
  | c :: d :: r =>
    if c = ':' ∧ d = ':' then some ([], r)
    else (cutGap (d :: r)).map fun p => (c :: p.1, p.2)

/-- The pieces of an IPv6 address; one `::` stands for one or more zeros. -/
def ipv6? (text : List Char) : Option (List Nat) :=
  match cutGap text with
  | none => (tailPieces? text).bind fun pieces => if pieces.length = 8 then some pieces else none
  | some (front, back) => do
    let front ← headPieces? front
    let back ← tailPieces? back
    if 7 < front.length + back.length then none
    else return front ++ List.replicate (8 - front.length - back.length) 0 ++ back

/-- How many zeros the list starts with. -/
def leadingZeros (pieces : List Nat) : Nat :=
  (pieces.takeWhile (· == 0)).length

/-- The place and length of the first longest run of zeros. -/
def longestGap (pieces : List Nat) : Nat × Nat :=
  (List.range pieces.length).foldl
    (fun best i =>
      let n := leadingZeros (pieces.drop i)
      if best.2 < n then (i, n) else best) (0, 0)

/-- Pieces between colons. -/
def piecesText (pieces : List Nat) : List Char :=
  ":".toList.intercalate (pieces.map fun p => (Hex.number p).toList)

/-- The pieces in hexadecimal; `::` for the longest run of zeros, if it has more than one. -/
def ipv6Text (pieces : List Nat) : List Char :=
  let gap := longestGap pieces
  if gap.2 < 2 then piecesText pieces
  else piecesText (pieces.take gap.1) ++ "::".toList ++ piecesText (pieces.drop (gap.1 + gap.2))

/-! ## Hosts -/

/-- The one spelling of the host. -/
def text : Host → List Char
  | domain name => name
  | ipv4 address => ipv4Text address
  | ipv6 pieces => '[' :: ipv6Text pieces ++ [']']

/-- The host of a name that is no IPv6 address. -/
def ofName? (name : List Char) : Option Host := do
  let ascii ← DomainName.toAscii? (← Percent.decodeText? name)
  if ascii.isEmpty then none
  else if endsInNumber ascii then return ipv4 (← ipv4? ascii)
  else return domain ascii

/-- The host that the text spells. -/
def parse? (text : List Char) : Option Host :=
  match text with
  | '[' :: r =>
    if r.getLast? = some ']' then (ipv6? r.dropLast).map ipv6 else none
  | name => ofName? name

end Host

end HttpMediation
