/-!
# Aes — the block cipher with keys of 32 bytes

AES-256 after FIPS 197.  A block is sixteen bytes, four columns of four.  The byte substitution is
computed from the field it is defined in, once.

* `Aes.Key`, `Aes.Block` : what the cipher works with.
* `Aes.encryptBlock` : the cipher.  Counter modes need no inverse.
-/

namespace HttpMediation.Aes

/-- A key of 256 bits. -/
abbrev Key := Vector UInt8 32

/-- Four columns of four bytes, column after column. -/
abbrev Block := Vector UInt8 16

/-! ## Bytes as polynomials -/

/-- Multiplies by `x` modulo `x⁸ + x⁴ + x³ + x + 1`. -/
def double (b : UInt8) : UInt8 :=
  if b &&& 0x80 = 0 then b <<< 1 else (b <<< 1) ^^^ 0x1b

/-- The sum of the multiples of `b` by the powers of `x` that the lowest `n` bits of `a` name. -/
def mulLow : Nat → UInt8 → UInt8 → UInt8
  | 0, _, _ => 0
  | n + 1, a, b => (if a &&& 1 = 0 then 0 else b) ^^^ mulLow n (a >>> 1) (double b)

/-- The product of two polynomials. -/
def mul (a b : UInt8) : UInt8 := mulLow 8 a b

/-- The inverse, and zero for zero: the power with exponent 254. -/
def inverse (b : UInt8) : UInt8 :=
  (List.range 7).foldl (fun p _ => mul (mul p p) (mul b b)) 1

/-- The byte turned left by a number of bits. -/
def turn (n b : UInt8) : UInt8 := (b <<< n) ||| (b >>> (8 - n))

/-- The substitute of a byte: its inverse under an affine map. -/
def substitute (b : UInt8) : UInt8 :=
  let i := inverse b
  i ^^^ turn 1 i ^^^ turn 2 i ^^^ turn 3 i ^^^ turn 4 i ^^^ 0x63

/-- The substitutes of all bytes. -/
def substitutes : Vector UInt8 256 :=
  Vector.ofFn fun i => substitute (UInt8.ofNat i)

/-- Looks the substitute up. -/
def sub (b : UInt8) : UInt8 :=
  substitutes.get ⟨b.toNat, b.toNat_lt⟩

/-! ## Rounds -/

/-- Adds a round key. -/
def addKey (key s : Block) : Block := Vector.zipWith (· ^^^ ·) s key

/-- Turns row `r` left by `r` places. -/
def shiftRows (s : Block) : Block :=
  Vector.ofFn fun i => s.get ⟨(i.1 + 4 * (i.1 % 4)) % 16, Nat.mod_lt _ (by decide)⟩

/-- The byte of the same column that stands `k` rows further down, around the end. -/
def below (s : Block) (i k : Nat) : UInt8 :=
  s.toArray.getD (i / 4 * 4 + (i + k) % 4) 0

/-- Multiplies every column by the polynomial `3x³ + x² + x + 2`. -/
def mixColumns (s : Block) : Block :=
  Vector.ofFn fun i =>
    let a := below s i.1 0
    let b := below s i.1 1
    double a ^^^ (double b ^^^ b) ^^^ below s i.1 2 ^^^ below s i.1 3

/-! ## Round keys -/

/-- A column of the key schedule. -/
abbrev Word := Vector UInt8 4

/-- The word turned left by a byte. -/
def Word.turn (w : Word) : Word := #v[w[1], w[2], w[3], w[0]]

/-- What a word adds to the word eight places before: every eighth one is turned, substituted and
marked, the one in the middle between these is substituted. -/
def stepWord (i : Nat) (mark : UInt8) (w : Word) : Word :=
  if i % 8 = 0 then Vector.zipWith (· ^^^ ·) (w.turn.map sub) #v[mark, 0, 0, 0]
  else if i % 8 = 4 then w.map sub
  else w

/-- Extends the words of a key schedule, which are given backwards, by `n` words. -/
def extend : Nat → UInt8 → List Word → List Word
  | 0, _, ws => ws
  | n + 1, mark, ws =>
    let i := ws.length
    let step := stepWord i mark (ws.getD 0 (Vector.replicate 4 0))
    let w := Vector.zipWith (· ^^^ ·) step (ws.getD 7 (Vector.replicate 4 0))
    extend n (if i % 8 = 0 then double mark else mark) (w :: ws)

/-- The words of a key. -/
def Key.words (key : Key) : List Word :=
  (List.range 8).map fun i => Vector.ofFn fun r => key.toArray.getD (4 * i + r.1) 0

/-- The bytes of the key schedule. -/
def Key.schedule (key : Key) : Array UInt8 :=
  (((extend 52 1 key.words.reverse).reverse.map Vector.toList).flatten).toArray

/-- The fifteen round keys. -/
def Key.roundKeys (key : Key) : List Block :=
  let bytes := key.schedule
  (List.range 15).map fun n => Vector.ofFn fun i => bytes.getD (16 * n + i.1) 0

/-! ## The cipher -/

/-- All rounds after the first key; the last one does not mix columns. -/
def rounds : List Block → Block → Block
  | [], s => s
  | [last], s => addKey last (shiftRows (s.map sub))
  | key :: keys, s => rounds keys (addKey key (mixColumns (shiftRows (s.map sub))))

/-- Encrypts a block under round keys. -/
def encryptBlock (keys : List Block) (s : Block) : Block :=
  match keys with
  | [] => s
  | key :: keys => rounds keys (addKey key s)

end HttpMediation.Aes
