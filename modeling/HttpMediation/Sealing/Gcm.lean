import HttpMediation.Sealing.Aes

/-!
# Gcm — encryption that notices every change

AES-256-GCM after NIST SP 800-38D, with nonces of twelve and tags of sixteen bytes.

* `Gcm.encrypt` : the ciphertext and after it the tag.
* `Gcm.decrypt?` : the plaintext, if the tag is the one that encryption would have written.
-/

namespace HttpMediation.Gcm

/-- How many bytes a nonce has. -/
def nonceSize : Nat := 12

/-- How many bytes a tag has. -/
def tagSize : Nat := 16

/-! ## The universal hash -/

/-- A polynomial of degree at most 127; the constant term is the highest bit. -/
abbrev Element := BitVec 128

/-- Multiplies by `x` modulo `x¹²⁸ + x⁷ + x² + x + 1`. -/
def timesX (v : Element) : Element :=
  if v.getLsbD 0 then (v >>> 1) ^^^ (0xe1 <<< 120) else v >>> 1

/-- The first `n` multiples of an element by the powers of `x`. -/
def multiples : Nat → Element → List Element
  | 0, _ => []
  | n + 1, v => v :: multiples n (timesX v)

/-- The product of an element with the element whose multiples are given, from power `i` on. -/
def product (e : Element) : Nat → List Element → Element
  | _, [] => 0
  | i, v :: vs => (if e.getMsbD i then v else 0) ^^^ product e (i + 1) vs

/-- The bytes as a number, the first one highest. -/
def value (bytes : List UInt8) : Nat :=
  bytes.foldl (fun n b => n * 256 + b.toNat) 0

/-- The blocks of a byte string; the last one is filled up with zeros. -/
def blocks (bytes : List UInt8) : List Element :=
  match bytes with
  | [] => []
  | b :: r =>
    let block := (b :: r).take 16
    BitVec.ofNat 128 (value (block ++ List.replicate (16 - block.length) 0)) :: blocks (r.drop 15)
termination_by bytes.length
decreasing_by simp only [List.length_drop, List.length_cons]; omega

/-- The block that holds the lengths of two byte strings in bits. -/
def lengths (associated text : List UInt8) : Element :=
  BitVec.ofNat 64 (8 * associated.length) ++ BitVec.ofNat 64 (8 * text.length)

/-- The hash of associated data and a ciphertext. -/
def hash (table : List Element) (associated text : List UInt8) : Element :=
  (blocks associated ++ blocks text ++ [lengths associated text]).foldl
    (fun y x => product (y ^^^ x) 0 table) 0

/-! ## Counter mode -/

/-- A number in four bytes, the highest first. -/
def counterBytes (n : Nat) : List UInt8 :=
  [n >>> 24, n >>> 16, n >>> 8, n].map UInt8.ofNat

/-- The counter block with this number. -/
def counterBlock (nonce : List UInt8) (n : Nat) : Aes.Block :=
  let bytes := (nonce ++ counterBytes n).toArray
  Vector.ofFn fun i => bytes.getD i.1 0

/-- The first blocks of the key stream; it begins with the second counter. -/
def keyStream (keys : List Aes.Block) (nonce : List UInt8) (n : Nat) : List UInt8 :=
  (List.range n).flatMap fun i => (Aes.encryptBlock keys (counterBlock nonce (i + 2))).toList

/-- Adds as much of the key stream as the text is long. -/
def addStream (keys : List Aes.Block) (nonce text : List UInt8) : List UInt8 :=
  List.zipWith (· ^^^ ·) text (keyStream keys nonce ((text.length + 15) / 16))

/-! ## The mode -/

/-- The sixteen bytes of an element. -/
def elementBytes (e : Element) : List UInt8 :=
  (List.range tagSize).map fun i => UInt8.ofNat (e.toNat >>> (8 * (15 - i)))

/-- The tag of a ciphertext: its hash under the first counter. -/
def tag (keys : List Aes.Block) (nonce associated text : List UInt8) : List UInt8 :=
  let zero := Aes.encryptBlock keys (Vector.replicate 16 0)
  let table := multiples 128 (BitVec.ofNat 128 (value zero.toList))
  List.zipWith (· ^^^ ·) (elementBytes (hash table associated text))
    (Aes.encryptBlock keys (counterBlock nonce 1)).toList

/-- Encrypts a text; the tag stands behind it. -/
def encrypt (key : Aes.Key) (nonce associated text : List UInt8) : List UInt8 :=
  let keys := key.roundKeys
  let body := addStream keys nonce text
  body ++ tag keys nonce associated body

/-- Decrypts a text if the tag behind it is right. -/
def decrypt? (key : Aes.Key) (nonce associated sealed : List UInt8) : Option (List UInt8) :=
  let keys := key.roundKeys
  let body := sealed.take (sealed.length - tagSize)
  if tag keys nonce associated body = sealed.drop (sealed.length - tagSize) then
    some (addStream keys nonce body)
  else none

end HttpMediation.Gcm
