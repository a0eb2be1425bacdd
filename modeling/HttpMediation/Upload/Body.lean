import HttpMediation.Upload.Disk

/-!
# Body — bytes that arrive piece by piece

A body is what reading it yields, read after read.  It is copied into a file with a bound on its
size: one byte more than the bound is asked for, so that a body that is too long shows itself.

* `ReadEvent` : what a read yields.
* `copyBody` : copies at most so many bytes into a file.
* `copyBounded` : copies a body of at most so many bytes.
-/

namespace HttpMediation

/-- What a read of a body yields.  An empty chunk ends the body, and so does the end of the list. -/
inductive ReadEvent
  | chunk (bytes : List UInt8)
  /-- Nothing was read; the next read goes on. -/
  | interrupted
  | failed (kind : IoKind)
  deriving DecidableEq

namespace Upload

/-- Copies the body into a staged file until `limit` bytes are copied or the body ends.  The answer
is how many bytes there are, `size` of them copied before. -/
def copyBody (name : String) : (limit : Nat) → List ReadEvent → (size : Nat) → Disk →
    Except IoKind Nat × Disk
  | _, [], size, d => (.ok size, d)
  | 0, _ :: _, size, d => (.ok size, d)
  | limit + 1, .interrupted :: r, size, d => copyBody name (limit + 1) r size d
  | _ + 1, .failed k :: _, _, d => (.error k, d)
  | limit + 1, .chunk bytes :: r, size, d =>
    let bytes := bytes.take (limit + 1)
    if bytes.isEmpty then (.ok size, d)
    else
      match d.append .staging name bytes with
      | (.error k, d) => (.error k, d)
      | (.ok _, d) => copyBody name (limit + 1 - bytes.length) r (size + bytes.length) d

/-- The largest size that can be told apart. -/
def maxSize : Nat := UInt64.size - 1

/-- How many bytes are asked for to see whether there are more than `bound`. -/
def readLimit (bound : UInt64) : Nat :=
  min (bound.toNat + 1) maxSize

/-- Copies a body of at most `bound` bytes into a staged file. -/
def copyBounded (bound : UInt64) (name : String) (body : List ReadEvent) (d : Disk) :
    Except Error Nat × Disk :=
  match copyBody name (readLimit bound) body 0 d with
  | (.error k, d) => (.error (.ofIo k), d)
  | (.ok size, d) =>
    if bound.toNat < size then (.error (.validation "file exceeds maximum size"), d)
    else
      match d.sync with
      | (.error k, d) => (.error (.ofIo k), d)
      | (.ok _, d) => (.ok size, d)

end Upload

end HttpMediation
