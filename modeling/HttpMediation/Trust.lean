/-!
# Trust — what has been checked and what has not

* `Tainted` : a value as the client sent it.
* `Verified` : a value that a rule has let through.
* `Secret` : bytes that no text about the library may show.
-/

namespace HttpMediation

/-- A value that nobody has checked yet. -/
structure Tainted (α : Type) where
  inner : α
  deriving DecidableEq, Repr

/-- A tainted value stays tainted, whatever is computed from it. -/
def Tainted.map {α β : Type} (f : α → β) (t : Tainted α) : Tainted β :=
  ⟨f t.inner⟩

/-- A value that passed a check. -/
structure Verified (α : Type) where
  inner : α
  deriving DecidableEq, Repr

/-- Bytes that must stay out of texts. -/
structure Secret where
  bytes : List UInt8
  deriving DecidableEq

namespace Secret

/-- The only text of a secret. -/
def text (_ : Secret) : String := "[REDACTED]"

/-- How two byte strings of one length differ: the or of all their differences. -/
def difference : List UInt8 → List UInt8 → UInt8
  | x :: xs, y :: ys => (x ^^^ y) ||| difference xs ys
  | _, _ => 0

/-- Compares without stopping at the first difference; the lengths are no secret. -/
def agrees (s : Secret) (candidate : List UInt8) : Bool :=
  s.bytes.length == candidate.length && difference s.bytes candidate == 0

end Secret

end HttpMediation
