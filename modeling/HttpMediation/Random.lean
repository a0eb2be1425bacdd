/-!
# Random — draws of bytes

A `RandomSource` hands out bytes draw by draw.  All components share one source, so the order of
their draws is part of what they do.  What the next bytes are may depend on how many draws there
were and on how many bytes they took; nothing else is known about a source here.
-/

namespace HttpMediation

/-- A source of random bytes and how far it has been used. -/
structure RandomSource where
  /-- The byte that the draw with this number gets at this place of the stream. -/
  byteAt : (draw : Nat) → (place : Nat) → UInt8
  draws : Nat := 0
  drawn : Nat := 0

namespace RandomSource

/-- The next bytes; an empty draw counts as a draw too. -/
def draw (n : Nat) (r : RandomSource) : List UInt8 × RandomSource :=
  ((List.range n).map fun i => r.byteAt r.draws (r.drawn + i),
    { r with draws := r.draws + 1, drawn := r.drawn + n })

/-- Fills each draw with one byte, a higher one each time. -/
def counting (start : UInt8) : RandomSource :=
  { byteAt := fun draw _ => start + UInt8.ofNat draw }

/-- Repeats the bytes over and over. -/
def cyclic (bytes : Array UInt8) : RandomSource :=
  { byteAt := fun _ place => bytes.getD (place % bytes.size) 0 }

theorem length_draw (n : Nat) (r : RandomSource) : (r.draw n).1.length = n := by
  simp [draw]

end RandomSource

end HttpMediation
