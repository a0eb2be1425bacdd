import HttpMediation.Session.Rotator

/-!
# Race — rotations at the same time

Several rotations share a store in memory and a source of random bytes.  Every call of the store and every
draw is one step, and the rotations take their steps in any order; only rotations of the same identifier
wait for each other.

* `Rotation.step?` : the next step of one rotation.
* `Race.step?` : lets a rotation take its next step, unless it has to wait or has returned.
* `Race.run?` : the steps of several rotations in any order.
-/

namespace HttpMediation

/-- A rotation among others. -/
structure Rotation where
  id : String
  /-- What is left to do once the rotation has begun. -/
  plan : Option (Plan (Except Error Session × Unit)) := none
  /-- The bytes that have been drawn, draw by draw. -/
  draws : List (List UInt8) := []

namespace Rotation

/-- What the rotation has returned. -/
def result? (c : Rotation) : Option (Except Error Session) :=
  match c.plan with
  | some (.done out) => some out.1
  | _ => none

/-- Whether the rotation has begun and not returned. -/
def isRunning (c : Rotation) : Bool :=
  c.plan.isSome && c.result?.isNone

/-- The identifier that has been drawn. -/
def drawn? (c : Rotation) : Option String :=
  c.draws.head?.map Session.idOfBytes

/-- The next step: the rotation begins, calls the store or draws. -/
def step? (r : Rotator) (live : Sessions) (random : RandomSource) (c : Rotation) :
    Option (Rotation × Sessions × RandomSource) :=
  match c.plan with
  | none => some ({ c with plan := some (r.rotate c.id) }, live, random)
  | some (.call k next) =>
    let (answer, live) := Sessions.answer k live
    some ({ c with plan := some (next answer) }, live, random)
  | some (.draw n next) =>
    let (bytes, random) := random.draw n
    some ({ c with plan := some (next bytes), draws := c.draws ++ [bytes] }, live, random)
  | some (.done _) => none

end Rotation

/-- The live sessions, the source of random bytes, and all rotations. -/
structure Race where
  live : Sessions
  random : RandomSource
  rotations : List Rotation

namespace Race

/-- Whether a rotation of the identifier has begun and not returned. -/
def isBusy (w : Race) (id : String) : Bool :=
  w.rotations.any fun c => c.id == id && c.isRunning

/-- The next step of rotation `i`. -/
def step? (r : Rotator) (i : Nat) (w : Race) : Option Race :=
  match w.rotations[i]? with
  | none => none
  | some c =>
    if c.plan.isNone && w.isBusy c.id then none
    else
      (c.step? r w.live w.random).map fun (c, live, random) =>
        ⟨live, random, w.rotations.set i c⟩

/-- Takes the steps of the rotations in the order of the schedule. -/
def run? (r : Rotator) : (schedule : List Nat) → Race → Option Race
  | [], w => some w
  | i :: is, w => (w.step? r i).bind (run? r is)

/-- The race before any of the rotations. -/
def start (live : Sessions) (random : RandomSource) (ids : List String) : Race :=
  ⟨live, random, ids.map fun id => { id := id }⟩

/-- Whether every rotation has returned. -/
def isOver (w : Race) : Bool :=
  w.rotations.all (·.result?.isSome)

end Race

end HttpMediation
