/-!
# LockTable — one operation at a time on a session

Operations on the same session wait for each other; operations on different sessions do not.  Every
identifier in use has a lock, and a table says which.  A lock is counted by those who hold it: the
table, and every call that has fetched it and not dropped it yet.  A call that finds nobody but the
table and itself removes the lock from the table.

* `LockTable.step?` : the next atomic step of a call, unless the call has to wait or has returned.
* `LockTable.run?` : the steps of several calls in any order.
-/

namespace HttpMediation

/-- How far a call has come. -/
inductive LockStage
  /-- It has not fetched a lock. -/
  | outside
  /-- It has fetched the lock and waits for it. -/
  | waiting (lock : Nat)
  /-- It holds the lock and works on the session. -/
  | inside (lock : Nat)
  /-- It has released the lock. -/
  | released (lock : Nat)
  /-- It has looked after the table. -/
  | tidied (lock : Nat)
  /-- It has dropped the lock and returned. -/
  | returned
  deriving DecidableEq, Repr

/-- The lock that a call has fetched and not dropped yet. -/
def LockStage.lock? : LockStage → Option Nat
  | waiting l | inside l | released l | tidied l => some l
  | outside | returned => none

/-- A call that works on the session of an identifier. -/
structure LockingCall where
  id : String
  stage : LockStage := .outside
  deriving DecidableEq, Repr

/-- The table, how many locks there have been, and all calls. -/
structure LockTable where
  entries : List (String × Nat) := []
  made : Nat := 0
  calls : List LockingCall
  deriving DecidableEq, Repr

namespace LockTable

/-- The lock of an identifier. -/
def lock? (t : LockTable) (id : String) : Option Nat :=
  t.entries.lookup id

/-- How many hold on to a lock. -/
def holders (t : LockTable) (lock : Nat) : Nat :=
  t.entries.countP (·.2 == lock) + t.calls.countP (·.stage.lock? == some lock)

/-- Whether some call works under the lock. -/
def isTaken (t : LockTable) (lock : Nat) : Bool :=
  t.calls.any (·.stage == .inside lock)

/-- Lets call `i` come as far as the stage. -/
def advance (i : Nat) (stage : LockStage) (t : LockTable) : LockTable :=
  { t with calls := t.calls.modify i fun c => { c with stage := stage } }

/-- Fetches the lock of an identifier; a new one if it has none. -/
def fetch (i : Nat) (id : String) (t : LockTable) : LockTable :=
  match t.lock? id with
  | some lock => t.advance i (.waiting lock)
  | none =>
    { t with entries := (id, t.made) :: t.entries, made := t.made + 1 }.advance i (.waiting t.made)

/-- Removes the identifier if nobody but the table and the call hold on to the lock. -/
def tidy (i : Nat) (id : String) (lock : Nat) (t : LockTable) : LockTable :=
  if t.holders lock = 2 then
    { t with entries := t.entries.filter (·.1 != id) }.advance i (.tidied lock)
  else t.advance i (.tidied lock)

/-- The next atomic step of call `i`. -/
def step? (i : Nat) (t : LockTable) : Option LockTable :=
  match t.calls[i]? with
  | none => none
  | some c =>
    match c.stage with
    | .outside => some (t.fetch i c.id)
    | .waiting lock => if t.isTaken lock then none else some (t.advance i (.inside lock))
    | .inside lock => some (t.advance i (.released lock))
    | .released lock => some (t.tidy i c.id lock)
    | .tidied _ => some (t.advance i .returned)
    | .returned => none

/-- Takes the steps of the calls in the order of the schedule. -/
def run? : (schedule : List Nat) → LockTable → Option LockTable
  | [], t => some t
  | i :: is, t => (t.step? i).bind (run? is)

/-- The table before any of the calls. -/
def start (ids : List String) : LockTable :=
  { calls := ids.map fun id => { id := id } }

end LockTable

end HttpMediation
