import HttpMediation.Random
import HttpMediation.Session.Basic

/-!
# Store — where sessions are kept, and plans that use it

A store answers single calls.  An operation on sessions is a `Plan`: the calls and draws that it
makes one after another, each depending on the answers so far.  What a plan does is thus one thing,
and how a store answers, when it fails and who else uses it in between is another.

* `Sessions.answer` : the answers of a store in memory, which never fails.
* `Plan.run` : carries a plan out.
-/

namespace HttpMediation

/-- A call of a store. -/
inductive StoreCall
  /-- Looks a session up. -/
  | load (id : String)
  /-- Keeps a session under its identifier. -/
  | save (session : Session)
  /-- Removes a session and answers with it. -/
  | invalidate (id : String)

namespace StoreCall

/-- The call's name. -/
def name : StoreCall → String
  | load _ => "load"
  | save _ => "save"
  | invalidate _ => "invalidate"

/-- The identifier that the call is about. -/
def id : StoreCall → String
  | load id => id
  | save s => s.id
  | invalidate id => id

end StoreCall

/-- What a store answers: a session or none, or why it cannot answer. -/
abbrev StoreAnswer := Except Error (Option Session)

/-- The live sessions by identifier. -/
abbrev Sessions := Dict Session

namespace Sessions

/-- The answer of a store in memory, and what it keeps then. -/
def answer : StoreCall → Sessions → StoreAnswer × Sessions
  | .load id, live => (.ok (live.get? id), live)
  | .save s, live => (.ok none, live.insert s.id s)
  | .invalidate id, live => (.ok (live.get? id), live.erase id)

end Sessions

/-- The calls and draws of an operation. -/
inductive Plan (α : Type)
  | done (result : α)
  | call (c : StoreCall) (next : StoreAnswer → Plan α)
  | draw (size : Nat) (next : List UInt8 → Plan α)

namespace Plan

variable {α σ : Type}

/-- Carries a plan out with a store that answers call by call. -/
def run (answer : StoreCall → σ → StoreAnswer × σ) : Plan α → σ → RandomSource →
    α × σ × RandomSource
  | done a, s, r => (a, s, r)
  | call c next, s, r =>
    let (x, s) := answer c s
    run answer (next x) s r
  | draw n next, s, r =>
    let (bytes, r) := r.draw n
    run answer (next bytes) s r

end Plan

end HttpMediation
