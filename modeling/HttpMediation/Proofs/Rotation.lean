import HttpMediation.Session.Rotator

/-!
# Rotation — what plans come to, however a store answers

* `Plan.Always` : what holds of a plan's result for all answers and all draws.
* `Rotator.always_rotateThen` : a rotation fails and leaves things as they are, or its last step succeeded.
-/

namespace HttpMediation

variable {α σ τ : Type}

/-! ## Plans -/

namespace Plan

/-- The result is as `P` says, whatever the store answers and whatever bytes are drawn. -/
def Always (P : α → Prop) : Plan α → Prop
  | done a => P a
  | call _ next => ∀ answer, Always P (next answer)
  | draw n next => ∀ bytes, bytes.length = n → Always P (next bytes)

theorem Always.run {P : α → Prop} {p : Plan α} (h : p.Always P)
    (answer : StoreCall → τ → StoreAnswer × τ) (s : τ) (r : RandomSource) :
    P (p.run answer s r).1 := by
  induction p generalizing s r with
  | done a => exact h
  | call c next ih => exact ih _ (h _) _ _
  | draw n next ih => exact ih _ (h _ (r.length_draw n)) _ _

theorem Always.mono {P Q : α → Prop} {p : Plan α} (h : p.Always P) (hPQ : ∀ a, P a → Q a) : p.Always Q := by
  induction p with
  | done a => exact hPQ a h
  | call c next ih => exact fun answer => ih answer (h answer)
  | draw n next ih => exact fun bytes hbytes => ih bytes (h bytes hbytes)

end Plan

/-! ## Rotations -/

namespace Rotator

variable {P : Except Error Session × σ → Prop} {commit : Session → σ → Except Error Unit × σ} {x : σ}

theorem always_restore (hfail : ∀ e, P (.error e, x)) (old new : Session) (e : Error) :
    (restore old new e x).Always P := by
  intro gone
  cases gone with
  | error f => exact hfail f
  | ok s =>
    intro kept
    cases kept with
    | error f => exact hfail f
    | ok s => exact hfail e

theorem always_move (hfail : ∀ e, P (.error e, x))
    (hrefuse : ∀ s e y, commit s x = (.error e, y) → y = x)
    (haccept : ∀ s y, commit s x = (.ok (), y) → P (.ok s, y)) (id : String) (old new : Session) :
    (move commit id old new x).Always P := by
  intro gone
  cases gone with
  | error e => exact hfail e
  | ok s =>
    intro kept
    cases kept with
    | error e => exact fun _ => hfail e
    | ok s =>
      show (complete commit old new x).Always P
      unfold complete
      split
      · rename_i y hcommit
        exact haccept new y hcommit
      · rename_i e y hcommit
        obtain rfl := hrefuse new e y hcommit
        exact always_restore hfail old new e

/-- A rotation whose last step changes nothing when it refuses either fails and changes nothing, or ends
with that step. -/
theorem always_rotateThen (hfail : ∀ e, P (.error e, x))
    (hrefuse : ∀ s e y, commit s x = (.error e, y) → y = x)
    (haccept : ∀ s y, commit s x = (.ok (), y) → P (.ok s, y)) (r : Rotator) (id : String) :
    (r.rotateThen commit id x).Always P := by
  intro found
  cases found with
  | error e => exact hfail e
  | ok found =>
    cases found with
    | none => exact hfail noSession
    | some old => exact fun _ _ _ _ => always_move hfail hrefuse haccept id old _

end Rotator

end HttpMediation
