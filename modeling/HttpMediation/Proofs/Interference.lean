import HttpMediation.Proofs.FailingStore

/-!
# Interference — rotations while other requests use the store

A rotation looks a session up with one call and removes it with another, and the lock of its identifier
holds back other rotations only.  What other requests save or end in between is thus not seen.

* `BusyStore` : a store in memory that others use before each call of a run.
* `Rotator.TakesOver` : what is kept under the new identifier is what the rotation has removed.
* `Rotator.takesOver_iff` : that is so exactly if the others left the attributes as they were between the
  two calls.
* `Rotator.rotate_goes_by_what_it_loaded` : what a rotation comes to, whatever the others do.
-/

namespace HttpMediation

/-! ## A store that others use -/

/-- The live sessions after calls of other requests. -/
def Sessions.afterCalls (calls : List StoreCall) (live : Sessions) : Sessions :=
  calls.foldl (fun live c => (Sessions.answer c live).2) live

/-- A store in memory, and what other requests call before each of the coming calls. -/
structure BusyStore where
  live : Sessions
  others : List (List StoreCall) := []

namespace BusyStore

/-- What is live when the next call comes. -/
def found (s : BusyStore) : Sessions :=
  s.live.afterCalls (s.others.headD [])

/-- Lets the others go first and then answers. -/
def answer (c : StoreCall) (s : BusyStore) : StoreAnswer × BusyStore :=
  let (x, live) := Sessions.answer c s.found
  (x, { live := live, others := s.others.tail })

/-- What is live when the second call comes, if the first one only looks a session up. -/
def foundSecond (s : BusyStore) : Sessions :=
  s.found.afterCalls (s.others.tail.headD [])

end BusyStore

namespace Rotator

/-! ## Rotations among other requests -/

variable (r : Rotator) (id : String) (s : BusyStore) (random : RandomSource)

/-- The result of a rotation among other requests. -/
def outcomeAmong : Except Error Session :=
  ((r.rotate id).run BusyStore.answer s random).1.1

/-- The calls of a rotation among other requests, and what is live after each. -/
def eventsAmong : List StoreEvent :=
  (r.rotate id).events BusyStore.answer BusyStore.live s random

/-- Nothing gets lost and nothing comes back: a rotation keeps under the new identifier what it removed
from the old one, and if it removed nothing it keeps nothing and says that there is no session. -/
structure TakesOver (id : String) (events : List StoreEvent) (out : Except Error Session) : Prop where
  kept : ∀ ev ∈ events, ∀ removed, ev.call = .invalidate id → ev.answer = .ok (some removed) →
    ∀ new, out = .ok new → new.attributes = removed.attributes ∧ ∃ ev ∈ events, ev.call = .save new
  ended : ∀ ev ∈ events, ev.call = .invalidate id → ev.answer = .ok none →
    (∃ e, out = .error e ∧ e.kind = .authentication) ∧ ∀ ev ∈ events, ∀ new, ev.call ≠ .save new

variable {r id s random}

theorem rotate_of_none (r : Rotator) (random : RandomSource) (h : s.found.get? id = none) :
    r.outcomeAmong id s random = .error noSession ∧
      r.eventsAmong id s random = [⟨.load id, .ok none, s.found⟩] := by
  have hload : BusyStore.answer (.load id) s = (.ok none, { live := s.found, others := s.others.tail }) := by
    rw [BusyStore.answer, Sessions.answer, h]
  unfold outcomeAmong eventsAmong rotate rotateThen
  rw [Plan.run, Plan.events, hload]
  exact ⟨rfl, rfl⟩

/-- Whatever the others do after the session was found, the rotation carries on with what it found. -/
theorem rotate_of_some (r : Rotator) (random : RandomSource) {old : Session}
    (h : s.found.get? id = some old) :
    r.outcomeAmong id s random = .ok (renewed old (r.drawn random)) ∧
      ∃ after, r.eventsAmong id s random = [⟨.load id, .ok (some old), s.found⟩,
        ⟨.invalidate id, .ok (s.foundSecond.get? id), s.foundSecond.erase id⟩,
        ⟨.save (renewed old (r.drawn random)), .ok none, after⟩] := by
  have hload : BusyStore.answer (.load id) s =
      (.ok (some old), { live := s.found, others := s.others.tail }) := by
    rw [BusyStore.answer, Sessions.answer, h]
  unfold outcomeAmong eventsAmong rotate rotateThen
  rw [Plan.run, Plan.events, hload]
  exact ⟨rfl, _, rfl⟩

theorem takesOver_load {found : Option Session} {live : Sessions} {out : Except Error Session} :
    TakesOver id [⟨.load id, .ok found, live⟩] out := by
  constructor
  · intro ev hev removed hcall
    obtain rfl := List.mem_singleton.mp hev
    cases hcall
  · intro ev hev hcall
    obtain rfl := List.mem_singleton.mp hev
    cases hcall

/-- A rotation that succeeds takes over what it removed if it keeps the same attributes. -/
theorem takesOver_success_iff {old new : Session} {removed : Option Session} {live gone after : Sessions} :
    TakesOver id [⟨.load id, .ok (some old), live⟩, ⟨.invalidate id, .ok removed, gone⟩,
      ⟨.save new, .ok none, after⟩] (.ok new) ↔ removed.map (·.attributes) = some new.attributes := by
  have hsecond : ∀ {a b c : StoreEvent}, b ∈ [a, b, c] := List.mem_cons_of_mem _ List.mem_cons_self
  have hthird : ∀ {a b c : StoreEvent}, c ∈ [a, b, c] :=
    List.mem_cons_of_mem _ (List.mem_cons_of_mem _ List.mem_cons_self)
  constructor
  · intro h
    cases removed with
    | none =>
      obtain ⟨⟨e, he, -⟩, -⟩ := h.ended _ hsecond rfl rfl
      cases he
    | some removed =>
      obtain ⟨hattributes, -⟩ := h.kept _ hsecond removed rfl rfl new rfl
      exact congrArg some hattributes.symm
  · intro h
    obtain ⟨removed, rfl, hattributes⟩ := Option.map_eq_some_iff.mp h
    constructor
    · rintro ev hev taken hcall hanswer _ ⟨⟩
      simp only [List.mem_cons, List.not_mem_nil, or_false] at hev
      rcases hev with rfl | rfl | rfl
      · cases hcall
      · obtain rfl := Option.some.inj (Except.ok.inj hanswer)
        exact ⟨hattributes.symm, _, hthird, rfl⟩
      · cases hcall
    · intro ev hev hcall hanswer
      simp only [List.mem_cons, List.not_mem_nil, or_false] at hev
      rcases hev with rfl | rfl | rfl
      · cases hcall
      · cases hanswer
      · cases hcall

theorem takesOver_iff : TakesOver id (r.eventsAmong id s random) (r.outcomeAmong id s random) ↔
    ∀ old, s.found.get? id = some old →
      (s.foundSecond.get? id).map (·.attributes) = some old.attributes := by
  cases hold : s.found.get? id with
  | none =>
    obtain ⟨-, hevents⟩ := rotate_of_none r random hold
    rw [hevents]
    exact iff_of_true takesOver_load fun _ h => nomatch h
  | some old =>
    obtain ⟨hout, after, hevents⟩ := rotate_of_some r random hold
    rw [hout, hevents, takesOver_success_iff]
    constructor
    · rintro h _ ⟨⟩
      exact h
    · intro h
      exact h old rfl

/-- A rotation goes by what it has loaded, whatever other requests do between its calls.  If nothing was
live under the identifier then, it makes no other call and says so.  If a session was, it succeeds and keeps
the attributes of that session under the new identifier, whether or not the session that it removed had the
same ones or was live at all.  So it takes over what it removed exactly if the others left the attributes
under the identifier as they were between the two calls. -/
theorem rotate_goes_by_what_it_loaded (r : Rotator) (id : String) (s : BusyStore) (random : RandomSource) :
    (s.found.get? id = none → r.outcomeAmong id s random = .error noSession ∧
      (r.eventsAmong id s random).map (·.call) = [.load id]) ∧
    (∀ old, s.found.get? id = some old → ∃ new, r.outcomeAmong id s random = .ok new ∧
      new = ⟨(r.drawn random).1, old.attributes, (r.drawn random).2⟩ ∧
      (r.eventsAmong id s random).map (fun ev => (ev.call, ev.answer)) =
        [(.load id, .ok (some old)), (.invalidate id, .ok (s.foundSecond.get? id)), (.save new, .ok none)]) ∧
    (TakesOver id (r.eventsAmong id s random) (r.outcomeAmong id s random) ↔
      ∀ old, s.found.get? id = some old →
        (s.foundSecond.get? id).map (·.attributes) = some old.attributes) := by
  refine ⟨fun hnone => ?_, fun old hold => ?_, takesOver_iff⟩
  · obtain ⟨hout, hevents⟩ := rotate_of_none r random hnone
    rw [hevents]
    exact ⟨hout, rfl⟩
  · obtain ⟨hout, after, hevents⟩ := rotate_of_some r random hold
    rw [hevents]
    exact ⟨_, hout, rfl, rfl⟩

/-! ## What gets lost and what comes back -/

/-- A session, and the calls of other requests between looking it up and removing it. -/
def disturbed (calls : List StoreCall) : BusyStore :=
  { live := Dict.insert "a" ⟨"a", .empty, ⟨"t"⟩⟩ .empty, others := [[], calls] }

/-- An attribute that is saved in between is lost, and a session that is ended in between comes back. -/
theorem rotate_loses_update_and_revives_session :
    ¬ TakesOver "a"
        (shortRotator.eventsAmong "a"
          (disturbed [.save ⟨"a", .ofList [("role", .text "admin")], ⟨"t"⟩⟩]) (.counting 7))
        (shortRotator.outcomeAmong "a"
          (disturbed [.save ⟨"a", .ofList [("role", .text "admin")], ⟨"t"⟩⟩]) (.counting 7)) ∧
      ¬ TakesOver "a" (shortRotator.eventsAmong "a" (disturbed [.invalidate "a"]) (.counting 7))
        (shortRotator.outcomeAmong "a" (disturbed [.invalidate "a"]) (.counting 7)) ∧
      (((shortRotator.rotate "a").run BusyStore.answer (disturbed [.invalidate "a"])
        (.counting 7)).2.1.live.get? (shortRotator.drawn (.counting 7)).1).isSome = true := by
  have hold : ∀ calls, (disturbed calls).found.get? "a" = some ⟨"a", .empty, ⟨"t"⟩⟩ := fun _ => rfl
  refine ⟨fun h => ?_, fun h => ?_, by decide +kernel⟩
  · exact absurd (takesOver_iff.mp h _ (hold _)) (by decide +kernel)
  · exact absurd (takesOver_iff.mp h _ (hold _)) (by decide +kernel)

end Rotator

end HttpMediation
