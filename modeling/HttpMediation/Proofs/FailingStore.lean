import HttpMediation.Proofs.Dict
import HttpMediation.Session.FaultyStore
import HttpMediation.Session.Rotator

/-!
# FailingStore — rotations when any call of the store may fail

* `FailsCleanly` : a store that answers as one in memory does, except that any call may fail; a failing
  call changes no session.
* `Plan.events` : the calls of a run, their answers and the live sessions after each.
* `Plan.Ensures` : what a run comes to, whichever of its calls fail.
* `Rotator.rotate_survives_failures` : a rotation moves the session or leaves all as it was; the session
  is lost only if it can be kept neither under its new identifier nor under the old one.
-/

namespace HttpMediation

variable {α σ τ : Type}

/-! ## Stores that fail -/

/-- Every call is answered as by a store in memory, or fails and changes no session. -/
structure FailsCleanly (answer : StoreCall → τ → StoreAnswer × τ) (live : τ → Sessions) : Prop where
  answers : ∀ c s,
    (answer c s).1 = (Sessions.answer c (live s)).1 ∧
        live (answer c s).2 = (Sessions.answer c (live s)).2 ∨
      ∃ e, (answer c s).1 = .error e ∧ live (answer c s).2 = live s

theorem FaultyStore.failsCleanly : FailsCleanly FaultyStore.answer FaultyStore.live where
  answers c s := by
    unfold FaultyStore.answer
    split
    · rename_i e _ _
      exact .inr ⟨e, rfl, rfl⟩
    · exact .inl ⟨rfl, rfl⟩

/-! ## Runs -/

/-- A call of a run, its answer, and the live sessions after it. -/
structure StoreEvent where
  call : StoreCall
  answer : StoreAnswer
  after : Sessions

namespace StoreEvent

/-- Why the call failed, if it did. -/
def error? (ev : StoreEvent) : Option Error :=
  match ev.answer with
  | .ok _ => none
  | .error e => some e

/-- The call failed to keep a session under the identifier. -/
def LosesSave (id : String) (ev : StoreEvent) : Prop :=
  ∃ s e, ev.call = .save s ∧ s.id = id ∧ ev.answer = .error e

variable {id k : String} {s : Session} {answer : StoreAnswer} {after : Sessions}

@[simp] theorem not_losesSave_load : ¬LosesSave k ⟨.load id, answer, after⟩ := by
  rintro ⟨_, _, hcall, -⟩
  cases hcall

@[simp] theorem not_losesSave_invalidate : ¬LosesSave k ⟨.invalidate id, answer, after⟩ := by
  rintro ⟨_, _, hcall, -⟩
  cases hcall

@[simp] theorem not_losesSave_ok {c : StoreCall} {found : Option Session} :
    ¬LosesSave k ⟨c, .ok found, after⟩ := by
  rintro ⟨_, _, -, -, hanswer⟩
  cases hanswer

@[simp] theorem losesSave_error {e : Error} : LosesSave k ⟨.save s, .error e, after⟩ ↔ s.id = k := by
  constructor
  · rintro ⟨_, _, hcall, hid, -⟩
    obtain rfl := StoreCall.save.inj hcall
    exact hid
  · rintro hid
    exact ⟨s, e, rfl, hid, rfl⟩

end StoreEvent

namespace Plan

/-- The calls of a run in their order. -/
def events (answer : StoreCall → τ → StoreAnswer × τ) (live : τ → Sessions) :
    Plan α → τ → RandomSource → List StoreEvent
  | done _, _, _ => []
  | call c next, s, r =>
    ⟨c, (answer c s).1, live (answer c s).2⟩ ::
      events answer live (next (answer c s).1) (answer c s).2 r
  | draw n next, s, r => events answer live (next (r.draw n).1) s (r.draw n).2

/-- Whichever calls fail, the run ends with calls, a result and live sessions as `Q` says; `past` are
the calls before. -/
def Ensures (Q : List StoreEvent → α → Sessions → Prop) :
    Plan α → Sessions → RandomSource → (past : List StoreEvent) → Prop
  | done a, live, _, past => Q past a live
  | call c next, live, r, past =>
    Ensures Q (next (Sessions.answer c live).1) (Sessions.answer c live).2 r
        (past ++ [⟨c, (Sessions.answer c live).1, (Sessions.answer c live).2⟩]) ∧
      ∀ e, Ensures Q (next (.error e)) live r (past ++ [⟨c, .error e, live⟩])
  | draw n next, live, r, past => Ensures Q (next (r.draw n).1) live (r.draw n).2 past

theorem Ensures.of_run {answer : StoreCall → τ → StoreAnswer × τ} {live : τ → Sessions}
    (hstore : FailsCleanly answer live) {Q : List StoreEvent → α → Sessions → Prop} {p : Plan α}
    {s : τ} {r : RandomSource} {past : List StoreEvent} (h : p.Ensures Q (live s) r past) :
    Q (past ++ p.events answer live s r) (p.run answer s r).1 (live (p.run answer s r).2.1) := by
  induction p generalizing s r past with
  | done a =>
    rw [events, List.append_nil]
    exact h
  | draw n next ih => exact ih (r.draw n).1 h
  | call c next ih =>
    obtain ⟨hworks, hfails⟩ := h
    -- The event that this call adds stands in front of those of the rest of the run.
    have hrest : ∀ x, (answer c s).1 = x → (next x).Ensures Q (live (answer c s).2) r
        (past ++ [⟨c, x, live (answer c s).2⟩]) →
        Q (past ++ (call c next).events answer live s r) ((call c next).run answer s r).1
          (live ((call c next).run answer s r).2.1) := by
      rintro x rfl hx
      have := ih _ hx
      rwa [List.append_assoc] at this
    rcases hstore.answers c s with ⟨hanswer, hlive⟩ | ⟨e, hanswer, hlive⟩
    · refine hrest _ hanswer ?_
      rw [hlive]
      exact hworks
    · refine hrest _ hanswer ?_
      rw [hlive]
      exact hfails e

end Plan

/-! ## How a rotation can go -/

namespace Rotator

/-- The identifier and the token that the next session gets. -/
def drawn (r : Rotator) (random : RandomSource) : String × Token :=
  (Session.idOfBytes (random.draw Session.idSize).1,
    TokenManager.ofBytes ((random.draw Session.idSize).2.draw r.tokens.tokenBytes).1)

/-- The session as it comes out of a rotation. -/
def renewed (old : Session) (fresh : String × Token) : Session :=
  { old with id := fresh.1, token := fresh.2 }

section Courses

variable (commit : Session → σ → Except Error Unit × σ) (id : String) (fresh : String × Token) (x : σ)
  (live : Sessions)

/-- The calls that find a session and remove it. -/
def taken (old : Session) : List StoreEvent :=
  [⟨.load id, .ok (some old), live⟩, ⟨.invalidate id, .ok (some old), live.erase id⟩]

/-- The live sessions after a session has moved. -/
def moved (old : Session) : Sessions :=
  (live.erase id).insert fresh.1 (renewed old fresh)

/-- How the rotation of `old` can be taken back because of `e`: the calls, the result and the live
sessions at the end. -/
inductive Retreat (old : Session) (e : Error) :
    List StoreEvent → Except Error Session → Sessions → Prop
  | undone :
    Retreat old e
      [⟨.invalidate fresh.1, .ok (some (renewed old fresh)), (moved id fresh live old).erase fresh.1⟩,
        ⟨.save old, .ok none, ((moved id fresh live old).erase fresh.1).insert old.id old⟩]
      (.error e) (((moved id fresh live old).erase fresh.1).insert old.id old)
  | stuck (f : Error) :
    Retreat old e [⟨.invalidate fresh.1, .error f, moved id fresh live old⟩] (.error f)
      (moved id fresh live old)
  | dropped (f : Error) :
    Retreat old e
      [⟨.invalidate fresh.1, .ok (some (renewed old fresh)), (moved id fresh live old).erase fresh.1⟩,
        ⟨.save old, .error f, (moved id fresh live old).erase fresh.1⟩]
      (.error f) ((moved id fresh live old).erase fresh.1)

/-- How a rotation can go: the calls, the result and the live sessions at the end. -/
inductive Course : List StoreEvent → Except Error Session × σ → Sessions → Prop
  | unreadable (e : Error) : Course [⟨.load id, .error e, live⟩] (.error e, x) live
  | unknown (hold : live.get? id = none) :
    Course [⟨.load id, .ok none, live⟩] (.error noSession, x) live
  | fixed {old : Session} (hold : live.get? id = some old) (e : Error) :
    Course [⟨.load id, .ok (some old), live⟩, ⟨.invalidate id, .error e, live⟩] (.error e, x) live
  | restored {old : Session} (hold : live.get? id = some old) (e : Error) :
    Course
      (taken id live old ++ [⟨.save (renewed old fresh), .error e, live.erase id⟩,
        ⟨.save old, .ok none, (live.erase id).insert old.id old⟩])
      (.error e, x) ((live.erase id).insert old.id old)
  | lost {old : Session} (hold : live.get? id = some old) (e f : Error) :
    Course
      (taken id live old ++ [⟨.save (renewed old fresh), .error e, live.erase id⟩,
        ⟨.save old, .error f, live.erase id⟩])
      (.error e, x) (live.erase id)
  | committed {old : Session} (hold : live.get? id = some old) {y : σ}
      (hcommit : commit (renewed old fresh) x = (.ok (), y)) :
    Course (taken id live old ++ [⟨.save (renewed old fresh), .ok none, moved id fresh live old⟩])
      (.ok (renewed old fresh), y) (moved id fresh live old)
  | refused {old : Session} (hold : live.get? id = some old) {e : Error} {y : σ}
      (hcommit : commit (renewed old fresh) x = (.error e, y)) {more : List StoreEvent}
      {out : Except Error Session} {after : Sessions} (hretreat : Retreat id fresh live old e more out after) :
    Course (taken id live old ++ ⟨.save (renewed old fresh), .ok none, moved id fresh live old⟩ :: more)
      (out, y) after

end Courses

variable {commit : Session → σ → Except Error Unit × σ} {id : String} {x : σ} {live : Sessions}

theorem ensures_restore {old : Session} {fresh : String × Token} {e : Error} {y : σ}
    {Q : List StoreEvent → Except Error Session × σ → Sessions → Prop} {past : List StoreEvent}
    (hQ : ∀ more out after, Retreat id fresh live old e more out after → Q (past ++ more) (out, y) after)
    (random : RandomSource) :
    (restore old (renewed old fresh) e y).Ensures Q (moved id fresh live old) random past := by
  have hgone : Sessions.answer (.invalidate (renewed old fresh).id) (moved id fresh live old) =
      (.ok (some (renewed old fresh)), (moved id fresh live old).erase fresh.1) := by
    have hnew : (moved id fresh live old).get? fresh.1 = some (renewed old fresh) :=
      Dict.get?_insert_self ..
    show (Except.ok ((moved id fresh live old).get? fresh.1), _) = _
    rw [hnew]
    rfl
  refine ⟨?_, fun f => hQ _ _ _ (.stuck f)⟩
  rw [hgone]
  have hundone := hQ _ _ _ .undone
  have hdropped := fun f => hQ _ _ _ (.dropped f)
  refine ⟨?_, fun f => ?_⟩
  · rw [List.append_assoc]
    exact hundone
  · rw [List.append_assoc]
    exact hdropped f

theorem ensures_rotateThen (r : Rotator) (random : RandomSource) :
    (r.rotateThen commit id x).Ensures (Course commit id (r.drawn random) x live) live random [] := by
  refine ⟨?_, fun e => .unreadable e⟩
  cases hold : live.get? id with
  | none =>
    have hload : Sessions.answer (.load id) live = (.ok none, live) := by
      rw [Sessions.answer, hold]
    rw [hload]
    exact .unknown hold
  | some old =>
    have hload : Sessions.answer (.load id) live = (.ok (some old), live) := by
      rw [Sessions.answer, hold]
    have hgone : Sessions.answer (.invalidate id) live = (.ok (some old), live.erase id) := by
      rw [Sessions.answer, hold]
    rw [hload]
    refine ⟨?_, fun e => .fixed hold e⟩
    rw [hgone]
    refine ⟨?_, fun e => ⟨.restored hold e, fun f => .lost hold e f⟩⟩
    show (complete commit old (renewed old (r.drawn random)) x).Ensures _
      (moved id (r.drawn random) live old) _ _
    unfold complete
    split
    · rename_i y hcommit
      exact .committed hold hcommit
    · rename_i e y hcommit
      exact ensures_restore (fun more out after hretreat => .refused hold hcommit hretreat) _

/-! ## What a rotation comes to -/

/-- At some point of a rotation: the two identifiers are not both live, and all other sessions are as
they were. -/
structure IsPoint (before : Sessions) (id newId : String) (live : Sessions) : Prop where
  exclusive : live.get? id = none ∨ live.get? newId = none
  others : ∀ k, k ≠ id → k ≠ newId → live.get? k = before.get? k

/-- The sessions could be kept neither under the new identifier nor under the old one. -/
def LosesBoth (id newId : String) (events : List StoreEvent) : Prop :=
  (∃ ev ∈ events, ev.LosesSave newId) ∧ ∃ ev ∈ events, ev.LosesSave id

/-- A rotation with these calls moves the session or leaves all as it was.  `after` is what is live at
the end. -/
structure Settles (before : Sessions) (id : String) (fresh : String × Token)
    (events : List StoreEvent) (out : Except Error Session) (after : Sessions) : Prop where
  points : ∀ live ∈ before :: events.map (·.after), IsPoint before id fresh.1 live
  final : (before :: events.map (·.after)).getLast? = some after
  moved : ∀ new, out = .ok new → ∃ old, before.get? id = some old ∧
    new = ⟨fresh.1, old.attributes, fresh.2⟩ ∧ after = (before.erase id).insert fresh.1 new
  dead : ∀ e, out = .error e → after.get? fresh.1 = none
  kept : ∀ e, out = .error e → ¬LosesBoth id fresh.1 events → after = before
  lost : ∀ e, out = .error e → LosesBoth id fresh.1 events →
    (before.get? id).isSome ∧ after = before.erase id
  reason : ∀ e, out = .error e → events.findSome? (·.error?) = some e ∨
    events.findSome? (·.error?) = none ∧ before.get? id = none ∧ e = .authentication "no active session"

section Settling

variable {fresh : String × Token}

theorem isPoint_erase : IsPoint live id fresh.1 (live.erase id) :=
  ⟨.inl (Dict.get?_erase_self id live), fun _ hk _ => Dict.get?_erase_of_ne hk live⟩

variable (hfresh : live.get? fresh.1 = none)
include hfresh

theorem isPoint_before : IsPoint live id fresh.1 live :=
  ⟨.inr hfresh, fun _ _ _ => rfl⟩

theorem fresh_ne {old : Session} (hold : live.get? id = some old) : fresh.1 ≠ id := by
  intro h
  rw [h, hold] at hfresh
  cases hfresh

theorem isPoint_moved {old : Session} (hold : live.get? id = some old) :
    IsPoint live id fresh.1 (moved id fresh live old) := by
  have hne : id ≠ fresh.1 := (fresh_ne hfresh hold).symm
  constructor
  · left
    rw [moved, Dict.get?_insert_of_ne hne, Dict.get?_erase_self]
  · intro k hk hk'
    rw [moved, Dict.get?_insert_of_ne hk', Dict.get?_erase_of_ne hk]

/-- A failed rotation that has put everything back, after calls that did not lose both sessions. -/
theorem settles_of_unchanged {events : List StoreEvent} {e : Error}
    (hpoints : ∀ ev ∈ events, IsPoint live id fresh.1 ev.after)
    (hfinal : (live :: events.map (·.after)).getLast? = some live)
    (hkept : ¬LosesBoth id fresh.1 events)
    (hreason : events.findSome? (·.error?) = some e ∨
      events.findSome? (·.error?) = none ∧ live.get? id = none ∧ e = noSession) :
    Settles live id fresh events (.error e) live where
  points l hl := by
    rcases List.mem_cons.mp hl with rfl | hl
    · exact isPoint_before hfresh
    · obtain ⟨ev, hev, rfl⟩ := List.mem_map.mp hl
      exact hpoints ev hev
  final := hfinal
  moved _ hok := nomatch hok
  dead _ _ := hfresh
  kept _ _ _ := rfl
  lost _ _ hlost := absurd hlost hkept
  reason f hf := by
    obtain rfl := Except.error.inj hf
    exact hreason

theorem settles_of_course (hown : ∀ k s, live.get? k = some s → s.id = k)
    (haccept : ∀ s x, commit s x = (.ok (), x)) {events : List StoreEvent}
    {out : Except Error Session × σ} {after : Sessions}
    (h : Course commit id fresh x live events out after) :
    Settles live id fresh events out.1 after := by
  have hbefore : IsPoint live id fresh.1 live := isPoint_before hfresh
  have hgone : IsPoint live id fresh.1 (live.erase id) := isPoint_erase
  cases h with
  | unreadable e =>
    exact settles_of_unchanged hfresh (by simpa using hbefore) rfl (by simp [LosesBoth]) (.inl rfl)
  | unknown hold =>
    exact settles_of_unchanged hfresh (by simpa using hbefore) rfl (by simp [LosesBoth])
      (.inr ⟨rfl, hold, rfl⟩)
  | fixed hold e =>
    exact settles_of_unchanged hfresh (by simpa using hbefore) rfl (by simp [LosesBoth]) (.inl rfl)
  | @restored old hold e =>
    have hback : (live.erase id).insert old.id old = live := by
      rw [hown id old hold]
      exact Dict.insert_erase hold
    have hnew : (renewed old fresh).id ≠ id := fresh_ne hfresh hold
    rw [hback]
    refine settles_of_unchanged hfresh ?_ rfl ?_ (.inl rfl)
    · simp [taken, hbefore, hgone]
    · simp [LosesBoth, taken, hnew]
  | @lost old hold e f =>
    have hboth : LosesBoth id fresh.1 (taken id live old ++
        [⟨.save (renewed old fresh), .error e, live.erase id⟩, ⟨.save old, .error f, live.erase id⟩]) := by
      simp [LosesBoth, taken, renewed, hown id old hold]
    exact {
      points := by simp [taken, hbefore, hgone]
      final := rfl
      moved := fun _ hok => nomatch hok
      dead := fun _ _ => (Dict.get?_erase_of_ne (fresh_ne hfresh hold) live).trans hfresh
      kept := fun _ _ hkept => absurd hboth hkept
      lost := fun _ _ _ => ⟨by rw [hold]; rfl, rfl⟩
      reason := fun _ he => .inl (congrArg some (Except.error.inj he)) }
  | @committed old hold y hcommit =>
    exact {
      points := by simp [taken, hbefore, hgone, isPoint_moved hfresh hold]
      final := rfl
      moved := fun new hok => by
        obtain rfl := Except.ok.inj hok
        exact ⟨old, hold, rfl, rfl⟩
      dead := fun _ he => nomatch he
      kept := fun _ he => nomatch he
      lost := fun _ he => nomatch he
      reason := fun _ he => nomatch he }
  | refused hold hcommit hretreat =>
    rw [haccept] at hcommit
    cases hcommit

end Settling

/-- A rotation survives the failure of any calls of the store.  The sessions `live s` stand under their
own identifiers, and the new identifier is not live.  Then the old and the new identifier are never live
together and no other session changes; a success has moved the session; a failure reports the first call
that failed, or that there is no such session, and leaves all as it was, unless the session could be kept
neither under the new identifier nor under the old one. -/
theorem rotate_survives_failures {answer : StoreCall → τ → StoreAnswer × τ} {live : τ → Sessions}
    (hstore : FailsCleanly answer live) {s : τ}
    (hown : ∀ k session, (live s).get? k = some session → session.id = k) (r : Rotator) (id : String)
    {random : RandomSource} (hfresh : (live s).get? (r.drawn random).1 = none) :
    Settles (live s) id (r.drawn random) ((r.rotate id).events answer live s random)
      ((r.rotate id).run answer s random).1.1 (live ((r.rotate id).run answer s random).2.1) := by
  have hensures : (r.rotate id).Ensures
      (Course (fun _ x => (.ok (), x)) id (r.drawn random) () (live s)) (live s) random [] :=
    ensures_rotateThen r random
  exact settles_of_course hfresh hown (fun _ _ => rfl) (hensures.of_run hstore)

/-- A store with one session, which the next two saves fail for want of room. -/
def fullStore : FaultyStore :=
  (({} : FaultyStore).keep ⟨"a", .empty, ⟨"t"⟩⟩).order ⟨"save", 0, 2, .ofIo .storageFull⟩

/-- A rotator that draws tokens of four bytes. -/
def shortRotator : Rotator := { tokens := ⟨"csrf", 4⟩ }

/-- When the store has no room for either session the session is lost, and the error is that of the first
save. -/
theorem rotate_loses_session_of_fullStore :
    (shortRotator.drawn (.counting 7)).1 ≠ "a" ∧
      Settles fullStore.live "a" (shortRotator.drawn (.counting 7))
        ((shortRotator.rotate "a").events FaultyStore.answer FaultyStore.live fullStore (.counting 7))
        ((shortRotator.rotate "a").run FaultyStore.answer fullStore (.counting 7)).1.1
        ((shortRotator.rotate "a").run FaultyStore.answer fullStore (.counting 7)).2.1.live ∧
      ((shortRotator.rotate "a").run FaultyStore.answer fullStore (.counting 7)).1.1 =
        .error (.ofIo .storageFull) ∧
      ((shortRotator.rotate "a").run FaultyStore.answer fullStore (.counting 7)).2.1.live = .empty := by
  have hown : ∀ k session, fullStore.live.get? k = some session → session.id = k := by
    intro k session h
    by_cases hk : k = "a"
    · subst hk
      obtain rfl := Option.some.inj ((Dict.get?_insert_self "a" _ .empty).symm.trans h)
      rfl
    · have hnone : fullStore.live.get? k = none := Dict.get?_insert_of_ne hk _ .empty
      rw [hnone] at h
      cases h
  have hne : (shortRotator.drawn (.counting 7)).1 ≠ "a" := by decide +kernel
  have hfresh : fullStore.live.get? (shortRotator.drawn (.counting 7)).1 = none :=
    Dict.get?_insert_of_ne hne _ .empty
  exact ⟨hne, rotate_survives_failures FaultyStore.failsCleanly hown shortRotator "a" hfresh,
    by rfl, by decide +kernel⟩

end Rotator

end HttpMediation
