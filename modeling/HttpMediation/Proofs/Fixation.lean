import HttpMediation.Proofs.FailingStore
import HttpMediation.Proofs.Token
import Mathlib.Data.List.Induction
import Mathlib.Data.List.Nodup

/-!
# Fixation — identifiers and tokens over whole runs

A run establishes, rotates and ends sessions in any order, from a store in memory that is empty.  What it
has reported is kept as a history, the latest event first, and what is live is read off the history.

* `SessionOperation`, `SessionRun.step` : the operations and what each does to a run.
* `IsCurrent`, `givenAttributes?` : what the history says about an identifier.
* `SessionRun.Step` : all that a step can do; `SessionRun.Sound` : what every step keeps.
* `SessionRun.fixation_is_impossible` : when no draw repeats, the live sessions are those of the history.
-/

namespace HttpMediation

/-! ## Operations and what they report -/

/-- What can be done with sessions in the course of requests. -/
inductive SessionOperation
  | establish (attributes : Attributes)
  | rotate (id : String)
  | change (emitter : Emitter) (x : Exchange)
  | invalidate (id : String)

/-- What an operation has reported, with the session that it has returned. -/
inductive SessionEvent
  | established (given : Attributes) (s : Session)
  | rotated (id : String) (s : Session)
  | invalidated (id : String)
  deriving DecidableEq

namespace SessionEvent

/-- The session that was returned. -/
def issued? : SessionEvent → Option Session
  | established _ s | rotated _ s => some s
  | invalidated _ => none

/-- The identifier was rotated away or invalidated. -/
def Ends (id : String) : SessionEvent → Prop
  | established _ _ => False
  | rotated old _ | invalidated old => old = id

end SessionEvent

/-- A session was returned under the identifier, which has not been rotated away or invalidated since. -/
def IsCurrent (history : List SessionEvent) (id : String) : Prop :=
  ∃ later e earlier s, history = later ++ e :: earlier ∧ e.issued? = some s ∧ s.id = id ∧
    ∀ l ∈ later, ¬l.Ends id

/-- The attributes that were given when the line of the identifier was established. -/
def givenAttributes? : (history : List SessionEvent) → String → Option Attributes
  | [], _ => none
  | .established given s :: past, id => if s.id = id then some given else givenAttributes? past id
  | .rotated old s :: past, id =>
    if s.id = id then givenAttributes? past old else givenAttributes? past id
  | .invalidated _ :: past, id => givenAttributes? past id

/-! ## Runs -/

namespace Plan

variable {α β τ : Type}

/-- The plan with another result. -/
def map (f : α → β) : Plan α → Plan β
  | done a => done (f a)
  | call c next => call c fun x => map f (next x)
  | draw n next => draw n fun bytes => map f (next bytes)

/-- The bytes that a run draws, draw by draw. -/
def draws (answer : StoreCall → τ → StoreAnswer × τ) : Plan α → τ → RandomSource → List (List UInt8)
  | done _, _, _ => []
  | call c next, s, r => draws answer (next (answer c s).1) (answer c s).2 r
  | draw n next, s, r => (r.draw n).1 :: draws answer (next (r.draw n).1) s (r.draw n).2

end Plan

/-- The operation on sessions in memory, with what it reports. -/
def SessionOperation.plan (r : Rotator) : SessionOperation → Plan (Option SessionEvent)
  | establish attributes =>
    (r.establish attributes).map fun out => out.toOption.map (.established attributes)
  | rotate id => (r.rotate id).map fun out => out.1.toOption.map (.rotated id)
  | change emitter x =>
    (r.change emitter x).map fun out =>
      (x.cookie? r.cookieName).bind fun id => out.1.toOption.map (.rotated id.inner)
  | invalidate id => .call (.invalidate id) fun _ => .done (some (.invalidated id))

/-- A run: the live sessions, what has been reported, and the identifiers and tokens that have been
drawn; the latest first. -/
structure SessionRun where
  live : Sessions := .empty
  random : RandomSource
  history : List SessionEvent := []
  draws : List (List UInt8 × List UInt8) := []

namespace SessionRun

/-- Draws are an identifier and a token by turns. -/
def inPairs : List (List UInt8) → List (List UInt8 × List UInt8)
  | id :: token :: rest => inPairs rest ++ [(id, token)]
  | _ => []

/-- Carries an operation out. -/
def step (r : Rotator) (w : SessionRun) (op : SessionOperation) : SessionRun :=
  let (event, live, random) := (op.plan r).run Sessions.answer w.live w.random
  { live := live
    random := random
    history := event.toList ++ w.history
    draws := inPairs ((op.plan r).draws Sessions.answer w.live w.random) ++ w.draws }

/-- Carries operations out one after another, from no session at all. -/
def after (r : Rotator) (random : RandomSource) (ops : List SessionOperation) : SessionRun :=
  ops.foldl (step r) { random := random }

end SessionRun

/-! ## Single operations -/

namespace Plan

variable {α β τ : Type} (answer : StoreCall → τ → StoreAnswer × τ) (f : α → β)

theorem run_map (p : Plan α) (s : τ) (r : RandomSource) :
    (p.map f).run answer s r = (f (p.run answer s r).1, (p.run answer s r).2) := by
  induction p generalizing s r with
  | done a => rfl
  | call c next ih => exact ih (answer c s).1 (answer c s).2 r
  | draw n next ih => exact ih (r.draw n).1 s (r.draw n).2

theorem draws_map (p : Plan α) (s : τ) (r : RandomSource) :
    (p.map f).draws answer s r = p.draws answer s r := by
  induction p generalizing s r with
  | done a => rfl
  | call c next ih => exact ih (answer c s).1 (answer c s).2 r
  | draw n next ih => exact congrArg ((r.draw n).1 :: ·) (ih (r.draw n).1 s (r.draw n).2)

end Plan

namespace Rotator

variable {σ : Type} {commit : Session → σ → Except Error Unit × σ} {id : String} {x y : σ}
  {live : Sessions} {old : Session}

/-- The bytes of the identifier and the token that the next session gets. -/
def freshBytes (r : Rotator) (random : RandomSource) : List UInt8 × List UInt8 :=
  ((random.draw Session.idSize).1, ((random.draw Session.idSize).2.draw r.tokens.tokenBytes).1)

/-- The source after an identifier and a token have been drawn. -/
def spent (r : Rotator) (random : RandomSource) : RandomSource :=
  ((random.draw Session.idSize).2.draw r.tokens.tokenBytes).2

theorem run_rotateThen_unknown (r : Rotator) (random : RandomSource) (hold : live.get? id = none) :
    (r.rotateThen commit id x).run Sessions.answer live random = ((.error noSession, x), live, random) := by
  simp only [rotateThen, Plan.run, Sessions.answer, hold]

theorem run_rotateThen_committed (r : Rotator) (random : RandomSource) (hold : live.get? id = some old)
    (hcommit : commit (renewed old (r.drawn random)) x = (.ok (), y)) :
    (r.rotateThen commit id x).run Sessions.answer live random =
      ((.ok (renewed old (r.drawn random)), y), moved id (r.drawn random) live old, r.spent random) := by
  have hcomplete : complete commit old (renewed old (r.drawn random)) x =
      .done (.ok (renewed old (r.drawn random)), y) := by
    rw [complete, hcommit]
  simp only [rotateThen, Plan.run, Sessions.answer, hold]
  exact congrArg (fun p : Plan _ => p.run Sessions.answer (moved id (r.drawn random) live old)
    (r.spent random)) hcomplete

theorem run_rotateThen_refused (r : Rotator) (random : RandomSource) (hold : live.get? id = some old)
    {e : Error} (hcommit : commit (renewed old (r.drawn random)) x = (.error e, y)) :
    (r.rotateThen commit id x).run Sessions.answer live random =
      ((.error e, y),
        ((moved id (r.drawn random) live old).erase (r.drawn random).1).insert old.id old,
        r.spent random) := by
  have hcomplete : complete commit old (renewed old (r.drawn random)) x =
      restore old (renewed old (r.drawn random)) e y := by
    rw [complete, hcommit]
  simp only [rotateThen, Plan.run, Sessions.answer, hold]
  exact congrArg (fun p : Plan _ => p.run Sessions.answer (moved id (r.drawn random) live old)
    (r.spent random)) hcomplete

theorem draws_rotateThen_unknown (r : Rotator) (random : RandomSource) (hold : live.get? id = none) :
    (r.rotateThen commit id x).draws Sessions.answer live random = [] := by
  simp only [rotateThen, Plan.draws, Sessions.answer, hold]

theorem draws_rotateThen_of_live (r : Rotator) (random : RandomSource) (hold : live.get? id = some old) :
    (r.rotateThen commit id x).draws Sessions.answer live random =
      [(r.freshBytes random).1, (r.freshBytes random).2] := by
  have hcomplete : (complete commit old (renewed old (r.drawn random)) x).draws Sessions.answer
      (moved id (r.drawn random) live old) (r.spent random) = [] := by
    unfold complete
    split <;> rfl
  simp only [rotateThen, Plan.draws, Sessions.answer, hold]
  exact congrArg ([(r.freshBytes random).1, (r.freshBytes random).2] ++ ·) hcomplete

end Rotator

/-! ## Steps of a run -/

namespace SessionRun

variable {r : Rotator} {w : SessionRun}

/-- The run after an identifier and a token have been drawn. -/
def drew (r : Rotator) (w : SessionRun) (live : Sessions) (history : List SessionEvent) : SessionRun :=
  ⟨live, r.spent w.random, history, r.freshBytes w.random :: w.draws⟩

/-- What a step can do to a run. -/
inductive Step (r : Rotator) (w : SessionRun) : SessionRun → Prop
  | idle : Step r w w
  | invalidated (id : String) :
    Step r w { w with live := w.live.erase id, history := .invalidated id :: w.history }
  | established (given : Attributes) :
    Step r w (w.drew r
      (w.live.insert (r.drawn w.random).1 ⟨(r.drawn w.random).1, given, (r.drawn w.random).2⟩)
      (.established given ⟨(r.drawn w.random).1, given, (r.drawn w.random).2⟩ :: w.history))
  | rotated {id : String} {old : Session} (hold : w.live.get? id = some old) :
    Step r w (w.drew r (Rotator.moved id (r.drawn w.random) w.live old)
      (.rotated id (Rotator.renewed old (r.drawn w.random)) :: w.history))
  /-- A session was moved and put back. -/
  | undone {id : String} {old : Session} (hold : w.live.get? id = some old) :
    Step r w (w.drew r
      (((Rotator.moved id (r.drawn w.random) w.live old).erase (r.drawn w.random).1).insert old.id old)
      w.history)

/-- A rotation is a step, whatever its last step is and however its result is reported. -/
theorem step_of_rotateThen {σ : Type} {commit : Session → σ → Except Error Unit × σ} {id : String} {x : σ}
    {report : Except Error Session × σ → Option SessionEvent} {op : SessionOperation}
    (hplan : op.plan r = (r.rotateThen commit id x).map report)
    (hok : ∀ s y, report (.ok s, y) = some (.rotated id s)) (herror : ∀ e y, report (.error e, y) = none) :
    Step r w (w.step r op) := by
  unfold step
  rw [hplan, Plan.run_map, Plan.draws_map]
  cases hold : w.live.get? id with
  | none =>
    rw [r.run_rotateThen_unknown w.random hold, r.draws_rotateThen_unknown w.random hold]
    simp only [herror]
    exact .idle
  | some old =>
    rw [r.draws_rotateThen_of_live w.random hold]
    rcases hcommit : commit (Rotator.renewed old (r.drawn w.random)) x with ⟨e | _, y⟩
    · rw [r.run_rotateThen_refused w.random hold hcommit]
      simp only [herror]
      exact .undone hold
    · rw [r.run_rotateThen_committed w.random hold hcommit]
      simp only [hok]
      exact .rotated hold

theorem step_cases (op : SessionOperation) : Step r w (w.step r op) := by
  cases op with
  | establish given => exact .established given
  | invalidate id => exact .invalidated id
  | rotate id =>
    have hplan : (SessionOperation.rotate id).plan r =
        (r.rotateThen (fun _ x => (.ok (), x)) id ()).map fun out => out.1.toOption.map (.rotated id) :=
      rfl
    exact step_of_rotateThen hplan (fun _ _ => rfl) (fun _ _ => rfl)
  | change emitter x =>
    cases hcookie : x.cookie? r.cookieName with
    | none =>
      have hplan : (SessionOperation.change emitter x).plan r = .done none := by
        simp only [SessionOperation.plan, Rotator.change, hcookie]
        rfl
      unfold step
      rw [hplan]
      exact .idle
    | some id =>
      have hplan : (SessionOperation.change emitter x).plan r =
          (r.rotateThen (fun s x => emitter.emit (.cookie (r.sessionCookie s)) x) id.inner x).map
            fun out => out.1.toOption.map (.rotated id.inner) := by
        simp only [SessionOperation.plan, Rotator.change, hcookie]
        rfl
      exact step_of_rotateThen hplan (fun _ _ => rfl) (fun _ _ => rfl)

/-! ## What every step keeps -/

/-- The sessions that have been returned. -/
def issued (history : List SessionEvent) : List Session :=
  history.filterMap (·.issued?)

/-- What is live is what the history says. -/
structure Sound (w : SessionRun) : Prop where
  own : ∀ id s, w.live.get? id = some s → s.id = id
  returned : ∀ id s, w.live.get? id = some s → s ∈ issued w.history
  drawn : ∀ s ∈ issued w.history, ∃ d ∈ w.draws,
    s.id = Session.idOfBytes d.1 ∧ s.token = TokenManager.ofBytes d.2
  current : ∀ id, (w.live.get? id).isSome ↔ IsCurrent w.history id
  given : ∀ id s, w.live.get? id = some s → givenAttributes? w.history id = some s.attributes
  /-- An identifier that was rotated away had been returned, and is dead. -/
  gone : ∀ id s, .rotated id s ∈ w.history → w.live.get? id = none ∧ ∃ t ∈ issued w.history, t.id = id

theorem isCurrent_cons {e : SessionEvent} {past : List SessionEvent} {id : String} :
    IsCurrent (e :: past) id ↔ (∃ s, e.issued? = some s ∧ s.id = id) ∨ ¬e.Ends id ∧ IsCurrent past id := by
  constructor
  · rintro ⟨later, f, earlier, s, hsplit, hissued, hid, hlater⟩
    cases later with
    | nil =>
      obtain ⟨rfl, rfl⟩ := List.cons_eq_cons.mp hsplit
      exact .inl ⟨s, hissued, hid⟩
    | cons l later =>
      obtain ⟨rfl, rfl⟩ := List.cons_eq_cons.mp hsplit
      refine .inr ⟨hlater e List.mem_cons_self, later, f, earlier, s, rfl, hissued, hid, ?_⟩
      intro l hl
      exact hlater l (List.mem_cons_of_mem _ hl)
  · rintro (⟨s, hissued, hid⟩ | ⟨hend, later, f, earlier, s, rfl, hissued, hid, hlater⟩)
    · exact ⟨[], e, past, s, rfl, hissued, hid, fun _ hl => absurd hl List.not_mem_nil⟩
    · refine ⟨e :: later, f, earlier, s, rfl, hissued, hid, ?_⟩
      intro l hl
      rcases List.mem_cons.mp hl with rfl | hl
      · exact hend
      · exact hlater l hl

section Steps

variable (h : w.Sound)
include h

/-- An identifier that has not been drawn before was never returned. -/
theorem Sound.id_ne_fresh (hids : (r.freshBytes w.random).1 ∉ w.draws.map (·.1)) {s : Session}
    (hs : s ∈ issued w.history) : s.id ≠ (r.drawn w.random).1 := by
  intro hid
  obtain ⟨d, hd, hdid, -⟩ := h.drawn s hs
  have hbytes : d.1 = (r.freshBytes w.random).1 := Session.idOfBytes_injective (hdid.symm.trans hid)
  exact hids (hbytes ▸ List.mem_map_of_mem hd)

theorem Sound.fresh_dead (hids : (r.freshBytes w.random).1 ∉ w.draws.map (·.1)) :
    w.live.get? (r.drawn w.random).1 = none := by
  cases hlive : w.live.get? (r.drawn w.random).1 with
  | none => rfl
  | some s => exact absurd (h.own _ s hlive) (h.id_ne_fresh hids (h.returned _ s hlive))

/-- A step that returns the session `s` under a new identifier.  `base` is what is live without it, after
the event has ended some others. -/
structure Issues (r : Rotator) (w : SessionRun) (e : SessionEvent) (s : Session) (base : Sessions) :
    Prop where
  unused : (r.freshBytes w.random).1 ∉ w.draws.map (·.1)
  issued : e.issued? = some s
  id : s.id = (r.drawn w.random).1
  token : s.token = (r.drawn w.random).2
  ended : ∀ k, e.Ends k → base.get? k = none ∧ (w.live.get? k).isSome
  kept : ∀ k, ¬e.Ends k → base.get? k = w.live.get? k
  given : ∀ k, givenAttributes? (e :: w.history) k =
    if s.id = k then some s.attributes else givenAttributes? w.history k

variable {e : SessionEvent} {s : Session} {base : Sessions}

omit h in
theorem Issues.issued_cons (hi : Issues r w e s base) :
    SessionRun.issued (e :: w.history) = s :: SessionRun.issued w.history :=
  List.filterMap_cons_some hi.issued

omit h in
theorem Issues.cases_of_live (hi : Issues r w e s base) {k : String} {t : Session}
    (hk : (base.insert (r.drawn w.random).1 s).get? k = some t) :
    k = (r.drawn w.random).1 ∧ t = s ∨ k ≠ (r.drawn w.random).1 ∧ w.live.get? k = some t := by
  by_cases hfresh : k = (r.drawn w.random).1
  · subst hfresh
    rw [Dict.get?_insert_self] at hk
    exact .inl ⟨rfl, (Option.some.inj hk).symm⟩
  · rw [Dict.get?_insert_of_ne hfresh] at hk
    refine .inr ⟨hfresh, ?_⟩
    by_cases hend : e.Ends k
    · rw [(hi.ended k hend).1] at hk
      cases hk
    · rw [← hi.kept k hend]
      exact hk

theorem Issues.isSome_iff_isCurrent (hi : Issues r w e s base) (k : String) :
    ((base.insert (r.drawn w.random).1 s).get? k).isSome ↔ IsCurrent (e :: w.history) k := by
  rw [isCurrent_cons, ← h.current k]
  by_cases hfresh : k = (r.drawn w.random).1
  · subst hfresh
    simp [hi.issued, hi.id]
  · have hne : s.id ≠ k := fun heq => hfresh (heq.symm.trans hi.id)
    rw [Dict.get?_insert_of_ne hfresh]
    by_cases hend : e.Ends k
    · simp [hi.issued, hne, hend, (hi.ended k hend).1]
    · simp [hi.issued, hne, hend, hi.kept k hend]

/-- An identifier that has been returned before is not the one that is drawn now. -/
theorem Issues.absent (hi : Issues r w e s base) {t : Session} (ht : t ∈ SessionRun.issued w.history)
    (hgone : e.Ends t.id ∨ w.live.get? t.id = none) :
    (base.insert (r.drawn w.random).1 s).get? t.id = none := by
  rw [Dict.get?_insert_of_ne (h.id_ne_fresh hi.unused ht)]
  by_cases hend : e.Ends t.id
  · exact (hi.ended t.id hend).1
  · rw [hi.kept t.id hend]
    exact hgone.resolve_left hend

theorem Sound.issue (hi : Issues r w e s base) :
    (w.drew r (base.insert (r.drawn w.random).1 s) (e :: w.history)).Sound where
  own k t hk := by
    rcases hi.cases_of_live hk with ⟨rfl, rfl⟩ | ⟨-, hlive⟩
    · exact hi.id
    · exact h.own k t hlive
  returned k t hk := by
    show t ∈ SessionRun.issued (e :: w.history)
    rw [hi.issued_cons]
    rcases hi.cases_of_live hk with ⟨rfl, rfl⟩ | ⟨-, hlive⟩
    · exact List.mem_cons_self
    · exact List.mem_cons_of_mem _ (h.returned k t hlive)
  drawn t ht := by
    change t ∈ SessionRun.issued (e :: w.history) at ht
    rw [hi.issued_cons] at ht
    rcases List.mem_cons.mp ht with rfl | ht
    · exact ⟨r.freshBytes w.random, List.mem_cons_self, hi.id, hi.token⟩
    · obtain ⟨d, hd, hdrawn⟩ := h.drawn t ht
      exact ⟨d, List.mem_cons_of_mem _ hd, hdrawn⟩
  current := hi.isSome_iff_isCurrent h
  given k t hk := by
    show givenAttributes? (e :: w.history) k = some t.attributes
    rw [hi.given]
    rcases hi.cases_of_live hk with ⟨rfl, rfl⟩ | ⟨hfresh, hlive⟩
    · rw [if_pos hi.id]
    · rw [if_neg fun heq => hfresh (heq.symm.trans hi.id)]
      exact h.given k t hlive
  gone k t hk := by
    show (base.insert (r.drawn w.random).1 s).get? k = none ∧
      ∃ u ∈ SessionRun.issued (e :: w.history), u.id = k
    rw [hi.issued_cons]
    rcases List.mem_cons.mp hk with rfl | hk
    · obtain ⟨u, hlive⟩ := Option.isSome_iff_exists.mp (hi.ended k rfl).2
      have hu := h.returned k u hlive
      obtain rfl := h.own k u hlive
      exact ⟨hi.absent h hu (.inl rfl), u, List.mem_cons_of_mem _ hu, rfl⟩
    · obtain ⟨hnone, u, hu, rfl⟩ := h.gone k t hk
      exact ⟨hi.absent h hu (.inr hnone), u, List.mem_cons_of_mem _ hu, rfl⟩

theorem Sound.invalidate (id : String) :
    Sound { w with live := w.live.erase id, history := .invalidated id :: w.history } := by
  have hlive : ∀ k s, (w.live.erase id).get? k = some s → k ≠ id ∧ w.live.get? k = some s := by
    intro k s hk
    by_cases hne : k = id
    · rw [hne, Dict.get?_erase_self] at hk
      cases hk
    · rw [Dict.get?_erase_of_ne hne] at hk
      exact ⟨hne, hk⟩
  constructor
  · exact fun k s hk => h.own k s (hlive k s hk).2
  · exact fun k s hk => h.returned k s (hlive k s hk).2
  · exact h.drawn
  · intro k
    show ((w.live.erase id).get? k).isSome ↔ IsCurrent (.invalidated id :: w.history) k
    rw [isCurrent_cons, ← h.current k, Dict.get?_erase]
    by_cases hk : k = id
    · simp [hk, SessionEvent.issued?, SessionEvent.Ends]
    · have hne : id ≠ k := fun heq => hk heq.symm
      simp [hk, hne, SessionEvent.issued?, SessionEvent.Ends]
  · exact fun k s hk => h.given k s (hlive k s hk).2
  · intro k s hk
    rcases List.mem_cons.mp hk with heq | hk
    · cases heq
    · obtain ⟨hnone, hissued⟩ := h.gone k s hk
      refine ⟨?_, hissued⟩
      show (w.live.erase id).get? k = none
      rw [Dict.get?_erase, hnone, ite_self]

/-- What has been moved and put back is where it was. -/
theorem Sound.undone_live {id : String} {old : Session} (hold : w.live.get? id = some old)
    (hids : (r.freshBytes w.random).1 ∉ w.draws.map (·.1)) :
    ((Rotator.moved id (r.drawn w.random) w.live old).erase (r.drawn w.random).1).insert old.id old =
      w.live := by
  have hfresh : (w.live.erase id).get? (r.drawn w.random).1 = none := by
    rw [Dict.get?_erase, h.fresh_dead hids, ite_self]
  rw [Rotator.moved, Dict.erase_insert hfresh, h.own id old hold]
  exact Dict.insert_erase hold

theorem Sound.of_step {w' : SessionRun} (hstep : Step r w w')
    (hids : (w'.draws.map (·.1)).Nodup) : w'.Sound := by
  cases hstep with
  | idle => exact h
  | invalidated id => exact h.invalidate id
  | established given =>
    exact h.issue {
      unused := (List.nodup_cons.mp hids).1
      issued := rfl
      id := rfl
      token := rfl
      ended := fun _ hend => hend.elim
      kept := fun _ _ => rfl
      given := fun _ => rfl }
  | @rotated id old hold =>
    exact h.issue {
      unused := (List.nodup_cons.mp hids).1
      issued := rfl
      id := rfl
      token := rfl
      ended := by
        rintro k rfl
        exact ⟨Dict.get?_erase_self id w.live, by rw [hold]; rfl⟩
      kept := fun k hend => Dict.get?_erase_of_ne (fun heq => hend heq.symm) w.live
      given := fun k => by
        rw [givenAttributes?, h.given id old hold]
        rfl }
  | @undone id old hold =>
    have hnew := (List.nodup_cons.mp hids).1
    rw [h.undone_live hold hnew]
    exact { h with
      drawn := fun s hs => by
        obtain ⟨d, hd, hdrawn⟩ := h.drawn s hs
        exact ⟨d, List.mem_cons_of_mem _ hd, hdrawn⟩ }

end Steps

theorem sound_start (random : RandomSource) : Sound { random := random } where
  own _ _ hs := nomatch hs
  returned _ _ hs := nomatch hs
  drawn _ hs := absurd hs List.not_mem_nil
  current id := by
    constructor
    · intro hs
      cases hs
    · rintro ⟨later, e, earlier, s, hsplit, -⟩
      simp at hsplit
  given _ _ hs := nomatch hs
  gone _ _ hs := absurd hs List.not_mem_nil

theorem draws_suffix_of_step {w' : SessionRun} (h : Step r w w') : w.draws <:+ w'.draws := by
  cases h with
  | idle => exact List.suffix_rfl
  | invalidated id => exact List.suffix_rfl
  | established given => exact List.suffix_cons _ _
  | rotated hold => exact List.suffix_cons _ _
  | undone hold => exact List.suffix_cons _ _

theorem sound_after (r : Rotator) (random : RandomSource) (ops : List SessionOperation)
    (hids : ((after r random ops).draws.map (·.1)).Nodup) : (after r random ops).Sound := by
  induction ops using List.reverseRecOn with
  | nil => exact sound_start random
  | append_singleton ops op ih =>
    have hlast : after r random (ops ++ [op]) = (after r random ops).step r op := by
      rw [after, List.foldl_append]
      rfl
    rw [hlast] at hids ⊢
    have hstep : Step r (after r random ops) ((after r random ops).step r op) := step_cases op
    have hbefore := hids.sublist ((draws_suffix_of_step hstep).sublist.map _)
    exact (ih hbefore).of_step hstep hids

/-! ## Fixation -/

/-- The identifier does not resolve, and a rotation of it fails and changes neither the store nor the
response. -/
structure IsDead (r : Rotator) (live : Sessions) (id : String) : Prop where
  absent : live.get? id = none
  rotate : ∀ random, (r.rotate id).run Sessions.answer live random =
    ((.error (.authentication "no active session"), ()), live, random)
  change : ∀ emitter x random, x.cookie? r.cookieName = some ⟨id⟩ →
    (r.change emitter x).run Sessions.answer live random =
      ((.error (.authentication "no active session"), x), live, random)

theorem isDead_of_absent (r : Rotator) {live : Sessions} {id : String} (h : live.get? id = none) :
    IsDead r live id where
  absent := h
  rotate random := r.run_rotateThen_unknown random h
  change emitter x random hcookie := by
    rw [Rotator.change, hcookie]
    exact r.run_rotateThen_unknown random h

/-- Sessions with different identifiers have different tokens when no draw of a token repeats. -/
theorem Sound.token_ne (h : w.Sound) (htokens : (w.draws.map (·.2)).Nodup) {s t : Session}
    (hs : s ∈ issued w.history) (ht : t ∈ issued w.history) (hne : s.id ≠ t.id) : s.token ≠ t.token := by
  intro htoken
  obtain ⟨d, hd, hdid, hdtoken⟩ := h.drawn s hs
  obtain ⟨c, hc, hcid, hctoken⟩ := h.drawn t ht
  have hbytes : d.2 = c.2 :=
    TokenManager.ofBytes_injective (hdtoken.symm.trans (htoken.trans hctoken))
  obtain rfl := List.inj_on_of_nodup_map htokens hd hc hbytes
  exact hne (hdid.trans hcid.symm)

/-- Session fixation is impossible.  After any operations from an empty store, if neither the drawn
identifiers nor the drawn tokens repeat: live are exactly the identifiers that were returned and not
rotated away or invalidated since; one that was never returned, or was ever rotated away, is dead; a live
session has the attributes that were given when its line was established; and a request passes as a
session's own exactly with that session's token, which no other session that was ever returned has. -/
theorem fixation_is_impossible (r : Rotator) (random : RandomSource) (ops : List SessionOperation)
    (hids : ((after r random ops).draws.map (·.1)).Nodup)
    (htokens : ((after r random ops).draws.map (·.2)).Nodup) :
    let w := after r random ops
    (∀ id, (w.live.get? id).isSome ↔ IsCurrent w.history id) ∧
      (∀ id, ((∀ s ∈ issued w.history, s.id ≠ id) ∨ ∃ s, .rotated id s ∈ w.history) →
        IsDead r w.live id) ∧
      (∀ id s, w.live.get? id = some s →
        s.id = id ∧ givenAttributes? w.history id = some s.attributes) ∧
      ∀ id s, w.live.get? id = some s → ∀ x : Exchange,
        (r.tokens.verifyRequest x s = .ok () ↔
          x.parameter? r.tokens.parameterName = some ⟨s.token.text⟩) ∧
        ∀ t ∈ issued w.history, t.id ≠ id → x.parameter? r.tokens.parameterName = some ⟨t.token.text⟩ →
          ∃ message, r.tokens.verifyRequest x s = .error (.intrusion message) := by
  have h := sound_after r random ops hids
  refine ⟨h.current, ?_, fun id s hs => ⟨h.own id s hs, h.given id s hs⟩, ?_⟩
  · rintro id (hnever | ⟨s, hrotated⟩)
    · refine isDead_of_absent r ?_
      cases hlive : (after r random ops).live.get? id with
      | none => rfl
      | some s => exact absurd (h.own id s hlive) (hnever s (h.returned id s hlive))
    · exact isDead_of_absent r (h.gone id s hrotated).1
  · intro id s hs x
    refine ⟨TokenManager.verify_eq_ok_iff, fun t ht hne hpresented => ?_⟩
    have hid : t.id ≠ s.id := fun heq => hne (heq.trans (h.own id s hs))
    have htoken := h.token_ne htokens ht (h.returned id s hs) hid
    refine TokenManager.exists_of_not_presented ?_
    rw [hpresented]
    intro heq
    exact htoken (congrArg Token.mk (Tainted.mk.inj (Option.some.inj heq)))

/-- An emitter for cookies that are too short for a session. -/
def tightEmitter : Emitter := ⟨{}, { maxCookieLen := 40 }, by decide, by decide, by decide⟩

/-- A session is established and rotated, a change of its identifier fails on the cookie, and an identifier
that nobody has is invalidated. -/
def trialOperations : List SessionOperation :=
  [.establish .empty, .rotate (Session.idOfBytes (.replicate 32 0)),
    .change tightEmitter
      { id := "", request := { cookies := [("SESSIONID", Session.idOfBytes (.replicate 32 2))] } },
    .invalidate "planted"]

/-- The first identifier is dead, the second is live, and the third was never issued. -/
theorem planted_id_is_dead :
    let w := after Rotator.shortRotator (.counting 0) trialOperations
    (w.draws.map (·.1)).Nodup ∧ (w.draws.map (·.2)).Nodup ∧ w.draws.length = 3 ∧
      IsCurrent w.history (Session.idOfBytes (.replicate 32 2)) ∧
      IsDead Rotator.shortRotator w.live (Session.idOfBytes (.replicate 32 0)) ∧
      IsDead Rotator.shortRotator w.live (Session.idOfBytes (.replicate 32 4)) := by
  have hids : ((after Rotator.shortRotator (.counting 0) trialOperations).draws.map (·.1)).Nodup := by
    decide +kernel
  have htokens : ((after Rotator.shortRotator (.counting 0) trialOperations).draws.map (·.2)).Nodup := by
    decide +kernel
  obtain ⟨hcurrent, hdead, -⟩ :=
    fixation_is_impossible Rotator.shortRotator (.counting 0) trialOperations hids htokens
  have hrotated : .rotated (Session.idOfBytes (.replicate 32 0)) ⟨Session.idOfBytes (.replicate 32 2), .empty,
      TokenManager.ofBytes (.replicate 4 3)⟩ ∈
        (after Rotator.shortRotator (.counting 0) trialOperations).history := by
    decide +kernel
  have hnever : ∀ s ∈ issued (after Rotator.shortRotator (.counting 0) trialOperations).history,
      s.id ≠ Session.idOfBytes (.replicate 32 4) := by
    decide +kernel
  exact ⟨hids, htokens, by decide +kernel, (hcurrent _).mp (by decide +kernel),
    hdead _ (.inr ⟨_, hrotated⟩), hdead _ (.inl hnever)⟩

end SessionRun
end HttpMediation
