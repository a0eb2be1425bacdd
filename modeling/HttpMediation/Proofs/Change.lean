import HttpMediation.Proofs.Emission
import HttpMediation.Proofs.FailingStore
import HttpMediation.Proofs.Fixation

/-!
# Change — what is left when a request cannot change its session's identifier

A change rotates the session and sets the cookie.  When the emitter refuses the cookie two more calls of
the store take the rotation back, and each of them can fail too.

* `StoreEvent.LosesRemoval` : a call that fails to remove a session.
* `Rotator.IsStranded`, `Rotator.IsDropped` : the two ways in which the way back can be cut off.
* `Rotator.FailsWhole` : what a failed change comes to.
* `Rotator.change_fails_whole_unless_cut_off` : it leaves everything as it was unless the way back is cut
  off, whichever calls of the store fail.
-/

namespace HttpMediation

variable {τ : Type}

/-! ## Ways back that are cut off -/

namespace StoreEvent

/-- The call failed to remove the session of the identifier. -/
def LosesRemoval (id : String) (ev : StoreEvent) : Prop :=
  ev.call = .invalidate id ∧ ∃ e, ev.answer = .error e

variable {id k : String} {s : Session} {answer : StoreAnswer} {after : Sessions}

@[simp] theorem not_losesRemoval_load : ¬LosesRemoval k ⟨.load id, answer, after⟩ := by
  rintro ⟨hcall, -⟩
  cases hcall

@[simp] theorem not_losesRemoval_save : ¬LosesRemoval k ⟨.save s, answer, after⟩ := by
  rintro ⟨hcall, -⟩
  cases hcall

@[simp] theorem not_losesRemoval_ok {c : StoreCall} {found : Option Session} :
    ¬LosesRemoval k ⟨c, .ok found, after⟩ := by
  rintro ⟨-, _, hanswer⟩
  cases hanswer

@[simp] theorem losesRemoval_error {e : Error} :
    LosesRemoval k ⟨.invalidate id, .error e, after⟩ ↔ id = k := by
  constructor
  · rintro ⟨hcall, -⟩
    exact StoreCall.invalidate.inj hcall
  · rintro rfl
    exact ⟨rfl, e, rfl⟩

end StoreEvent

namespace Rotator

/-- The new identifier could not be removed again. -/
def IsStranded (newId : String) (events : List StoreEvent) : Prop :=
  ∃ ev ∈ events, ev.LosesRemoval newId

/-- A session could not be kept again under the identifier that it had before. -/
def IsDropped (newId : String) (events : List StoreEvent) : Prop :=
  ∃ ev ∈ events, ∃ id, id ≠ newId ∧ ev.LosesSave id

/-- The session was kept under the new identifier. -/
def IsKept (new : Session) (events : List StoreEvent) : Prop :=
  ∃ ev ∈ events, ev.call = .save new ∧ ev.answer = .ok none

section Intact

variable {newId : String} {events : List StoreEvent} (h : ∀ ev ∈ events, ev.error? = none)
include h

theorem not_isStranded_of_no_error : ¬IsStranded newId events := by
  rintro ⟨ev, hev, -, e, he⟩
  have hnone := h ev hev
  rw [StoreEvent.error?, he] at hnone
  cases hnone

theorem not_isDropped_of_no_error : ¬IsDropped newId events := by
  rintro ⟨ev, hev, _, -, _, e, -, -, he⟩
  have hnone := h ev hev
  rw [StoreEvent.error?, he] at hnone
  cases hnone

end Intact

/-! ## Failed changes -/

/-- The last step of a change: the client is told. -/
def setCookie (r : Rotator) (emitter : Emitter) (s : Session) (x : Exchange) :
    Except Error Unit × Exchange :=
  emitter.emit (.cookie (r.sessionCookie s)) x

section Failing

variable (r : Rotator) (emitter : Emitter) (x : Exchange) (before : Sessions) (fresh : String × Token)
  (events : List StoreEvent) (e : Error) (after : Sessions)

/-- A change with these calls that fails with `e` leaves the sessions as they were unless its way back is
cut off.  `after` is what is live at the end. -/
structure FailsWhole : Prop where
  unchanged : ¬IsStranded fresh.1 events → ¬IsDropped fresh.1 events → after = before
  stranded : IsStranded fresh.1 events → ∃ id old, x.cookie? r.cookieName = some ⟨id⟩ ∧
    before.get? id = some old ∧ IsKept (renewed old fresh) events ∧ after = moved id fresh before old
  /-- If the new session was not kept either, that was a second failure. -/
  dropped : IsDropped fresh.1 events → ∃ id old, x.cookie? r.cookieName = some ⟨id⟩ ∧
    before.get? id = some old ∧
    (IsKept (renewed old fresh) events ∨ ∃ ev ∈ events, ev.LosesSave fresh.1) ∧ after = before.erase id
  /-- If the new session was kept, it was the emitter that refused. -/
  refused : ∀ new, new.id = fresh.1 → IsKept new events →
    ∃ f, r.setCookie emitter new x = (.error f, x) ∧ f.kind = .validation ∧
      (¬IsStranded fresh.1 events → ¬IsDropped fresh.1 events → e = f)
  reason : events.findSome? (·.error?) = some e ∨ events.findSome? (·.error?) = none ∧
    (e = .authentication "no active session" ∨ ∃ new, new.id = fresh.1 ∧ IsKept new events)

end Failing

variable {r : Rotator} {emitter : Emitter} {x : Exchange} {live : Sessions} {fresh : String × Token}

theorem change_eq_rotateThen {id : String} (hcookie : x.cookie? r.cookieName = some ⟨id⟩) :
    r.change emitter x = r.rotateThen (r.setCookie emitter) id x := by
  rw [change, hcookie]
  rfl

theorem setCookie_error {new : Session} {y : Exchange} {e : Error}
    (hcommit : r.setCookie emitter new x = (.error e, y)) : y = x ∧ e.kind = .validation := by
  have hsame := (emitter.transacts_emit (.cookie (r.sessionCookie new)) x).unchanged e
  have hkind := emitter.failsAs_emit (.cookie (r.sessionCookie new)) x e
  rw [setCookie] at hcommit
  rw [hcommit] at hsame hkind
  exact ⟨hsame rfl, hkind rfl⟩

/-- The cookie depends on the identifier only. -/
theorem setCookie_congr {s t : Session} (h : s.id = t.id) :
    r.setCookie emitter s x = r.setCookie emitter t x := by
  rw [setCookie, setCookie, sessionCookie, sessionCookie, h]

/-- A failed change whose last step was not reached. -/
theorem failsWhole_of_not_kept {events : List StoreEvent} {e : Error} {after : Sessions}
    (hunchanged : ¬IsDropped fresh.1 events → after = live) (hstranded : ¬IsStranded fresh.1 events)
    (hdropped : IsDropped fresh.1 events → ∃ id old, x.cookie? r.cookieName = some ⟨id⟩ ∧
      live.get? id = some old ∧ (∃ ev ∈ events, ev.LosesSave fresh.1) ∧ after = live.erase id)
    (hkept : ∀ new, new.id = fresh.1 → ¬IsKept new events)
    (hreason : events.findSome? (·.error?) = some e ∨
      events.findSome? (·.error?) = none ∧ e = noSession) :
    FailsWhole r emitter x live fresh events e after where
  unchanged _ := hunchanged
  stranded h := absurd h hstranded
  dropped h := by
    obtain ⟨id, old, hcookie, hold, hsecond, hafter⟩ := hdropped h
    exact ⟨id, old, hcookie, hold, .inr hsecond, hafter⟩
  refused new hnew h := absurd h (hkept new hnew)
  reason := hreason.imp_right fun h => ⟨h.1, .inl h.2⟩

/-- A failed change that came to no save. -/
theorem failsWhole_of_unsaved {events : List StoreEvent} {e : Error}
    (hunsaved : ∀ ev ∈ events, ∀ s, ev.call ≠ .save s) (hstranded : ¬IsStranded fresh.1 events)
    (hreason : events.findSome? (·.error?) = some e ∨
      events.findSome? (·.error?) = none ∧ e = noSession) :
    FailsWhole r emitter x live fresh events e live := by
  refine failsWhole_of_not_kept (fun _ => rfl) hstranded ?_ ?_ hreason
  · rintro ⟨ev, hev, _, -, s, _, hcall, -⟩
    exact absurd hcall (hunsaved ev hev s)
  · rintro new - ⟨ev, hev, hcall, -⟩
    exact hunsaved ev hev new hcall

section Courses

variable {id : String} (hcookie : x.cookie? r.cookieName = some ⟨id⟩)
  (hown : ∀ k s, live.get? k = some s → s.id = k) (hfresh : live.get? fresh.1 = none)
include hcookie hown hfresh

theorem failsWhole_of_retreat {old : Session} (hold : live.get? id = some old) {e : Error} {y : Exchange}
    (hcommit : r.setCookie emitter (renewed old fresh) x = (.error e, y))
    {more : List StoreEvent} {out : Except Error Session} {after : Sessions}
    (hretreat : Retreat id fresh live old e more out after) {f : Error} (hout : out = .error f) :
    FailsWhole r emitter x live fresh
      (taken id live old ++ ⟨.save (renewed old fresh), .ok none, moved id fresh live old⟩ :: more)
      f after := by
  obtain ⟨rfl, hkind⟩ := setCookie_error hcommit
  have hne : fresh.1 ≠ id := fresh_ne hfresh hold
  have hid : old.id = id := hown id old hold
  have hgone : (moved id fresh live old).erase fresh.1 = live.erase id :=
    Dict.erase_insert ((Dict.get?_erase_of_ne hne live).trans hfresh)
  have hrefused : ∀ new : Session, new.id = fresh.1 → r.setCookie emitter new y = (.error e, y) := by
    intro new hnew
    rw [← hcommit]
    exact setCookie_congr hnew
  have hkept : IsKept (renewed old fresh) (taken id live old ++
      ⟨.save (renewed old fresh), .ok none, moved id fresh live old⟩ :: more) :=
    ⟨_, List.mem_append_right _ List.mem_cons_self, rfl, rfl⟩
  cases hretreat with
  | undone =>
    obtain rfl := Except.error.inj hout
    have hback : ((moved id fresh live old).erase fresh.1).insert old.id old = live := by
      rw [hgone, hid]
      exact Dict.insert_erase hold
    rw [hback] at hkept ⊢
    exact {
      unchanged := fun _ _ => rfl
      stranded := fun h => by simp [IsStranded, taken] at h
      dropped := fun h => by simp [IsDropped, taken] at h
      refused := fun new hnew _ => ⟨e, hrefused new hnew, hkind, fun _ _ => rfl⟩
      reason := .inr ⟨rfl, .inr ⟨_, rfl, hkept⟩⟩ }
  | stuck g =>
    obtain rfl := Except.error.inj hout
    have hstranded : IsStranded fresh.1 (taken id live old ++
        [⟨.save (renewed old fresh), .ok none, moved id fresh live old⟩,
          ⟨.invalidate fresh.1, .error g, moved id fresh live old⟩]) := by
      simp [IsStranded, taken]
    exact {
      unchanged := fun h => absurd hstranded h
      stranded := fun _ => ⟨id, old, hcookie, hold, hkept, rfl⟩
      dropped := fun h => by simp [IsDropped, taken] at h
      refused := fun new hnew _ => ⟨e, hrefused new hnew, hkind, fun h => absurd hstranded h⟩
      reason := .inl rfl }
  | dropped g =>
    obtain rfl := Except.error.inj hout
    have hdropped : IsDropped fresh.1 (taken id live old ++
        [⟨.save (renewed old fresh), .ok none, moved id fresh live old⟩,
          ⟨.invalidate fresh.1, .ok (some (renewed old fresh)), (moved id fresh live old).erase fresh.1⟩,
          ⟨.save old, .error g, (moved id fresh live old).erase fresh.1⟩]) := by
      simp [IsDropped, taken, hid, hne.symm]
    exact {
      unchanged := fun _ h => absurd hdropped h
      stranded := fun h => by simp [IsStranded, taken] at h
      dropped := fun _ => ⟨id, old, hcookie, hold, .inl hkept, hgone⟩
      refused := fun new hnew _ => ⟨e, hrefused new hnew, hkind, fun _ h => absurd hdropped h⟩
      reason := .inl rfl }

theorem failsWhole_of_course {events : List StoreEvent} {out : Except Error Session × Exchange}
    {after : Sessions} {e : Error}
    (h : Course (r.setCookie emitter) id fresh x live events out after)
    (hout : out.1 = .error e) : FailsWhole r emitter x live fresh events e after := by
  cases h with
  | unreadable f =>
    obtain rfl := Except.error.inj hout
    exact failsWhole_of_unsaved (by simp) (by simp [IsStranded]) (.inl rfl)
  | unknown hold =>
    obtain rfl := Except.error.inj hout
    exact failsWhole_of_unsaved (by simp) (by simp [IsStranded]) (.inr ⟨rfl, rfl⟩)
  | fixed hold f =>
    obtain rfl := Except.error.inj hout
    have hne : fresh.1 ≠ id := fresh_ne hfresh hold
    exact failsWhole_of_unsaved (by simp) (by simp [IsStranded, hne.symm]) (.inl rfl)
  | @restored old hold f =>
    obtain rfl := Except.error.inj hout
    have hne : fresh.1 ≠ id := fresh_ne hfresh hold
    have hid : old.id = id := hown id old hold
    have hback : (live.erase id).insert old.id old = live := by
      rw [hid]
      exact Dict.insert_erase hold
    rw [hback]
    refine failsWhole_of_not_kept (fun _ => rfl) (by simp [IsStranded, taken]) (fun h => ?_)
      (fun new hnew h => ?_) (.inl rfl)
    · simp [IsDropped, taken, renewed] at h
    · have hother : old ≠ new := by
        rintro rfl
        exact hne (hnew.symm.trans hid)
      simp [IsKept, taken, hother] at h
  | @lost old hold f g =>
    obtain rfl := Except.error.inj hout
    have hne : fresh.1 ≠ id := fresh_ne hfresh hold
    have hid : old.id = id := hown id old hold
    have hdropped : IsDropped fresh.1 (taken id live old ++
        [⟨.save (renewed old fresh), .error f, live.erase id⟩, ⟨.save old, .error g, live.erase id⟩]) := by
      simp [IsDropped, taken, hid, hne.symm]
    have hsecond : ∃ ev ∈ taken id live old ++
        [⟨.save (renewed old fresh), .error f, live.erase id⟩, ⟨.save old, .error g, live.erase id⟩],
        ev.LosesSave fresh.1 := by
      simp [taken, renewed]
    exact failsWhole_of_not_kept (fun h => absurd hdropped h) (by simp [IsStranded, taken])
      (fun _ => ⟨id, old, hcookie, hold, hsecond, rfl⟩) (fun _ _ h => by simp [IsKept, taken] at h)
      (.inl rfl)
  | committed hold hcommit => cases hout
  | refused hold hcommit hretreat =>
    exact failsWhole_of_retreat hcookie hown hfresh hold hcommit hretreat hout

end Courses

/-- A failed change of the identifier writes nothing to the response.  Whichever calls of the store fail,
it leaves the sessions as they were, and when the emitter refused the cookie the error is the emitter's,
unless the way back is cut off: then the session is live under the new identifier only, or lost.  The error
is that of the first call that failed, if one did. -/
theorem change_fails_whole_unless_cut_off {answer : StoreCall → τ → StoreAnswer × τ} {live : τ → Sessions}
    (hstore : FailsCleanly answer live) {s : τ}
    (hown : ∀ k session, (live s).get? k = some session → session.id = k) (r : Rotator) (emitter : Emitter)
    (x : Exchange) {random : RandomSource} (hfresh : (live s).get? (r.drawn random).1 = none) {e : Error}
    (hfails : ((r.change emitter x).run answer s random).1.1 = .error e) :
    ((r.change emitter x).run answer s random).1.2 = x ∧
      FailsWhole r emitter x (live s) (r.drawn random) ((r.change emitter x).events answer live s random) e
        (live ((r.change emitter x).run answer s random).2.1) := by
  refine ⟨((emitter.always_transacts_change r x).run answer s random).unchanged e hfails, ?_⟩
  cases hcookie : x.cookie? r.cookieName with
  | none =>
    have hplan : r.change emitter x = .done (.error noSession, x) := by
      rw [change, hcookie]
    rw [hplan] at hfails ⊢
    obtain rfl := Except.error.inj hfails
    exact failsWhole_of_unsaved (fun _ h => absurd h List.not_mem_nil) (by simp [IsStranded, Plan.events])
      (.inr ⟨rfl, rfl⟩)
  | some id =>
    rw [change_eq_rotateThen hcookie] at hfails ⊢
    have hensures : (r.rotateThen (r.setCookie emitter) id.inner x).Ensures
        (Course (r.setCookie emitter) id.inner (r.drawn random) x (live s)) (live s) random [] :=
      ensures_rotateThen r random
    have hcourse := hensures.of_run hstore
    exact failsWhole_of_course hcookie hown hfresh hcourse hfails

/-- A store with one session. -/
def oneSession : FaultyStore :=
  ({} : FaultyStore).keep ⟨"a", .empty, ⟨"t"⟩⟩

/-- A request with the session's cookie. -/
def requestOfSession : Exchange :=
  { id := "", request := { cookies := [("SESSIONID", "a")] } }

/-- The emitter refuses the cookie, and the change is taken back. -/
theorem change_is_taken_back_of_oneSession :
    let p := shortRotator.change SessionRun.tightEmitter requestOfSession
    (p.run FaultyStore.answer oneSession (.counting 7)).1.1 =
        .error (.validation "cookie value exceeds maximum length of 40") ∧
      (p.run FaultyStore.answer oneSession (.counting 7)).1.2 = requestOfSession ∧
      (p.run FaultyStore.answer oneSession (.counting 7)).2.1.live = oneSession.live := by
  intro p
  have hown : ∀ k session, oneSession.live.get? k = some session → session.id = k := by
    intro k session h
    by_cases hk : k = "a"
    · subst hk
      obtain rfl := Option.some.inj ((Dict.get?_insert_self "a" _ .empty).symm.trans h)
      rfl
    · have hnone : oneSession.live.get? k = none := Dict.get?_insert_of_ne hk _ .empty
      rw [hnone] at h
      cases h
  have hfresh : oneSession.live.get? (shortRotator.drawn (.counting 7)).1 = none := by decide +kernel
  have hfails : (p.run FaultyStore.answer oneSession (.counting 7)).1.1 =
      .error (.validation "cookie value exceeds maximum length of 40") := by decide +kernel
  obtain ⟨hsame, hwhole⟩ := change_fails_whole_unless_cut_off FaultyStore.failsCleanly hown shortRotator
    SessionRun.tightEmitter requestOfSession hfresh hfails
  have hworks : ∀ ev ∈ p.events FaultyStore.answer FaultyStore.live oneSession (.counting 7),
      ev.error? = none := by decide +kernel
  exact ⟨hfails, hsame,
    hwhole.unchanged (not_isStranded_of_no_error hworks) (not_isDropped_of_no_error hworks)⟩

/-- The store fails to remove the new identifier again: the old one stays dead, the new one, which no client
knows, stays live, and the error is the store's and not the emitter's. -/
theorem change_strands_session :
    let store := oneSession.order ⟨"invalidate", 1, 1, ⟨.io, "disk full"⟩⟩
    let p := shortRotator.change SessionRun.tightEmitter requestOfSession
    let newId := (shortRotator.drawn (.counting 7)).1
    store.live.get? newId = none ∧
      (p.events FaultyStore.answer FaultyStore.live store (.counting 7)).countP (·.error?.isSome) = 1 ∧
      (SessionRun.tightEmitter.emit (.cookie (shortRotator.sessionCookie ⟨newId, .empty, ⟨"t"⟩⟩))
        requestOfSession).1 = .error (.validation "cookie value exceeds maximum length of 40") ∧
      (p.run FaultyStore.answer store (.counting 7)).1.1 = .error ⟨.io, "disk full"⟩ ∧
      (p.run FaultyStore.answer store (.counting 7)).2.1.live.get? "a" = none ∧
      ((p.run FaultyStore.answer store (.counting 7)).2.1.live.get? newId).isSome := by
  decide +kernel

end Rotator

end HttpMediation
