import HttpMediation.Proofs.Progress

/-!
# Race — rotations at the same time lose no session

* `Race.Descends` : the sessions that rotations have made of a session, one after another.
* `Race.At` : how far the rotations of a race have come.
* `Race.rotations_keep_every_session` : every session stays live under one identifier at most, and under
  exactly one when all rotations have returned.
-/

namespace HttpMediation

/-! ## How far a race has come -/

namespace Race

variable {r : Rotator} {w w' : Race} {i : Nat} {k l m : String} {before : Sessions} {ps : Progresses}

/-- A rotation of the first identifier has returned a session under the second. -/
def Moved (w : Race) (k l : String) : Prop :=
  ∃ c ∈ w.rotations, ∃ s, c.id = k ∧ c.result? = some (.ok s) ∧ s.id = l

/-- The session of the first identifier has come to the second by rotations. -/
def Descends (w : Race) : String → String → Prop :=
  Relation.ReflTransGen w.Moved

/-- The identifiers that have been drawn. -/
def drawnIds (w : Race) : List String :=
  w.rotations.filterMap (·.drawn?)

/-- No drawn identifier repeats, and none was live before. -/
structure DrawsFresh (before : Sessions) (w : Race) : Prop where
  distinct : w.drawnIds.Nodup
  unused : ∀ id ∈ w.drawnIds, before.get? id = none

theorem DrawsFresh.ne_of_lt (h : w.DrawsFresh before) {i j : Nat} {c d : Rotation} (hlt : i < j)
    (hc : w.rotations[i]? = some c) (hd : w.rotations[j]? = some d) (hck : c.drawn? = some k) :
    d.drawn? ≠ some k := by
  intro hdk
  have hpairwise := List.pairwise_filterMap.mp (List.nodup_iff_pairwise_ne.mp h.distinct)
  obtain ⟨hi, rfl⟩ := List.getElem?_eq_some_iff.mp hc
  obtain ⟨hj, rfl⟩ := List.getElem?_eq_some_iff.mp hd
  exact List.pairwise_iff_getElem.mp hpairwise i j hi hj hlt k hck k hdk rfl

/-- The rotations have come as far as `ps` says. -/
def At (r : Rotator) (w : Race) (ps : Progresses) : Prop :=
  w.rotations = ps.map fun e => e.2.rotation r e.1

theorem At.getElem? (h : At r w ps) {id : String} {p : Progress} (hp : ps[i]? = some (id, p)) :
    w.rotations[i]? = some (p.rotation r id) := by
  rw [h, List.getElem?_map, hp]
  rfl

theorem At.exists_of_getElem? (h : At r w ps) {c : Rotation} (hc : w.rotations[i]? = some c) :
    ∃ p, ps[i]? = some (c.id, p) ∧ c = p.rotation r c.id := by
  rw [h, List.getElem?_map] at hc
  obtain ⟨⟨id, p⟩, hp, rfl⟩ := Option.map_eq_some_iff.mp hc
  exact ⟨p, hp, rfl⟩

theorem At.fresh (h : At r w ps) (hfresh : w.DrawsFresh before) : Progresses.Fresh before ps := by
  constructor
  · intro i j k l m p q hp hq hpm hqm
    rcases Nat.lt_trichotomy i j with hlt | heq | hlt
    · exact absurd hqm (hfresh.ne_of_lt hlt (h.getElem? hp) (h.getElem? hq) hpm)
    · exact heq
    · exact absurd hpm (hfresh.ne_of_lt hlt (h.getElem? hq) (h.getElem? hp) hqm)
  · intro i k m p hp hpm
    exact hfresh.unused m (List.mem_filterMap.mpr ⟨_, List.mem_of_getElem? (h.getElem? hp), hpm⟩)

theorem At.exists_next (h : At r w ps) (hstep : w.step? r i = some w') :
    ∃ id p q, ps[i]? = some (id, p) ∧ Progress.Next id w.live p q w'.live ∧
      (p = .waiting → ¬ps.Has id (·.isRunning)) ∧ At r w' (ps.set i (id, q)) := by
  unfold step? at hstep
  split at hstep
  · cases hstep
  · rename_i c hc
    split at hstep
    · cases hstep
    · rename_i hfree
      obtain ⟨⟨d, live, random⟩, hd, rfl⟩ := Option.map_eq_some_iff.mp hstep
      obtain ⟨p, hp, hcp⟩ := h.exists_of_getElem? hc
      rw [hcp] at hd
      obtain ⟨q, rfl, hnext⟩ := Progress.exists_next hd
      refine ⟨c.id, p, q, hp, hnext, ?_, ?_⟩
      · rintro rfl ⟨j, u, hu, hrunning⟩
        refine hfree ?_
        have hbusy : w.isBusy c.id = true := by
          refine List.any_eq_true.mpr ⟨_, List.mem_of_getElem? (h.getElem? hu), ?_⟩
          rw [Progress.isRunning_rotation, show u.isRunning = true from hrunning, Bool.and_true]
          exact beq_self_eq_true _
        rw [hcp] at hbusy ⊢
        rw [hbusy]
        rfl
      · show w.rotations.set i _ = List.map _ (ps.set i (c.id, q))
        rw [List.map_set, ← h]

theorem At.fresh_of_run {schedule : List Nat} (h : At r w ps) (hrun : w.run? r schedule = some w')
    (hfresh : w'.DrawsFresh before) : Progresses.Fresh before ps := by
  induction schedule generalizing w ps with
  | nil =>
    obtain rfl := Option.some.inj hrun
    exact h.fresh hfresh
  | cons i schedule ih =>
    obtain ⟨v, hstep, hrun⟩ := Option.bind_eq_some_iff.mp hrun
    obtain ⟨id, p, q, hp, hnext, -, hv⟩ := h.exists_next hstep
    exact (ih hv hrun).of_set hp fun _ hk => hnext.drawn? hk

/-- What every step keeps holds after any steps. -/
theorem At.sound_of_run {schedule : List Nat} (h : At r w ps) (hsound : ps.Sound before w.live)
    (hrun : w.run? r schedule = some w') (hfresh : w'.DrawsFresh before) :
    ∃ qs, At r w' qs ∧ Progresses.Sound before w'.live qs := by
  induction schedule generalizing w ps with
  | nil =>
    obtain rfl := Option.some.inj hrun
    exact ⟨ps, h, hsound⟩
  | cons i schedule ih =>
    have hps := h.fresh_of_run hrun hfresh
    obtain ⟨v, hstep, hrun⟩ := Option.bind_eq_some_iff.mp hrun
    obtain ⟨id, p, q, hp, hnext, hbegin, hv⟩ := h.exists_next hstep
    exact ih hv (hsound.next hps hp hnext hbegin) hrun

/-! ## Lines of sessions -/

theorem At.moved_iff (h : At r w ps) : w.Moved k l ↔ ps.Moved k l := by
  constructor
  · rintro ⟨c, hc, s, rfl, hresult, rfl⟩
    obtain ⟨i, hi⟩ := List.mem_iff_getElem?.mp hc
    obtain ⟨p, hp, hcp⟩ := h.exists_of_getElem? hi
    rw [hcp, Progress.result?_rotation] at hresult
    exact ⟨i, p, hp, beq_iff_eq.mpr (Progress.target?_of_result? hresult)⟩
  · rintro ⟨i, p, hp, htarget⟩
    obtain ⟨s, hresult, hs⟩ := Progress.exists_of_target? (beq_iff_eq.mp htarget)
    exact ⟨_, List.mem_of_getElem? (h.getElem? hp), s, rfl, Progress.result?_rotation.trans hresult, hs⟩

theorem At.descends_iff (h : At r w ps) : w.Descends k l ↔ ps.Descends k l := by
  have hmoved : w.Moved = ps.Moved := by
    funext k l
    exact propext h.moved_iff
  rw [Descends, hmoved, Progresses.Descends]

/-! ## Races that are over -/

theorem At.exists_result (h : At r w ps) (hover : w.isOver = true) {i : Nat} {k : String} {p : Progress}
    (hp : ps[i]? = some (k, p)) : p = .refused ∨ ∃ old b t, p = .moved old b t := by
  have hresult := List.all_eq_true.mp hover _ (List.mem_of_getElem? (h.getElem? hp))
  rw [Progress.result?_rotation] at hresult
  cases p with
  | refused => exact .inl rfl
  | moved old b t => exact .inr ⟨old, b, t, rfl⟩
  | _ => cases hresult

/-- When all rotations have returned, the session of an identifier that was to be rotated has been moved. -/
theorem At.exists_ok (h : At r w ps) (hsound : ps.Sound before w.live) (hover : w.isOver = true) {k : String}
    (hk : (before.get? k).isSome) {c : Rotation} (hc : c ∈ w.rotations) (hid : c.id = k) :
    ∃ d ∈ w.rotations, d.id = k ∧ ∃ s, d.result? = some (.ok s) := by
  have hmoved : ∀ (i : Nat) (old : Session) (b t : List UInt8), ps[i]? = some (k, .moved old b t) →
      ∃ d ∈ w.rotations, d.id = k ∧ ∃ s, d.result? = some (.ok s) := by
    intro i old b t hp
    exact ⟨_, List.mem_of_getElem? (h.getElem? hp), rfl, _, Progress.result?_rotation⟩
  obtain ⟨i, hi⟩ := List.mem_iff_getElem?.mp hc
  obtain ⟨p, hp, -⟩ := h.exists_of_getElem? hi
  rw [hid] at hp
  rcases h.exists_result hover hp with rfl | ⟨old, b, t, rfl⟩
  · obtain ⟨j, q, hq, htaken⟩ := hsound.missed k ⟨i, _, hp, rfl⟩ hk
    rcases h.exists_result hover hq with rfl | ⟨old, b, t, rfl⟩
    · cases htaken
    · exact hmoved j old b t hq
  · exact hmoved i old b t hp

theorem At.not_inHand (h : At r w ps) (hover : w.isOver = true) {k : String} {s : Session} :
    ¬ps.InHand k s := by
  rintro ⟨i, p, hp, hhand⟩
  rcases h.exists_result hover hp with rfl | ⟨old, b, t, rfl⟩ <;> cases hhand

/-- Rotations at the same time lose, double and merge no session.  Any rotations share a store in memory and
take their steps in any order, those of one identifier one after another; no drawn identifier repeats or was
live before.  Then at every point a session is live under one identifier at most, with its attributes; of
the rotations of an identifier one at most succeeds, and the others find no session.  When all have
returned, one has succeeded for every session that was to be rotated, and all sessions are live. -/
theorem rotations_keep_every_session (r : Rotator) (before : Sessions) (random : RandomSource)
    (ids : List String) {schedule : List Nat} {w : Race}
    (hrun : (start before random ids).run? r schedule = some w) (hfresh : w.DrawsFresh before) :
    (∀ k l m, (before.get? k).isSome → w.Descends k l → w.Descends k m → (w.live.get? l).isSome →
        (w.live.get? m).isSome → l = m) ∧
      (∀ l s, w.live.get? l = some s → ∃ k old, before.get? k = some old ∧ w.Descends k l ∧
        s.attributes = old.attributes ∧ ∀ m, (before.get? m).isSome → w.Descends m l → m = k) ∧
      (∀ (i j : Nat) (c d : Rotation) (s t : Session), w.rotations[i]? = some c →
        w.rotations[j]? = some d → c.id = d.id → c.result? = some (.ok s) → d.result? = some (.ok t) →
        i = j) ∧
      (∀ c ∈ w.rotations, ∀ e, c.result? = some (.error e) → e = .authentication "no active session") ∧
      (w.isOver = true →
        (∀ k, (before.get? k).isSome → (∃ c ∈ w.rotations, c.id = k) →
          ∃ c ∈ w.rotations, c.id = k ∧ ∃ s, c.result? = some (.ok s)) ∧
        w.live.size = before.size ∧
        ∀ k old, before.get? k = some old →
          ∃ l s, w.Descends k l ∧ w.live.get? l = some s ∧ s.attributes = old.attributes) := by
  have hstart : At r (start before random ids) (ids.map fun id => (id, .waiting)) := by
    rw [At, List.map_map]
    rfl
  obtain ⟨ps, hw, hsound⟩ := hstart.sound_of_run (Progresses.sound_start before ids) hrun hfresh
  have hps := hw.fresh hfresh
  refine ⟨?_, ?_, ?_, ?_, fun hover => ⟨?_, ?_, ?_⟩⟩
  · intro k l m _ hl hm
    exact hsound.live_unique (hw.descends_iff.mp hl) (hw.descends_iff.mp hm)
  · intro l s hs
    obtain ⟨k, old, hold, hkl, hattributes⟩ := hsound.origin l s (.inl hs)
    refine ⟨k, old, hold, hw.descends_iff.mpr hkl, hattributes, fun m hm hml => ?_⟩
    exact hps.origin_unique (hw.descends_iff.mp hml) hkl hm (by rw [hold]; rfl)
  · intro i j c d s t hc hd hid hs ht
    obtain ⟨p, hp, hcp⟩ := hw.exists_of_getElem? hc
    obtain ⟨q, hq, hdq⟩ := hw.exists_of_getElem? hd
    rw [hcp, Progress.result?_rotation] at hs
    rw [hdq, Progress.result?_rotation] at ht
    rw [← hid] at hq
    exact hsound.once i j c.id p q hp hq (Progress.hasTaken_of_target? (Progress.target?_of_result? hs))
      (Progress.hasTaken_of_target? (Progress.target?_of_result? ht))
  · intro c hc e he
    obtain ⟨i, hi⟩ := List.mem_iff_getElem?.mp hc
    obtain ⟨p, -, hcp⟩ := hw.exists_of_getElem? hi
    rw [hcp, Progress.result?_rotation] at he
    exact Progress.eq_of_result?_error he
  · rintro k hk ⟨c, hc, hid⟩
    exact hw.exists_ok hsound hover hk hc hid
  · have hcount : ps.countP (·.2.inHand?.isSome) = 0 := by
      refine List.countP_eq_zero.mpr fun e he hhand => ?_
      obtain ⟨i, hi⟩ := List.mem_iff_getElem?.mp he
      obtain ⟨s, hs⟩ := Option.isSome_iff_exists.mp hhand
      exact hw.not_inHand hover ⟨i, e.2, hi, beq_iff_eq.mpr hs⟩
    rw [← hsound.size, hcount, Nat.add_zero]
  · intro k old hold
    obtain ⟨l, s, hkl, hs, hattributes⟩ := hsound.kept k old hold
    exact ⟨l, s, hw.descends_iff.mpr hkl, hs.resolve_right (hw.not_inHand hover), hattributes⟩

/-- Two sessions. -/
def twoSessions : Sessions :=
  .ofList [("a", ⟨"a", .ofList [("user", .text "alice")], ⟨"s"⟩⟩), ("b", ⟨"b", .empty, ⟨"t"⟩⟩)]

/-- The identifier that draw `n` gives. -/
def nthId (n : Nat) : String :=
  Session.idOfBytes (.replicate 32 (UInt8.ofNat n))

/-- Two rotations of one session, one of the other, and one of what comes of the first. -/
def fourRotations : Race :=
  start twoSessions (.counting 0) ["a", "a", "b", nthId 0]

/-- Session `a` is moved twice while `b` is on its way, and the second rotation of `a` comes too late. -/
def crossing : List Nat :=
  [0, 2, 0, 2, 0, 0, 2, 2, 0, 0, 3, 3, 3, 3, 2, 3, 2, 3, 1, 1]

/-- All four return, one of them in vain; both sessions are live under new identifiers. -/
theorem sessions_cross :
    ∃ w, fourRotations.run? Rotator.shortRotator crossing = some w ∧ w.DrawsFresh twoSessions ∧
      w.isOver = true ∧
      w.rotations.map (·.result?.map fun out => out.toOption.map (·.id)) =
        [some (some (nthId 0)), some none, some (some (nthId 2)), some (some (nthId 4))] ∧
      w.live.keys = [nthId 2, nthId 4] ∧ w.live.size = twoSessions.size ∧
      ∃ l s, w.Descends "a" l ∧ w.live.get? l = some s ∧
        s.attributes = .ofList [("user", .text "alice")] := by
  have hsome : (fourRotations.run? Rotator.shortRotator crossing).isSome = true := by decide +kernel
  obtain ⟨w, hw⟩ := Option.isSome_iff_exists.mp hsome
  have hfacts : (fourRotations.run? Rotator.shortRotator crossing).all (fun w =>
      decide (w.drawnIds.Nodup ∧ (∀ id ∈ w.drawnIds, twoSessions.get? id = none) ∧ w.isOver = true ∧
        w.rotations.map (·.result?.map fun out => out.toOption.map (·.id)) =
          [some (some (nthId 0)), some none, some (some (nthId 2)), some (some (nthId 4))] ∧
        w.live.keys = [nthId 2, nthId 4])) = true := by decide +kernel
  rw [hw, Option.all_some, decide_eq_true_eq] at hfacts
  obtain ⟨hdistinct, hunused, hover, hresults, hkeys⟩ := hfacts
  have hfresh : w.DrawsFresh twoSessions := ⟨hdistinct, hunused⟩
  obtain ⟨-, -, -, -, hend⟩ := rotations_keep_every_session _ _ _ _ hw hfresh
  obtain ⟨-, hsize, hkept⟩ := hend hover
  exact ⟨w, hw, hfresh, hover, hresults, hkeys, hsize, hkept "a" ⟨"a", _, ⟨"s"⟩⟩ (by decide +kernel)⟩

end Race

end HttpMediation
