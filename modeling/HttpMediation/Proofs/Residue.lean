import HttpMediation.Proofs.Locking
import Mathlib.Data.List.Nodup

/-!
# Residue — locks that stay in the table

The call that is the last on a session to look after the table should remove the session's lock.  It goes by
how many hold on to the lock, and that counts a call which has looked after the table before it and has not
dropped the lock yet.  If there is one, each of the two leaves the lock to the other.

* `LockTable.IsDistinct` : no identifier and no lock is in the table twice.
* `LockTable.Crosses` : the last call looks while an earlier one still holds on.
* `LockTable.keeps_iff_of_step` : what one step means for a lock that nobody will look after any more.
* `LockTable.lock_stays_iff_last_calls_cross` : which locks are left when all calls have returned.
-/

namespace HttpMediation

/-- The call has looked after the table and will not do so again. -/
def LockStage.isPast : LockStage → Bool
  | tidied _ | returned => true
  | outside | waiting _ | inside _ | released _ => false

namespace LockTable

variable {t u v : LockTable} {i j l : Nat} {c d : LockingCall} {id : String} {schedule : List Nat}

/-! ## Moments of a run -/

/-- On the way through the schedule call `i` takes a step from the table `u`. -/
def Passes (t : LockTable) (schedule : List Nat) (u : LockTable) (i : Nat) : Prop :=
  ∃ before after, schedule = before ++ i :: after ∧ t.run? before = some u

/-- The table has a lock for the identifier. -/
def Keeps (t : LockTable) (id : String) : Prop :=
  ∃ l, (id, l) ∈ t.entries

/-- All calls on the session have looked after the table. -/
def AllPast (t : LockTable) (id : String) : Prop :=
  ∀ (j : Nat) (c : LockingCall), t.calls[j]? = some c → c.id = id → c.stage.isPast = true

/-- All other calls on the session have looked after the table, and call `i` is about to. -/
structure LooksLast (t : LockTable) (i : Nat) (id : String) (l : Nat) : Prop where
  call : t.calls[i]? = some { id := id, stage := .released l }
  others : ∀ (j : Nat) (c : LockingCall), j ≠ i → t.calls[j]? = some c → c.id = id → c.stage.isPast = true

/-- Call `i` looks after the table as the last one on the session, and another call that has looked after it
has not dropped the lock yet. -/
def Crosses (t : LockTable) (i : Nat) (id : String) : Prop :=
  ∃ l, t.LooksLast i id l ∧ ∃ j : Nat, t.calls[j]? = some { id := id, stage := .tidied l }

theorem not_passes_nil : ¬ t.Passes [] u i := by
  rintro ⟨before, after, hsplit, -⟩
  exact List.append_ne_nil_of_right_ne_nil before (List.cons_ne_nil i after) hsplit.symm

theorem passes_cons_iff {k : Nat} (hstep : t.step? k = some v) :
    t.Passes (k :: schedule) u i ↔ (u = t ∧ i = k) ∨ v.Passes schedule u i := by
  constructor
  · rintro ⟨before, after, hsplit, hrun⟩
    cases before with
    | nil =>
      obtain ⟨rfl, -⟩ := List.cons.inj hsplit
      exact .inl ⟨(Option.some.inj hrun).symm, rfl⟩
    | cons m before =>
      obtain ⟨rfl, hrest⟩ := List.cons.inj hsplit
      rw [run?, hstep, Option.bind_some] at hrun
      exact .inr ⟨before, after, hrest, hrun⟩
  · rintro (⟨rfl, rfl⟩ | ⟨before, after, rfl, hrun⟩)
    · exact ⟨[], schedule, rfl, rfl⟩
    · refine ⟨k :: before, after, rfl, ?_⟩
      rw [run?, hstep, Option.bind_some, hrun]

/-! ## No identifier and no lock twice -/

/-- An identifier has one lock at most, and a lock is for one identifier. -/
structure IsDistinct (t : LockTable) : Prop where
  ids : (t.entries.map (·.1)).Nodup
  locks : (t.entries.map (·.2)).Nodup

theorem not_mem_of_lock?_eq_none (h : t.lock? id = none) : id ∉ t.entries.map (·.1) := by
  intro hmem
  obtain ⟨e, he, rfl⟩ := List.mem_map.mp hmem
  have hne := List.lookup_eq_none_iff.mp h e he
  simp at hne

theorem IsDistinct.of_step (h : t.IsDistinct) (hsound : t.Sound) (hstep : t.step? i = some u) :
    u.IsDistinct := by
  obtain ⟨c, -, hstep⟩ := exists_step hstep
  cases hstep with
  | made hstage hl =>
    have hid : c.id ∉ t.entries.map (·.1) := not_mem_of_lock?_eq_none hl
    have hlock : t.made ∉ t.entries.map (·.2) := by
      intro hmem
      obtain ⟨e, he, heq⟩ := List.mem_map.mp hmem
      exact absurd (hsound.table e he) (by omega)
    exact ⟨List.nodup_cons.mpr ⟨hid, h.ids⟩, List.nodup_cons.mpr ⟨hlock, h.locks⟩⟩
  | removed hstage htwo =>
    have hsub : (t.entries.filter (·.1 != c.id)).Sublist t.entries := List.filter_sublist
    exact ⟨h.ids.sublist (hsub.map _), h.locks.sublist (hsub.map _)⟩
  | found | entered | left | kept | dropped => exact ⟨h.ids, h.locks⟩

/-! ## Who is counted -/

/-- What can stand at one place only is counted once at most. -/
theorem countP_le_one {α : Type} {p : α → Bool} {s : List α}
    (h : ∀ (m n : Nat) (a b : α), s[m]? = some a → s[n]? = some b → p a = true → p b = true → m = n) :
    s.countP p ≤ 1 := by
  induction s with
  | nil => simp
  | cons x s ih =>
    by_cases hx : p x = true
    · have hnone : s.countP p = 0 := by
        refine List.countP_eq_zero.mpr fun b hb hpb => ?_
        obtain ⟨n, hn⟩ := List.mem_iff_getElem?.mp hb
        have hplace := h 0 (n + 1) x b (by simp) (by simpa using hn) hx hpb
        omega
      have hcount : (x :: s).countP p = s.countP p + 1 := List.countP_cons_of_pos hx
      omega
    · rw [List.countP_cons_of_neg hx]
      refine ih fun m n a b hm hn ha hb => ?_
      have hplace := h (m + 1) (n + 1) a b (by simpa using hm) (by simpa using hn) ha hb
      omega

/-- A call that holds on to the lock of an identifier is a call on its session. -/
theorem id_eq_of_holds (hsound : t.Sound) (hdistinct : t.IsDistinct) (htable : (id, l) ∈ t.entries)
    (hd : t.calls[j]? = some d) (hlock : d.stage.lock? = some l) : d.id = id := by
  rcases hsound.held j d l hd hlock with hheld | ⟨-, hlast⟩
  · have hentry := List.inj_on_of_nodup_map hdistinct.locks (mem_of_lock? hheld) htable rfl
    exact congrArg Prod.fst hentry
  · exact absurd rfl (hlast.entries _ htable)

/-- Two are counted exactly if no other call holds on to the lock. -/
theorem holders_eq_two_iff (hdistinct : t.IsDistinct) (htable : (id, l) ∈ t.entries) (hi : t.Holds i l) :
    t.holders l = 2 ↔ ∀ j, t.Holds j l → j = i := by
  refine ⟨fun htwo => (unique_of_holders htwo htable hi).2, fun honly => ?_⟩
  obtain ⟨c, hc, hlock⟩ := hi
  have hentries : t.entries.countP (·.2 == l) = 1 := by
    have hcount : (t.entries.map (·.2)).count l = 1 :=
      List.count_eq_one_of_mem hdistinct.locks (List.mem_map.mpr ⟨(id, l), htable, rfl⟩)
    rwa [List.count, List.countP_map] at hcount
  have hatLeast : 0 < t.calls.countP (·.stage.lock? == some l) :=
    List.countP_pos_iff.mpr ⟨c, List.mem_of_getElem? hc, beq_iff_eq.mpr hlock⟩
  have hatMost : t.calls.countP (·.stage.lock? == some l) ≤ 1 := by
    refine countP_le_one fun m n a b hm hn ha hb => ?_
    rw [honly m ⟨a, hm, beq_iff_eq.mp ha⟩, honly n ⟨b, hn, beq_iff_eq.mp hb⟩]
  unfold holders
  omega

theorem eq_tidied_of_isPast {stage : LockStage} (hpast : stage.isPast = true)
    (hlock : stage.lock? = some l) : stage = .tidied l := by
  cases stage with
  | tidied m =>
    obtain rfl := Option.some.inj hlock
    rfl
  | returned => cases hlock
  | outside | waiting | inside | released => cases hpast

/-! ## The last look -/

/-- A step changes the stage of its own call only, and the call is past the table then if it was before or if
it has just looked after it. -/
theorem Step.exists_stage (hc : t.calls[i]? = some c) (hstep : Step t i c u) :
    ∃ stage, (∀ j, u.calls[j]? = if j = i then some { c with stage := stage } else t.calls[j]?) ∧
      (stage.isPast = true ↔ c.stage.isPast = true ∨ ∃ l, c.stage = .released l) := by
  cases hstep with
  | found hstage | made hstage | entered hstage | left hstage | removed hstage | kept hstage
  | dropped hstage =>
    refine ⟨_, fun j => getElem?_advance hc, ?_⟩
    rw [hstage]
    simp [LockStage.isPast]

theorem allPast_iff (hc : t.calls[i]? = some c) :
    t.AllPast id ↔ (c.id = id → c.stage.isPast = true) ∧
      ∀ (j : Nat) (d : LockingCall), j ≠ i → t.calls[j]? = some d → d.id = id → d.stage.isPast = true := by
  refine ⟨fun h => ⟨h i c hc, fun j d _ => h j d⟩, fun ⟨hown, hothers⟩ j d hd => ?_⟩
  by_cases hj : j = i
  · subst hj
    rw [hc] at hd
    obtain rfl := Option.some.inj hd
    exact hown
  · exact hothers j d hj hd

theorem looksLast_iff (hc : t.calls[i]? = some c) :
    (∃ l, t.LooksLast i id l) ↔ (c.id = id ∧ ∃ l, c.stage = .released l) ∧
      ∀ (j : Nat) (d : LockingCall), j ≠ i → t.calls[j]? = some d → d.id = id → d.stage.isPast = true := by
  constructor
  · rintro ⟨l, hcall, hothers⟩
    rw [hc] at hcall
    obtain rfl := Option.some.inj hcall
    exact ⟨⟨rfl, l, rfl⟩, hothers⟩
  · rintro ⟨⟨rfl, l, hstage⟩, hothers⟩
    refine ⟨l, ?_, hothers⟩
    rw [hc, ← hstage]

/-- All calls on a session are past the table after a step if they were before or the step is the last look. -/
theorem allPast_iff_of_step (hstep : t.step? i = some u) :
    u.AllPast id ↔ t.AllPast id ∨ ∃ l, t.LooksLast i id l := by
  obtain ⟨c, hc, hstep⟩ := exists_step hstep
  obtain ⟨stage, hcalls, hpast⟩ := hstep.exists_stage hc
  have hown : u.calls[i]? = some { c with stage := stage } := by rw [hcalls i, if_pos rfl]
  have hothers :
      (∀ (j : Nat) (d : LockingCall), j ≠ i → u.calls[j]? = some d → d.id = id → d.stage.isPast = true) ↔
        ∀ (j : Nat) (d : LockingCall), j ≠ i → t.calls[j]? = some d → d.id = id → d.stage.isPast = true := by
    refine forall_congr' fun j => forall_congr' fun d => forall_congr' fun hj => ?_
    rw [hcalls j, if_neg hj]
  rw [allPast_iff hown, allPast_iff hc, looksLast_iff hc, hothers, hpast]
  by_cases hid : c.id = id
  · simp only [hid, true_imp_iff, true_and, or_and_right]
  · simp only [hid, false_imp_iff, true_and, false_and, or_false]

/-- Nothing happens any more to the lock of a session whose calls are all past the table. -/
theorem keeps_iff_of_allPast (hstep : t.step? i = some u) (hpast : t.AllPast id) :
    u.Keeps id ↔ t.Keeps id := by
  obtain ⟨c, hc, hstep⟩ := exists_step hstep
  have hother : c.stage.isPast = false → c.id ≠ id := by
    intro hnot hid
    rw [hpast i c hc hid] at hnot
    cases hnot
  cases hstep with
  | made hstage hl =>
    have hid : c.id ≠ id := hother (by rw [hstage]; rfl)
    refine exists_congr fun l => ?_
    show (id, l) ∈ (c.id, t.made) :: t.entries ↔ _
    rw [List.mem_cons, or_iff_right]
    exact fun heq => hid (congrArg Prod.fst heq).symm
  | removed hstage htwo =>
    have hid : c.id ≠ id := hother (by rw [hstage]; rfl)
    refine exists_congr fun l => ?_
    show (id, l) ∈ t.entries.filter (·.1 != c.id) ↔ _
    rw [List.mem_filter, and_iff_left]
    exact bne_iff_ne.mpr hid.symm
  | found | entered | left | kept | dropped => exact Iff.rfl

/-- The last look leaves the lock in the table exactly if an earlier call still holds on to it. -/
theorem keeps_iff_of_looksLast (hsound : t.Sound) (hdistinct : t.IsDistinct) (hstep : t.step? i = some u)
    (hlast : t.LooksLast i id l) : u.Keeps id ↔ t.Crosses i id := by
  have htable : (id, l) ∈ t.entries := mem_of_lock? (hsound.lock?_of_lt_tidied hlast.call rfl nofun)
  have hholders := holders_eq_two_iff hdistinct htable ⟨_, hlast.call, rfl⟩
  obtain ⟨c, hc, hstep⟩ := exists_step hstep
  rw [hlast.call] at hc
  obtain rfl := Option.some.inj hc
  cases hstep with
  | @removed m hstage htwo =>
    obtain rfl := LockStage.released.inj hstage
    refine iff_of_false ?_ ?_
    · rintro ⟨k, hk⟩
      simpa using (List.mem_filter.mp hk).2
    · rintro ⟨m, hlast', j, hj⟩
      have hm : l = m := by
        have hcall := hlast'.call
        rw [hlast.call] at hcall
        cases hcall
        rfl
      subst hm
      have hji : j = i := hholders.mp htwo j ⟨_, hj, rfl⟩
      subst hji
      rw [hlast.call] at hj
      cases hj
  | @kept m hstage hmore =>
    obtain rfl := LockStage.released.inj hstage
    refine iff_of_true ⟨l, htable⟩ ?_
    rw [Ne, hholders] at hmore
    obtain ⟨j, hj⟩ := not_forall.mp hmore
    obtain ⟨⟨d, hd, hlock⟩, hj⟩ := Classical.not_imp.mp hj
    have hid : d.id = id := id_eq_of_holds hsound hdistinct htable hd hlock
    have hstage := eq_tidied_of_isPast (hlast.others j d hj hd hid) hlock
    exact ⟨l, hlast, j, by rw [hd, ← hid, ← hstage]⟩
  | found hstage | made hstage | entered hstage | left hstage | dropped hstage => cases hstage

/-- A lock that nobody will look after any more was there before the step, or the step has left it. -/
theorem keeps_iff_of_step (hsound : t.Sound) (hdistinct : t.IsDistinct) (hstep : t.step? i = some u) :
    (u.AllPast id ∧ u.Keeps id) ↔ (t.AllPast id ∧ t.Keeps id) ∨ t.Crosses i id := by
  have hpast_iff : u.AllPast id ↔ t.AllPast id ∨ ∃ l, t.LooksLast i id l := allPast_iff_of_step hstep
  by_cases hpast : t.AllPast id
  · have hno : ¬ t.Crosses i id := by
      rintro ⟨l, hlast, -⟩
      have hown := hpast i _ hlast.call rfl
      cases hown
    rw [keeps_iff_of_allPast hstep hpast, and_iff_right (hpast_iff.mpr (.inl hpast)), and_iff_right hpast,
      or_iff_left hno]
  · rw [hpast_iff, or_iff_right hpast, or_iff_right (fun h => hpast h.1)]
    constructor
    · rintro ⟨⟨l, hlast⟩, hkeeps⟩
      exact (keeps_iff_of_looksLast hsound hdistinct hstep hlast).mp hkeeps
    · intro hcrosses
      have ⟨l, hlast, _⟩ := hcrosses
      exact ⟨⟨l, hlast⟩, (keeps_iff_of_looksLast hsound hdistinct hstep hlast).mpr hcrosses⟩

/-! ## Runs -/

theorem IsDistinct.of_run (h : t.IsDistinct) (hsound : t.Sound) (hrun : t.run? schedule = some u) :
    u.IsDistinct := by
  induction schedule generalizing t with
  | nil =>
    obtain rfl := Option.some.inj hrun
    exact h
  | cons i schedule ih =>
    obtain ⟨v, hstep, hrun⟩ := Option.bind_eq_some_iff.mp hrun
    exact ih (h.of_step hsound hstep) (hsound.of_step hstep) hrun

/-- A lock that nobody will look after any more was there at the beginning, or has been left on the way. -/
theorem keeps_iff_of_run (hsound : t.Sound) (hdistinct : t.IsDistinct) (hrun : t.run? schedule = some u) :
    (u.AllPast id ∧ u.Keeps id) ↔
      (t.AllPast id ∧ t.Keeps id) ∨ ∃ v i, t.Passes schedule v i ∧ v.Crosses i id := by
  induction schedule generalizing t with
  | nil =>
    obtain rfl := Option.some.inj hrun
    have hnone : ¬ ∃ v i, t.Passes [] v i ∧ v.Crosses i id := by
      rintro ⟨v, i, hpasses, -⟩
      exact not_passes_nil hpasses
    rw [or_iff_left hnone]
  | cons k schedule ih =>
    obtain ⟨w, hstep, hrun⟩ := Option.bind_eq_some_iff.mp hrun
    have hfirst : (∃ v i, t.Passes (k :: schedule) v i ∧ v.Crosses i id) ↔
        t.Crosses k id ∨ ∃ v i, w.Passes schedule v i ∧ v.Crosses i id := by
      have hnow : (∃ v i, (v = t ∧ i = k) ∧ v.Crosses i id) ↔ t.Crosses k id := by
        constructor
        · rintro ⟨v, i, ⟨rfl, rfl⟩, hcrosses⟩
          exact hcrosses
        · exact fun hcrosses => ⟨t, k, ⟨rfl, rfl⟩, hcrosses⟩
      simp only [passes_cons_iff hstep, or_and_right, exists_or, hnow]
    rw [ih (hsound.of_step hstep) (hdistinct.of_step hsound hstep) hrun,
      keeps_iff_of_step hsound hdistinct hstep, hfirst, or_assoc]

theorem isDistinct_start (ids : List String) : (start ids).IsDistinct :=
  ⟨List.nodup_nil, List.nodup_nil⟩

/-- When all calls have returned, the table has a lock for a session exactly if there was a moment at which
the last call on the session looked after the table while an earlier one had looked after it and not dropped
the lock.  So the table is empty exactly if there was no such moment; it never has two locks for a session. -/
theorem lock_stays_iff_last_calls_cross (ids : List String) {schedule : List Nat} {t : LockTable}
    (hrun : (start ids).run? schedule = some t) (hreturned : ∀ c ∈ t.calls, c.stage = .returned) :
    (t.entries = [] ↔ ∀ u i id, (start ids).Passes schedule u i → ¬ u.Crosses i id) ∧
      (∀ id, (∃ l, (id, l) ∈ t.entries) ↔ ∃ u i, (start ids).Passes schedule u i ∧ u.Crosses i id) ∧
      (t.entries.map (·.1)).Nodup := by
  have hstart : ∀ id, ¬ (start ids).Keeps id := fun id ⟨l, hmem⟩ => List.not_mem_nil hmem
  have hpast : ∀ id, t.AllPast id := by
    intro id j c hc _
    rw [hreturned c (List.mem_of_getElem? hc)]
    rfl
  have hleft : ∀ id, (∃ l, (id, l) ∈ t.entries) ↔
      ∃ u i, (start ids).Passes schedule u i ∧ u.Crosses i id := by
    intro id
    have hkeeps : (t.AllPast id ∧ t.Keeps id) ↔ _ :=
      keeps_iff_of_run (sound_start ids) (isDistinct_start ids) hrun
    rwa [and_iff_right (hpast id), or_iff_right (fun h => hstart id h.2)] at hkeeps
  refine ⟨?_, hleft, ((isDistinct_start ids).of_run (sound_start ids) hrun).ids⟩
  constructor
  · rintro hempty u i id hpasses hcrosses
    obtain ⟨l, hmem⟩ := (hleft id).mpr ⟨u, i, hpasses, hcrosses⟩
    rw [hempty] at hmem
    exact List.not_mem_nil hmem
  · intro hnone
    refine List.eq_nil_iff_forall_not_mem.mpr fun ⟨id, l⟩ hmem => ?_
    obtain ⟨u, i, hpasses, hcrosses⟩ := (hleft id).mp ⟨l, hmem⟩
    exact hnone u i id hpasses hcrosses

/-- Two calls on one session and one on another take turns; the first drops the lock before the second looks
after the table, and nothing is left. -/
theorem no_lock_is_left_by_turns :
    ∃ t, (start ["a", "a", "b"]).run? [0, 1, 0, 0, 0, 2, 0, 2, 2, 1, 1, 1, 2, 1, 2] = some t ∧
      (∀ c ∈ t.calls, c.stage = .returned) ∧ t.made = 2 ∧ t.entries = [] ∧
      ∀ u i id, (start ["a", "a", "b"]).Passes [0, 1, 0, 0, 0, 2, 0, 2, 2, 1, 1, 1, 2, 1, 2] u i →
        ¬ u.Crosses i id := by
  have hrun : (start ["a", "a", "b"]).run? [0, 1, 0, 0, 0, 2, 0, 2, 2, 1, 1, 1, 2, 1, 2] =
      some ⟨[], 2, [⟨"a", .returned⟩, ⟨"a", .returned⟩, ⟨"b", .returned⟩]⟩ := by
    decide +kernel
  have hreturned : ∀ c ∈ [(⟨"a", .returned⟩ : LockingCall), ⟨"a", .returned⟩, ⟨"b", .returned⟩],
      c.stage = .returned := by decide
  have hempty := (lock_stays_iff_last_calls_cross _ hrun hreturned).1
  exact ⟨_, hrun, hreturned, rfl, rfl, hempty.mp rfl⟩

/-- The second of two calls looks after the table before the first has dropped the lock.  Both count three
holders, and the lock stays in the table. -/
theorem lock_is_left_by_crossing_calls :
    ∃ t, (start ["a", "a"]).run? [0, 1, 0, 0, 0, 1, 1, 1, 0, 1] = some t ∧
      (∀ c ∈ t.calls, c.stage = .returned) ∧ t.entries = [("a", 0)] ∧ t.entries ≠ [] := by
  have hrun : (start ["a", "a"]).run? [0, 1, 0, 0, 0, 1, 1, 1, 0, 1] =
      some ⟨[("a", 0)], 1, [⟨"a", .returned⟩, ⟨"a", .returned⟩]⟩ := by
    decide +kernel
  exact ⟨_, hrun, by decide, rfl, List.cons_ne_nil _ _⟩

end LockTable

end HttpMediation
