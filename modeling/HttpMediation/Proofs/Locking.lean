import HttpMediation.Proofs.Dict
import HttpMediation.Session.LockTable

/-!
# Locking — one call at a time on a session

Locks are removed from the table and made anew while calls come and go.  A call may remove a lock because
it counts who holds on to it; whoever has looked after the table once never waits for the lock again, but
is counted until it has dropped it.

* `LockTable.Step` : all that a step can do.
* `LockTable.Sound` : the lock that a call holds on to is the one in the table, unless the call has removed
  it itself and is the last to hold on to it.
* `LockTable.calls_exclude_each_other` : no two calls work on one session at a time.
* `LockTable.lock_is_held_out_of_the_table` : a call that has removed its lock holds on to it until it drops it.
-/

namespace HttpMediation.LockTable

variable {t u : LockTable} {i j l : Nat} {c d : LockingCall} {stage : LockStage}

/-! ## Who holds on to a lock -/

/-- The call holds on to the lock. -/
def Holds (t : LockTable) (i l : Nat) : Prop :=
  ∃ c, t.calls[i]? = some c ∧ c.stage.lock? = some l

/-- The call works under the lock. -/
def IsInside (t : LockTable) (i l : Nat) : Prop :=
  ∃ c, t.calls[i]? = some c ∧ c.stage = .inside l

/-- Nobody but the call may hold on to the lock, not even the table. -/
structure IsLast (t : LockTable) (i l : Nat) : Prop where
  entries : ∀ e ∈ t.entries, e.2 ≠ l
  calls : ∀ j, t.Holds j l → j = i

theorem mem_of_lock? {id : String} (h : t.lock? id = some l) : (id, l) ∈ t.entries := by
  obtain ⟨before, after, hsplit, -⟩ := List.lookup_eq_some_iff.mp h
  rw [hsplit]
  exact List.mem_append_right _ List.mem_cons_self

/-- What stands at two places of a list is counted twice. -/
theorem two_le_countP {α : Type} {p : α → Bool} {s : List α} {m n : Nat} {a b : α} (hlt : m < n)
    (hm : s[m]? = some a) (hn : s[n]? = some b) (ha : p a = true) (hb : p b = true) :
    2 ≤ s.countP p := by
  have hfirst : a ∈ s.take n := by
    refine List.mem_of_getElem? (i := m) ?_
    rw [List.getElem?_take_of_lt hlt, hm]
  have hsecond : b ∈ s.drop n := by
    refine List.mem_of_getElem? (i := 0) ?_
    rw [List.getElem?_drop, Nat.add_zero, hn]
  have htake : 0 < (s.take n).countP p := List.countP_pos_iff.mpr ⟨a, hfirst, ha⟩
  have hdrop : 0 < (s.drop n).countP p := List.countP_pos_iff.mpr ⟨b, hsecond, hb⟩
  rw [← List.take_append_drop n s, List.countP_append]
  omega

theorem place_unique {α : Type} {p : α → Bool} {s : List α} (hone : s.countP p ≤ 1) {m n : Nat} {a b : α}
    (hm : s[m]? = some a) (hn : s[n]? = some b) (ha : p a = true) (hb : p b = true) : m = n := by
  rcases Nat.lt_trichotomy m n with hlt | heq | hlt
  · have := two_le_countP hlt hm hn ha hb
    omega
  · exact heq
  · have := two_le_countP hlt hn hm hb ha
    omega

/-- A lock that is in the table and that a call holds on to has no other holder if two are counted. -/
theorem unique_of_holders (htwo : t.holders l = 2) {id : String} (htable : (id, l) ∈ t.entries)
    (hi : t.Holds i l) : (∀ e ∈ t.entries, e.2 = l → e.1 = id) ∧ ∀ j, t.Holds j l → j = i := by
  obtain ⟨c, hc, hlock⟩ := hi
  have hentries : 0 < t.entries.countP (·.2 == l) :=
    List.countP_pos_iff.mpr ⟨(id, l), htable, beq_self_eq_true l⟩
  have hcalls : 0 < t.calls.countP (·.stage.lock? == some l) :=
    List.countP_pos_iff.mpr ⟨c, List.mem_of_getElem? hc, beq_iff_eq.mpr hlock⟩
  unfold holders at htwo
  have hentry : t.entries.countP (·.2 == l) ≤ 1 := by omega
  have hcall : t.calls.countP (·.stage.lock? == some l) ≤ 1 := by omega
  constructor
  · intro e he hel
    obtain ⟨m, hm⟩ := List.mem_iff_getElem?.mp he
    obtain ⟨n, hn⟩ := List.mem_iff_getElem?.mp htable
    have hmn : m = n := place_unique hentry hm hn (beq_iff_eq.mpr hel) (beq_self_eq_true l)
    subst hmn
    rw [hm] at hn
    rw [Option.some.inj hn]
  · rintro j ⟨d, hd, hdlock⟩
    exact place_unique hcall hd hc (beq_iff_eq.mpr hdlock) (beq_iff_eq.mpr hlock)

/-! ## What a step can do -/

theorem getElem?_advance (hc : t.calls[i]? = some c) :
    (t.advance i stage).calls[j]? = if j = i then some { c with stage := stage } else t.calls[j]? := by
  unfold advance
  by_cases hj : j = i
  · subst hj
    rw [List.getElem?_modify_eq, if_pos rfl, hc]
    rfl
  · rw [if_neg hj]
    exact List.getElem?_modify_ne _ _ (Ne.symm hj)

theorem holds_advance (hc : t.calls[i]? = some c) :
    (t.advance i stage).Holds j l ↔ j = i ∧ stage.lock? = some l ∨ j ≠ i ∧ t.Holds j l := by
  unfold Holds
  rw [getElem?_advance hc]
  by_cases hj : j = i
  · simp [hj]
  · simp [hj]

theorem isInside_advance (hc : t.calls[i]? = some c) :
    (t.advance i stage).IsInside j l ↔ j = i ∧ stage = .inside l ∨ j ≠ i ∧ t.IsInside j l := by
  unfold IsInside
  rw [getElem?_advance hc]
  by_cases hj : j = i
  · simp [hj]
  · simp [hj]

/-- What a step of call `i` can do to the table. -/
inductive Step (t : LockTable) (i : Nat) (c : LockingCall) : LockTable → Prop
  | found {l : Nat} (hstage : c.stage = .outside) (hl : t.lock? c.id = some l) :
    Step t i c (t.advance i (.waiting l))
  | made (hstage : c.stage = .outside) (hl : t.lock? c.id = none) :
    Step t i c
      (advance i (.waiting t.made) { t with entries := (c.id, t.made) :: t.entries, made := t.made + 1 })
  | entered {l : Nat} (hstage : c.stage = .waiting l) (hfree : ∀ j, ¬t.IsInside j l) :
    Step t i c (t.advance i (.inside l))
  | left {l : Nat} (hstage : c.stage = .inside l) : Step t i c (t.advance i (.released l))
  | removed {l : Nat} (hstage : c.stage = .released l) (htwo : t.holders l = 2) :
    Step t i c (advance i (.tidied l) { t with entries := t.entries.filter (·.1 != c.id) })
  | kept {l : Nat} (hstage : c.stage = .released l) (hmore : t.holders l ≠ 2) :
    Step t i c (t.advance i (.tidied l))
  | dropped {l : Nat} (hstage : c.stage = .tidied l) : Step t i c (t.advance i .returned)

theorem exists_step (h : t.step? i = some u) : ∃ c, t.calls[i]? = some c ∧ Step t i c u := by
  unfold step? at h
  split at h
  · cases h
  · rename_i c hc
    refine ⟨c, hc, ?_⟩
    split at h
    · rename_i hstage
      obtain rfl := Option.some.inj h
      unfold fetch
      split
      · rename_i l hl
        exact .found hstage hl
      · rename_i hl
        exact .made hstage hl
    · rename_i l hstage
      split at h
      · cases h
      · rename_i htaken
        obtain rfl := Option.some.inj h
        refine .entered hstage ?_
        rintro j ⟨d, hd, hinside⟩
        exact htaken (List.any_eq_true.mpr ⟨d, List.mem_of_getElem? hd, beq_iff_eq.mpr hinside⟩)
    · rename_i l hstage
      obtain rfl := Option.some.inj h
      exact .left hstage
    · rename_i l hstage
      obtain rfl := Option.some.inj h
      unfold tidy
      split
      · rename_i htwo
        exact .removed hstage htwo
      · rename_i hmore
        exact .kept hstage hmore
    · rename_i l hstage
      obtain rfl := Option.some.inj h
      exact .dropped hstage
    · cases h

/-! ## What every step keeps -/

/-- A call that holds on to a lock finds it in the table, or has removed it itself and is the last. -/
structure Sound (t : LockTable) : Prop where
  table : ∀ e ∈ t.entries, e.2 < t.made
  fetched : ∀ i l, t.Holds i l → l < t.made
  held : ∀ (i : Nat) (c : LockingCall) (l : Nat), t.calls[i]? = some c → c.stage.lock? = some l →
    t.lock? c.id = some l ∨ c.stage = .tidied l ∧ t.IsLast i l
  alone : ∀ i j l, t.IsInside i l → t.IsInside j l → i = j

theorem sound_start (ids : List String) : (start ids).Sound := by
  have houtside : ∀ (i : Nat) (c : LockingCall), (start ids).calls[i]? = some c → c.stage = .outside := by
    intro i c hc
    obtain ⟨id, -, rfl⟩ := List.mem_map.mp (List.mem_of_getElem? hc)
    rfl
  refine ⟨fun e he => absurd he List.not_mem_nil, ?_, ?_, ?_⟩
  · rintro i l ⟨c, hc, hlock⟩
    rw [houtside i c hc] at hlock
    cases hlock
  · intro i c l hc hlock
    rw [houtside i c hc] at hlock
    cases hlock
  · rintro i j l ⟨c, hc, hinside⟩
    rw [houtside i c hc] at hinside
    cases hinside

namespace Sound

variable (h : t.Sound)
include h

theorem lock?_of_lt_tidied (hc : t.calls[i]? = some c) (hlock : c.stage.lock? = some l)
    (hstage : c.stage ≠ .tidied l) : t.lock? c.id = some l :=
  (h.held i c l hc hlock).resolve_right fun hlast => hstage hlast.1

/-- A call goes on under the lock that the table has for it, or without a lock. -/
theorem advance (hc : t.calls[i]? = some c)
    (hlock : ∀ l, stage.lock? = some l → t.lock? c.id = some l)
    (hfree : ∀ l, stage = .inside l → ∀ j, ¬t.IsInside j l) : (t.advance i stage).Sound := by
  refine ⟨h.table, ?_, ?_, ?_⟩
  · intro j l hj
    rcases (holds_advance hc).mp hj with ⟨-, hstage⟩ | ⟨-, hj⟩
    · exact h.table _ (mem_of_lock? (hlock l hstage))
    · exact h.fetched j l hj
  · intro j d l hd hdlock
    rw [getElem?_advance hc] at hd
    split at hd
    · obtain rfl := Option.some.inj hd
      exact .inl (hlock l hdlock)
    · refine (h.held j d l hd hdlock).imp_right fun ⟨htidied, hlast⟩ => ⟨htidied, hlast.entries, ?_⟩
      intro k hk
      rcases (holds_advance hc).mp hk with ⟨-, hstage⟩ | ⟨-, hk⟩
      · exact absurd rfl (hlast.entries _ (mem_of_lock? (hlock l hstage)))
      · exact hlast.calls k hk
  · intro j k l hj hk
    rcases (isInside_advance hc).mp hj with ⟨rfl, hstage⟩ | ⟨hij, hj⟩
    · rcases (isInside_advance hc).mp hk with ⟨hk, -⟩ | ⟨-, hk⟩
      · exact hk.symm
      · exact absurd hk (hfree l hstage k)
    · rcases (isInside_advance hc).mp hk with ⟨-, hstage⟩ | ⟨-, hk⟩
      · exact absurd hj (hfree l hstage j)
      · exact h.alone j k l hj hk

/-- A call goes on under the lock that it has. -/
theorem keep (hc : t.calls[i]? = some c) (hlock : c.stage.lock? = some l) (hstage : c.stage ≠ .tidied l)
    (hnext : stage.lock? = some l) (hfree : ∀ m, stage = .inside m → ∀ j, ¬t.IsInside j m) :
    (t.advance i stage).Sound := by
  refine h.advance hc ?_ hfree
  intro m hm
  obtain rfl := Option.some.inj (hnext.symm.trans hm)
  exact h.lock?_of_lt_tidied hc hlock hstage

/-- A new lock is put into the table. -/
theorem make {id : String} (hnew : t.lock? id = none) :
    Sound { t with entries := (id, t.made) :: t.entries, made := t.made + 1 } := by
  refine ⟨?_, fun j l hj => Nat.lt_succ_of_lt (h.fetched j l hj), ?_, h.alone⟩
  · intro e he
    rcases List.mem_cons.mp he with rfl | he
    · exact Nat.lt_succ_self _
    · exact Nat.lt_succ_of_lt (h.table e he)
  · intro j d l hd hlock
    rcases h.held j d l hd hlock with htable | ⟨htidied, hlast⟩
    · left
      have hne : d.id ≠ id := by
        rintro rfl
        rw [htable] at hnew
        cases hnew
      show List.lookup d.id ((id, t.made) :: t.entries) = some l
      rw [List.lookup_cons, beq_eq_false_iff_ne.mpr hne]
      exact htable
    · refine .inr ⟨htidied, ?_, hlast.calls⟩
      intro e he
      rcases List.mem_cons.mp he with rfl | he
      · exact Nat.ne_of_gt (h.fetched j l ⟨d, hd, hlock⟩)
      · exact hlast.entries e he

/-- A lock that nobody else holds on to is removed from the table. -/
theorem remove (hc : t.calls[i]? = some c) (hstage : c.stage = .tidied l)
    (htable : t.lock? c.id = some l) (hentries : ∀ e ∈ t.entries, e.2 = l → e.1 = c.id)
    (hcalls : ∀ j, t.Holds j l → j = i) :
    Sound { t with entries := t.entries.filter (·.1 != c.id) } := by
  refine ⟨fun e he => h.table e (List.mem_filter.mp he).1, h.fetched, ?_, h.alone⟩
  intro j d m hd hlock
  by_cases hj : j = i
  · subst hj
    rw [hc] at hd
    obtain rfl := Option.some.inj hd
    rw [hstage] at hlock
    obtain rfl := Option.some.inj hlock
    refine .inr ⟨hstage, ?_, hcalls⟩
    intro e he hel
    obtain ⟨hmem, hne⟩ := List.mem_filter.mp he
    rw [hentries e hmem hel] at hne
    simp at hne
  · refine (h.held j d m hd hlock).imp ?_ ?_
    · intro hd'
      have hne : d.id ≠ c.id := by
        intro heq
        rw [heq, htable] at hd'
        obtain rfl := Option.some.inj hd'
        exact hj (hcalls j ⟨d, hd, hlock⟩)
      show List.lookup d.id (t.entries.filter (·.1 != c.id)) = some m
      rw [Dict.lookup_filter_ne, if_neg hne]
      exact hd'
    · rintro ⟨htidied, hlast⟩
      exact ⟨htidied, fun e he => hlast.entries e (List.mem_filter.mp he).1, hlast.calls⟩

theorem of_step (hstep : t.step? i = some u) : u.Sound := by
  obtain ⟨c, hc, hstep⟩ := exists_step hstep
  cases hstep with
  | @found l hstage hl =>
    refine h.advance hc ?_ (fun _ => nofun)
    intro m hm
    obtain rfl := Option.some.inj hm
    exact hl
  | made hstage hl =>
    refine (h.make hl).advance hc ?_ (fun _ => nofun)
    intro m hm
    obtain rfl := Option.some.inj hm
    exact List.lookup_cons_self
  | @entered l hstage hfree =>
    refine h.keep hc (by rw [hstage]; rfl) (by rw [hstage]; nofun) rfl fun m hm => ?_
    obtain rfl := LockStage.inside.inj hm
    exact hfree
  | left hstage => exact h.keep hc (by rw [hstage]; rfl) (by rw [hstage]; nofun) rfl (fun _ => nofun)
  | kept hstage hmore => exact h.keep hc (by rw [hstage]; rfl) (by rw [hstage]; nofun) rfl (fun _ => nofun)
  | dropped hstage => exact h.advance hc (fun _ => nofun) (fun _ => nofun)
  | @removed l hstage htwo =>
    -- First the call goes on, and then the lock that it alone holds on to goes out of the table.
    have hlock : c.stage.lock? = some l := by rw [hstage]; rfl
    have htable : t.lock? c.id = some l := h.lock?_of_lt_tidied hc hlock (by rw [hstage]; nofun)
    obtain ⟨hentries, hcalls⟩ := unique_of_holders htwo (mem_of_lock? htable) ⟨c, hc, hlock⟩
    have hsound : (t.advance i (.tidied l)).Sound :=
      h.keep hc hlock (by rw [hstage]; nofun) rfl (fun _ => nofun)
    have hmoved : (t.advance i (.tidied l)).calls[i]? = some { c with stage := .tidied l } := by
      rw [getElem?_advance hc, if_pos rfl]
    have honly : ∀ j, (t.advance i (.tidied l)).Holds j l → j = i := by
      intro j hj
      rcases (holds_advance hc).mp hj with ⟨hji, -⟩ | ⟨-, hj⟩
      · exact hji
      · exact hcalls j hj
    have hremoved := hsound.remove hmoved rfl htable hentries honly
    exact hremoved

theorem of_run {schedule : List Nat} (hrun : t.run? schedule = some u) : u.Sound := by
  induction schedule generalizing t with
  | nil =>
    obtain rfl := Option.some.inj hrun
    exact h
  | cons i schedule ih =>
    obtain ⟨v, hstep, hrun⟩ := Option.bind_eq_some_iff.mp hrun
    exact ih (h.of_step hstep) hrun

end Sound

/-! ## Mutual exclusion -/

/-- Whatever calls there are and in whatever order they take their steps, no two calls work on the same
session at a time.  The lock that a call holds on to is the one that the table has for the session; only a
call that has just removed it itself still holds on to it, and nobody else does then. -/
theorem calls_exclude_each_other (ids : List String) {schedule : List Nat} {t : LockTable}
    (hrun : (start ids).run? schedule = some t) :
    (∀ (i j : Nat) (c d : LockingCall) (l m : Nat), t.calls[i]? = some c → t.calls[j]? = some d →
        c.id = d.id → c.stage = .inside l → d.stage = .inside m → i = j) ∧
      ∀ (i : Nat) (c : LockingCall) (l : Nat), t.calls[i]? = some c → c.stage.lock? = some l →
        t.lock? c.id = some l ∨ c.stage = .tidied l ∧ t.IsLast i l := by
  have hsound := (sound_start ids).of_run hrun
  refine ⟨?_, hsound.held⟩
  intro i j c d l m hc hd hid hl hm
  have hcl : t.lock? c.id = some l :=
    hsound.lock?_of_lt_tidied hc (by rw [hl]; rfl) (by rw [hl]; nofun)
  have hdm : t.lock? d.id = some m :=
    hsound.lock?_of_lt_tidied hd (by rw [hm]; rfl) (by rw [hm]; nofun)
  rw [hid, hdm] at hcl
  obtain rfl := Option.some.inj hcl
  exact hsound.alone i j m ⟨c, hc, hl⟩ ⟨d, hd, hm⟩

/-- The first call has removed the lock of the session before the second fetches one: the second works under
a lock of its own, while the first has not dropped the old one and a third call works on another session. -/
def renewed : LockTable where
  entries := [("a", 2), ("b", 1)]
  made := 3
  calls := [⟨"a", .tidied 0⟩, ⟨"a", .inside 2⟩, ⟨"b", .inside 1⟩]

theorem run_renewed : (start ["a", "a", "b"]).run? [0, 0, 2, 0, 2, 0, 1, 1] = some renewed := by
  decide +kernel

/-- Nobody is kept out of a session by a lock that its last holder has yet to drop. -/
theorem new_lock_while_old_is_held :
    ∃ t, (start ["a", "a", "b"]).run? [0, 0, 2, 0, 2, 0, 1, 1] = some t ∧
      t.calls = [⟨"a", .tidied 0⟩, ⟨"a", .inside 2⟩, ⟨"b", .inside 1⟩] ∧
      (∀ (i j : Nat) (c d : LockingCall) (l m : Nat), t.calls[i]? = some c → t.calls[j]? = some d →
        c.id = d.id → c.stage = .inside l → d.stage = .inside m → i = j) ∧
      ∀ (i : Nat) (c : LockingCall) (l : Nat), t.calls[i]? = some c → c.stage.lock? = some l →
        t.lock? c.id = some l ∨ c.stage = .tidied l ∧ t.IsLast i l :=
  ⟨renewed, run_renewed, rfl, calls_exclude_each_other _ run_renewed⟩

/-- That a lock is held on to does not mean that the table has it: the first call holds on to the lock that it
has removed, and by then the table has another one for the session. -/
theorem lock_is_held_out_of_the_table :
    ∃ t, (start ["a", "a", "b"]).run? [0, 0, 2, 0, 2, 0, 1, 1] = some t ∧
      t.calls[0]? = some ⟨"a", .tidied 0⟩ ∧ t.lock? "a" = some 2 ∧
      ¬∀ (i : Nat) (c : LockingCall) (l : Nat), t.calls[i]? = some c → c.stage.lock? = some l →
        t.lock? c.id = some l := by
  refine ⟨renewed, run_renewed, rfl, rfl, ?_⟩
  intro hheld
  have hfirst : renewed.lock? "a" = some 0 := hheld 0 ⟨"a", .tidied 0⟩ 0 rfl rfl
  have hsecond : renewed.lock? "a" = some 2 := rfl
  rw [hfirst] at hsecond
  cases hsecond

end HttpMediation.LockTable
