import HttpMediation.Proofs.FailingStore
import HttpMediation.Session.Race
import Mathlib.Logic.Relation

/-!
# Progress — what rotations at the same time have made of the sessions

* `Progress`, `Progress.Next` : how far a rotation has come, and all that a step of it can do.
* `Progresses.Sound` : who is live is what the rotations have made of the sessions before.
* `Progresses.Sound.next` : every step keeps this, whoever takes it.
* `Progresses.Sound.live_unique`, `Progresses.Fresh.origin_unique` : sessions neither double nor merge.
-/

namespace HttpMediation

/-! ## How far a rotation has come -/

/-- How far a rotation has come, with the session that it has found and the bytes that it has drawn. -/
inductive Progress
  | waiting
  | reading
  | refused
  | found (old : Session)
  | named (old : Session) (id : List UInt8)
  | ready (old : Session) (id token : List UInt8)
  /-- The session is removed and not yet kept anew. -/
  | taken (old : Session) (id token : List UInt8)
  | moved (old : Session) (id token : List UInt8)

namespace Plan

variable {α : Type}

/-- What is left of a plan after the answer to its first call. -/
def answered (x : StoreAnswer) : Plan α → Plan α
  | call _ next => next x
  | p => p

/-- What is left of a plan after its first draw. -/
def given (bytes : List UInt8) : Plan α → Plan α
  | draw _ next => next bytes
  | p => p

end Plan

namespace Progress

variable {r : Rotator} {id k : String} {live live' before : Sessions} {random random' : RandomSource}
  {p q : Progress} {old s : Session} {c : Rotation}

/-- The session as the bytes make it. -/
def renew (old : Session) (id token : List UInt8) : Session :=
  Rotator.renewed old (Session.idOfBytes id, TokenManager.ofBytes token)

/-- What is left to do. -/
def plan? (r : Rotator) (id : String) : Progress → Option (Plan (Except Error Session × Unit))
  | waiting => none
  | reading => some (r.rotate id)
  | refused => some ((r.rotate id).answered (.ok none))
  | found old => some ((r.rotate id).answered (.ok (some old)))
  | named old b => some (((r.rotate id).answered (.ok (some old))).given b)
  | ready old b t => some ((((r.rotate id).answered (.ok (some old))).given b).given t)
  | taken old b t =>
    some (((((r.rotate id).answered (.ok (some old))).given b).given t).answered (.ok (some old)))
  | moved old b t =>
    some ((((((r.rotate id).answered (.ok (some old))).given b).given t).answered
      (.ok (some old))).answered (.ok none))

/-- What has been drawn. -/
def draws : Progress → List (List UInt8)
  | named _ b => [b]
  | ready _ b t | taken _ b t | moved _ b t => [b, t]
  | _ => []

/-- The rotation of an identifier that has come this far. -/
def rotation (r : Rotator) (id : String) (p : Progress) : Rotation :=
  ⟨id, p.plan? r id, p.draws⟩

/-- What has been returned. -/
def result? : Progress → Option (Except Error Session)
  | refused => some (.error Rotator.noSession)
  | moved old b t => some (.ok (renew old b t))
  | _ => none

/-- Whether the rotation has begun and not returned. -/
def isRunning : Progress → Bool
  | waiting | refused | moved _ _ _ => false
  | _ => true

/-- Whether no session was found. -/
def isRefused : Progress → Bool
  | refused => true
  | _ => false

/-- The session that was found and not removed yet. -/
def found? : Progress → Option Session
  | found old | named old _ | ready old _ _ => some old
  | _ => none

/-- The session that was removed and not kept anew yet. -/
def inHand? : Progress → Option Session
  | taken old _ _ => some old
  | _ => none

/-- Whether the session has been removed. -/
def hasTaken : Progress → Bool
  | taken _ _ _ | moved _ _ _ => true
  | _ => false

/-- The identifier that has been drawn. -/
def drawn? (p : Progress) : Option String :=
  p.draws.head?.map Session.idOfBytes

/-- The identifier that the session has been moved to. -/
def target? : Progress → Option String
  | moved _ b _ => some (Session.idOfBytes b)
  | _ => none

theorem inHand?_eq_none (h : p.hasTaken = false) : p.inHand? = none := by
  cases p <;> first | rfl | cases h

theorem target?_eq_none (h : p.hasTaken = false) : p.target? = none := by
  cases p <;> first | rfl | cases h

theorem drawn?_of_target? (h : p.target? = some k) : p.drawn? = some k := by
  cases p <;> first | exact h | cases h

theorem hasTaken_of_target? (h : p.target? = some k) : p.hasTaken = true := by
  cases p <;> first | rfl | cases h

theorem target?_of_result? (h : p.result? = some (.ok s)) : p.target? = some s.id := by
  cases p <;> cases h
  rfl

theorem exists_of_target? (h : p.target? = some k) : ∃ s, p.result? = some (.ok s) ∧ s.id = k := by
  cases p <;> cases h
  exact ⟨_, rfl, rfl⟩

theorem eq_of_result?_error {e : Error} (h : p.result? = some (.error e)) :
    e = .authentication "no active session" := by
  cases p <;> cases h
  rfl

theorem result?_rotation : (p.rotation r id).result? = p.result? := by
  cases p <;> rfl

theorem isRunning_rotation : (p.rotation r id).isRunning = p.isRunning := by
  cases p <;> rfl

/-- What a step of a rotation can do. -/
inductive Next (id : String) (live : Sessions) : Progress → Progress → Sessions → Prop
  | begins : Next id live waiting reading live
  | misses (hnone : live.get? id = none) : Next id live reading refused live
  | finds {old : Session} (hold : live.get? id = some old) : Next id live reading (found old) live
  | names (old : Session) (b : List UInt8) : Next id live (found old) (named old b) live
  | readies (old : Session) (b t : List UInt8) : Next id live (named old b) (ready old b t) live
  | takes (old : Session) (b t : List UInt8) :
    Next id live (ready old b t) (taken old b t) (live.erase id)
  | moves (old : Session) (b t : List UInt8) :
    Next id live (taken old b t) (moved old b t) (live.insert (Session.idOfBytes b) (renew old b t))

theorem Next.drawn? (h : Next id live p q live') (hk : p.drawn? = some k) : q.drawn? = some k := by
  cases h <;> first | exact hk | cases hk

theorem exists_next (h : (p.rotation r id).step? r live random = some (c, live', random')) :
    ∃ q, c = q.rotation r id ∧ Next id live p q live' := by
  cases p with
  | waiting =>
    cases h
    exact ⟨reading, rfl, .begins⟩
  | reading =>
    cases h
    cases hold : live.get? id with
    | none => exact ⟨refused, rfl, .misses hold⟩
    | some old => exact ⟨found old, rfl, .finds hold⟩
  | refused => cases h
  | found old =>
    cases h
    exact ⟨named old _, rfl, .names old _⟩
  | named old b =>
    cases h
    exact ⟨ready old b _, rfl, .readies old b _⟩
  | ready old b t =>
    cases h
    exact ⟨taken old b t, rfl, .takes old b t⟩
  | taken old b t =>
    cases h
    exact ⟨moved old b t, rfl, .moves old b t⟩
  | moved old b t => cases h

end Progress

/-! ## Sessions on their way -/

/-- Rotations by their identifiers, and how far they have come. -/
abbrev Progresses := List (String × Progress)

namespace Progresses

variable {ps : Progresses} {i j : Nat} {id k l : String} {p q u : Progress} {Q : Progress → Bool}

/-- A rotation of the identifier is as `Q` says. -/
def Has (ps : Progresses) (k : String) (Q : Progress → Bool) : Prop :=
  ∃ (j : Nat) (p : Progress), ps[j]? = some (k, p) ∧ Q p = true

/-- Of the rotations of an identifier one at most is as `Q` says. -/
def Single (ps : Progresses) (Q : Progress → Bool) : Prop :=
  ∀ (i j : Nat) (k : String) (p q : Progress), ps[i]? = some (k, p) → ps[j]? = some (k, q) →
    Q p = true → Q q = true → i = j

theorem cases_of_set (h : ps[i]? = some (id, p)) (hj : (ps.set i (id, q))[j]? = some (k, u)) :
    j = i ∧ k = id ∧ u = q ∨ j ≠ i ∧ ps[j]? = some (k, u) := by
  obtain ⟨hlt, -⟩ := List.getElem?_eq_some_iff.mp h
  by_cases hij : j = i
  · subst hij
    rw [List.getElem?_set_self hlt] at hj
    obtain ⟨rfl, rfl⟩ := Prod.mk.inj (Option.some.inj hj)
    exact .inl ⟨rfl, rfl, rfl⟩
  · rw [List.getElem?_set_ne (Ne.symm hij)] at hj
    exact .inr ⟨hij, hj⟩

theorem getElem?_set_self (h : ps[i]? = some (id, p)) : (ps.set i (id, q))[i]? = some (id, q) := by
  obtain ⟨hlt, -⟩ := List.getElem?_eq_some_iff.mp h
  exact List.getElem?_set_self hlt

theorem getElem?_set_of_ne (hij : j ≠ i) : (ps.set i (id, q))[j]? = ps[j]? :=
  List.getElem?_set_ne (Ne.symm hij)

theorem has_of_set (h : ps[i]? = some (id, p)) (hset : Has (ps.set i (id, q)) k Q) :
    k = id ∧ Q q = true ∨ ps.Has k Q := by
  obtain ⟨j, u, hu, hQ⟩ := hset
  rcases cases_of_set h hu with ⟨-, rfl, rfl⟩ | ⟨-, hu⟩
  · exact .inl ⟨rfl, hQ⟩
  · exact .inr ⟨j, u, hu, hQ⟩

theorem has_set_of_has (h : ps[i]? = some (id, p)) (hQ : Q p = true → Q q = true) (hhas : ps.Has k Q) :
    Has (ps.set i (id, q)) k Q := by
  obtain ⟨j, u, hu, hQu⟩ := hhas
  by_cases hj : j = i
  · subst hj
    rw [h] at hu
    obtain ⟨rfl, rfl⟩ := Prod.mk.inj (Option.some.inj hu)
    exact ⟨j, q, getElem?_set_self h, hQ hQu⟩
  · exact ⟨j, u, by rw [getElem?_set_of_ne hj, hu], hQu⟩

/-- What a step does not change of its rotation it changes of none. -/
theorem has_set_iff (h : ps[i]? = some (id, p)) (hQ : Q q = Q p) :
    Has (ps.set i (id, q)) k Q ↔ ps.Has k Q := by
  constructor
  · intro hset
    rcases has_of_set h hset with ⟨rfl, hq⟩ | hhas
    · exact ⟨i, p, h, hQ ▸ hq⟩
    · exact hhas
  · exact has_set_of_has h fun hp => hQ.trans hp

theorem Single.set (hsingle : ps.Single Q) (h : ps[i]? = some (id, p))
    (hQ : Q q = true → Q p = true ∨ ¬ps.Has id Q) : Single (ps.set i (id, q)) Q := by
  -- Whoever else is as `Q` says, for the same identifier, is the rotation that goes on.
  have hself : ∀ (j : Nat) (u : Progress), ps[j]? = some (id, u) → Q u = true → Q q = true → j = i := by
    intro j u hu hQu hQq
    rcases hQ hQq with hQp | hnone
    · exact hsingle j i id u p hu h hQu hQp
    · exact absurd ⟨j, u, hu, hQu⟩ hnone
  intro m n k u v hu hv hQu hQv
  rcases cases_of_set h hu with ⟨hm, hk, rfl⟩ | ⟨-, hother⟩
  · rcases cases_of_set h hv with ⟨hn, -, -⟩ | ⟨-, hother⟩
    · exact hm.trans hn.symm
    · exact hm.trans (hself n v (hk ▸ hother) hQv hQu).symm
  · rcases cases_of_set h hv with ⟨hn, hk, rfl⟩ | ⟨-, hv⟩
    · exact (hself m u (hk ▸ hother) hQu hQv).trans hn.symm
    · exact hsingle m n k u v hother hv hQu hQv

/-- The session has been removed from the identifier. -/
def Taken (ps : Progresses) (k : String) : Prop :=
  ps.Has k (·.hasTaken)

/-- The session has been removed from the identifier and is not kept anew yet. -/
def InHand (ps : Progresses) (k : String) (s : Session) : Prop :=
  ps.Has k (·.inHand? == some s)

/-- The session of the first identifier is the one that was then kept under the second. -/
def Moved (ps : Progresses) (k l : String) : Prop :=
  ps.Has k (·.target? == some l)

/-- The session of the first identifier has come to the second by rotations. -/
def Descends (ps : Progresses) : String → String → Prop :=
  Relation.ReflTransGen ps.Moved

/-- Sessions have stood under the identifier. -/
def Born (before : Sessions) (ps : Progresses) (k : String) : Prop :=
  (before.get? k).isSome ∨ ∃ l, ps.Moved l k

section SameTargets

variable (hp : ps[i]? = some (id, p)) (htarget : q.target? = p.target?)
include hp htarget

theorem moved_set : Moved (ps.set i (id, q)) = ps.Moved := by
  funext k l
  exact propext (has_set_iff hp (by rw [htarget]))

theorem descends_set : Descends (ps.set i (id, q)) = ps.Descends := by
  rw [Descends, moved_set hp htarget, Descends]

theorem born_set_iff {before : Sessions} : Born before (ps.set i (id, q)) k ↔ Born before ps k := by
  rw [Born, moved_set hp htarget, Born]

end SameTargets

/-- The session stands under the identifier, or a rotation has it in hand. -/
def Present (live : Sessions) (ps : Progresses) (k : String) (s : Session) : Prop :=
  live.get? k = some s ∨ ps.InHand k s

/-- What every step keeps: who is live is what the rotations have made of the sessions before. -/
structure Sound (before live : Sessions) (ps : Progresses) : Prop where
  alone : ps.Single (·.isRunning)
  once : ps.Single (·.hasTaken)
  found : ∀ (i : Nat) (k : String) (p : Progress) (s : Session), ps[i]? = some (k, p) →
    p.found? = some s → live.get? k = some s
  missed : ∀ k, ps.Has k (·.isRefused) → (before.get? k).isSome → ps.Taken k
  born : ∀ k, ps.Taken k → Born before ps k
  current : ∀ k, (live.get? k).isSome ↔ Born before ps k ∧ ¬ps.Taken k
  size : live.size + ps.countP (·.2.inHand?.isSome) = before.size
  kept : ∀ k old, before.get? k = some old →
    ∃ l s, ps.Descends k l ∧ Present live ps l s ∧ s.attributes = old.attributes
  origin : ∀ l s, Present live ps l s →
    ∃ k old, before.get? k = some old ∧ ps.Descends k l ∧ s.attributes = old.attributes

/-- What has been drawn does not repeat and names no session that was there before. -/
structure Fresh (before : Sessions) (ps : Progresses) : Prop where
  apart : ∀ (i j : Nat) (k l m : String) (p q : Progress), ps[i]? = some (k, p) →
    ps[j]? = some (l, q) → p.drawn? = some m → q.drawn? = some m → i = j
  unused : ∀ (i : Nat) (k m : String) (p : Progress), ps[i]? = some (k, p) →
    p.drawn? = some m → before.get? m = none

theorem countP_set_eq {R : String × Progress → Bool} (h : ps[i]? = some (id, p))
    (hR : R (id, q) = R (id, p)) :
    (ps.set i (id, q)).countP R = ps.countP R := by
  obtain ⟨hlt, hget⟩ := List.getElem?_eq_some_iff.mp h
  have hle : (if R (id, p) = true then 1 else 0) ≤ ps.countP R := by
    rw [← hget]
    exact List.boole_getElem_le_countP hlt
  rw [List.countP_set hlt, hget, hR]
  omega

theorem countP_set_gained {R : String × Progress → Bool} (h : ps[i]? = some (id, p))
    (hq : R (id, q) = true) (hp : R (id, p) = false) :
    (ps.set i (id, q)).countP R = ps.countP R + 1 := by
  obtain ⟨hlt, hget⟩ := List.getElem?_eq_some_iff.mp h
  rw [List.countP_set hlt, hget, hp, hq]
  simp

theorem countP_set_lost {R : String × Progress → Bool} (h : ps[i]? = some (id, p))
    (hq : R (id, q) = false) (hp : R (id, p) = true) :
    (ps.set i (id, q)).countP R + 1 = ps.countP R := by
  obtain ⟨hlt, hget⟩ := List.getElem?_eq_some_iff.mp h
  have hle : 1 ≤ ps.countP R :=
    List.countP_pos_iff.mpr ⟨(id, p), List.mem_of_getElem? h, hp⟩
  rw [List.countP_set hlt, hget, hp, hq]
  simp only [if_true, Bool.false_eq_true, if_false]
  omega

section Steps

variable {before live : Sessions} {old : Session} {b t : List UInt8} (h : Sound before live ps)
  (hp : ps[i]? = some (id, p))
include h

theorem Sound.live_of_born {k : String} (hborn : Born before ps k) (htaken : ¬ps.Taken k) :
    (live.get? k).isSome :=
  (h.current k).mpr ⟨hborn, htaken⟩

theorem Sound.not_taken_of_live {k : String} (hlive : (live.get? k).isSome) : ¬ps.Taken k :=
  ((h.current k).mp hlive).2

/-- Another rotation has found a session that stays where it is when this one is removed or kept anew. -/
theorem Sound.ne_of_found {k : String} {s : Session} (hp : ps[i]? = some (id, p))
    (hrunning : p.isRunning = true) (hu : ps[j]? = some (k, u)) (hfound : u.found? = some s) (hj : j ≠ i) :
    k ≠ id := by
  rintro rfl
  have hurunning : u.isRunning = true := by
    cases u <;> first | rfl | cases hfound
  exact hj (h.alone j i k u p hu hp hurunning hrunning)

include hp

/-- A step that leaves the store alone, of a rotation that has not removed the session. -/
theorem Sound.still (hptaken : p.hasTaken = false) (hqtaken : q.hasTaken = false)
    (halone : q.isRunning = true → p.isRunning = true ∨ ¬ps.Has id (·.isRunning))
    (hfound : ∀ s, q.found? = some s → live.get? id = some s)
    (hmissed : q.isRefused = true → (before.get? id).isSome → ps.Taken id) :
    Sound before live (ps.set i (id, q)) := by
  have htaken : ∀ k, Taken (ps.set i (id, q)) k ↔ ps.Taken k := fun k =>
    has_set_iff hp (hqtaken.trans hptaken.symm)
  have hhand : ∀ k s, InHand (ps.set i (id, q)) k s ↔ ps.InHand k s := fun k s =>
    has_set_iff hp (by rw [Progress.inHand?_eq_none hptaken, Progress.inHand?_eq_none hqtaken])
  have htarget : q.target? = p.target? := by
    rw [Progress.target?_eq_none hptaken, Progress.target?_eq_none hqtaken]
  have hpresent : ∀ k s, Present live (ps.set i (id, q)) k s ↔ Present live ps k s := by
    intro k s
    rw [Present, hhand, Present]
  constructor
  case alone =>
    exact h.alone.set hp halone
  case once =>
    exact h.once.set hp fun hq => absurd (hqtaken.symm.trans hq) Bool.false_ne_true
  case found =>
    intro j k u s hu hs
    rcases cases_of_set hp hu with ⟨-, rfl, rfl⟩ | ⟨-, hu⟩
    · exact hfound s hs
    · exact h.found j k u s hu hs
  case missed =>
    intro k hk hbefore
    rw [htaken]
    rcases has_of_set hp hk with ⟨rfl, hq⟩ | hk
    · exact hmissed hq hbefore
    · exact h.missed k hk hbefore
  case born =>
    intro k hk
    exact (born_set_iff hp htarget).mpr (h.born k ((htaken k).mp hk))
  case current =>
    intro k
    rw [born_set_iff hp htarget, htaken]
    exact h.current k
  case size =>
    rw [countP_set_eq hp]
    · exact h.size
    · rw [Progress.inHand?_eq_none hptaken, Progress.inHand?_eq_none hqtaken]
  case kept =>
    intro k old hold
    obtain ⟨l, s, hdescends, hs, hattributes⟩ := h.kept k old hold
    refine ⟨l, s, ?_, (hpresent l s).mpr hs, hattributes⟩
    rw [descends_set hp htarget]
    exact hdescends
  case origin =>
    intro l s hs
    obtain ⟨k, old, hold, hdescends, hattributes⟩ := h.origin l s ((hpresent l s).mp hs)
    refine ⟨k, old, hold, ?_, hattributes⟩
    rw [descends_set hp htarget]
    exact hdescends

omit hp

/-- A step that removes the session that the rotation has found. -/
theorem Sound.take (hp : ps[i]? = some (id, .ready old b t)) :
    Sound before (live.erase id) (ps.set i (id, .taken old b t)) := by
  have hold : live.get? id = some old := h.found i id _ old hp rfl
  have hfree : ¬ps.Taken id := h.not_taken_of_live (by rw [hold]; rfl)
  have htaken : ∀ k, Taken (ps.set i (id, .taken old b t)) k ↔ k = id ∨ ps.Taken k := by
    intro k
    constructor
    · intro hk
      exact (has_of_set hp hk).imp_left And.left
    · rintro (rfl | hk)
      · exact ⟨i, _, getElem?_set_self hp, rfl⟩
      · exact has_set_of_has hp (fun hready => nomatch hready) hk
  have hborn : ∀ k, Born before (ps.set i (id, .taken old b t)) k ↔ Born before ps k := fun k =>
    born_set_iff hp (q := .taken old b t) rfl
  have hdescends : Descends (ps.set i (id, .taken old b t)) = ps.Descends :=
    descends_set hp (q := .taken old b t) rfl
  constructor
  case alone =>
    exact h.alone.set hp fun _ => .inl rfl
  case once =>
    exact h.once.set hp fun _ => .inr hfree
  case found =>
    intro j k u s hu hs
    rcases cases_of_set hp hu with ⟨-, rfl, rfl⟩ | ⟨hj, hu⟩
    · cases hs
    · rw [Dict.get?_erase_of_ne (h.ne_of_found hp rfl hu hs hj)]
      exact h.found j k u s hu hs
  case missed =>
    intro k hk hbefore
    rw [htaken]
    rcases has_of_set hp hk with ⟨-, hq⟩ | hk
    · cases hq
    · exact .inr (h.missed k hk hbefore)
  case born =>
    intro k hk
    rw [hborn]
    rcases (htaken k).mp hk with rfl | hk
    · exact ((h.current k).mp (by rw [hold]; rfl)).1
    · exact h.born k hk
  case current =>
    intro k
    rw [hborn, htaken, Dict.get?_erase]
    by_cases hk : k = id
    · simp [hk]
    · simp [hk, h.current k]
  case size =>
    have hsize := Dict.size_erase hold
    rw [countP_set_gained hp rfl rfl, ← h.size]
    omega
  case kept =>
    intro k first hfirst
    obtain ⟨l, s, hkl, hs, hattributes⟩ := h.kept k first hfirst
    refine ⟨l, s, by rw [hdescends]; exact hkl, ?_, hattributes⟩
    rcases hs with hs | hs
    · by_cases hl : l = id
      · subst hl
        obtain rfl := Option.some.inj (hold.symm.trans hs)
        exact .inr ⟨i, _, getElem?_set_self hp, beq_self_eq_true _⟩
      · left
        rw [Dict.get?_erase_of_ne hl]
        exact hs
    · exact .inr (has_set_of_has hp (fun hready => nomatch hready) hs)
  case origin =>
    intro l s hs
    have hpresent : Present live ps l s := by
      rcases hs with hs | hs
      · left
        rw [Dict.get?_erase] at hs
        split at hs
        · cases hs
        · exact hs
      · rcases has_of_set hp hs with ⟨rfl, hq⟩ | hs
        · left
          rw [hold]
          exact beq_iff_eq.mp hq
        · exact .inr hs
    obtain ⟨k, first, hfirst, hkl, hattributes⟩ := h.origin l s hpresent
    exact ⟨k, first, hfirst, by rw [hdescends]; exact hkl, hattributes⟩

/-- A step that keeps the session under the identifier that the rotation has drawn. -/
theorem Sound.move (hfresh : Fresh before ps) (hp : ps[i]? = some (id, .taken old b t)) :
    Sound before (live.insert (Session.idOfBytes b) (Progress.renew old b t))
      (ps.set i (id, .moved old b t)) := by
  have hunused : ¬Born before ps (Session.idOfBytes b) := by
    rintro (hbefore | ⟨l, j, u, hu, htarget⟩)
    · rw [hfresh.unused i id _ _ hp rfl] at hbefore
      cases hbefore
    · have hdrawn := Progress.drawn?_of_target? (beq_iff_eq.mp htarget)
      obtain rfl := hfresh.apart j i l id _ u _ hu hp hdrawn rfl
      rw [hp] at hu
      obtain ⟨-, rfl⟩ := Prod.mk.inj (Option.some.inj hu)
      cases htarget
  have hdead : live.get? (Session.idOfBytes b) = none := by
    cases hlive : live.get? (Session.idOfBytes b) with
    | none => rfl
    | some s => exact absurd ((h.current _).mp (by rw [hlive]; rfl)).1 hunused
  have hne : ∀ l s, live.get? l = some s → l ≠ Session.idOfBytes b := by
    rintro l s hl rfl
    rw [hdead] at hl
    cases hl
  have htaken : ∀ k, Taken (ps.set i (id, .moved old b t)) k ↔ ps.Taken k := fun k =>
    has_set_iff hp rfl
  have hnew : Moved (ps.set i (id, .moved old b t)) id (Session.idOfBytes b) :=
    ⟨i, _, getElem?_set_self hp, beq_self_eq_true _⟩
  have hmono : ∀ k l, ps.Moved k l → Moved (ps.set i (id, .moved old b t)) k l := fun k l =>
    has_set_of_has hp fun htarget => nomatch htarget
  have hmoved : ∀ k l, Moved (ps.set i (id, .moved old b t)) k l →
      k = id ∧ l = Session.idOfBytes b ∨ ps.Moved k l := by
    intro k l hkl
    refine (has_of_set hp hkl).imp_left fun ⟨hk, htarget⟩ => ⟨hk, ?_⟩
    exact (Option.some.inj (beq_iff_eq.mp htarget)).symm
  have hborn : ∀ k, Born before (ps.set i (id, .moved old b t)) k ↔
      k = Session.idOfBytes b ∨ Born before ps k := by
    intro k
    constructor
    · rintro (hbefore | ⟨l, hl⟩)
      · exact .inr (.inl hbefore)
      · exact (hmoved l k hl).imp And.right fun hl => .inr ⟨l, hl⟩
    · rintro (rfl | hbefore | ⟨l, hl⟩)
      · exact .inr ⟨id, hnew⟩
      · exact .inl hbefore
      · exact .inr ⟨l, hmono l k hl⟩
  have hdescends : ∀ k l, ps.Descends k l → Descends (ps.set i (id, .moved old b t)) k l :=
    fun k l => Relation.ReflTransGen.mono hmono k l
  constructor
  case alone =>
    exact h.alone.set hp fun hq => nomatch hq
  case once =>
    exact h.once.set hp fun _ => .inl rfl
  case found =>
    intro j k u s hu hs
    rcases cases_of_set hp hu with ⟨-, rfl, rfl⟩ | ⟨-, hu⟩
    · cases hs
    · have hlive := h.found j k u s hu hs
      rw [Dict.get?_insert_of_ne (hne k s hlive)]
      exact hlive
  case missed =>
    intro k hk hbefore
    rw [htaken]
    rcases has_of_set hp hk with ⟨-, hq⟩ | hk
    · cases hq
    · exact h.missed k hk hbefore
  case born =>
    intro k hk
    exact (hborn k).mpr (.inr (h.born k ((htaken k).mp hk)))
  case current =>
    intro k
    rw [hborn, htaken]
    by_cases hk : k = Session.idOfBytes b
    · subst hk
      have hfree : ¬ps.Taken (Session.idOfBytes b) := fun hk => hunused (h.born _ hk)
      simp [hfree]
    · rw [Dict.get?_insert_of_ne hk, h.current k]
      simp [hk]
  case size =>
    have hcount := countP_set_lost hp (q := .moved old b t) (R := (·.2.inHand?.isSome)) rfl rfl
    rw [Dict.size_insert hdead, ← h.size]
    omega
  case kept =>
    intro k first hfirst
    obtain ⟨l, s, hkl, hs, hattributes⟩ := h.kept k first hfirst
    rcases hs with hs | ⟨j, u, hu, hhand⟩
    · refine ⟨l, s, hdescends k l hkl, .inl ?_, hattributes⟩
      rw [Dict.get?_insert_of_ne (hne l s hs)]
      exact hs
    · by_cases hj : j = i
      · -- this is the session that is kept now
        subst hj
        rw [hp] at hu
        obtain ⟨rfl, rfl⟩ := Prod.mk.inj (Option.some.inj hu)
        obtain rfl := Option.some.inj (beq_iff_eq.mp hhand)
        exact ⟨_, _, (hdescends k id hkl).tail hnew, .inl (Dict.get?_insert_self _ _ _), hattributes⟩
      · refine ⟨l, s, hdescends k l hkl, .inr ⟨j, u, ?_, hhand⟩, hattributes⟩
        rw [getElem?_set_of_ne hj]
        exact hu
  case origin =>
    intro l s hs
    have hpresent : l = Session.idOfBytes b ∧ s = Progress.renew old b t ∨ Present live ps l s := by
      rcases hs with hs | hs
      · by_cases hl : l = Session.idOfBytes b
        · subst hl
          rw [Dict.get?_insert_self] at hs
          exact .inl ⟨rfl, (Option.some.inj hs).symm⟩
        · rw [Dict.get?_insert_of_ne hl] at hs
          exact .inr (.inl hs)
      · rcases has_of_set hp hs with ⟨-, hq⟩ | hs
        · cases hq
        · exact .inr (.inr hs)
    rcases hpresent with ⟨rfl, rfl⟩ | hpresent
    · have hhand : Present live ps id old := .inr ⟨i, _, hp, beq_self_eq_true _⟩
      obtain ⟨k, first, hfirst, hkl, hattributes⟩ := h.origin id old hhand
      exact ⟨k, first, hfirst, (hdescends k id hkl).tail hnew, hattributes⟩
    · obtain ⟨k, first, hfirst, hkl, hattributes⟩ := h.origin l s hpresent
      exact ⟨k, first, hfirst, hdescends k l hkl, hattributes⟩

/-- Every step keeps who is live in line with what the rotations have made of the sessions before.  A
rotation begins only when no other one of its identifier is running. -/
theorem Sound.next {live' : Sessions} (hfresh : Fresh before ps) (hp : ps[i]? = some (id, p))
    (hnext : Progress.Next id live p q live') (hbegin : p = .waiting → ¬ps.Has id (·.isRunning)) :
    Sound before live' (ps.set i (id, q)) := by
  cases hnext with
  | begins =>
    exact h.still hp rfl rfl (fun _ => .inr (hbegin rfl)) (fun _ hs => nomatch hs) (fun hq => nomatch hq)
  | misses hnone =>
    refine h.still hp rfl rfl (fun hq => nomatch hq) (fun _ hs => nomatch hs) fun _ hbefore => ?_
    refine Classical.byContradiction fun hfree => ?_
    have hlive := h.live_of_born (.inl hbefore) hfree
    rw [hnone] at hlive
    cases hlive
  | finds hold =>
    refine h.still hp rfl rfl (fun _ => .inl rfl) (fun s hs => ?_) (fun hq => nomatch hq)
    obtain rfl := Option.some.inj hs
    exact hold
  | names old b =>
    exact h.still hp rfl rfl (fun _ => .inl rfl) (fun s hs => h.found i id _ s hp hs) (fun hq => nomatch hq)
  | readies old b t =>
    exact h.still hp rfl rfl (fun _ => .inl rfl) (fun s hs => h.found i id _ s hp hs) (fun hq => nomatch hq)
  | takes old b t => exact h.take hp
  | moves old b t => exact h.move hfresh hp

end Steps

theorem sound_start (before : Sessions) (ids : List String) :
    Sound before before (ids.map fun id => (id, .waiting)) := by
  have hwaiting : ∀ (i : Nat) (k : String) (p : Progress),
      (ids.map fun id => (id, Progress.waiting))[i]? = some (k, p) → p = .waiting := by
    intro i k p hp
    obtain ⟨id, -, heq⟩ := List.mem_map.mp (List.mem_of_getElem? hp)
    exact (Prod.mk.inj heq).2.symm
  have hnone : ∀ (k : String) (Q : Progress → Bool), Q .waiting = false →
      ¬Has (ids.map fun id => (id, .waiting)) k Q := by
    rintro k Q hQ ⟨j, p, hp, hQp⟩
    rw [hwaiting j k p hp, hQ] at hQp
    cases hQp
  have hborn : ∀ k, Born before (ids.map fun id => (id, .waiting)) k ↔ (before.get? k).isSome := by
    intro k
    constructor
    · rintro (hbefore | ⟨l, hl⟩)
      · exact hbefore
      · exact absurd hl (hnone l _ rfl)
    · exact .inl
  constructor
  case alone =>
    intro i j k p q hp _ hrunning _
    rw [hwaiting i k p hp] at hrunning
    cases hrunning
  case once =>
    intro i j k p q hp _ htaken _
    rw [hwaiting i k p hp] at htaken
    cases htaken
  case found =>
    intro i k p s hp hs
    rw [hwaiting i k p hp] at hs
    cases hs
  case missed =>
    exact fun k hk => absurd hk (hnone k _ rfl)
  case born =>
    exact fun k hk => absurd hk (hnone k _ rfl)
  case current =>
    intro k
    rw [hborn]
    exact ⟨fun hlive => ⟨hlive, hnone k _ rfl⟩, And.left⟩
  case size =>
    have hcount : (ids.map fun id => (id, Progress.waiting)).countP (·.2.inHand?.isSome) = 0 := by
      refine List.countP_eq_zero.mpr fun e he => ?_
      obtain ⟨id, -, rfl⟩ := List.mem_map.mp he
      exact Bool.false_ne_true
    rw [hcount, Nat.add_zero]
  case kept =>
    exact fun k old hold => ⟨k, old, .refl, .inl hold, rfl⟩
  case origin =>
    rintro l s (hs | hs)
    · exact ⟨l, s, hs, .refl, rfl⟩
    · exact absurd hs (hnone l _ rfl)

theorem Fresh.of_set {before : Sessions} (hfresh : Fresh before (ps.set i (id, q)))
    (hp : ps[i]? = some (id, p)) (hdrawn : ∀ k, p.drawn? = some k → q.drawn? = some k) : Fresh before ps := by
  -- Every rotation is still there, with what it has drawn.
  have hstill : ∀ (j : Nat) (k m : String) (u : Progress), ps[j]? = some (k, u) → u.drawn? = some m →
      ∃ v, (ps.set i (id, q))[j]? = some (k, v) ∧ v.drawn? = some m := by
    intro j k m u hu hm
    by_cases hj : j = i
    · subst hj
      rw [hp] at hu
      obtain ⟨rfl, rfl⟩ := Prod.mk.inj (Option.some.inj hu)
      exact ⟨q, getElem?_set_self hp, hdrawn m hm⟩
    · exact ⟨u, by rw [getElem?_set_of_ne hj, hu], hm⟩
  constructor
  · intro j n k l m u v hu hv hum hvm
    obtain ⟨u', hu', hum'⟩ := hstill j k m u hu hum
    obtain ⟨v', hv', hvm'⟩ := hstill n l m v hv hvm
    exact hfresh.apart j n k l m u' v' hu' hv' hum' hvm'
  · intro j k m u hu hum
    obtain ⟨u', hu', hum'⟩ := hstill j k m u hu hum
    exact hfresh.unused j k m u' hu' hum'

/-! ## Lines of sessions -/

section Lines

variable {before live : Sessions} {m : String}

theorem Moved.taken (h : ps.Moved k l) : ps.Taken k := by
  obtain ⟨i, p, hp, htarget⟩ := h
  exact ⟨i, p, hp, Progress.hasTaken_of_target? (beq_iff_eq.mp htarget)⟩

theorem Sound.moved_unique (h : Sound before live ps) (hl : ps.Moved k l) (hm : ps.Moved k m) : l = m := by
  obtain ⟨i, p, hp, hpl⟩ := hl
  obtain ⟨j, q, hq, hqm⟩ := hm
  have hptaken := Progress.hasTaken_of_target? (beq_iff_eq.mp hpl)
  have hqtaken := Progress.hasTaken_of_target? (beq_iff_eq.mp hqm)
  obtain rfl := h.once i j k p q hp hq hptaken hqtaken
  rw [hp] at hq
  obtain ⟨-, rfl⟩ := Prod.mk.inj (Option.some.inj hq)
  exact Option.some.inj ((beq_iff_eq.mp hpl).symm.trans (beq_iff_eq.mp hqm))

theorem Fresh.moved_injective (h : Fresh before ps) (hk : ps.Moved k m) (hl : ps.Moved l m) : k = l := by
  obtain ⟨i, p, hp, hpm⟩ := hk
  obtain ⟨j, q, hq, hqm⟩ := hl
  have hpdrawn := Progress.drawn?_of_target? (beq_iff_eq.mp hpm)
  have hqdrawn := Progress.drawn?_of_target? (beq_iff_eq.mp hqm)
  obtain rfl := h.apart i j k l m p q hp hq hpdrawn hqdrawn
  rw [hp] at hq
  exact (Prod.mk.inj (Option.some.inj hq)).1

theorem Fresh.not_moved (h : Fresh before ps) (hm : (before.get? m).isSome) : ¬ps.Moved k m := by
  rintro ⟨i, p, hp, hpm⟩
  rw [h.unused i k m p hp (Progress.drawn?_of_target? (beq_iff_eq.mp hpm))] at hm
  cases hm

/-- A session that was moved on is not live where it was. -/
theorem Sound.eq_of_descends (h : Sound before live ps) (hlm : ps.Descends l m) (hl : (live.get? l).isSome) :
    l = m := by
  rcases Relation.ReflTransGen.cases_head hlm with heq | ⟨n, hn, -⟩
  · exact heq
  · exact absurd hn.taken (h.not_taken_of_live hl)

theorem Sound.live_unique (h : Sound before live ps) (hl : ps.Descends k l) (hm : ps.Descends k m)
    (hllive : (live.get? l).isSome) (hmlive : (live.get? m).isSome) : l = m := by
  have hunique : Relator.RightUnique ps.Moved := fun _ _ _ => h.moved_unique
  rcases Relation.ReflTransGen.total_of_right_unique hunique hl hm with hlm | hml
  · exact h.eq_of_descends hlm hllive
  · exact (h.eq_of_descends hml hmlive).symm

/-- Sessions do not merge. -/
theorem Fresh.origin_unique (h : Fresh before ps) (hk : ps.Descends k m) (hl : ps.Descends l m)
    (hkbefore : (before.get? k).isSome) (hlbefore : (before.get? l).isSome) : k = l := by
  induction hk with
  | refl =>
    rcases Relation.ReflTransGen.cases_tail hl with heq | ⟨n, -, hn⟩
    · exact heq
    · exact absurd hn (h.not_moved hkbefore)
  | tail _ hmove ih =>
    rcases Relation.ReflTransGen.cases_tail hl with rfl | ⟨n, hln, hn⟩
    · exact absurd hmove (h.not_moved hlbefore)
    · obtain rfl := h.moved_injective hmove hn
      exact ih hln

end Lines

end Progresses

end HttpMediation
