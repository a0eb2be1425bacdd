import HttpMediation.Proofs.NormalPath
import Mathlib.Order.Bounds.Basic

/-!
# DotSegments — what the steps up of a path take back

A path is read as a walk over its segments: a name leads one directory down, `..` leads one up, and an empty
segment or `.` stays.  `Path.follow` keeps the names of the walk on a stack.  Here the same walk is described by
places in the list of segments.

* `Path.Climbs` : some initial run of the segments has more steps up than names.
* `Path.Cancels` : the `..` at one place takes back the name at another, what is between them being level.
* `Path.follow_eq` : what is left on the stack, from any directory.
* `Path.cancels_iff_isGreatest` : a `..` takes back the nearest name that is still standing.
* `Path.normalize_removes_dot_segments` : a normal form has the names that nothing takes back.
-/

namespace HttpMediation.Path

/-! ## Walks -/

/-- How many segments lead a directory down. -/
def downs (segs : List (List Char)) : Nat :=
  segs.countP fun s => !isDirectoryMark s

/-- How many segments lead a directory up. -/
def ups (segs : List (List Char)) : Nat :=
  segs.count ['.', '.']

/-- Some initial run of the segments leads above the directory that it starts from. -/
def Climbs (segs : List (List Char)) : Prop :=
  ∃ run, run <+: segs ∧ downs run < ups run

/-- The segments come back to the directory that they start from and never lead above it. -/
def Level (segs : List (List Char)) : Prop :=
  ¬ Climbs segs ∧ downs segs = ups segs

/-- At the place there is a name: neither an empty segment nor one of dots. -/
def NameAt (segs : List (List Char)) (i : Nat) : Prop :=
  ∃ n, segs[i]? = some n ∧ isDirectoryMark n = false

/-- The segments behind place `i` and before place `j`. -/
def between (segs : List (List Char)) (i j : Nat) : List (List Char) :=
  (segs.take j).drop (i + 1)

/-- The `..` at place `j` takes back the name at place `i`: what is between them is level. -/
def Cancels (segs : List (List Char)) (i j : Nat) : Prop :=
  i < j ∧ NameAt segs i ∧ segs[j]? = some ['.', '.'] ∧ Level (between segs i j)

/-- The places of the names before place `j` that nothing before place `j` takes back. -/
def standing (segs : List (List Char)) (j : Nat) : Set Nat :=
  {i | i < j ∧ NameAt segs i ∧ ∀ k < j, ¬ Cancels segs i k}

/-- How many directories above the one that they start from the segments lead at most. -/
def climb : List (List Char) → Nat
  | [] => 0
  | s :: r =>
    if s = ['.', '.'] then climb r + 1 else if isDirectoryMark s then climb r else climb r - 1

/-- The names behind which nothing climbs. -/
def remaining : List (List Char) → List (List Char)
  | [] => []
  | s :: r => if !isDirectoryMark s && climb r == 0 then s :: remaining r else remaining r

/-! ### One segment more -/

section Segment

variable {s : List Char} {r : List (List Char)}

@[simp] theorem downs_nil : downs [] = 0 := rfl

@[simp] theorem ups_nil : ups [] = 0 := rfl

@[simp] theorem climb_nil : climb [] = 0 := rfl

@[simp] theorem remaining_nil : remaining [] = [] := rfl

theorem downs_append (a b : List (List Char)) : downs (a ++ b) = downs a + downs b :=
  List.countP_append

theorem ups_append (a b : List (List Char)) : ups (a ++ b) = ups a + ups b :=
  List.count_append

/-- A segment leads up, stays or leads down. -/
theorem segment_cases (s : List Char) :
    s = ['.', '.'] ∨ (s ≠ ['.', '.'] ∧ isDirectoryMark s = true) ∨
      (s ≠ ['.', '.'] ∧ isDirectoryMark s = false) := by
  by_cases hup : s = ['.', '.']
  · exact .inl hup
  · cases hmark : isDirectoryMark s
    · exact .inr (.inr ⟨hup, rfl⟩)
    · exact .inr (.inl ⟨hup, rfl⟩)

theorem ne_up_of_name (h : isDirectoryMark s = false) : s ≠ ['.', '.'] := by
  rintro rfl
  simp [isDirectoryMark] at h

@[simp] theorem downs_up : downs (['.', '.'] :: r) = downs r := by
  simp [downs, isDirectoryMark]

@[simp] theorem ups_up : ups (['.', '.'] :: r) = ups r + 1 := by
  simp [ups]

@[simp] theorem climb_up : climb (['.', '.'] :: r) = climb r + 1 := by
  simp [climb]

@[simp] theorem remaining_up : remaining (['.', '.'] :: r) = remaining r := by
  simp [remaining, isDirectoryMark]

theorem downs_stay (hmark : isDirectoryMark s = true) : downs (s :: r) = downs r := by
  simp [downs, hmark]

theorem ups_of_ne (hup : s ≠ ['.', '.']) : ups (s :: r) = ups r := by
  simp [ups, hup]

theorem climb_stay (hup : s ≠ ['.', '.']) (hmark : isDirectoryMark s = true) : climb (s :: r) = climb r := by
  simp [climb, hup, hmark]

theorem remaining_stay (hmark : isDirectoryMark s = true) : remaining (s :: r) = remaining r := by
  simp [remaining, hmark]

theorem downs_name (hname : isDirectoryMark s = false) : downs (s :: r) = downs r + 1 := by
  simp [downs, hname]

theorem climb_name (hname : isDirectoryMark s = false) : climb (s :: r) = climb r - 1 := by
  simp [climb, ne_up_of_name hname, hname]

theorem remaining_name (hname : isDirectoryMark s = false) :
    remaining (s :: r) = if climb r = 0 then s :: remaining r else remaining r := by
  simp [remaining, hname]

end Segment

/-! ### How far a walk climbs -/

variable {segs : List (List Char)}

/-- A walk climbs more than `n` directories if one of its initial runs has so many more steps up than names. -/
theorem lt_climb_iff {n : Nat} : n < climb segs ↔ ∃ run, run <+: segs ∧ downs run + n < ups run := by
  induction segs generalizing n with
  | nil => simp
  | cons s r ih =>
    have hcons : (∃ run, run <+: s :: r ∧ downs run + n < ups run) ↔
        ∃ run, run <+: r ∧ downs (s :: run) + n < ups (s :: run) := by
      constructor
      · rintro ⟨run, hrun, hlt⟩
        cases run with
        | nil => simp at hlt
        | cons t run =>
          obtain ⟨rfl, htail⟩ := List.cons_prefix_cons.mp hrun
          exact ⟨run, htail, hlt⟩
      · rintro ⟨run, hrun, hlt⟩
        exact ⟨s :: run, List.cons_prefix_cons.mpr ⟨rfl, hrun⟩, hlt⟩
    rw [hcons]
    rcases segment_cases s with rfl | ⟨hup, hmark⟩ | ⟨hup, hname⟩
    · cases n with
      | zero => exact iff_of_true (by simp) ⟨[], List.nil_prefix, by simp⟩
      | succ n =>
        simp only [climb_up, Nat.add_lt_add_iff_right, ih, downs_up, ups_up, ← Nat.add_assoc]
    · simp only [climb_stay hup hmark, ih, downs_stay hmark, ups_of_ne hup]
    · have hshift : n < climb r - 1 ↔ n + 1 < climb r := by omega
      simp only [climb_name hname, hshift, ih, downs_name hname, ups_of_ne hup]
      exact exists_congr fun run => and_congr_right fun _ => by omega

theorem climbs_iff : Climbs segs ↔ 0 < climb segs := by
  simp [lt_climb_iff, Climbs]

theorem not_climbs_iff : ¬ Climbs segs ↔ climb segs = 0 := by
  rw [climbs_iff]
  omega

/-- A walk without steps up does not climb. -/
theorem not_climbs_of_no_up (h : ['.', '.'] ∉ segs) : ¬ Climbs segs := by
  rintro ⟨run, hrun, hlt⟩
  have hups : ups run = 0 := List.count_eq_zero.mpr fun hmem => h (hrun.subset hmem)
  omega

instance : Decidable (Climbs segs) :=
  decidable_of_iff _ climbs_iff.symm

/-- What is left of the names, and what the walk climbs, makes up for names and steps up. -/
theorem length_remaining (segs : List (List Char)) :
    (remaining segs).length + ups segs = downs segs + climb segs := by
  induction segs with
  | nil => rfl
  | cons s r ih =>
    rcases segment_cases s with rfl | ⟨hup, hmark⟩ | ⟨hup, hname⟩
    · simp
      omega
    · rw [remaining_stay hmark, ups_of_ne hup, downs_stay hmark, climb_stay hup hmark, ih]
    · rw [remaining_name hname, ups_of_ne hup, downs_name hname, climb_name hname]
      split_ifs with hlevel
      · simp
        omega
      · omega

theorem take_length_reverse (dir : List (List Char)) : dir.reverse.take dir.length = dir.reverse :=
  List.take_of_length_le (by simp)

/-- From any directory: a walk that climbs no further than the root takes back what it climbs, and leaves
its own remaining names behind that. -/
theorem follow_eq (dir segs : List (List Char)) :
    follow dir segs = if climb segs ≤ dir.length then
      some (dir.reverse.take (dir.length - climb segs) ++ remaining segs) else none := by
  induction segs generalizing dir with
  | nil => simp [follow, take_length_reverse]
  | cons s r ih =>
    rw [follow.eq_def]
    rcases segment_cases s with rfl | ⟨hup, hmark⟩ | ⟨hup, hname⟩
    · cases dir with
      | nil => simp
      | cons top above =>
        have hlength : above.length + 1 - (climb r + 1) = above.length - climb r := by omega
        simp [ih, hlength, List.take_append_of_le_length]
    · have hstays : (s.isEmpty || s == ['.']) = true := by simpa [isDirectoryMark, hup] using hmark
      simp [hup, hstays, ih, climb_stay hup hmark, remaining_stay hmark]
    · have hleads : (s.isEmpty || s == ['.']) = false := by simpa [isDirectoryMark, hup] using hname
      simp only [if_neg hup, hleads, Bool.false_eq_true, if_false, ih, climb_name hname,
        remaining_name hname, List.length_cons, List.reverse_cons]
      by_cases hlevel : climb r = 0
      · have hall : (dir.reverse ++ [s]).take (dir.length + 1) = dir.reverse ++ [s] :=
          List.take_of_length_le (by simp)
        simp [hlevel, take_length_reverse, hall]
      · have hle : climb r ≤ dir.length + 1 ↔ climb r - 1 ≤ dir.length := by omega
        have hlength : dir.length + 1 - climb r = dir.length - (climb r - 1) := by omega
        have htake : dir.length - (climb r - 1) ≤ dir.reverse.length := by simp
        simp only [hle, hlength, List.take_append_of_le_length htake, if_neg hlevel]

/-! ### What is taken back -/

/-- The first step to more than `n` directories above the start comes when the walk is `n` above it. -/
theorem exists_of_lt_climb {n : Nat} (h : n < climb segs) :
    ∃ run rest, segs = run ++ ['.', '.'] :: rest ∧ climb run ≤ n ∧ downs run + n = ups run := by
  induction segs generalizing n with
  | nil => simp at h
  | cons s r ih =>
    rcases segment_cases s with rfl | ⟨hup, hmark⟩ | ⟨hup, hname⟩
    · cases n with
      | zero => exact ⟨[], r, rfl, by simp, by simp⟩
      | succ n =>
        rw [climb_up] at h
        obtain ⟨run, rest, rfl, hclimb, hcount⟩ := ih (by omega : n < climb r)
        refine ⟨['.', '.'] :: run, rest, rfl, ?_, ?_⟩
        · rw [climb_up]
          omega
        · rw [downs_up, ups_up]
          omega
    · rw [climb_stay hup hmark] at h
      obtain ⟨run, rest, rfl, hclimb, hcount⟩ := ih h
      refine ⟨s :: run, rest, rfl, ?_, ?_⟩
      · rwa [climb_stay hup hmark]
      · rwa [downs_stay hmark, ups_of_ne hup]
    · rw [climb_name hname] at h
      obtain ⟨run, rest, rfl, hclimb, hcount⟩ := ih (by omega : n + 1 < climb r)
      refine ⟨s :: run, rest, rfl, ?_, ?_⟩
      · rw [climb_name hname]
        omega
      · rw [downs_name hname, ups_of_ne hup]
        omega

/-- A walk climbs exactly if a level walk in it is followed by a step up. -/
theorem climbs_iff_level : Climbs segs ↔ ∃ run rest, segs = run ++ ['.', '.'] :: rest ∧ Level run := by
  constructor
  · intro h
    obtain ⟨run, rest, hsegs, hclimb, hcount⟩ := exists_of_lt_climb (climbs_iff.mp h)
    exact ⟨run, rest, hsegs, not_climbs_iff.mpr (by omega), hcount⟩
  · rintro ⟨run, rest, rfl, -, hcount⟩
    refine ⟨run ++ [['.', '.']], ⟨rest, by simp⟩, ?_⟩
    rw [downs_append, ups_append, downs_up, ups_up]
    simp
    omega

theorem ups_le_downs (h : ¬ Climbs segs) {run : List (List Char)} (hrun : run <+: segs) :
    ups run ≤ downs run := by
  by_contra hlt
  exact h ⟨run, hrun, by omega⟩

theorem take_of_getElem? {n m : Nat} {s : List Char} (hs : segs[m]? = some s) (hm : m < n) :
    segs.take n = segs.take m ++ s :: (segs.take n).drop (m + 1) := by
  have hs' : (segs.take n)[m]? = some s := by rw [List.getElem?_take_of_lt hm, hs]
  obtain ⟨hlt, heq⟩ := List.getElem?_eq_some_iff.mp hs'
  have hsplit := List.take_append_drop m (segs.take n)
  rw [List.drop_eq_getElem_cons hlt, heq, List.take_take, Nat.min_eq_left hm.le] at hsplit
  exact hsplit.symm

/-- A place cuts the segments around it in two. -/
theorem between_eq_append {i m j : Nat} (him : i < m) (hmj : m < j) {s : List Char} (hs : segs[m]? = some s) :
    between segs i j = between segs i m ++ s :: between segs m j := by
  obtain ⟨hlt, -⟩ := List.getElem?_eq_some_iff.mp hs
  unfold between
  rw [take_of_getElem? hs hmj, List.drop_append_of_le_length (by simp; omega), ← take_of_getElem? hs hmj]

theorem between_add (i m j : Nat) : between segs (i + 1 + m) j = (between segs i j).drop (m + 1) := by
  simp [between, Nat.add_assoc]

theorem getElem?_between {i j m : Nat} {s : List Char} (hs : (between segs i j)[m]? = some s) :
    i + 1 + m < j ∧ segs[i + 1 + m]? = some s := by
  rw [between, List.getElem?_drop] at hs
  have hlt : i + 1 + m < j := by
    by_contra hge
    rw [List.getElem?_eq_none (by simp; omega)] at hs
    cases hs
  rw [List.getElem?_take_of_lt hlt] at hs
  exact ⟨hlt, hs⟩

/-- A name is taken back before a place exactly if what comes in between climbs. -/
theorem exists_cancels_iff {i j : Nat} (hi : NameAt segs i) :
    (∃ k < j, Cancels segs i k) ↔ Climbs (between segs i j) := by
  rw [climbs_iff_level]
  constructor
  · rintro ⟨k, hkj, hik, -, hup, hlevel⟩
    exact ⟨between segs i k, between segs k j, between_eq_append hik hkj hup, hlevel⟩
  · rintro ⟨run, rest, hrun, hlevel⟩
    have hup : (between segs i j)[run.length]? = some ['.', '.'] := by simp [hrun]
    obtain ⟨hlt, hup⟩ := getElem?_between hup
    refine ⟨i + 1 + run.length, hlt, by omega, hi, hup, ?_⟩
    have hsplit := between_eq_append (by omega) hlt hup (i := i)
    rw [hrun] at hsplit
    have hlength : (between segs i (i + 1 + run.length)).length = run.length := by
      obtain ⟨hbound, -⟩ := List.getElem?_eq_some_iff.mp hup
      simp [between]
      omega
    rw [← (List.append_inj hsplit hlength.symm).1]
    exact hlevel

theorem mem_standing_iff {i j : Nat} :
    i ∈ standing segs j ↔ i < j ∧ NameAt segs i ∧ ¬ Climbs (between segs i j) := by
  refine and_congr_right fun _ => and_congr_right fun hi => ?_
  rw [← exists_cancels_iff hi]
  simp

/-! ### Places of names -/

/-- The places of the names behind which nothing climbs. -/
def places (segs : List (List Char)) : List Nat :=
  (List.range segs.length).filter fun i =>
    (segs[i]?.any fun s => !isDirectoryMark s) && climb (segs.drop (i + 1)) == 0

theorem places_cons (s : List Char) (r : List (List Char)) :
    places (s :: r) =
      (if !isDirectoryMark s && climb r == 0 then [0] else []) ++ (places r).map (· + 1) := by
  have hstep : (fun i => ((s :: r)[i]?.any fun s => !isDirectoryMark s) &&
      climb ((s :: r).drop (i + 1)) == 0) ∘ Nat.succ =
      fun i => (r[i]?.any fun s => !isDirectoryMark s) && climb (r.drop (i + 1)) == 0 := by
    funext i
    simp
  unfold places
  rw [List.length_cons, List.range_succ_eq_map, List.filter_cons, List.filter_map, hstep]
  simp only [List.getElem?_cons_zero, Option.any_some, Nat.zero_add, List.drop_succ_cons, List.drop_zero]
  split_ifs
  · rfl
  · rfl

theorem remaining_eq (segs : List (List Char)) : remaining segs = (places segs).filterMap (segs[·]?) := by
  induction segs with
  | nil => rfl
  | cons s r ih =>
    have hrest : ((places r).map (· + 1)).filterMap ((s :: r)[·]?) = remaining r := by
      rw [List.filterMap_map, ih]
      rfl
    rw [places_cons, List.filterMap_append, hrest, remaining]
    split_ifs
    · rfl
    · rfl

theorem mem_places {i : Nat} : i ∈ places segs ↔ NameAt segs i ∧ ¬ Climbs (segs.drop (i + 1)) := by
  have hname : (segs[i]?.any fun s => !isDirectoryMark s) = true ↔ NameAt segs i := by
    simp [NameAt, Option.any_eq_true]
  unfold places
  rw [List.mem_filter, List.mem_range, Bool.and_eq_true, hname, beq_iff_eq, ← not_climbs_iff]
  constructor
  · rintro ⟨-, hplace⟩
    exact hplace
  · intro hplace
    obtain ⟨n, hn, -⟩ := hplace.1
    exact ⟨(List.getElem?_eq_some_iff.mp hn).1, hplace⟩

/-- The places are those of the names that no `..` takes back. -/
theorem mem_places_iff {i : Nat} : i ∈ places segs ↔ NameAt segs i ∧ ∀ j, ¬ Cancels segs i j := by
  rw [mem_places]
  refine and_congr_right fun hi => ?_
  have hbetween : between segs i segs.length = segs.drop (i + 1) := by simp [between]
  rw [← hbetween, ← exists_cancels_iff hi]
  constructor
  · intro hnone j hj
    exact hnone ⟨j, (List.getElem?_eq_some_iff.mp hj.2.2.1).1, hj⟩
  · rintro hnone ⟨j, -, hj⟩
    exact hnone j hj

theorem pairwise_places (segs : List (List Char)) : (places segs).Pairwise (· < ·) :=
  List.pairwise_lt_range.filter _

/-- A `..` takes back the nearest name before it that is still standing. -/
theorem cancels_iff_isGreatest {i j : Nat} :
    Cancels segs i j ↔ segs[j]? = some ['.', '.'] ∧ IsGreatest (standing segs j) i := by
  constructor
  · rintro ⟨hij, hi, hup, hlevel, hcount⟩
    refine ⟨hup, mem_standing_iff.mpr ⟨hij, hi, hlevel⟩, fun m hm => ?_⟩
    obtain ⟨hmj, ⟨n, hn, hname⟩, hrest⟩ := mem_standing_iff.mp hm
    by_contra hlt
    -- What follows the name at `m` would have to make up for it, and climb.
    have hsplit := between_eq_append (by omega) hmj hn (i := i)
    have hfirst : ups (between segs i m) ≤ downs (between segs i m) :=
      ups_le_downs hlevel ⟨_, hsplit.symm⟩
    have hsecond : ups (between segs m j) ≤ downs (between segs m j) :=
      ups_le_downs hrest (List.prefix_refl _)
    rw [hsplit, downs_append, ups_append, downs_name hname, ups_of_ne (ne_up_of_name hname)] at hcount
    omega
  · rintro ⟨hup, hstanding, hgreatest⟩
    obtain ⟨hij, hi, hclimbs⟩ := mem_standing_iff.mp hstanding
    refine ⟨hij, hi, hup, hclimbs, ?_⟩
    have hle : ups (between segs i j) ≤ downs (between segs i j) :=
      ups_le_downs hclimbs (List.prefix_refl _)
    have hlength := length_remaining (between segs i j)
    rw [not_climbs_iff.mp hclimbs] at hlength
    by_contra hne
    -- A name that is left between the two places would be nearer than the one at `i`.
    have hleft : places (between segs i j) ≠ [] := by
      intro hnil
      rw [remaining_eq, hnil] at hlength
      simp at hlength
      omega
    obtain ⟨m, hm⟩ := List.exists_mem_of_ne_nil _ hleft
    obtain ⟨⟨n, hn, hname⟩, hrest⟩ := mem_places.mp hm
    obtain ⟨hlt, hn'⟩ := getElem?_between hn
    rw [← between_add] at hrest
    have hbound : i + 1 + m ≤ i := hgreatest (mem_standing_iff.mpr ⟨hlt, ⟨n, hn', hname⟩, hrest⟩)
    omega

/-! ## Normal forms -/

variable {s p : List Char}

/-- From the root: what climbs leads nowhere, and everything else to its remaining names. -/
theorem follow_nil (segs : List (List Char)) :
    follow [] segs = if Climbs segs then none else some (remaining segs) := by
  rw [follow_eq]
  by_cases h : Climbs segs
  · rw [if_pos h, if_neg]
    have hclimb := climbs_iff.mp h
    simp
    omega
  · rw [if_neg h, if_pos]
    · simp
    · simp [not_climbs_iff.mp h]

theorem climbs_splitOn_rooted (body : List Char) : Climbs (('/' :: body).splitOn '/') ↔ Climbs (segments body) := by
  rw [splitOn_rooted, climbs_iff, climbs_iff, climb_stay (by decide) rfl]

theorem normalize_eq_none_iff : normalize s = none ↔ s.head? ≠ some '/' ∨ Climbs (s.splitOn '/') := by
  unfold normalize
  split
  · rename_i body
    rw [Option.map_eq_none_iff, follow_nil, climbs_splitOn_rooted]
    simp
  · rename_i hroot
    simp only [true_iff]
    left
    intro hhead
    obtain ⟨body, rfl⟩ := List.head?_eq_some_iff.mp hhead
    exact hroot body rfl

/-- A path has a normal form if it starts at the root and does not lead above it. -/
theorem exists_normalize_iff :
    (∃ p, normalize s = some p) ↔ s.head? = some '/' ∧ ¬ Climbs (s.splitOn '/') := by
  rw [← Option.ne_none_iff_exists', ne_eq, normalize_eq_none_iff, not_or, not_not]

theorem not_climbs_of_normalize (h : normalize s = some p) : ¬ Climbs (s.splitOn '/') :=
  (exists_normalize_iff.mp ⟨p, h⟩).2

/-- A normal form is put together from the names of the path behind which nothing climbs. -/
theorem eq_join_of_normalize (h : normalize s = some p) :
    p = join ((s.splitOn '/').getLast?.any isDirectoryMark) (remaining (s.splitOn '/')) ∧
      names p = remaining (s.splitOn '/') := by
  have hclimbs := not_climbs_of_normalize h
  unfold normalize at h
  split at h
  · rename_i body
    obtain ⟨dir, hdir, rfl⟩ := Option.map_eq_some_iff.mp h
    have hremaining : remaining (('/' :: body).splitOn '/') = dir := by
      rw [climbs_splitOn_rooted] at hclimbs
      rw [splitOn_rooted, remaining_stay rfl]
      rw [follow_nil, if_neg hclimbs] at hdir
      exact Option.some.inj hdir
    have hlast : (('/' :: body).splitOn '/').getLast? = (segments body).getLast? := by
      obtain ⟨first, rest, hsegments⟩ := List.exists_cons_of_ne_nil (List.splitOn_ne_nil '/' body)
      rw [splitOn_rooted, segments, hsegments, List.getLast?_cons_cons]
    rw [hremaining, hlast]
    exact ⟨rfl, names_join _ fun n hn => (isName_of_follow hdir hn).1⟩
  · cases h

/-- A slash stands at the end of a directory and of the root, and of nothing else. -/
theorem getLast?_join {isDirectory : Bool} {dir : List (List Char)} (h : ∀ n ∈ dir, IsName n)
    (hdir : dir ≠ []) : (join isDirectory dir).getLast? = some '/' ↔ isDirectory = true := by
  cases isDirectory with
  | true =>
    rw [join_eq_flatMap]
    simp
  | false =>
    have htrim := trimEnd_join false h
    have hjoin : join false dir = dir.flatMap ('/' :: ·) := by
      rw [join_eq_flatMap]
      simp [hdir]
    rw [← hjoin] at htrim
    have hne : join false dir ≠ [] := List.cons_ne_nil _ _
    have hlast := List.rdropWhile_eq_self_iff.mp htrim hne
    rw [List.getLast?_eq_some_getLast hne, Option.some.injEq]
    simpa using hlast

/-- Removing dot segments.  A path has no normal form exactly if it does not start at the root or some initial
run of its segments has more `..` than names.  Otherwise each `..` takes back the nearest name before it that
is still standing, and the normal form has the names that nothing takes back, in their order and with nothing
else between its slashes.  Unless it is the root, it ends with a slash exactly if the last segment of the path
names no entry.  It never starts with two slashes, and it is its own normal form. -/
theorem normalize_removes_dot_segments (s : List Char) :
    (normalize s = none ↔ s.head? ≠ some '/' ∨ Climbs (s.splitOn '/')) ∧
      (∀ i j, Cancels (s.splitOn '/') i j ↔
        (s.splitOn '/')[j]? = some ['.', '.'] ∧ IsGreatest (standing (s.splitOn '/') j) i) ∧
      ∀ p, normalize s = some p →
        IsNormal p ∧ ¬ ['/', '/'] <+: p ∧
          (∃ left : List Nat, left.Pairwise (· < ·) ∧
            (∀ i, i ∈ left ↔ NameAt (s.splitOn '/') i ∧ ∀ j, ¬ Cancels (s.splitOn '/') i j) ∧
            names p = left.filterMap ((s.splitOn '/')[·]?)) ∧
          (p ≠ ['/'] → (p.getLast? = some '/' ↔
            ∃ last, (s.splitOn '/').getLast? = some last ∧ isDirectoryMark last = true)) ∧
          normalize p = some p := by
  refine ⟨normalize_eq_none_iff, fun i j => cancels_iff_isGreatest, fun p hp => ?_⟩
  obtain ⟨hjoin, hnames⟩ := eq_join_of_normalize hp
  have hentries : ∀ n ∈ remaining (s.splitOn '/'), IsName n := by
    intro n hn
    rw [← hnames] at hn
    exact (names_of_normalize hp hn).1
  refine ⟨isNormal_of_normalize hp, ?_, ⟨places (s.splitOn '/'), pairwise_places _, fun i => mem_places_iff, ?_⟩,
    ?_, normalize_of_normalize hp⟩
  · rintro ⟨rest, rfl⟩
    exact (second_of_normalize hp rfl).1 rfl
  · rw [hnames, remaining_eq]
  · intro hroot
    have hne : remaining (s.splitOn '/') ≠ [] := by
      intro hnil
      rw [hjoin, hnil] at hroot
      exact hroot (by simp [join])
    rw [hjoin, getLast?_join hentries hne, Option.any_eq_true]

/-- A path that goes up twice in a row, doubles a slash and ends in a directory that it leaves. -/
theorem normal_form_of_detours :
    let segs := "/a/./b/../../c//d/..".toList.splitOn '/'
    normalize "/a/./b/../../c//d/..".toList = some "/c/".toList ∧
      (∃ left : List Nat, (∀ i, i ∈ left ↔ NameAt segs i ∧ ∀ j, ¬ Cancels segs i j) ∧
        left.filterMap (segs[·]?) = ["c".toList]) ∧
      (∃ last, segs.getLast? = some last ∧ isDirectoryMark last = true) ∧
      normalize "/c/".toList = some "/c/".toList := by
  intro segs
  have hp : normalize "/a/./b/../../c//d/..".toList = some "/c/".toList := by decide +kernel
  obtain ⟨-, -, hnormal⟩ := normalize_removes_dot_segments "/a/./b/../../c//d/..".toList
  obtain ⟨-, -, ⟨left, -, hleft, hnames⟩, hslash, hagain⟩ := hnormal _ hp
  have hc : names "/c/".toList = ["c".toList] := by decide +kernel
  exact ⟨hp, ⟨left, hleft, hnames.symm.trans hc⟩, (hslash (by decide)).mp (by decide), hagain⟩

end HttpMediation.Path
