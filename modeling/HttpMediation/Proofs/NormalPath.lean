import HttpMediation.Proofs.Percent
import HttpMediation.Redirect.Path
import Mathlib.Data.List.DropRight

/-!
# NormalPath — paths without detours

* `Path.names` : the segments of a path that are not empty.
* `Path.IsNormal` : starts at the root, no segment stands for a directory, none inside is empty.
* `Path.isNormal_of_normalize`, `Path.names_of_normalize` : `normalize` gives a normal path, and its names
  are segments of the path that it was given.
* `Path.plain_of_normalize` : removing dot segments from a text without escapes makes no escape.
* `Path.normalize_of_normalize` : a normal form is its own normal form.
* `Path.within_iff` : of two normal forms, one lies in the other if it begins with the other's names.
-/

namespace HttpMediation.Path

/-! ## Segments -/

/-- The segments of a path that are not empty. -/
def names (path : List Char) : List (List Char) :=
  (path.splitOn '/').filter fun s => !s.isEmpty

/-- A path that says where it leads: it starts at the root, no segment stands for a directory, and
between the first and the last segment none is empty. -/
structure IsNormal (path : List Char) : Prop where
  rooted : path.head? = some '/'
  no_dots : ∀ s ∈ path.splitOn '/', s ≠ ['.'] ∧ s ≠ ['.', '.']
  no_gap : ∀ s ∈ (path.splitOn '/').tail.dropLast, s ≠ []

/-- A segment that names an entry of a directory. -/
structure IsName (s : List Char) : Prop where
  ne_nil : s ≠ []
  ne_dot : s ≠ ['.']
  ne_dots : s ≠ ['.', '.']
  no_slash : '/' ∉ s

theorem names_append_slash (s t : List Char) : names (s ++ '/' :: t) = names s ++ names t := by
  unfold names
  rw [List.splitOn_append_cons_self, List.filter_append]

theorem names_replicate (n : Nat) : names (List.replicate n '/') = [] := by
  induction n with
  | zero => rfl
  | succ n ih =>
    have := names_append_slash [] (List.replicate n '/')
    rw [ih] at this
    exact this

/-- The characters of a piece are characters of the text, those that it was split at excepted. -/
theorem of_mem_splitOnP {cut : Char → Bool} {d : Char} {s piece : List Char} (h : piece ∈ s.splitOnP cut)
    (hd : d ∈ piece) : d ∈ s ∧ cut d = false := by
  induction s generalizing piece with
  | nil =>
    rw [List.splitOnP_nil, List.mem_singleton] at h
    rw [h] at hd
    exact absurd hd List.not_mem_nil
  | cons a s ih =>
    rw [List.splitOnP_cons_eq_if_modifyHead] at h
    split_ifs at h with ha
    · rcases List.mem_cons.mp h with rfl | h
      · exact absurd hd List.not_mem_nil
      · exact ⟨List.mem_cons_of_mem _ (ih h hd).1, (ih h hd).2⟩
    · obtain ⟨first, rest, hs⟩ := List.exists_cons_of_ne_nil (List.splitOnP_ne_nil cut s)
      rw [hs, List.modifyHead_cons] at h
      rcases List.mem_cons.mp h with rfl | h
      · rcases List.mem_cons.mp hd with rfl | hd
        · exact ⟨List.mem_cons_self, by simpa using ha⟩
        · have := ih (by rw [hs]; exact List.mem_cons_self) hd
          exact ⟨List.mem_cons_of_mem _ this.1, this.2⟩
      · have := ih (by rw [hs]; exact List.mem_cons_of_mem _ h) hd
        exact ⟨List.mem_cons_of_mem _ this.1, this.2⟩

theorem of_mem_splitOn {c d : Char} {s seg : List Char} (h : seg ∈ s.splitOn c) (hd : d ∈ seg) :
    d ∈ s ∧ d ≠ c := by
  obtain ⟨hs, hc⟩ := of_mem_splitOnP h hd
  exact ⟨hs, by simpa using hc⟩

/-! ## Following segments -/

/-- Whoever follows segments ends up with names that were among them, or had been there before. -/
theorem mem_of_follow {dir segs out : List (List Char)} (h : follow dir segs = some out)
    {n : List Char} (hn : n ∈ out) :
    n ∈ dir ∨ (n ∈ segs ∧ n ≠ [] ∧ n ≠ ['.'] ∧ n ≠ ['.', '.']) := by
  induction segs generalizing dir with
  | nil =>
    rw [follow, Option.some.injEq] at h
    rw [← h, List.mem_reverse] at hn
    exact .inl hn
  | cons s r ih =>
    rw [follow.eq_def] at h
    simp only at h
    split_ifs at h with hdots hmark
    · cases dir with
      | nil => simp at h
      | cons top above =>
        rcases ih h with hd | ⟨hr, hne⟩
        · exact .inl (List.mem_cons_of_mem _ hd)
        · exact .inr ⟨List.mem_cons_of_mem _ hr, hne⟩
    · rcases ih h with hd | ⟨hr, hne⟩
      · exact .inl hd
      · exact .inr ⟨List.mem_cons_of_mem _ hr, hne⟩
    · rcases ih h with hd | ⟨hr, hne⟩
      · rcases List.mem_cons.mp hd with rfl | hd
        · rw [Bool.or_eq_true, not_or, List.isEmpty_iff, beq_iff_eq] at hmark
          exact .inr ⟨List.mem_cons_self, hmark.1, hmark.2, hdots⟩
        · exact .inl hd
      · exact .inr ⟨List.mem_cons_of_mem _ hr, hne⟩

/-- Whoever follows the segments of a text from the root ends up with names that are segments of it. -/
theorem isName_of_follow {body : List Char} {dir : List (List Char)}
    (h : follow [] (segments body) = some dir) {n : List Char} (hn : n ∈ dir) :
    IsName n ∧ n ∈ segments body := by
  rcases mem_of_follow h hn with hn | ⟨hn, hne, hdot, hdots⟩
  · exact absurd hn List.not_mem_nil
  · exact ⟨⟨hne, hdot, hdots, fun hs => (of_mem_splitOn hn hs).2 rfl⟩, hn⟩

/-- Whoever meets no dots on the way from a directory ends up where all the names lead. -/
theorem follow_of_no_dots {dir segments : List (List Char)}
    (h : ∀ s ∈ segments, s ≠ ['.'] ∧ s ≠ ['.', '.']) :
    follow dir segments = some (dir.reverse ++ segments.filter fun s => !s.isEmpty) := by
  induction segments generalizing dir with
  | nil => simp [follow]
  | cons s r ih =>
    obtain ⟨⟨hdot, hdots⟩, hr⟩ := List.forall_mem_cons.mp h
    rw [follow.eq_def]
    simp only [if_neg hdots, beq_eq_false_iff_ne.mpr hdot, Bool.or_false]
    by_cases hs : s = []
    · subst hs
      rw [List.isEmpty_nil, if_pos rfl, ih hr]
      rfl
    · have hfull : s.isEmpty = false := List.isEmpty_eq_false_iff.mpr hs
      rw [hfull, if_neg Bool.false_ne_true, ih hr, List.filter_cons_of_pos (by rw [hfull]; rfl)]
      simp

theorem splitOn_rooted (body : List Char) : ('/' :: body).splitOn '/' = [] :: segments body := by
  rw [List.splitOn_cons_eq_if_modifyHead, if_pos (beq_self_eq_true _)]
  rfl

theorem exists_of_normalize {s p : List Char} (h : normalize s = some p) :
    ∃ dir isDirectory, p = join isDirectory dir ∧
      ∀ n ∈ dir, IsName n ∧ n ∈ s.splitOn '/' := by
  unfold normalize at h
  split at h
  · rename_i body
    obtain ⟨dir, hdir, rfl⟩ := Option.map_eq_some_iff.mp h
    refine ⟨dir, _, rfl, fun n hn => ?_⟩
    obtain ⟨hname, hmem⟩ := isName_of_follow hdir hn
    rw [splitOn_rooted]
    exact ⟨hname, List.mem_cons_of_mem _ hmem⟩
  · simp at h

/-! ## The written form of names -/

/-- What stands behind the last slash of a directory. -/
def ending (isDirectory : Bool) (dir : List (List Char)) : List (List Char) :=
  if isDirectory || dir.isEmpty then [[]] else []

theorem eq_nil_of_mem_ending {isDirectory : Bool} {dir : List (List Char)} {s : List Char}
    (h : s ∈ ending isDirectory dir) : s = [] := by
  unfold ending at h
  split_ifs at h
  · exact List.mem_singleton.mp h
  · exact absurd h List.not_mem_nil

/-- An empty segment at the end stands for a slash at the end. -/
theorem intercalate_concat_nil {dir : List (List Char)} (h : dir ≠ []) :
    ['/'].intercalate (dir ++ [[]]) = ['/'].intercalate dir ++ ['/'] := by
  match dir with
  | [n] =>
    rw [List.singleton_append, List.intercalate_cons_cons, List.intercalate_singleton,
      List.intercalate_singleton, List.append_nil]
  | n :: m :: r =>
    have ih : ['/'].intercalate (m :: r ++ [[]]) = ['/'].intercalate (m :: r) ++ ['/'] :=
      intercalate_concat_nil (List.cons_ne_nil m r)
    rw [List.cons_append, List.cons_append, List.intercalate_cons_cons, ← List.cons_append, ih,
      List.intercalate_cons_cons, List.append_assoc, List.append_assoc, List.append_assoc]

theorem join_eq_intercalate (isDirectory : Bool) (dir : List (List Char)) :
    join isDirectory dir = ['/'].intercalate ([] :: (dir ++ ending isDirectory dir)) := by
  match dir, isDirectory with
  | [], true => rfl
  | [], false => rfl
  | n :: r, true =>
    show '/' :: ['/'].intercalate (n :: r) ++ ['/'] = ['/'].intercalate ([] :: (n :: r ++ [[]]))
    rw [List.cons_append, ← intercalate_concat_nil (List.cons_ne_nil n r)]
    rfl
  | n :: r, false =>
    show '/' :: ['/'].intercalate (n :: r) ++ [] = ['/'].intercalate ([] :: (n :: r ++ []))
    rw [List.append_nil, List.append_nil]
    rfl

theorem splitOn_join (isDirectory : Bool) {dir : List (List Char)} (h : ∀ n ∈ dir, IsName n) :
    (join isDirectory dir).splitOn '/' = [] :: (dir ++ ending isDirectory dir) := by
  rw [join_eq_intercalate]
  refine List.splitOn_intercalate '/' (fun n hn => ?_) (List.cons_ne_nil _ _)
  rcases List.mem_cons.mp hn with rfl | hn
  · exact List.not_mem_nil
  rcases List.mem_append.mp hn with hn | hn
  · exact (h n hn).no_slash
  · rw [eq_nil_of_mem_ending hn]
    exact List.not_mem_nil

theorem filter_names {isDirectory : Bool} {dir : List (List Char)} (h : ∀ n ∈ dir, IsName n) :
    ((dir ++ ending isDirectory dir).filter fun s => !s.isEmpty) = dir := by
  have hdir : dir.filter (fun s => !s.isEmpty) = dir :=
    List.filter_eq_self.mpr fun n hn => by simpa using (h n hn).ne_nil
  have hend : (ending isDirectory dir).filter (fun s => !s.isEmpty) = [] :=
    List.filter_eq_nil_iff.mpr fun s hs => by simp [eq_nil_of_mem_ending hs]
  rw [List.filter_append, hdir, hend, List.append_nil]

theorem names_join (isDirectory : Bool) {dir : List (List Char)} (h : ∀ n ∈ dir, IsName n) :
    names (join isDirectory dir) = dir := by
  unfold names
  rw [splitOn_join isDirectory h, List.filter_cons_of_neg (by decide), filter_names h]

theorem isNormal_join (isDirectory : Bool) {dir : List (List Char)} (h : ∀ n ∈ dir, IsName n) :
    IsNormal (join isDirectory dir) := by
  refine ⟨rfl, fun s hs => ?_, fun s hs => ?_⟩
  · rw [splitOn_join isDirectory h] at hs
    rcases List.mem_cons.mp hs with rfl | hs
    · exact ⟨by decide, by decide⟩
    rcases List.mem_append.mp hs with hs | hs
    · exact ⟨(h s hs).ne_dot, (h s hs).ne_dots⟩
    · rw [eq_nil_of_mem_ending hs]
      exact ⟨by decide, by decide⟩
  · rw [splitOn_join isDirectory h, List.tail_cons] at hs
    have hmem : s ∈ dir := by
      unfold ending at hs
      split_ifs at hs
      · rwa [List.dropLast_concat] at hs
      · rw [List.append_nil] at hs
        exact List.dropLast_subset _ hs
    exact (h s hmem).ne_nil

/-! ## What normalization gives -/

theorem isNormal_of_normalize {s p : List Char} (h : normalize s = some p) : IsNormal p := by
  obtain ⟨dir, isDirectory, rfl, hdir⟩ := exists_of_normalize h
  exact isNormal_join isDirectory fun n hn => (hdir n hn).1

theorem names_of_normalize {s p : List Char} (h : normalize s = some p) {n : List Char}
    (hn : n ∈ names p) : IsName n ∧ n ∈ s.splitOn '/' := by
  obtain ⟨dir, isDirectory, rfl, hdir⟩ := exists_of_normalize h
  rw [names_join isDirectory fun n hn => (hdir n hn).1] at hn
  exact hdir n hn

/-- The first name is not empty and holds no slash, so that no second slash follows the first. -/
theorem second_of_normalize {s p : List Char} (h : normalize s = some p) {c : Char}
    {r : List Char} (hp : p = '/' :: c :: r) : c ≠ '/' ∧ c ∈ s := by
  obtain ⟨dir, isDirectory, rfl, hdir⟩ := exists_of_normalize h
  match dir with
  | [] => simp [join, List.intercalate_nil] at hp
  | [] :: rest => exact absurd rfl (hdir [] List.mem_cons_self).1.ne_nil
  | (d :: n) :: rest =>
    have hd : d = c := by
      unfold join at hp
      rw [List.intercalate_cons_cons_left, List.cons_append, List.cons_append] at hp
      exact (List.cons.inj (List.cons.inj hp).2).1
    subst hd
    obtain ⟨hname, hmem⟩ := hdir (d :: n) List.mem_cons_self
    have := of_mem_splitOn hmem (List.mem_cons_self (a := d) (l := n))
    exact ⟨this.2, this.1⟩

theorem plain_of_mem_splitOn {s n : List Char} (hs : Percent.Plain s) (hn : n ∈ s.splitOn '/') :
    Percent.Plain n := by
  have hsegments : ∀ n ∈ s.splitOn '/', Percent.Plain n := by
    rw [← Percent.plain_intercalate_iff, List.intercalate_splitOn]
    exact hs
  exact hsegments n hn

/-- A normal form holds no more escapes than its names. -/
theorem plain_of_names {s p : List Char} (h : normalize s = some p) (hnames : ∀ n ∈ names p, Percent.Plain n) :
    Percent.Plain p := by
  obtain ⟨dir, isDirectory, rfl, hdir⟩ := exists_of_normalize h
  rw [names_join isDirectory fun n hn => (hdir n hn).1] at hnames
  rw [join_eq_intercalate, Percent.plain_intercalate_iff]
  intro n hn
  rcases List.mem_cons.mp hn with rfl | hn
  · exact Percent.plain_nil
  rcases List.mem_append.mp hn with hn | hn
  · exact hnames n hn
  · rw [eq_nil_of_mem_ending hn]
    exact Percent.plain_nil

theorem plain_of_normalize {s p : List Char} (h : normalize s = some p) (hs : Percent.Plain s) :
    Percent.Plain p :=
  plain_of_names h fun _ hn => plain_of_mem_splitOn hs (names_of_normalize h hn).2

/-! ## Normal forms of normal forms -/

theorem isDirectoryMark_of_isName {n : List Char} (h : IsName n) : isDirectoryMark n = false := by
  unfold isDirectoryMark
  rw [List.isEmpty_eq_false_iff.mpr h.ne_nil, beq_eq_false_iff_ne.mpr h.ne_dot,
    beq_eq_false_iff_ne.mpr h.ne_dots]
  rfl

/-- The last segment of a joined path is empty if the path is a directory, and a name if it is not. -/
theorem join_getLast?_segments (isDirectory : Bool) {dir : List (List Char)} (h : ∀ n ∈ dir, IsName n) :
    join ((dir ++ ending isDirectory dir).getLast?.any isDirectoryMark) dir = join isDirectory dir := by
  unfold ending
  rcases List.eq_nil_or_concat dir with rfl | ⟨front, n, rfl⟩
  · simp [join]
  · cases isDirectory with
    | true => simp [isDirectoryMark]
    | false =>
      have hn : isDirectoryMark n = false := isDirectoryMark_of_isName (h n (by simp))
      simp [hn]

theorem normalize_join (isDirectory : Bool) {dir : List (List Char)} (h : ∀ n ∈ dir, IsName n) :
    normalize (join isDirectory dir) = some (join isDirectory dir) := by
  obtain ⟨body, hbody⟩ : ∃ body, join isDirectory dir = '/' :: body := ⟨_, rfl⟩
  have hsplit := splitOn_join isDirectory h
  rw [hbody, splitOn_rooted] at hsplit
  have hsegments : segments body = dir ++ ending isDirectory dir := (List.cons.inj hsplit).2
  have hdots : ∀ s ∈ dir ++ ending isDirectory dir, s ≠ ['.'] ∧ s ≠ ['.', '.'] := by
    intro s hs
    rcases List.mem_append.mp hs with hs | hs
    · exact ⟨(h s hs).ne_dot, (h s hs).ne_dots⟩
    · rw [eq_nil_of_mem_ending hs]
      exact ⟨by decide, by decide⟩
  have hfollow : follow [] (dir ++ ending isDirectory dir) = some dir := by
    rw [follow_of_no_dots hdots, filter_names h]
    rfl
  rw [hbody, normalize, hsegments, hfollow, Option.map_some, join_getLast?_segments isDirectory h, hbody]

/-- A normal form is its own normal form. -/
theorem normalize_of_normalize {s p : List Char} (h : normalize s = some p) : normalize p = some p := by
  obtain ⟨dir, isDirectory, rfl, hdir⟩ := exists_of_normalize h
  exact normalize_join isDirectory fun n hn => (hdir n hn).1

/-! ## Containment -/

/-- Slashes at the end of a path name nothing. -/
theorem names_trimEnd (p : List Char) : names (Text.trimEnd (· == '/') p) = names p := by
  have hslashes : ∃ n, p.rtakeWhile (· == '/') = List.replicate n '/' := by
    refine ⟨_, List.eq_replicate_of_mem fun c hc => ?_⟩
    simpa using List.mem_rtakeWhile_imp hc
  obtain ⟨n, hn⟩ := hslashes
  have hp : Text.trimEnd (· == '/') p ++ p.rtakeWhile (· == '/') = p :=
    List.rdropWhile_append_rtakeWhile
  rw [hn] at hp
  match n with
  | 0 =>
    rw [List.replicate_zero, List.append_nil] at hp
    rw [hp]
  | n + 1 =>
    have := names_append_slash (Text.trimEnd (· == '/') p) (List.replicate n '/')
    rw [← List.replicate_succ, hp, names_replicate, List.append_nil] at this
    exact this.symm

theorem names_prefix_of_within {p dir : List Char} (h : within p dir = true) :
    names dir <+: names p := by
  unfold within at h
  rw [← names_trimEnd dir]
  simp only [Bool.or_eq_true, List.isEmpty_iff, beq_iff_eq, List.isPrefixOf_iff_prefix] at h
  rcases h with (h | h) | h
  · rw [h]
    exact List.nil_prefix
  · subst h
    exact List.prefix_refl _
  · obtain ⟨rest, hrest⟩ := h
    rw [← hrest, List.append_assoc, List.singleton_append, names_append_slash]
    exact List.prefix_append _ _

theorem flatMap_slash_cons (n : List Char) (r : List (List Char)) :
    '/' :: ['/'].intercalate (n :: r) = (n :: r).flatMap ('/' :: ·) := by
  induction r generalizing n with
  | nil => simp
  | cons m r ih =>
    rw [List.intercalate_cons_cons, List.flatMap_cons, ← ih]
    simp

/-- A path whose segments all stand behind a slash is split into them. -/
theorem splitOn_flatMap_slash {segs : List (List Char)} (h : ∀ s ∈ segs, '/' ∉ s) :
    (segs.flatMap ('/' :: ·)).splitOn '/' = [] :: segs := by
  have hjoined : segs.flatMap ('/' :: ·) = ['/'].intercalate ([] :: segs) := by
    cases segs with
    | nil => rfl
    | cons s r => rw [← flatMap_slash_cons, List.intercalate_cons_cons, List.nil_append, List.singleton_append]
  rw [hjoined]
  refine List.splitOn_intercalate '/' (fun s hs => ?_) (List.cons_ne_nil _ _)
  rcases List.mem_cons.mp hs with rfl | hs
  · exact List.not_mem_nil
  · exact h s hs

/-- In a path each name stands behind a slash, and at the end of a directory one more slash. -/
theorem join_eq_flatMap (isDirectory : Bool) (dir : List (List Char)) :
    join isDirectory dir = dir.flatMap ('/' :: ·) ++ (if isDirectory || dir.isEmpty then ['/'] else []) := by
  unfold join
  cases dir with
  | nil => simp
  | cons n r =>
    rw [flatMap_slash_cons]
    cases isDirectory <;> rfl

theorem trimEnd_join (isDirectory : Bool) {dir : List (List Char)} (h : ∀ n ∈ dir, IsName n) :
    Text.trimEnd (· == '/') (join isDirectory dir) = dir.flatMap ('/' :: ·) := by
  have htrim : ∀ s : List Char, Text.trimEnd (· == '/') (s ++ ['/']) = Text.trimEnd (· == '/') s :=
    fun s => List.rdropWhile_concat_pos (· == '/') s '/' rfl
  have hnames : Text.trimEnd (· == '/') (dir.flatMap ('/' :: ·)) = dir.flatMap ('/' :: ·) := by
    refine List.rdropWhile_eq_self_iff.mpr fun hne hlast => ?_
    rcases List.eq_nil_or_concat dir with rfl | ⟨front, n, rfl⟩
    · exact hne rfl
    · have hn : IsName n := h n (by simp)
      have hslash : ('/' :: n).getLast (List.cons_ne_nil _ _) = '/' := by simpa using hlast
      rw [List.getLast_cons hn.ne_nil] at hslash
      exact hn.no_slash (hslash ▸ List.getLast_mem hn.ne_nil)
  rw [join_eq_flatMap]
  split_ifs
  · rw [htrim, hnames]
  · rw [List.append_nil, hnames]

/-- Of two normal forms, one is contained in the other exactly if its names begin with those of the other. -/
theorem within_iff {s t p dir : List Char} (hp : normalize s = some p) (hdir : normalize t = some dir) :
    within p dir = true ↔ names dir <+: names p := by
  refine ⟨names_prefix_of_within, ?_⟩
  obtain ⟨ns, _, rfl, hns⟩ := exists_of_normalize hp
  obtain ⟨ms, _, rfl, hms⟩ := exists_of_normalize hdir
  replace hns : ∀ n ∈ ns, IsName n := fun n hn => (hns n hn).1
  replace hms : ∀ n ∈ ms, IsName n := fun n hn => (hms n hn).1
  rw [names_join _ hns, names_join _ hms]
  rintro ⟨below, rfl⟩
  unfold within
  rw [trimEnd_join _ hms, join_eq_flatMap, List.flatMap_append]
  simp only [Bool.or_eq_true, List.isEmpty_iff, beq_iff_eq, List.isPrefixOf_iff_prefix, or_assoc]
  cases below with
  | nil =>
    -- the directory itself, with or without the slash at its end
    cases ms with
    | nil => exact .inl rfl
    | cons m ms =>
      right
      split_ifs
      · exact .inr (by simp)
      · exact .inl (by simp)
  | cons n below =>
    refine .inr (.inr ?_)
    rw [List.append_assoc, List.prefix_append_right_inj, List.flatMap_cons, List.cons_append]
    exact List.cons_prefix_cons.mpr ⟨rfl, List.nil_prefix⟩

theorem within_self {s p : List Char} (hp : normalize s = some p) : within p p = true :=
  (within_iff hp hp).mpr (List.prefix_refl _)

/-- The root holds every path. -/
theorem within_root (p : List Char) : within p ['/'] = true := rfl

/-- Nothing is named by the root alone. -/
theorem eq_root_of_names_eq_nil {s p : List Char} (h : normalize s = some p) (hp : names p = []) : p = ['/'] := by
  obtain ⟨dir, isDirectory, rfl, hdir⟩ := exists_of_normalize h
  rw [names_join isDirectory fun n hn => (hdir n hn).1] at hp
  subst hp
  unfold join
  simp

end HttpMediation.Path
