import HttpMediation.Proofs.DotSegments
import HttpMediation.Url.Parser

/-!
# ParsedUrl — where the parts of a web address come from

The text of a URL is cut at its marks, and each part is escaped or, for the path, followed segment by segment.

* `Url.exists_of_parse?` : the texts that the parts of a URL were read from.
* `Url.forall_mem_readPath` : what holds of the segments that a path leaves.
* `Url.head?_pathText`, `Url.exists_normalize_pathText` : the path of a URL starts at the root and does not lead
  above it.
-/

namespace HttpMediation.Url

/-! ## Parts -/

theorem mem_of_mem_strip {c : Char} {s : List Char} (hc : c ∈ strip s) : c ∈ s := by
  have htrim : c ∈ Text.trim (·.toNat ≤ 0x20) s := List.mem_of_mem_filter hc
  have hend := (List.dropWhile_sublist _).mem (List.mem_reverse.mp htrim)
  exact (List.dropWhile_sublist _).mem (List.mem_reverse.mp hend)

/-- The query and the fragment of a URL that is read are escaped from characters of the text, and the other
parts are read from texts of their own. -/
theorem exists_of_parse? {s : List Char} {u : Url} (h : parse? s = some u) :
    ∃ user host path query fragment : List Char,
      (u.username, u.password) = readUser user ∧ Host.parse? host = some u.host ∧ u.path = readPath path ∧
      (∀ q, u.query = some q → q = Percent.encode queryKeeps query) ∧ query ⊆ s ∧
      (∀ f, u.fragment = some f → f = Percent.encode fragmentKeeps fragment) ∧ fragment ⊆ s := by
  unfold parse? at h
  dsimp only at h
  split at h
  · cases h
  rename_i mark behindColon hcut
  obtain ⟨scheme, -, h⟩ := Option.bind_eq_some_iff.mp h
  have hrest : behindColon.dropWhile isSlash ⊆ s := fun c hc => by
    have hcolon : c ∈ (Text.cutAt (· == ':') (strip s)).2 := by
      rw [hcut]
      exact List.mem_cons_of_mem _ ((List.dropWhile_sublist _).mem hc)
    exact mem_of_mem_strip ((List.dropWhile_sublist _).mem hcolon)
  unfold parseAuthority? at h
  dsimp only at h
  obtain ⟨host, hhost, h⟩ := Option.bind_eq_some_iff.mp h
  obtain ⟨port, -, h⟩ := Option.bind_eq_some_iff.mp h
  obtain rfl := Option.some.inj h
  have hoptional : ∀ {keeps : Char → Bool} {part : List Char} {w : List Char},
      (if part.isEmpty then none else some (Percent.encode keeps (part.drop 1))) = some w →
        w = Percent.encode keeps (part.drop 1) := by
    intro keeps part w hw
    split_ifs at hw
    exact (Option.some.inj hw).symm
  refine ⟨_, _, _, _, _, rfl, hhost, rfl, fun q hq => hoptional hq, fun c hc => hrest ?_,
    fun f hf => hoptional hf, fun c hc => hrest ?_⟩
  · exact (List.takeWhile_sublist _).mem ((List.dropWhile_sublist _).mem (List.mem_of_mem_drop hc))
  · exact (List.dropWhile_sublist _).mem (List.mem_of_mem_drop hc)

/-! ## Paths -/

theorem mem_of_mem_up {dir : List (List Char)} {s : List Char} (hs : s ∈ up dir) : s ∈ dir := by
  cases dir with
  | nil => exact hs
  | cons segment above =>
    rw [up] at hs
    split_ifs at hs
    · exact hs
    · exact List.mem_cons_of_mem _ hs

/-- What holds of all segments that do not lead up, and of the empty one, which stands in for a last segment of
dots, holds of all that are left. -/
theorem forall_mem_removeDotsFrom {Q : List Char → Prop} (hnil : Q []) {dir segments : List (List Char)}
    (hdir : ∀ s ∈ dir, Q s) (hsegments : ∀ s ∈ segments, isDoubleDot s = false → Q s) :
    ∀ s ∈ removeDotsFrom dir segments, Q s := by
  induction segments generalizing dir with
  | nil => exact fun s hs => hdir s (List.mem_reverse.mp hs)
  | cons t segments ih =>
    obtain ⟨ht, hsegments⟩ := List.forall_mem_cons.mp hsegments
    have hup : ∀ s ∈ up dir, Q s := fun s hs => hdir s (mem_of_mem_up hs)
    rw [removeDotsFrom]
    split_ifs with hdots
    · exact ih (List.forall_mem_cons.mpr ⟨hnil, hup⟩) hsegments
    · exact ih hup hsegments
    · exact ih (List.forall_mem_cons.mpr ⟨hnil, hdir⟩) hsegments
    · exact ih hdir hsegments
    · exact ih (List.forall_mem_cons.mpr ⟨ht (by simpa using hdots), hdir⟩) hsegments

/-- The segments of a path that is read are empty, or escaped from what stands between its slashes. -/
theorem forall_mem_readPath {Q : List Char → Prop} (hnil : Q []) {path : List Char}
    (hencoded : ∀ segment ∈ (path.drop 1).splitOnP isSlash,
      isDoubleDot (Percent.encode pathKeeps segment) = false → Q (Percent.encode pathKeeps segment)) :
    ∀ s ∈ readPath path, Q s := by
  refine forall_mem_removeDotsFrom hnil (fun s hs => absurd hs List.not_mem_nil) fun s hs => ?_
  obtain ⟨segment, hsegment, rfl⟩ := List.mem_map.mp hs
  exact hencoded segment hsegment

/-- An empty segment stands in for a last segment of dots, so something is left. -/
theorem removeDotsFrom_ne_nil {dir segments : List (List Char)} (h : dir ≠ [] ∨ segments ≠ []) :
    removeDotsFrom dir segments ≠ [] := by
  induction segments generalizing dir with
  | nil => simpa [removeDotsFrom] using h
  | cons s r ih =>
    rw [removeDotsFrom]
    split_ifs with _ hr _ hr
    · exact ih (.inl (List.cons_ne_nil _ _))
    · exact ih (.inr (by simpa using hr))
    · exact ih (.inl (List.cons_ne_nil _ _))
    · exact ih (.inr (by simpa using hr))
    · exact ih (.inl (List.cons_ne_nil _ _))

theorem readPath_ne_nil (path : List Char) : readPath path ≠ [] :=
  removeDotsFrom_ne_nil (.inr (by simp [List.splitOnP_ne_nil]))

/-- No segment that is left leads up, and none holds a slash. -/
theorem of_mem_readPath (path : List Char) : ∀ s ∈ readPath path, s ≠ ['.', '.'] ∧ '/' ∉ s := by
  refine forall_mem_readPath ⟨by decide, List.not_mem_nil⟩ fun segment hsegment hdots => ⟨?_, ?_⟩
  · intro heq
    rw [heq] at hdots
    exact absurd hdots (by decide)
  · refine Percent.not_mem_encode (by decide) fun hslash => ?_
    exact absurd (Path.of_mem_splitOnP hsegment hslash).2 (by decide)

section Address

variable {s : List Char} {u : Url}

theorem exists_readPath (h : parse? s = some u) : ∃ path, u.path = readPath path := by
  obtain ⟨-, -, path, -, -, -, -, hpath, -⟩ := exists_of_parse? h
  exact ⟨path, hpath⟩

theorem head?_pathText (h : parse? s = some u) : u.pathText.head? = some '/' := by
  obtain ⟨path, hpath⟩ := exists_readPath h
  obtain ⟨first, rest, hcons⟩ := List.exists_cons_of_ne_nil (readPath_ne_nil path)
  simp [pathText, hpath, hcons]

theorem splitOn_pathText (h : parse? s = some u) : u.pathText.splitOn '/' = [] :: u.path := by
  obtain ⟨path, hpath⟩ := exists_readPath h
  apply Path.splitOn_flatMap_slash
  intro segment hsegment
  rw [hpath] at hsegment
  exact (of_mem_readPath path segment hsegment).2

/-- The path of a URL has no steps up left, so it does not lead above the root. -/
theorem exists_normalize_pathText (h : parse? s = some u) : ∃ p, Path.normalize u.pathText = some p := by
  obtain ⟨path, hpath⟩ := exists_readPath h
  rw [Path.exists_normalize_iff, splitOn_pathText h]
  refine ⟨head?_pathText h, Path.not_climbs_of_no_up fun hup => ?_⟩
  rw [hpath] at hup
  rcases List.mem_cons.mp hup with hnil | hup
  · cases hnil
  · exact (of_mem_readPath path _ hup).1 rfl

end Address

end HttpMediation.Url
