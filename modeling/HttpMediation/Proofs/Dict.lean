import HttpMediation.Dict

/-!
# Dict — what a map holds

* `Dict.get?_ofList_eq_some_iff`, `Dict.mem_keys_ofList` : a map that is made from a list has the last value of
  each key; entries with different keys are all found again (`Dict.get?_ofList`).
* `Dict.ext_get?` : maps in which every key finds the same are equal.
* `Dict.ofList_entries` : a map can be made again from its entries.
* `Dict.erase_insert`, `Dict.insert_erase` : an entry that is added and removed, or removed and put back,
  leaves no trace.
* `Dict.size_insert`, `Dict.size_erase` : a new entry counts one more, a removed one counts one less.
-/

namespace HttpMediation.Dict

variable {α : Type}

/-! ## Entries -/

theorem lookup_eq_none_iff {l : List (String × α)} {k : String} : l.lookup k = none ↔ k ∉ l.map (·.1) := by
  rw [List.lookup_eq_none_iff, List.mem_map]
  constructor
  · rintro h ⟨e, he, rfl⟩
    simpa using h e he
  · intro h e he
    rw [bne_iff_ne]
    rintro rfl
    exact h ⟨e, he, rfl⟩

/-- Of the entries with a key the last one counts, and the map that they are added to if there is none. -/
theorem get?_insertAll (l : List (String × α)) (d : Dict α) (k : String) :
    (insertAll l d).get? k = (l.reverse.lookup k).or (d.get? k) := by
  induction l generalizing d with
  | nil => rfl
  | cons e l ih =>
    obtain ⟨j, v⟩ := e
    have hstep : insertAll ((j, v) :: l) d = insertAll l (d.insert j v) := rfl
    rw [hstep, ih, List.reverse_cons, List.lookup_append, Option.or_assoc]
    by_cases hk : k = j
    · subst hk
      simp
    · simp [List.lookup_cons, get?_insert_of_ne hk, beq_eq_false_iff_ne.mpr hk]

theorem get?_ofList_reverse (l : List (String × α)) (k : String) :
    (ofList l).get? k = l.reverse.lookup k := by
  unfold ofList
  rw [get?_insertAll, get?_empty, Option.or_none]

/-- A value is found under a key if it is the last one that the list has for the key. -/
theorem get?_ofList_eq_some_iff {l : List (String × α)} {k : String} {v : α} :
    (ofList l).get? k = some v ↔ ∃ before after, l = before ++ (k, v) :: after ∧ k ∉ after.map (·.1) := by
  rw [get?_ofList_reverse, List.lookup_eq_some_iff]
  constructor
  · rintro ⟨after, before, hl, hafter⟩
    refine ⟨before.reverse, after.reverse, ?_, ?_⟩
    · rw [← List.reverse_reverse l, hl]
      simp
    · intro hk
      obtain ⟨e, he, rfl⟩ := List.mem_map.mp hk
      simpa using hafter e (List.mem_reverse.mp he)
  · rintro ⟨before, after, rfl, hafter⟩
    refine ⟨after.reverse, before.reverse, by simp, ?_⟩
    intro e he
    rw [bne_iff_ne]
    rintro rfl
    exact hafter (List.mem_map_of_mem (List.mem_reverse.mp he))

/-- The keys of a map are those of the entries that it was made from. -/
theorem mem_keys_ofList {l : List (String × α)} {k : String} : k ∈ (ofList l).keys ↔ k ∈ l.map (·.1) := by
  have hlookup : ∀ l : List (String × α), k ∈ l.map (·.1) ↔ l.lookup k ≠ none := by
    intro l
    rw [ne_eq, lookup_eq_none_iff, Classical.not_not]
  have hget : (ofList l).entries.lookup k = l.reverse.lookup k := get?_ofList_reverse l k
  rw [keys, hlookup, hget, ← hlookup, List.map_reverse, List.mem_reverse]

theorem mem_iff_lookup {l : List (String × α)} (h : (l.map (·.1)).Nodup) {k : String} {v : α} :
    (k, v) ∈ l ↔ l.lookup k = some v := by
  induction l with
  | nil => simp
  | cons e l ih =>
    rw [List.map_cons, List.nodup_cons] at h
    have hrest := ih h.2
    rw [List.mem_cons, hrest, List.lookup_cons]
    by_cases hk : k = e.1
    · subst hk
      have hnone : l.lookup e.1 = none := lookup_eq_none_iff.mpr h.1
      rw [hnone, beq_self_eq_true]
      constructor
      · rintro (heq | hsome)
        · rw [← heq]
        · cases hsome
      · intro hsome
        left
        rw [← Option.some.inj hsome]
    · have hne : (k, v) ≠ e := fun heq => hk (congrArg Prod.fst heq)
      simp [hne, beq_eq_false_iff_ne.mpr hk]

theorem lookup_reverse {l : List (String × α)} (h : (l.map (·.1)).Nodup) (k : String) :
    l.reverse.lookup k = l.lookup k := by
  have hreverse : (l.reverse.map (·.1)).Nodup := by
    rw [List.map_reverse]
    exact List.pairwise_reverse.mpr (h.imp Ne.symm)
  refine Option.ext fun v => ?_
  rw [← mem_iff_lookup h, ← mem_iff_lookup hreverse, List.mem_reverse]

theorem get?_ofList {l : List (String × α)} (h : (l.map (·.1)).Nodup) (k : String) :
    (ofList l).get? k = l.lookup k := by
  rw [get?_ofList_reverse, lookup_reverse h]

theorem nodup_keys (d : Dict α) : (d.entries.map (·.1)).Nodup := by
  rw [List.nodup_iff_pairwise_ne, List.pairwise_map]
  refine d.sorted.imp ?_
  intro a b hlt he
  rw [he] at hlt
  exact String.lt_irrefl _ hlt

theorem nodup_entries (d : Dict α) : d.entries.Nodup :=
  List.Pairwise.of_map (·.1) (fun _ _ hne heq => hne (congrArg Prod.fst heq)) d.nodup_keys

/-- Maps are equal if every key finds the same in both: their entries stand in the order of the keys. -/
theorem ext_get? {a b : Dict α} (h : ∀ k, a.get? k = b.get? k) : a = b := by
  have hmem : ∀ e, e ∈ a.entries ↔ e ∈ b.entries := by
    rintro ⟨k, v⟩
    have hlookup : a.entries.lookup k = b.entries.lookup k := h k
    rw [mem_iff_lookup a.nodup_keys, mem_iff_lookup b.nodup_keys, hlookup]
  have hperm : a.entries.Perm b.entries :=
    (List.perm_ext_iff_of_nodup a.nodup_entries b.nodup_entries).mpr hmem
  refine ext (hperm.eq_of_pairwise ?_ a.sorted b.sorted)
  intro x y _ _ hxy hyx
  exact absurd (String.lt_trans hxy hyx) (String.lt_irrefl _)

theorem ofList_entries (d : Dict α) : ofList d.entries = d :=
  ext_get? fun k => get?_ofList d.nodup_keys k

/-! ## Removal -/

theorem lookup_filter_ne {k j : String} (l : List (String × α)) :
    (l.filter (·.1 != k)).lookup j = if j = k then none else l.lookup j := by
  induction l with
  | nil => simp
  | cons e l ih =>
    rw [List.filter_cons, List.lookup_cons]
    by_cases hek : e.1 = k
    · have hdrop : (e.1 != k) = false := by simp [hek]
      rw [hdrop, if_neg Bool.false_ne_true, ih]
      by_cases hj : j = k
      · rw [if_pos hj, if_pos hj]
      · have hje : (j == e.1) = false := by simp [hek, hj]
        rw [if_neg hj, if_neg hj, hje]
    · have hkeep : (e.1 != k) = true := by simp [hek]
      rw [hkeep, if_pos rfl, List.lookup_cons, ih]
      by_cases hje : j = e.1
      · have hj : j ≠ k := fun h => hek (hje.symm.trans h)
        rw [if_neg hj, if_neg hj]
      · have hje' : (j == e.1) = false := beq_eq_false_iff_ne.mpr hje
        rw [hje']

theorem get?_erase (k j : String) (d : Dict α) :
    (d.erase k).get? j = if j = k then none else d.get? j :=
  lookup_filter_ne d.entries

@[simp] theorem get?_erase_self (k : String) (d : Dict α) : (d.erase k).get? k = none := by
  rw [get?_erase, if_pos rfl]

theorem get?_erase_of_ne {k j : String} (h : j ≠ k) (d : Dict α) :
    (d.erase k).get? j = d.get? j := by
  rw [get?_erase, if_neg h]

theorem erase_insert {k : String} {v : α} {d : Dict α} (h : d.get? k = none) :
    (d.insert k v).erase k = d := by
  refine ext_get? fun j => ?_
  by_cases hj : j = k
  · subst hj
    rw [get?_erase_self, h]
  · rw [get?_erase_of_ne hj, get?_insert_of_ne hj]

theorem insert_erase {k : String} {v : α} {d : Dict α} (h : d.get? k = some v) :
    (d.erase k).insert k v = d := by
  refine ext_get? fun j => ?_
  by_cases hj : j = k
  · subst hj
    rw [get?_insert_self, h]
  · rw [get?_insert_of_ne hj, get?_erase_of_ne hj]

/-! ## Sizes -/

theorem length_place {k : String} {v : α} {l : List (String × α)} (h : l.lookup k = none) :
    (place k v l).length = l.length + 1 := by
  induction l with
  | nil => rfl
  | cons e l ih =>
    rw [List.lookup_cons] at h
    simp only [place]
    split
    · rfl
    · split
      · rename_i hlt
        have hne : (k == e.1) = false := by
          rw [beq_eq_false_iff_ne]
          rintro rfl
          exact String.lt_irrefl _ hlt
        rw [hne] at h
        rw [List.length_cons, ih h, List.length_cons]
      · rename_i hle hge
        have hk : k = e.1 := String.le_antisymm (String.not_lt.mp hge) (String.not_lt.mp hle)
        rw [hk, beq_self_eq_true] at h
        cases h

theorem size_insert {k : String} {v : α} {d : Dict α} (h : d.get? k = none) :
    (d.insert k v).size = d.size + 1 :=
  length_place h

theorem size_erase {k : String} {v : α} {d : Dict α} (h : d.get? k = some v) :
    (d.erase k).size + 1 = d.size := by
  have hsize : ((d.erase k).insert k v).size = (d.erase k).size + 1 := size_insert (get?_erase_self k d)
  rw [insert_erase h] at hsize
  exact hsize.symm

end HttpMediation.Dict
