/-!
# Dict — ordered maps from texts

A finite map whose keys are texts, kept as a list in the order of the keys (by code point).  The
order is part of the type, so two maps with the same entries are equal.

* `Dict.get?`, `Dict.insert`, `Dict.erase` : look up, add or replace, remove.
* `Dict.ofList` : of two entries with one key the later one stays.
-/

namespace HttpMediation

/-- A finite map from texts, in the order of its keys. -/
structure Dict (α : Type) where
  entries : List (String × α)
  sorted : entries.Pairwise fun a b => a.1 < b.1

namespace Dict

variable {α β : Type}

/-! ## Operations -/

/-- The map without entries. -/
def empty : Dict α := ⟨[], .nil⟩

instance : Inhabited (Dict α) := ⟨empty⟩

/-- Puts an entry at its place among sorted entries. -/
def place (k : String) (v : α) : List (String × α) → List (String × α)
  | [] => [(k, v)]
  | e :: r =>
    if k < e.1 then (k, v) :: e :: r
    else if e.1 < k then e :: place k v r
    else (k, v) :: r

theorem fst_of_mem_place {k : String} {v : α} {l : List (String × α)} {x : String × α}
    (h : x ∈ place k v l) : x.1 = k ∨ x ∈ l := by
  induction l with
  | nil =>
    simp only [place, List.mem_singleton] at h
    exact .inl (by rw [h])
  | cons e r ih =>
    simp only [place] at h
    split at h
    · rcases List.mem_cons.mp h with rfl | h
      · exact .inl rfl
      · exact .inr h
    · split at h
      · rcases List.mem_cons.mp h with rfl | h
        · exact .inr (List.mem_cons_self ..)
        · exact (ih h).imp id (List.mem_cons_of_mem _)
      · rcases List.mem_cons.mp h with rfl | h
        · exact .inl rfl
        · exact .inr (List.mem_cons_of_mem _ h)

theorem pairwise_place {k : String} {v : α} {l : List (String × α)}
    (h : l.Pairwise fun a b => a.1 < b.1) : (place k v l).Pairwise fun a b => a.1 < b.1 := by
  induction l with
  | nil => simp [place]
  | cons e r ih =>
    have hr := List.pairwise_cons.mp h
    simp only [place]
    split
    · rename_i hlt
      refine List.pairwise_cons.mpr ⟨fun x hx => ?_, h⟩
      rcases List.mem_cons.mp hx with rfl | hx
      · exact hlt
      · exact String.lt_trans hlt (hr.1 x hx)
    · split
      · rename_i hlt
        refine List.pairwise_cons.mpr ⟨fun x hx => ?_, ih hr.2⟩
        rcases fst_of_mem_place hx with hk | hx
        · rw [hk]; exact hlt
        · exact hr.1 x hx
      · rename_i h1 h2
        have hk : k = e.1 := String.le_antisymm (String.not_lt.mp h2) (String.not_lt.mp h1)
        refine List.pairwise_cons.mpr ⟨fun x hx => ?_, hr.2⟩
        rw [hk]; exact hr.1 x hx

/-- Adds an entry, in place of the one with the same key. -/
def insert (k : String) (v : α) (d : Dict α) : Dict α :=
  ⟨place k v d.entries, pairwise_place d.sorted⟩

/-- The value under the key. -/
def get? (d : Dict α) (k : String) : Option α :=
  d.entries.lookup k

/-- Whether the key has a value. -/
def contains (d : Dict α) (k : String) : Bool :=
  (d.get? k).isSome

/-- The map without that key. -/
def erase (k : String) (d : Dict α) : Dict α :=
  ⟨d.entries.filter (·.1 != k), d.sorted.filter _⟩

/-- Adds the entries one after another. -/
def insertAll (l : List (String × α)) (d : Dict α) : Dict α :=
  l.foldl (fun d e => d.insert e.1 e.2) d

/-- The map of the entries; the last one with a key stays. -/
def ofList (l : List (String × α)) : Dict α :=
  insertAll l empty

/-- The keys in their order. -/
def keys (d : Dict α) : List String :=
  d.entries.map (·.1)

/-- The values in the order of their keys. -/
def values (d : Dict α) : List α :=
  d.entries.map (·.2)

/-- How many entries there are. -/
def size (d : Dict α) : Nat :=
  d.entries.length

/-- Whether there is no entry. -/
def isEmpty (d : Dict α) : Bool :=
  d.entries.isEmpty

/-! ## Sets -/

end Dict

/-- A finite set of texts. -/
abbrev TextSet := Dict Unit

namespace TextSet

/-- The set of the texts in the list. -/
def ofList (l : List String) : TextSet :=
  Dict.ofList (l.map fun s => (s, ()))

/-- The texts of the set in their order. -/
def toList (s : TextSet) : List String :=
  s.keys

end TextSet

namespace Dict

variable {α β : Type}

/-! ## Equality and look-up -/

theorem ext {a b : Dict α} (h : a.entries = b.entries) : a = b := by
  cases a; cases b; cases h; rfl

instance [DecidableEq α] : DecidableEq (Dict α) := fun a b =>
  if h : a.entries = b.entries then isTrue (ext h) else isFalse fun e => h (e ▸ rfl)

theorem lookup_place_self (k : String) (v : α) (l : List (String × α)) :
    (place k v l).lookup k = some v := by
  induction l with
  | nil => simp [place]
  | cons e r ih =>
    simp only [place]
    split
    · simp
    · split
      · rename_i hlt
        have hne : (k == e.1) = false := by
          rw [beq_eq_false_iff_ne]
          rintro rfl
          exact String.lt_irrefl _ hlt
        rw [List.lookup_cons, hne]
        exact ih
      · simp

theorem lookup_place_of_ne {k j : String} (h : j ≠ k) (v : α) (l : List (String × α)) :
    (place k v l).lookup j = l.lookup j := by
  have hjk : (j == k) = false := beq_eq_false_iff_ne.mpr h
  induction l with
  | nil => simp [place, List.lookup_cons, hjk]
  | cons e r ih =>
    simp only [place]
    split
    · rw [List.lookup_cons, hjk]
    · split
      · rw [List.lookup_cons, List.lookup_cons, ih]
      · rename_i h1 h2
        have hk : k = e.1 := String.le_antisymm (String.not_lt.mp h2) (String.not_lt.mp h1)
        have hje : (j == e.1) = false := hk ▸ hjk
        rw [List.lookup_cons, List.lookup_cons, hjk, hje]

@[simp] theorem get?_insert_self (k : String) (v : α) (d : Dict α) :
    (d.insert k v).get? k = some v :=
  lookup_place_self k v d.entries

theorem get?_insert_of_ne {k j : String} (h : j ≠ k) (v : α) (d : Dict α) :
    (d.insert k v).get? j = d.get? j :=
  lookup_place_of_ne h v d.entries

@[simp] theorem get?_empty (k : String) : (empty : Dict α).get? k = none := rfl

end Dict

end HttpMediation
