import HttpMediation.Proofs.Dict
import HttpMediation.Upload.Disk

/-!
# Disk — what calls do, and what they leave alone

* `Disk.held?` : what stands under a name.
* `Disk.ChangesOnly` : nothing has changed but what stands under the given names.
* `Disk.AddsOnly` : and the given names were free before.
* `Disk.create_ok`, `append_ok`, `rename_ok`, `copy_ok` : what a call that succeeds has done.
* `Disk.ChangesOnly.directory?_eq` : a directory whose entries are the same is the same.
-/

namespace HttpMediation.Disk

variable {d d' d'' : Disk} {p q : Place} {name other : String} {content : List UInt8}

/-! ## Entries -/

/-- What stands under the name. -/
def held? (p : Place) (name : String) (d : Disk) : Option DirectoryEntry :=
  (d.directory? p).bind (·.get? name)

theorem content?_eq_some_iff :
    d.content? p name = some content ↔ d.held? p name = some (.file content) := by
  unfold content? held?
  split
  · rename_i held hheld
    rw [hheld, Option.some.injEq, Option.some.injEq, DirectoryEntry.file.injEq]
  · rename_i hother
    constructor
    · intro h
      cases h
    · intro h
      exact absurd h (hother content)

theorem content?_congr {e : Disk} (h : d.held? p name = e.held? q other) :
    d.content? p name = e.content? q other := by
  refine Option.ext fun content => ?_
  rw [content?_eq_some_iff, content?_eq_some_iff, h]

theorem isSome_directory?_of_held? {entry : DirectoryEntry} (h : d.held? p name = some entry) :
    (d.directory? p).isSome := by
  obtain ⟨dir, hdir, -⟩ := Option.bind_eq_some_iff.mp h
  rw [hdir]
  rfl

theorem directory?_modify (f : Directory → Directory) :
    (d.modify f p).directory? q = if q = p then (d.directory? p).map f else d.directory? q := by
  cases p <;> cases q <;> simp [modify, directory?]

theorem held?_modify (f : Directory → Directory) :
    (d.modify f p).held? q name =
      if q = p then (d.directory? p).bind fun dir => (f dir).get? name else d.held? q name := by
  rw [held?, directory?_modify]
  split
  · rw [Option.bind_map]
    rfl
  · rfl

theorem held?_put_self (h : (d.directory? p).isSome) :
    (d.put p name content).held? p name = some (.file content) := by
  obtain ⟨dir, hdir⟩ := Option.isSome_iff_exists.mp h
  rw [put, held?_modify, if_pos rfl, hdir]
  exact Dict.get?_insert_self ..

@[simp] theorem held?_remove_self : (d.remove p name).held? p name = none := by
  rw [remove, held?_modify, if_pos rfl]
  cases d.directory? p with
  | none => rfl
  | some dir => exact Dict.get?_erase_self ..

@[simp] theorem directory?_called {n : Nat} :
    ({ d with calls := n } : Disk).directory? p = d.directory? p := by
  cases p <;> rfl

@[simp] theorem held?_called {n : Nat} :
    ({ d with calls := n } : Disk).held? p name = d.held? p name := by
  rw [held?, directory?_called, held?]

/-! ## What stays as it is -/

/-- Nothing has changed but what stands under these names. -/
structure ChangesOnly (names : List (Place × String)) (d d' : Disk) : Prop where
  directories : ∀ p, (d'.directory? p).isSome = (d.directory? p).isSome
  entries : ∀ p name, (p, name) ∉ names → d'.held? p name = d.held? p name
  fails : d'.fails = d.fails

namespace ChangesOnly

variable {names others : List (Place × String)}

theorem refl (names : List (Place × String)) (d : Disk) : ChangesOnly names d d :=
  ⟨fun _ => rfl, fun _ _ _ => rfl, rfl⟩

theorem trans (h : ChangesOnly names d d') (h' : ChangesOnly names d' d'') :
    ChangesOnly names d d'' where
  directories p := (h'.directories p).trans (h.directories p)
  entries p name hname := (h'.entries p name hname).trans (h.entries p name hname)
  fails := h'.fails.trans h.fails

theorem mono (h : ChangesOnly names d d') (hsub : names ⊆ others) : ChangesOnly others d d' where
  directories := h.directories
  entries p name hname := h.entries p name fun hmem => hname (hsub hmem)
  fails := h.fails

theorem of_nothing (h : ChangesOnly [] d d') : ChangesOnly names d d' :=
  h.mono (List.nil_subset names)

theorem called (names : List (Place × String)) (d : Disk) :
    ChangesOnly names d { d with calls := d.calls + 1 } :=
  ⟨fun _ => by rw [directory?_called], fun _ _ _ => held?_called, rfl⟩

theorem modify (h : ChangesOnly names d d') {f : Directory → Directory}
    (hf : ∀ dir name, (p, name) ∉ names → (f dir).get? name = dir.get? name) :
    ChangesOnly names d (d'.modify f p) where
  directories q := by
    rw [← h.directories q, directory?_modify]
    split
    · rename_i hq
      rw [Option.isSome_map, hq]
    · rfl
  entries q name hname := by
    rw [← h.entries q name hname, held?_modify]
    split
    · rename_i hq
      subst hq
      have hget : (fun dir => (f dir).get? name) = fun dir : Directory => dir.get? name :=
        funext fun dir => hf dir name hname
      rw [hget]
      rfl
    · rfl
  fails := by cases p <;> exact h.fails

theorem put (h : ChangesOnly names d d') (hmem : (p, name) ∈ names) (content : List UInt8) :
    ChangesOnly names d (d'.put p name content) := by
  refine h.modify fun dir other hother => ?_
  have hne : other ≠ name := fun heq => hother (heq ▸ hmem)
  exact Dict.get?_insert_of_ne hne ..

theorem remove (h : ChangesOnly names d d') (hmem : (p, name) ∈ names) :
    ChangesOnly names d (d'.remove p name) := by
  refine h.modify fun dir other hother => ?_
  have hne : other ≠ name := fun heq => hother (heq ▸ hmem)
  exact Dict.get?_erase_of_ne hne ..

/-- A name under which the same stands as before need not be listed. -/
theorem drop (h : ChangesOnly ((p, name) :: names) d d') (hsame : d'.held? p name = d.held? p name) :
    ChangesOnly names d d' where
  directories := h.directories
  entries q other hother := by
    by_cases heq : (q, other) = (p, name)
    · obtain ⟨rfl, rfl⟩ := Prod.mk.inj heq
      exact hsame
    · exact h.entries q other fun hmem => (List.mem_cons.mp hmem).elim heq hother
  fails := h.fails

theorem directory?_eq (h : ChangesOnly names d d')
    (hentries : ∀ name, d'.held? p name = d.held? p name) : d'.directory? p = d.directory? p := by
  have hsome := h.directories p
  unfold held? at hentries
  cases hd : d.directory? p <;> cases hd' : d'.directory? p <;> rw [hd, hd'] at hsome hentries
  · cases hsome
  · cases hsome
  · exact congrArg some (Dict.ext_get? hentries)

end ChangesOnly

/-! ## New entries -/

/-- Nothing has changed but what stands under these names, and they were free. -/
structure AddsOnly (names : List (Place × String)) (d d' : Disk) : Prop extends
    ChangesOnly names d d' where
  free : ∀ p name, (p, name) ∈ names → d.held? p name = none

namespace AddsOnly

variable {names others : List (Place × String)}

theorem refl (d : Disk) : AddsOnly [] d d :=
  ⟨.refl [] d, fun _ _ hmem => absurd hmem List.not_mem_nil⟩

theorem of_mem_iff (h : AddsOnly names d d') (hiff : ∀ x, x ∈ names ↔ x ∈ others) :
    AddsOnly others d d' :=
  ⟨h.mono fun _ => (hiff _).mp, fun p name hmem => h.free p name ((hiff _).mpr hmem)⟩

theorem change (h : AddsOnly names d d') (h' : ChangesOnly names d' d'') : AddsOnly names d d'' :=
  ⟨h.trans h', h.free⟩

/-- A name that is free now was free before: either nothing has changed there, or it is listed. -/
theorem add (h : AddsOnly names d d') (hfree : d'.held? p name = none) :
    AddsOnly ((p, name) :: names) d d' where
  toChangesOnly := h.mono (List.subset_cons_self _ _)
  free q other hmem := by
    by_cases hlisted : (q, other) ∈ names
    · exact h.free q other hlisted
    · obtain ⟨rfl, rfl⟩ := Prod.mk.inj ((List.mem_cons.mp hmem).resolve_right hlisted)
      exact (h.entries q other hlisted).symm.trans hfree

theorem drop (h : AddsOnly ((p, name) :: names) d d') (hfree : d'.held? p name = none) :
    AddsOnly names d d' :=
  ⟨h.toChangesOnly.drop (hfree.trans (h.free p name List.mem_cons_self).symm),
    fun q other hmem => h.free q other (List.mem_cons_of_mem _ hmem)⟩

theorem foldl_remove {α : Type} {key : α → String} {l : List α}
    (h : AddsOnly (l.map (fun a => (p, key a)) ++ names) d d') :
    AddsOnly names d (l.foldl (fun d a => d.remove p (key a)) d') := by
  induction l generalizing d' with
  | nil => exact h
  | cons a l ih =>
    have hremoved : ChangesOnly ((p, key a) :: (l.map (fun a => (p, key a)) ++ names)) d'
        (d'.remove p (key a)) :=
      (ChangesOnly.refl _ d').remove List.mem_cons_self
    exact ih ((h.change hremoved).drop held?_remove_self)

end AddsOnly

/-! ## Calls -/

/-- A call that fails from outside does not say that a name is taken. -/
def Truthful (d : Disk) : Prop :=
  ∀ n f, d.fails n = some f → f.kind ≠ .alreadyExists

theorem ChangesOnly.truthful {names : List (Place × String)} (h : ChangesOnly names d d')
    (htruthful : d.Truthful) : d'.Truthful := by
  unfold Truthful
  rw [h.fails]
  exact htruthful

theorem refusal?_eq_none (h : d.refusal? p name = none) :
    (d.directory? p).isSome ∧ d.held? p name = none := by
  unfold refusal? at h
  split at h
  · cases h
  · rename_i dir hdir
    split at h
    · cases h
    · split at h
      · cases h
      · rename_i hfree
        rw [held?, hdir]
        exact ⟨rfl, Option.not_isSome_iff_eq_none.mp hfree⟩

theorem isSome_of_refusal? (h : d.refusal? p name = some .alreadyExists) : (d.held? p name).isSome := by
  unfold refusal? at h
  split at h
  · split at h <;> cases h
  · rename_i dir hdir
    split at h
    · cases h
    · split at h
      · rename_i hheld
        rw [held?, hdir]
        exact hheld
      · cases h

theorem create_ok (h : d.create p name = (.ok (), d')) :
    d.held? p name = none ∧ d'.held? p name = some (.file []) ∧ ChangesOnly [(p, name)] d d' := by
  cases hfails : d.fails d.calls with
  | some f => simp [create, attempt, hfails] at h
  | none =>
    simp only [create, attempt, hfails] at h
    split at h
    · cases h
    · rename_i hrefusal
      obtain ⟨-, rfl⟩ := Prod.mk.inj h
      obtain ⟨hsome, hfree⟩ := refusal?_eq_none hrefusal
      rw [held?_called] at hfree
      exact ⟨hfree, held?_put_self hsome, (ChangesOnly.called _ d).put (List.mem_singleton.mpr rfl) []⟩

/-- A file that has been created has a name that is short enough. -/
theorem create_size (h : d.create p name = (.ok (), d')) : name.utf8ByteSize ≤ maxNameSize := by
  unfold create at h
  split at h
  · cases h
  · split at h
    · cases h
    · rename_i hrefusal
      unfold refusal? at hrefusal
      split at hrefusal
      · cases hrefusal
      · split at hrefusal
        · cases hrefusal
        · rename_i hlong
          exact Nat.le_of_not_lt hlong

theorem create_error {k : IoKind} (h : d.create p name = (.error k, d')) :
    ChangesOnly [] d d' ∧
      (d.Truthful → k = .alreadyExists → (d.held? p name).isSome) := by
  cases hfails : d.fails d.calls with
  | some f =>
    simp only [create, attempt, hfails, Prod.mk.injEq, Except.error.injEq] at h
    obtain ⟨hk, rfl⟩ := h
    exact ⟨.called [] d, fun htruthful hexists => absurd (hk.trans hexists) (htruthful _ f hfails)⟩
  | none =>
    simp only [create, attempt, hfails] at h
    split at h
    · rename_i k' hrefusal
      simp only [Prod.mk.injEq, Except.error.injEq] at h
      obtain ⟨rfl, rfl⟩ := h
      refine ⟨.called [] d, fun _ hexists => ?_⟩
      subst hexists
      rw [← held?_called]
      exact isSome_of_refusal? hrefusal
    · cases h

theorem append_changesOnly {bytes : List UInt8} {out : Except IoKind Unit}
    (h : d.append p name bytes = (out, d')) : ChangesOnly [(p, name)] d d' := by
  obtain rfl : (d.append p name bytes).2 = d' := congrArg Prod.snd h
  have hcalled := ChangesOnly.called [(p, name)] d
  have hmem : (p, name) ∈ [(p, name)] := List.mem_singleton.mpr rfl
  cases hfails : d.fails d.calls with
  | some f =>
    simp only [append, attempt, hfails]
    exact hcalled.put hmem _
  | none =>
    simp only [append, attempt, hfails]
    split <;> exact hcalled.put hmem _

theorem append_ok {bytes : List UInt8} (hheld : d.content? p name = some content)
    (h : d.append p name bytes = (.ok (), d')) :
    d'.content? p name = some (content ++ bytes) ∧ content.length + bytes.length ≤ maxContentSize := by
  have hsome : (d.directory? p).isSome := isSome_directory?_of_held? (content?_eq_some_iff.mp hheld)
  cases hfails : d.fails d.calls with
  | some f => simp [append, attempt, hfails] at h
  | none =>
    simp only [append, attempt, hfails, hheld, Option.getD_some] at h
    split at h
    · cases h
    · rename_i hroom
      obtain ⟨-, rfl⟩ := Prod.mk.inj h
      rw [← directory?_called] at hsome
      exact ⟨content?_eq_some_iff.mpr (held?_put_self hsome), Nat.le_of_not_lt hroom⟩

theorem sync_changesOnly {out : Except IoKind Unit} (h : d.sync = (out, d')) : ChangesOnly [] d d' := by
  obtain rfl : d.sync.2 = d' := congrArg Prod.snd h
  cases hfails : d.fails d.calls with
  | some f =>
    simp only [sync, attempt, hfails]
    exact .called [] d
  | none =>
    simp only [sync, attempt, hfails]
    exact .called [] d

section Moving

variable {source target : String}

/-- A staged file is in the storage now, and no longer staged. -/
structure Moves (source target : String) (d d' : Disk) : Prop where
  content : ∃ content, d.content? .staging source = some content ∧
    d'.content? .storage target = some content
  gone : d'.held? .staging source = none
  changes : ChangesOnly [(.staging, source), (.storage, target)] d d'

theorem Moves.of_put (hstorage : (d.directory? .storage).isSome)
    (hheld : d.content? .staging source = some content) :
    Moves source target d ((d.put .storage target content).remove .staging source) where
  content := by
    have hput : (d.put .storage target content).held? .storage target = some (.file content) :=
      held?_put_self hstorage
    have hremove := (ChangesOnly.refl [(Place.staging, source)] (d.put .storage target content)).remove
      (List.mem_singleton.mpr rfl)
    have hkept := hremove.entries .storage target (by simp)
    exact ⟨content, hheld, content?_eq_some_iff.mpr (hkept.trans hput)⟩
  gone := held?_remove_self
  changes := ((ChangesOnly.refl _ d).put (by simp) content).remove (by simp)

theorem Moves.staging_entry (h : Moves source target d d') (hname : name ≠ source) :
    d'.held? .staging name = d.held? .staging name :=
  h.changes.entries .staging name (by simpa using hname)

theorem Moves.storage_entry (h : Moves source target d d') (hname : name ≠ target) :
    d'.held? .storage name = d.held? .storage name :=
  h.changes.entries .storage name (by simpa using hname)

/-- What has happened before does not matter if it happened to the target only. -/
theorem Moves.of_changes (h : ChangesOnly [(.storage, target)] d d')
    (hmoves : Moves source target d' d'') : Moves source target d d'' where
  content := by
    obtain ⟨content, hheld, hmoved⟩ := hmoves.content
    have hsame : d'.held? .staging source = d.held? .staging source :=
      h.entries .staging source (by simp)
    exact ⟨content, (content?_congr hsame).symm.trans hheld, hmoved⟩
  gone := hmoves.gone
  changes := (h.mono (by simp)).trans hmoves.changes

theorem rename_error {k : IoKind} (h : d.rename source target = (.error k, d')) : ChangesOnly [] d d' := by
  cases hfails : d.fails d.calls with
  | some f =>
    simp only [rename, attempt, hfails] at h
    obtain ⟨-, rfl⟩ := Prod.mk.inj h
    exact .called [] d
  | none =>
    simp only [rename, attempt, hfails] at h
    split at h
    · obtain ⟨-, rfl⟩ := Prod.mk.inj h
      exact .called [] d
    · cases h

theorem rename_ok (hstorage : (d.directory? .storage).isSome)
    (h : d.rename source target = (.ok (), d')) : Moves source target d d' := by
  cases hfails : d.fails d.calls with
  | some f => simp [rename, attempt, hfails] at h
  | none =>
    simp only [rename, attempt, hfails] at h
    split at h
    · cases h
    · rename_i content hheld
      obtain ⟨-, rfl⟩ := Prod.mk.inj h
      rw [← directory?_called] at hstorage
      exact .of_changes (.called _ d) (.of_put hstorage hheld)

theorem copy_changesOnly {out : Except IoKind Unit} (h : d.copy source target = (out, d')) :
    ChangesOnly [(.storage, target)] d d' := by
  obtain rfl : (d.copy source target).2 = d' := congrArg Prod.snd h
  have hcalled := ChangesOnly.called [(Place.storage, target)] d
  cases hheld : d.content? .staging source with
  | none =>
    simp only [copy, attempt, hheld]
    exact hcalled
  | some content =>
    cases hfails : d.fails d.calls with
    | some f =>
      simp only [copy, attempt, hheld, hfails]
      exact hcalled.put (List.mem_singleton.mpr rfl) _
    | none =>
      simp only [copy, attempt, hheld, hfails]
      exact hcalled.put (List.mem_singleton.mpr rfl) _

theorem copy_ok (hstorage : (d.directory? .storage).isSome) (h : d.copy source target = (.ok (), d')) :
    Moves source target d (d'.remove .staging source) := by
  cases hheld : d.content? .staging source with
  | none => simp [copy, attempt, hheld] at h
  | some content =>
    cases hfails : d.fails d.calls with
    | some f => simp [copy, attempt, hheld, hfails] at h
    | none =>
      simp only [copy, attempt, hheld, hfails] at h
      obtain ⟨-, rfl⟩ := Prod.mk.inj h
      rw [← directory?_called] at hstorage
      refine .of_changes (.called _ d) (.of_put hstorage ?_)
      rw [content?_congr (held?_called), hheld]

end Moving

end HttpMediation.Disk
