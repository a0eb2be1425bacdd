import HttpMediation.Proofs.Staging

/-!
# Storing — staged files that move onto free names

* `Upload.FirstFree` : the name that a file gets.
* `Upload.moveInto_error`, `moveInto_ok` : a file has moved, or nothing has changed.
* `UploadSanitizer.storeAll_error`, `storeAll_ok` : all files have moved, or nothing is left of them.
-/

namespace HttpMediation

open Disk

/-! ## One file -/

namespace Upload

variable {name target : String} {d d' : Disk}

/-- The first name that is not taken, of those that are tried for a file. -/
def FirstFree (taken : String → Prop) (name target : String) : Prop :=
  ∃ n < maxAttempts, target = candidate name n ∧ ¬taken target ∧ ∀ m < n, taken (candidate name m)

theorem FirstFree.congr {taken taken' : String → Prop} (h : FirstFree taken name target)
    (hiff : ∀ other, taken other ↔ taken' other) : FirstFree taken' name target := by
  obtain ⟨n, hn, htarget, hfree, hbefore⟩ := h
  exact ⟨n, hn, htarget, fun htaken => hfree ((hiff _).mpr htaken),
    fun m hm => (hiff _).mp (hbefore m hm)⟩

theorem reserveFrom_error {left attempt : Nat} {e : Error}
    (h : reserveFrom name left attempt d = (.error e, d')) : ChangesOnly [] d d' := by
  fun_induction reserveFrom name left attempt d with
  | case1 =>
    cases h
    exact .refl _ _
  | case2 => cases h
  | case3 _ _ _ _ hrefused ih => exact (create_error hrefused).1.trans (ih h)
  | case4 _ _ _ _ _ _ hrefused =>
    cases h
    exact (create_error hrefused).1

/-- The attempts before the one that succeeds have met names that are taken. -/
theorem reserveFrom_ok {left attempt : Nat} (h : reserveFrom name left attempt d = (.ok target, d')) :
    d.held? .storage target = none ∧ (d'.directory? .storage).isSome ∧
      ChangesOnly [(.storage, target)] d d' ∧
      ∃ n, attempt ≤ n ∧ n < attempt + left ∧ target = candidate name n ∧
        (d.Truthful → ∀ m, attempt ≤ m → m < n → (d.held? .storage (candidate name m)).isSome) := by
  fun_induction reserveFrom name left attempt d with
  | case1 => cases h
  | case2 left attempt d _ d₁ hcreated =>
    obtain ⟨htarget, rfl⟩ := Prod.mk.inj h
    obtain rfl := Except.ok.inj htarget
    obtain ⟨hfree, hnew, hchanges⟩ := create_ok hcreated
    refine ⟨hfree, isSome_directory?_of_held? hnew, hchanges, attempt, Nat.le_refl _, by omega, rfl, ?_⟩
    intro _ m hle hlt
    omega
  | case3 left attempt d d₁ hrefused ih =>
    obtain ⟨hsame, hexists⟩ := create_error hrefused
    obtain ⟨hfree, hsome, hchanges, n, hle, hlt, htarget, hbefore⟩ := ih h
    have hkept : ∀ other, d₁.held? .storage other = d.held? .storage other :=
      fun other => hsame.entries .storage other List.not_mem_nil
    refine ⟨(hkept target).symm.trans hfree, hsome, hsame.of_nothing.trans hchanges,
      n, by omega, by omega, htarget, fun htruthful m hattempt hm => ?_⟩
    by_cases hfirst : m = attempt
    · rw [hfirst]
      exact hexists htruthful rfl
    · rw [← hkept]
      exact hbefore (hsame.truthful htruthful) m (by omega) hm
  | case4 => cases h

theorem fill_error {staged : String} {e : Error} (h : fill staged target d = (.error e, d')) :
    ChangesOnly [(.storage, target)] d d' ∧ d'.held? .storage target = none := by
  unfold fill at h
  split at h
  · cases h
  · rename_i hrename
    split at h
    · rename_i hfailed
      cases h
      have hcopied := (rename_error hrename).of_nothing.trans (copy_changesOnly hfailed)
      exact ⟨hcopied.remove (List.mem_singleton.mpr rfl), held?_remove_self⟩
    · cases h

theorem fill_ok {staged name : String} (hstorage : (d.directory? .storage).isSome)
    (h : fill staged target d = (.ok name, d')) : name = target ∧ Moves staged target d d' := by
  unfold fill at h
  split at h
  · rename_i hrenamed
    cases h
    exact ⟨rfl, rename_ok hstorage hrenamed⟩
  · rename_i d₁ hrename
    have hsame := rename_error hrename
    split at h
    · cases h
    · rename_i hcopied
      cases h
      rw [← hsame.directories] at hstorage
      exact ⟨rfl, (copy_ok hstorage hcopied).of_changes hsame.of_nothing⟩

theorem moveInto_error {staged : String} {e : Error} (h : moveInto staged name d = (.error e, d')) :
    ChangesOnly [] d d' := by
  unfold moveInto at h
  split at h
  · rename_i hfull
    cases h
    exact reserveFrom_error hfull
  · rename_i target d₁ hreserved
    obtain ⟨hfree, -, hreserve, -⟩ := reserveFrom_ok hreserved
    obtain ⟨hfill, hgone⟩ := fill_error h
    exact (hreserve.trans hfill).drop (hgone.trans hfree.symm)

theorem moveInto_ok {staged : String} (h : moveInto staged name d = (.ok target, d')) :
    d.held? .storage target = none ∧ Moves staged target d d' ∧
      (d.Truthful → FirstFree (fun other => (d.held? .storage other).isSome) name target) := by
  unfold moveInto at h
  split at h
  · cases h
  · rename_i reserved d₁ hreserved
    obtain ⟨hfree, hstorage, hreserve, n, -, hn, hcandidate, hbefore⟩ := reserveFrom_ok hreserved
    obtain ⟨rfl, hmoves⟩ := fill_ok hstorage h
    refine ⟨hfree, hmoves.of_changes hreserve, fun htruthful => ⟨n, by omega, hcandidate, ?_, ?_⟩⟩
    · simp [hfree]
    · exact fun m hm => hbefore htruthful m (Nat.zero_le _) hm

end Upload

/-! ## All files -/

namespace UploadSanitizer

open Upload

variable {staged : List StagedFile} {stored out : List UploadedFile} {d d' d'' : Disk}
  {names : List (Place × String)}

/-- The places of stored files. -/
def storageNames (stored : List UploadedFile) : List (Place × String) :=
  stored.map fun f => (.storage, f.storedName)

theorem withdraw_undoes (h : AddsOnly (storageNames stored ++ names) d d') :
    AddsOnly names d (withdraw stored d') :=
  h.foldl_remove

/-- After an error nothing is left, neither of the staged files nor of those that have moved. -/
theorem storeAll_error {e : Error} (hadds : AddsOnly (stagingNames staged ++ storageNames stored) d d')
    (h : storeAll staged stored d' = (.error e, d'')) : AddsOnly [] d d'' := by
  induction staged generalizing stored d' with
  | nil => cases h
  | cons s rest ih =>
    rw [storeAll] at h
    split at h
    · rename_i d₁ hfailed
      cases h
      have hwithdrawn : AddsOnly (stagingNames (s :: rest)) d (withdraw stored d₁) :=
        withdraw_undoes ((hadds.change (moveInto_error hfailed).of_nothing).of_mem_iff (by simp [or_comm]))
      exact unstage_undoes (by rwa [List.append_nil])
    · rename_i target d₁ hmoved
      obtain ⟨hfree, hmoves, -⟩ := moveInto_ok hmoved
      have hadded : AddsOnly ((.staging, s.file) ::
          (.storage, target) :: (stagingNames rest ++ storageNames stored)) d d₁ :=
        ((hadds.add hfree).change (hmoves.changes.mono (by simp [stagingNames]))).of_mem_iff
          (by simp [stagingNames, or_left_comm])
      refine ih ((hadded.drop hmoves.gone).of_mem_iff ?_) h
      simp [storageNames, or_comm, or_left_comm]

/-- Each file has got the first name that was free when its turn came. -/
def NamedInTurn (d : Disk) (stored : List UploadedFile) : Prop :=
  ∀ earlier f later, stored = earlier ++ f :: later →
    FirstFree (fun name => (d.held? .storage name).isSome ∨ name ∈ earlier.map (·.storedName))
      f.staged.name f.storedName

/-- The staged files have moved into the storage one after another. -/
structure Stores (staged : List StagedFile) (stored : List UploadedFile) (d d' : Disk) : Prop where
  files : stored.map (·.staged) = staged
  contents : ∀ f ∈ stored, ∃ content, d.content? .staging f.staged.file = some content ∧
    d'.content? .storage f.storedName = some content
  gone : ∀ s ∈ staged, d'.held? .staging s.file = none
  free : ∀ f ∈ stored, d.held? .storage f.storedName = none
  distinct : (stored.map (·.storedName)).Nodup
  changes : ChangesOnly (stagingNames staged ++ storageNames stored) d d'
  inTurn : d.Truthful → NamedInTurn d stored

namespace Stores

theorem nil (d : Disk) : Stores [] [] d d where
  files := rfl
  contents _ hmem := absurd hmem List.not_mem_nil
  gone _ hmem := absurd hmem List.not_mem_nil
  free _ hmem := absurd hmem List.not_mem_nil
  distinct := .nil
  changes := .refl _ d
  inTurn _ earlier f later heq := by simp at heq

variable {name : String}

theorem staging_entry (h : Stores staged stored d d') (hname : name ∉ staged.map (·.file)) :
    d'.held? .staging name = d.held? .staging name :=
  h.changes.entries .staging name (by simpa [stagingNames, storageNames] using hname)

theorem storage_entry (h : Stores staged stored d d') (hname : name ∉ stored.map (·.storedName)) :
    d'.held? .storage name = d.held? .storage name :=
  h.changes.entries .storage name (by simpa [stagingNames, storageNames] using hname)

theorem not_mem_of_held? (h : Stores staged stored d d') {entry : DirectoryEntry}
    (hheld : d.held? .storage name = some entry) : name ∉ stored.map (·.storedName) := by
  intro hmem
  obtain ⟨f, hf, rfl⟩ := List.mem_map.mp hmem
  rw [h.free f hf] at hheld
  cases hheld

theorem file_mem (h : Stores staged stored d d') {f : UploadedFile} (hf : f ∈ stored) :
    f.staged.file ∈ staged.map (·.file) := by
  rw [← h.files, List.map_map]
  exact List.mem_map.mpr ⟨f, hf, rfl⟩

end Stores

section Cons

variable {s : StagedFile} {target : String}

/-- For the files that come later, the name of the first one is taken as well. -/
theorem NamedInTurn.cons (hmoves : Moves s.file target d d')
    (hfirst : FirstFree (fun name => (d.held? .storage name).isSome) s.name target)
    (hrest : NamedInTurn d' stored) : NamedInTurn d (⟨s, target⟩ :: stored) := by
  intro earlier f later heq
  cases earlier with
  | nil =>
    obtain ⟨rfl, -⟩ := List.cons.inj heq
    exact hfirst.congr (by simp)
  | cons first earlier =>
    obtain ⟨rfl, hstored⟩ := List.cons.inj heq
    refine (hrest earlier f later hstored).congr fun name => ?_
    by_cases hname : name = target
    · obtain ⟨content, -, hmoved⟩ := hmoves.content
      simp [hname, content?_eq_some_iff.mp hmoved]
    · simp [hname, hmoves.storage_entry hname]

/-- The files that come later get names that were free when the first one had its name already. -/
theorem Stores.cons (hother : s.file ∉ staged.map (·.file))
    (h : moveInto s.file s.name d = (.ok target, d')) (hrest : Stores staged stored d' d'') :
    Stores (s :: staged) (⟨s, target⟩ :: stored) d d'' := by
  obtain ⟨hfree, hmoves, hfirst⟩ := moveInto_ok h
  obtain ⟨content, hheld, hmoved⟩ := hmoves.content
  have htarget : target ∉ stored.map (·.storedName) :=
    hrest.not_mem_of_held? (content?_eq_some_iff.mp hmoved)
  have hsub : stagingNames staged ++ storageNames stored ⊆
      stagingNames (s :: staged) ++ storageNames (⟨s, target⟩ :: stored) :=
    List.append_subset.mpr ⟨List.subset_append_of_subset_left _ (List.subset_cons_self ..),
      List.subset_append_of_subset_right _ (List.subset_cons_self ..)⟩
  refine {
    files := by rw [List.map_cons, hrest.files]
    contents := ?_
    gone := ?_
    free := ?_
    distinct := List.nodup_cons.mpr ⟨htarget, hrest.distinct⟩
    changes := (hmoves.changes.mono (by simp [stagingNames, storageNames])).trans (hrest.changes.mono hsub)
    inTurn := fun htruthful =>
      .cons hmoves (hfirst htruthful) (hrest.inTurn (hmoves.changes.truthful htruthful)) }
  · intro f hf
    rcases List.mem_cons.mp hf with rfl | hf
    · exact ⟨content, hheld, (content?_congr (hrest.storage_entry htarget)).trans hmoved⟩
    · obtain ⟨c, hc, hc'⟩ := hrest.contents f hf
      have hne : f.staged.file ≠ s.file := fun heq => hother (heq ▸ hrest.file_mem hf)
      exact ⟨c, (content?_congr (hmoves.staging_entry hne)).symm.trans hc, hc'⟩
  · intro t ht
    rcases List.mem_cons.mp ht with rfl | ht
    · exact (hrest.staging_entry hother).trans hmoves.gone
    · exact hrest.gone t ht
  · intro f hf
    rcases List.mem_cons.mp hf with rfl | hf
    · exact hfree
    · have hne : f.storedName ≠ target := fun heq => htarget (List.mem_map.mpr ⟨f, hf, heq⟩)
      exact (hmoves.storage_entry hne).symm.trans (hrest.free f hf)

end Cons

theorem storeAll_ok (hdistinct : (staged.map (·.file)).Nodup)
    (h : storeAll staged stored d = (.ok out, d')) :
    ∃ new, out = stored ++ new ∧ Stores staged new d d' := by
  induction staged generalizing stored d with
  | nil =>
    cases h
    exact ⟨[], (List.append_nil _).symm, .nil _⟩
  | cons s rest ih =>
    obtain ⟨hother, hdistinct⟩ := List.nodup_cons.mp hdistinct
    rw [storeAll] at h
    split at h
    · cases h
    · rename_i target d₁ hmoved
      obtain ⟨new, rfl, hstores⟩ := ih hdistinct h
      exact ⟨⟨s, target⟩ :: new, by simp, .cons hother hmoved hstores⟩

end UploadSanitizer

end HttpMediation
