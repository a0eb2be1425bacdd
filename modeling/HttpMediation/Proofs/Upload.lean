import HttpMediation.Proofs.Storing

/-!
# Upload — all parts are stored, or nothing has happened

* `UploadSanitizer.failed_upload_leaves_no_trace` : after an error both directories are as they were.
* `UploadSanitizer.Accepted` : what an upload that is accepted has done.
* `UploadSanitizer.accepted_upload_stores_what_was_sent` : every upload that is accepted has done that.
-/

namespace HttpMediation.UploadSanitizer

open Disk Upload

variable {σ : Type} {u : UploadSanitizer} {scanner : Scanner σ} {stream : UploadStream}
  {parts : List UploadPart} {staged : List StagedFile} {out : List UploadedFile}
  {d d₁ d₂ d' : Disk} {state state' : σ} {r r' : RandomSource}

/-! ## Uploads that fail -/

theorem accept_error {e : Error} (h : u.accept scanner stream d state r = (.error e, d', state', r')) :
    AddsOnly [] d d' := by
  unfold accept at h
  split at h
  · rename_i hfailed
    cases h
    have hnothing : AddsOnly (stagingNames []) d d := .refl d
    exact stageAll_error hnothing hfailed
  · rename_i staged d₁ r₁ hstaged
    obtain ⟨parts, _, -, rfl, -, hstages⟩ := stageAll_ok (Nat.zero_le _) hstaged
    split at h
    · rename_i hrefused
      cases h
      have hadds := hstages.adds.change (scanAll_changesOnly hrefused)
      exact unstage_undoes (by rwa [List.append_nil])
    · rename_i d₂ state₂ haccepted
      have hadds : AddsOnly (stagingNames staged ++ storageNames []) d d₂ :=
        (hstages.adds.change (scanAll_changesOnly haccepted)).of_mem_iff (by simp [storageNames])
      simp only [Prod.mk.injEq] at h
      obtain ⟨hfailed, hd, -, -⟩ := h
      exact storeAll_error hadds (Prod.ext hfailed hd)

/-- Whatever goes wrong, and after however many files have moved, both directories are as they were. -/
theorem failed_upload_leaves_no_trace {e : Error}
    (h : (u.accept scanner stream d state r).1 = .error e) :
    (u.accept scanner stream d state r).2.1.staging = d.staging ∧
      (u.accept scanner stream d state r).2.1.storage = d.storage := by
  have hadds : AddsOnly [] d (u.accept scanner stream d state r).2.1 := accept_error (Prod.ext h rfl)
  have hsame : ∀ p, (u.accept scanner stream d state r).2.1.directory? p = d.directory? p :=
    fun p => hadds.directory?_eq fun name => hadds.entries p name List.not_mem_nil
  exact ⟨hsame .staging, hsame .storage⟩

/-- Takes files of ten bytes at most. -/
def shortFiles : UploadSanitizer := .new { maxFileSize := 10 }

/-- A file of one byte. -/
def note (byte : UInt8) : UploadPart := ⟨⟨"a.txt"⟩, ⟨"text/plain"⟩, [.chunk [byte]]⟩

/-- Two files that want the same name. -/
def twoNotes : UploadStream := [.ok (note 104), .ok (note 105)]

/-- A storage with one file, and room for no more at the call with this number. -/
def fullAt (call : Nat) : Disk where
  staging := some .empty
  storage := some (Dict.empty.insert "a.txt" (.file [120]))
  fails n := if n = call then some { kind := .storageFull } else none

/-- The first of two files has moved when there is no room for the second. -/
theorem failed_second_move_leaves_no_trace :
    (shortFiles.accept Scanner.none twoNotes (fullAt 9) () (.counting 7)).1 = .error (.ofIo .storageFull) ∧
      (shortFiles.accept Scanner.none twoNotes (fullAt 9) () (.counting 7)).2.1.staging =
        (fullAt 9).staging ∧
      (shortFiles.accept Scanner.none twoNotes (fullAt 9) () (.counting 7)).2.1.storage =
        (fullAt 9).storage := by
  have hfailed : (shortFiles.accept Scanner.none twoNotes (fullAt 9) () (.counting 7)).1 =
      .error (.ofIo .storageFull) := by decide +kernel
  exact ⟨hfailed, failed_upload_leaves_no_trace hfailed⟩

/-! ## Uploads that are accepted -/

/-- What an upload of these parts has done that is accepted. -/
structure Accepted (u : UploadSanitizer) (scanner : Scanner σ) (parts : List UploadPart)
    (before after : Disk) (state state' : σ) (out : List UploadedFile) : Prop where
  count : parts.length ≤ u.maxFiles
  files : List.Forall₂
    (fun p f => u.Admits p f.staged ∧ after.content? .storage f.storedName = delivered? p.body) parts out
  /-- The scanner has seen every part before anything was stored. -/
  scanned : ∃ d₁ d₂, scanAll scanner (out.map (·.staged)) d₁ state = (.ok (), d₂, state') ∧
    storeAll (out.map (·.staged)) [] d₂ = (.ok out, after) ∧
    d₁.storage = before.storage ∧ d₂.storage = before.storage
  accepts : scanner.Accepts
    (parts.map fun p => (baseType p.contentType.inner, (delivered? p.body).getD [])) state state'
  distinct : (out.map (·.storedName)).Nodup
  free : ∀ f ∈ out, before.held? .storage f.storedName = none
  inTurn : before.Truthful → NamedInTurn before out
  others : ∀ name, name ∉ out.map (·.storedName) →
    after.held? .storage name = before.held? .storage name
  staging : after.staging = before.staging

theorem accept_ok (h : u.accept scanner stream d state r = (.ok out, d', state', r')) :
    ∃ parts staged d₁ d₂, stream = parts.map .ok ∧ staged.length ≤ u.maxFiles ∧
      u.Stages parts staged d d₁ ∧ scanAll scanner staged d₁ state = (.ok (), d₂, state') ∧
      storeAll staged [] d₂ = (.ok out, d') := by
  unfold accept at h
  split at h
  · cases h
  · rename_i staged d₁ r₁ hstaged
    obtain ⟨parts, _, hstream, rfl, hcount, hstages⟩ := stageAll_ok (Nat.zero_le _) hstaged
    split at h
    · cases h
    · rename_i d₂ state₂ haccepted
      simp only [Prod.mk.injEq] at h
      obtain ⟨hstored, hd, rfl, -⟩ := h
      exact ⟨parts, staged, d₁, d₂, hstream, hcount, hstages, haccepted, Prod.ext hstored hd⟩

section Phases

variable (hstages : u.Stages parts staged d d₁)
  (hscan : scanAll scanner staged d₁ state = (.ok (), d₂, state')) (hstores : Stores staged out d₂ d')
include hstages hscan

theorem scanned_adds : AddsOnly (stagingNames staged) d d₂ :=
  hstages.adds.change (scanAll_changesOnly hscan)

theorem scanned_accepts : scanner.Accepts
    (parts.map fun p => (baseType p.contentType.inner, (delivered? p.body).getD [])) state state' := by
  have hseen : List.Forall₂ (fun p s => (baseType p.contentType.inner, (delivered? p.body).getD []) =
      (s.contentType, (d₁.content? .staging s.file).getD [])) parts staged :=
    hstages.files.imp fun p s hs => by rw [hs.1.contentType, hs.2]
  have hsame := List.forall₂_map_left_iff.mpr (List.forall₂_map_right_iff.mpr hseen)
  rw [List.forall₂_eq_eq_eq] at hsame
  rw [hsame]
  exact scanAll_ok hstages.distinct hscan

include hstores

/-- A file that has moved has not been taken away by the scanner, so it holds what was staged. -/
theorem stored_files : List.Forall₂
    (fun p f => u.Admits p f.staged ∧ d'.content? .storage f.storedName = delivered? p.body) parts out := by
  have hfiles := hstages.files
  rw [← hstores.files, List.forall₂_map_right_iff] at hfiles
  rw [List.forall₂_iff_zip] at hfiles ⊢
  refine ⟨hfiles.1, fun {p f} hmem => ?_⟩
  obtain ⟨hadmits, hstaged⟩ := hfiles.2 hmem
  obtain ⟨content, hheld, hmoved⟩ := hstores.contents f (List.of_mem_zip hmem).2
  rcases scanAll_keeps_or_removes hscan f.staged.file with hkept | hgone
  · rw [content?_congr hkept, hstaged] at hheld
    exact ⟨hadmits, hmoved.trans hheld.symm⟩
  · rw [content?_eq_some_iff.mp hheld] at hgone
    cases hgone

theorem stored_staging : d'.staging = d.staging := by
  have hadds := scanned_adds hstages hscan
  have hchanges : ChangesOnly (stagingNames staged ++ storageNames out) d d' :=
    (hadds.mono (List.subset_append_left _ _)).trans hstores.changes
  refine hchanges.directory?_eq (p := .staging) fun name => ?_
  by_cases hmem : name ∈ staged.map (·.file)
  · obtain ⟨s, hs, rfl⟩ := List.mem_map.mp hmem
    exact (hstores.gone s hs).trans (hadds.free _ _ (mem_stagingNames.mpr hmem)).symm
  · exact (hstores.staging_entry hmem).trans
      (hadds.entries .staging name fun h => hmem (mem_stagingNames.mp h))

/-- Up to the end of scanning only staged files come and go. -/
theorem accepted_of_phases (hcount : staged.length ≤ u.maxFiles)
    (hstore : storeAll staged [] d₂ = (.ok out, d')) :
    u.Accepted scanner parts d d' state state' out := by
  have hadds := scanned_adds hstages hscan
  have hstorage₁ : ∀ name, d₁.held? .storage name = d.held? .storage name :=
    fun name => hstages.adds.entries .storage name (by simp [stagingNames])
  have hstorage₂ : ∀ name, d₂.held? .storage name = d.held? .storage name :=
    fun name => hadds.entries .storage name (by simp [stagingNames])
  exact {
    count := hstages.files.length_eq ▸ hcount
    files := stored_files hstages hscan hstores
    scanned := by
      rw [hstores.files]
      exact ⟨d₁, d₂, hscan, hstore, hstages.adds.directory?_eq (p := .storage) hstorage₁,
        hadds.directory?_eq (p := .storage) hstorage₂⟩
    accepts := scanned_accepts hstages hscan
    distinct := hstores.distinct
    free := fun f hf => (hstorage₂ f.storedName).symm.trans (hstores.free f hf)
    inTurn := fun htruthful => by
      have hturn := hstores.inTurn (hadds.truthful htruthful)
      simpa only [NamedInTurn, hstorage₂] using hturn
    others := fun name hname => (hstores.storage_entry hname).trans (hstorage₂ name)
    staging := stored_staging hstages hscan hstores }

end Phases

/-- An upload that is accepted has stored every part, each under the first name that was free when its
turn came, after the scanner had accepted them all, and has changed nothing else. -/
theorem accepted_upload_stores_what_was_sent (h : (u.accept scanner stream d state r).1 = .ok out) :
    ∃ parts, stream = parts.map .ok ∧
      u.Accepted scanner parts d (u.accept scanner stream d state r).2.1 state
        (u.accept scanner stream d state r).2.2.1 out := by
  obtain ⟨parts, staged, d₁, d₂, hstream, hcount, hstages, hscan, hstore⟩ := accept_ok (Prod.ext h rfl)
  obtain ⟨_, rfl, hstores⟩ := storeAll_ok hstages.distinct hstore
  exact ⟨parts, hstream, accepted_of_phases hstages hscan hstores hcount hstore⟩

/-- Two files want a name that is taken, and the first of them cannot be renamed. -/
theorem accepted_upload_of_notes :
    (fullAt 8).Truthful ∧
      ∃ out : List UploadedFile, out.map (·.storedName) = ["a-1.txt", "a-2.txt"] ∧
        ∃ parts, twoNotes = parts.map .ok ∧
          shortFiles.Accepted Scanner.none parts (fullAt 8)
            (shortFiles.accept Scanner.none twoNotes (fullAt 8) () (.counting 7)).2.1 ()
            (shortFiles.accept Scanner.none twoNotes (fullAt 8) () (.counting 7)).2.2.1 out := by
  have htruthful : (fullAt 8).Truthful := by
    intro n f hf
    simp only [fullAt] at hf
    split at hf
    · obtain rfl := Option.some.inj hf
      decide
    · cases hf
  have hok : (shortFiles.accept Scanner.none twoNotes (fullAt 8) () (.counting 7)).1 =
      .ok [⟨⟨"upload-07070707070707070707070707070707.part", "a.txt", "text/plain", 1⟩, "a-1.txt"⟩,
        ⟨⟨"upload-08080808080808080808080808080808.part", "a.txt", "text/plain", 1⟩, "a-2.txt"⟩] := by
    decide +kernel
  exact ⟨htruthful, _, rfl, accepted_upload_stores_what_was_sent hok⟩

end HttpMediation.UploadSanitizer
