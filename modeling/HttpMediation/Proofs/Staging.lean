import Mathlib.Data.List.Forall2
import HttpMediation.Proofs.Disk
import HttpMediation.Proofs.Outcome
import HttpMediation.Upload.Sanitizer

/-!
# Staging — parts that are copied and scanned

* `Upload.delivered?` : the bytes of a body.
* `Upload.copyBounded_ok` : what a copy that succeeds has copied.
* `UploadSanitizer.Admits` : a staged file stands for a part that has passed every check.
* `UploadSanitizer.stageAll_error`, `stageAll_ok` : all parts are staged, or nothing is left.
* `UploadSanitizer.scanAll_ok` : the scanner has accepted all staged files.
-/

namespace HttpMediation

open Disk

/-! ## Bodies -/

namespace Upload

variable {name : String} {d d' : Disk}

/-- All bytes of a body, if no read fails before it ends. -/
def delivered? : List ReadEvent → Option (List UInt8)
  | [] => some []
  | .interrupted :: r => delivered? r
  | .failed _ :: _ => none
  | .chunk bytes :: r => if bytes.isEmpty then some [] else (delivered? r).map (bytes ++ ·)

theorem isEmpty_take_succ {n : Nat} {bytes : List UInt8} : (bytes.take (n + 1)).isEmpty = bytes.isEmpty := by
  cases bytes <;> rfl

theorem copyBody_changesOnly {limit size : Nat} {body : List ReadEvent} {out : Except IoKind Nat}
    (h : copyBody name limit body size d = (out, d')) : ChangesOnly [(.staging, name)] d d' := by
  obtain rfl : (copyBody name limit body size d).2 = d' := congrArg Prod.snd h
  clear h
  fun_induction copyBody name limit body size d with
  | case1 => exact .refl _ _
  | case2 => exact .refl _ _
  | case3 _ _ _ _ ih => exact ih
  | case4 => exact .refl _ _
  | case5 => exact .refl _ _
  | case6 _ _ _ _ _ _ _ _ _ hfailed => exact append_changesOnly hfailed
  | case7 _ _ _ _ _ _ _ _ _ happended ih => exact (append_changesOnly happended).trans ih

/-- What is copied is the whole body, unless the limit has been reached. -/
theorem copyBody_ok {limit size total : Nat} {body : List ReadEvent} {content : List UInt8}
    (hheld : d.content? .staging name = some content) (hroom : content.length ≤ maxContentSize)
    (h : copyBody name limit body size d = (.ok total, d')) :
    ∃ bytes, total = size + bytes.length ∧ d'.content? .staging name = some (content ++ bytes) ∧
      content.length + bytes.length ≤ maxContentSize ∧
      (bytes.length < limit → delivered? body = some bytes) := by
  fun_induction copyBody name limit body size d generalizing content with
  | case1 limit size d =>
    obtain ⟨htotal, rfl⟩ := Prod.mk.inj h
    obtain rfl := Except.ok.inj htotal
    exact ⟨[], rfl, by rw [List.append_nil, hheld], hroom, fun _ => rfl⟩
  | case2 event r size d =>
    obtain ⟨htotal, rfl⟩ := Prod.mk.inj h
    obtain rfl := Except.ok.inj htotal
    exact ⟨[], rfl, by rw [List.append_nil, hheld], hroom, fun hlt => absurd hlt (Nat.not_lt_zero _)⟩
  | case3 _ _ _ _ ih => exact ih hheld hroom h
  | case4 => cases h
  | case5 limit chunk r size d taken =>
    rename_i hempty
    obtain ⟨htotal, rfl⟩ := Prod.mk.inj h
    obtain rfl := Except.ok.inj htotal
    obtain rfl := List.isEmpty_iff.mp (isEmpty_take_succ.symm.trans hempty)
    exact ⟨[], rfl, by rw [List.append_nil, hheld], hroom, fun _ => rfl⟩
  | case6 => cases h
  | case7 limit chunk r size d taken hnonempty _ e happended =>
    rename_i ih
    obtain ⟨hcopied, hfits⟩ := append_ok hheld happended
    obtain ⟨rest, rfl, hcontent, hlength, hrest⟩ := ih hcopied (by simpa using hfits) h
    rw [List.length_append] at hlength
    refine ⟨taken ++ rest, ?_, ?_, ?_, fun hlt => ?_⟩
    · rw [List.length_append]
      omega
    · rw [hcontent, List.append_assoc]
    · rw [List.length_append]
      omega
    · rw [List.length_append] at hlt
      have htaken : taken = chunk := by
        refine List.take_of_length_le ?_
        have hmin : taken.length = min (limit + 1) chunk.length := List.length_take
        omega
      have hchunk : ¬chunk.isEmpty := htaken ▸ hnonempty
      rw [delivered?, if_neg hchunk, hrest (by omega), htaken]
      rfl

variable {bound : UInt64} {body : List ReadEvent}

theorem copyBounded_changesOnly {out : Except Error Nat}
    (h : copyBounded bound name body d = (out, d')) : ChangesOnly [(.staging, name)] d d' := by
  unfold copyBounded at h
  split at h
  · rename_i hfailed
    cases h
    exact copyBody_changesOnly hfailed
  · rename_i hcopied
    split at h
    · cases h
      exact copyBody_changesOnly hcopied
    · split at h
      · rename_i hunsynced
        cases h
        exact (copyBody_changesOnly hcopied).trans (sync_changesOnly hunsynced).of_nothing
      · rename_i hsynced
        cases h
        exact (copyBody_changesOnly hcopied).trans (sync_changesOnly hsynced).of_nothing

/-- One byte more than the bound is asked for, unless no file could hold so many: a body that has been
copied within the bound has been copied to its end. -/
theorem copyBounded_ok {size : Nat} (hnew : d.content? .staging name = some [])
    (h : copyBounded bound name body d = (.ok size, d')) :
    ∃ bytes, delivered? body = some bytes ∧ bytes.length ≤ bound.toNat ∧ size = bytes.length ∧
      d'.content? .staging name = some bytes := by
  unfold copyBounded at h
  split at h
  · cases h
  · rename_i total e hcopied
    obtain ⟨bytes, htotal, hcontent, hlength, hwhole⟩ := copyBody_ok hnew (Nat.zero_le _) hcopied
    split at h
    · cases h
    · rename_i hbound
      split at h
      · cases h
      · rename_i hsynced
        obtain ⟨hsize, rfl⟩ := Prod.mk.inj h
        obtain rfl := Except.ok.inj hsize
        have hsame := (sync_changesOnly hsynced).entries .staging name List.not_mem_nil
        refine ⟨bytes, hwhole ?_, ?_, ?_, ?_⟩
        · simp only [readLimit, maxSize, maxContentSize, UInt64.size, List.length_nil] at hlength ⊢
          omega
        · omega
        · omega
        · rw [content?_congr hsame, hcontent]
          rfl

end Upload

/-! ## Parts -/

theorem FileNameRule.inner_of_sanitize {rule : FileNameRule} {name : Tainted String} {v : Verified String}
    (h : rule.sanitize name = .ok v) : v.inner = name.inner := by
  obtain ⟨checked, hcheck, rfl⟩ := map_eq_ok_iff.mp h
  unfold FileNameRule.check at hcheck
  split at hcheck
  · cases hcheck
  · exact (Except.ok.inj hcheck).symm

/-- The scanner accepts files of these types and contents one after another. -/
def Scanner.Accepts {σ : Type} (scanner : Scanner σ) : List (String × List UInt8) → σ → σ → Prop
  | [], state, state' => state' = state
  | (contentType, content) :: rest, state, state' =>
    (scanner.scan contentType content state).1.verdict = .ok () ∧
      scanner.Accepts rest (scanner.scan contentType content state).2 state'

namespace UploadSanitizer

open Upload

variable {u : UploadSanitizer} {p : UploadPart} {s : StagedFile} {d d' d'' : Disk}
  {r r' : RandomSource}

/-- The staged file stands for the part, which has passed every check. -/
structure Admits (u : UploadSanitizer) (p : UploadPart) (s : StagedFile) : Prop where
  named : u.names.sanitize p.name = .ok ⟨s.name⟩
  name : s.name = p.name.inner
  contentType : s.contentType = baseType p.contentType.inner
  allowed : s.contentType ∈ u.contentTypes
  body : ∃ bytes, delivered? p.body = some bytes ∧ bytes.length ≤ u.maxFileSize.toNat ∧
    s.size = bytes.length

theorem checkType_ok {contentType : Tainted String} {type : String}
    (h : u.checkType contentType = .ok type) :
    type ∈ u.contentTypes ∧ type = baseType contentType.inner := by
  unfold checkType at h
  split at h
  · rename_i hallowed
    obtain rfl := Except.ok.inj h
    exact ⟨List.contains_iff_mem.mp hallowed, rfl⟩
  · cases h

theorem stageBody_error {file : String} {body : List ReadEvent} {e : Error}
    (h : u.stageBody file body d = (.error e, d')) : ChangesOnly [] d d' := by
  unfold stageBody at h
  split at h
  · rename_i hrefused
    obtain ⟨-, rfl⟩ := Prod.mk.inj h
    exact (create_error hrefused).1
  · rename_i hcreated
    obtain ⟨hfree, -, hcreate⟩ := create_ok hcreated
    split at h
    · rename_i hfailed
      obtain ⟨-, rfl⟩ := Prod.mk.inj h
      have hcopy := copyBounded_changesOnly hfailed
      have hremoved := (hcreate.trans hcopy).remove (List.mem_singleton.mpr rfl)
      exact hremoved.drop (held?_remove_self.trans hfree.symm)
    · cases h

theorem stageBody_ok {file : String} {body : List ReadEvent} {size : Nat}
    (h : u.stageBody file body d = (.ok size, d')) :
    d.held? .staging file = none ∧ ChangesOnly [(.staging, file)] d d' ∧
      ∃ bytes, delivered? body = some bytes ∧ bytes.length ≤ u.maxFileSize.toNat ∧
        size = bytes.length ∧ d'.content? .staging file = some bytes := by
  unfold stageBody at h
  split at h
  · cases h
  · rename_i hcreated
    obtain ⟨hfree, hnew, hcreate⟩ := create_ok hcreated
    split at h
    · cases h
    · rename_i hcopied
      obtain ⟨hsize, rfl⟩ := Prod.mk.inj h
      obtain rfl := Except.ok.inj hsize
      exact ⟨hfree, hcreate.trans (copyBounded_changesOnly hcopied),
        copyBounded_ok (content?_eq_some_iff.mpr hnew) hcopied⟩

theorem stage_error {e : Error} (h : u.stage p d r = (.error e, d', r')) : ChangesOnly [] d d' := by
  unfold stage at h
  split at h
  · cases h
    exact .refl _ _
  · cases h
    exact .refl _ _
  · dsimp only at h
    split at h
    · rename_i hfailed
      cases h
      exact stageBody_error hfailed
    · cases h

theorem stage_ok (h : u.stage p d r = (.ok s, d', r')) :
    u.Admits p s ∧ d.held? .staging s.file = none ∧ ChangesOnly [(.staging, s.file)] d d' ∧
      d'.content? .staging s.file = delivered? p.body := by
  unfold stage at h
  split at h
  · cases h
  · cases h
  · rename_i name contentType hname htype
    dsimp only at h
    split at h
    · cases h
    · rename_i size d₁ hstaged
      cases h
      obtain ⟨hfree, hchanges, bytes, hbody, hbound, hsize, hcontent⟩ := stageBody_ok hstaged
      obtain ⟨hallowed, rfl⟩ := checkType_ok htype
      refine ⟨?_, hfree, hchanges, hcontent.trans hbody.symm⟩
      exact {
        named := hname
        name := FileNameRule.inner_of_sanitize hname
        contentType := rfl
        allowed := hallowed
        body := ⟨bytes, hbody, hbound, hsize⟩ }

/-! ## All parts -/

/-- The places of staged files. -/
def stagingNames (staged : List StagedFile) : List (Place × String) :=
  staged.map fun s => (.staging, s.file)

variable {staged : List StagedFile} {names : List (Place × String)} {stream : UploadStream}

theorem unstage_undoes (h : AddsOnly (stagingNames staged ++ names) d d') :
    AddsOnly names d (unstage staged d') :=
  h.foldl_remove

/-- After an error nothing is left of what has been staged. -/
theorem stageAll_error {e : Error} (hadds : AddsOnly (stagingNames staged) d d')
    (h : u.stageAll stream staged d' r = (.error e, d'', r')) : AddsOnly [] d d'' := by
  have hundo : ∀ {staged e}, AddsOnly (stagingNames staged) d e → AddsOnly [] d (unstage staged e) :=
    fun h => unstage_undoes (by rwa [List.append_nil])
  induction stream generalizing staged d' r with
  | nil => cases h
  | cons event rest ih =>
    cases event with
    | error failure =>
      cases h
      exact hundo hadds
    | ok p =>
      rw [stageAll] at h
      split at h
      · cases h
        exact hundo hadds
      · split at h
        · rename_i hfailed
          cases h
          exact hundo (hadds.change (stage_error hfailed).of_nothing)
        · rename_i s d₁ r₁ hstaged
          obtain ⟨-, hfree, hchanges, -⟩ := stage_ok hstaged
          have hadded : AddsOnly ((.staging, s.file) :: stagingNames staged) d d₁ :=
            (hadds.add hfree).change (hchanges.mono (by simp))
          exact ih (hadded.of_mem_iff (by simp [stagingNames, or_comm])) h

/-- The parts have been staged one after another: their files are new and hold what was sent. -/
structure Stages (u : UploadSanitizer) (parts : List UploadPart) (staged : List StagedFile)
    (d d' : Disk) : Prop where
  files : List.Forall₂ (fun p s => u.Admits p s ∧ d'.content? .staging s.file = delivered? p.body)
    parts staged
  distinct : (staged.map (·.file)).Nodup
  adds : AddsOnly (stagingNames staged) d d'

theorem mem_stagingNames {name : String} :
    (.staging, name) ∈ stagingNames staged ↔ name ∈ staged.map (·.file) := by
  simp [stagingNames]

theorem Stages.nil (u : UploadSanitizer) (d : Disk) : u.Stages [] [] d d :=
  ⟨.nil, .nil, .refl d⟩

/-- The names of later files were free when the first one was there already, so they are others. -/
theorem Stages.cons {parts : List UploadPart} (h : u.stage p d r = (.ok s, d', r'))
    (hrest : u.Stages parts staged d' d'') : u.Stages (p :: parts) (s :: staged) d d'' := by
  obtain ⟨hadmits, hfree, hchanges, hcontent⟩ := stage_ok h
  obtain ⟨bytes, hbody, -⟩ := hadmits.body
  have hheld : d'.held? .staging s.file = some (.file bytes) :=
    content?_eq_some_iff.mp (hcontent.trans hbody)
  have hother : (.staging, s.file) ∉ stagingNames staged := by
    intro hmem
    have hnone := hrest.adds.free .staging s.file hmem
    rw [hheld] at hnone
    cases hnone
  have hkept : d''.held? .staging s.file = d'.held? .staging s.file :=
    hrest.adds.entries .staging s.file hother
  exact {
    files := .cons ⟨hadmits, (content?_congr hkept).trans hcontent⟩ hrest.files
    distinct := List.nodup_cons.mpr ⟨fun hmem => hother (mem_stagingNames.mpr hmem), hrest.distinct⟩
    adds := {
      toChangesOnly :=
        (hchanges.mono (by simp [stagingNames])).trans (hrest.adds.mono (by simp [stagingNames]))
      free := by
        intro q name hmem
        rcases List.mem_cons.mp hmem with heq | hmem
        · obtain ⟨rfl, rfl⟩ := Prod.mk.inj heq
          exact hfree
        · have hne : (q, name) ≠ (.staging, s.file) := fun heq => hother (heq ▸ hmem)
          have hsame := hchanges.entries q name (by simpa using hne)
          exact hsame.symm.trans (hrest.adds.free q name hmem) } }

theorem stageAll_ok {all : List StagedFile} (hcount : staged.length ≤ u.maxFiles)
    (h : u.stageAll stream staged d r = (.ok all, d', r')) :
    ∃ parts new, stream = parts.map .ok ∧ all = staged ++ new ∧ all.length ≤ u.maxFiles ∧
      u.Stages parts new d d' := by
  induction stream generalizing staged d r with
  | nil =>
    cases h
    exact ⟨[], [], rfl, (List.append_nil _).symm, hcount, .nil u _⟩
  | cons event rest ih =>
    cases event with
    | error failure => cases h
    | ok p =>
      rw [stageAll] at h
      split at h
      · cases h
      · rename_i hroom
        split at h
        · cases h
        · rename_i s d₁ r₁ hstaged
          have hlength : (staged ++ [s]).length ≤ u.maxFiles := by
            rw [List.length_append, List.length_singleton]
            omega
          obtain ⟨parts, new, rfl, rfl, hall, hstages⟩ := ih hlength h
          exact ⟨p :: parts, s :: new, rfl, by simp, hall, .cons hstaged hstages⟩

/-! ## Scanning -/

variable {σ : Type} {scanner : Scanner σ} {state state' : σ}

variable {verdict : Except Error Unit}

theorem scan_changesOnly (h : scan scanner s d state = (verdict, d', state')) :
    ChangesOnly [(.staging, s.file)] d d' := by
  obtain rfl : (scan scanner s d state).2.1 = d' := congrArg (·.2.1) h
  unfold scan
  dsimp only
  split
  · exact (ChangesOnly.refl _ d).remove (List.mem_singleton.mpr rfl)
  · exact .refl _ d

theorem scanAll_changesOnly (h : scanAll scanner staged d state = (verdict, d', state')) :
    ChangesOnly (stagingNames staged) d d' := by
  induction staged generalizing d state with
  | nil =>
    cases h
    exact .refl _ _
  | cons s rest ih =>
    rw [scanAll] at h
    split at h
    · rename_i hrefused
      cases h
      exact (scan_changesOnly hrefused).mono (by simp [stagingNames])
    · rename_i haccepted
      exact ((scan_changesOnly haccepted).mono (by simp [stagingNames])).trans
        ((ih h).mono (by simp [stagingNames]))

/-- A scanner can take a file away, and can do nothing else to it. -/
theorem scan_keeps_or_removes (h : scan scanner s d state = (verdict, d', state')) (name : String) :
    d'.held? .staging name = d.held? .staging name ∨ d'.held? .staging name = none := by
  by_cases hname : name = s.file
  · subst hname
    obtain rfl : (scan scanner s d state).2.1 = d' := congrArg (·.2.1) h
    unfold scan
    dsimp only
    split
    · exact .inr held?_remove_self
    · exact .inl rfl
  · exact .inl ((scan_changesOnly h).entries .staging name (by simpa using hname))

theorem scanAll_keeps_or_removes (h : scanAll scanner staged d state = (verdict, d', state'))
    (name : String) :
    d'.held? .staging name = d.held? .staging name ∨ d'.held? .staging name = none := by
  induction staged generalizing d state with
  | nil =>
    cases h
    exact .inl rfl
  | cons s rest ih =>
    rw [scanAll] at h
    split at h
    · rename_i hrefused
      cases h
      exact scan_keeps_or_removes hrefused name
    · rename_i haccepted
      rcases ih h with hkept | hremoved
      · rw [hkept]
        exact scan_keeps_or_removes haccepted name
      · exact .inr hremoved

/-- The scanner has seen what was staged: no file shares its name with one that was scanned before. -/
theorem scanAll_ok (hdistinct : (staged.map (·.file)).Nodup)
    (h : scanAll scanner staged d state = (.ok (), d', state')) :
    scanner.Accepts (staged.map fun s => (s.contentType, (d.content? .staging s.file).getD []))
      state state' := by
  induction staged generalizing d state with
  | nil =>
    cases h
    rfl
  | cons s rest ih =>
    obtain ⟨hother, hdistinct⟩ := List.nodup_cons.mp hdistinct
    rw [scanAll] at h
    split at h
    · cases h
    · rename_i d₁ state₁ haccepted
      have hcontents : ∀ t ∈ rest, d₁.content? .staging t.file = d.content? .staging t.file := by
        intro t ht
        have hne : t.file ≠ s.file := fun heq => hother (List.mem_map.mpr ⟨t, ht, heq⟩)
        exact content?_congr ((scan_changesOnly haccepted).entries .staging t.file (by simpa using hne))
      have hrest := ih hdistinct h
      have hseen : (rest.map fun t => (t.contentType, (d₁.content? .staging t.file).getD [])) =
          rest.map fun t => (t.contentType, (d.content? .staging t.file).getD []) :=
        List.map_congr_left fun t ht => by rw [hcontents t ht]
      rw [hseen] at hrest
      refine ⟨congrArg (·.1) haccepted, ?_⟩
      have hstate : (scanner.scan s.contentType ((d.content? .staging s.file).getD []) state).2 = state₁ :=
        congrArg (·.2.2) haccepted
      rw [hstate]
      exact hrest

end UploadSanitizer

end HttpMediation
