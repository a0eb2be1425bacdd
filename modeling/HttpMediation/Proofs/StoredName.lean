import HttpMediation.Proofs.FileName
import HttpMediation.Proofs.Upload
import Mathlib.Data.List.Chain
import Mathlib.Data.String.Basic

/-!
# StoredName — the rules of names, for the names that files get

Only the name that a client gives is checked.  A file whose name is taken gets a counter before the last dot
of its name, and that name is not checked again.

* `FileNameRule.Shape.insert` : what a counter leaves of the grammar.
* `Upload.candidate_wellFormed` : the names that are tried for a file keep all of it but the length.
* `UploadSanitizer.stored_names_keep_every_rule_but_length` : the same of all names of an upload.
* `UploadSanitizer.stored_name_outgrows_limit` : a name that is longer than names may be.
-/

namespace HttpMediation

/-! ## Texts -/

/-- Between two dots that stand side by side there is room for nothing. -/
theorem Text.not_doubleDot_iff {s : List Char} :
    ¬ ['.', '.'] <:+: s ↔ s.IsChain fun a b => ¬ (a = '.' ∧ b = '.') := by
  rw [List.isChain_iff_forall_rel_of_append_cons_cons]
  constructor
  · rintro h a b front behind rfl ⟨rfl, rfl⟩
    exact h ⟨front, behind, by simp⟩
  · rintro h ⟨front, behind, rfl⟩
    have hdots : front ++ ['.', '.'] ++ behind = front ++ '.' :: '.' :: behind := List.append_assoc ..
    exact h hdots ⟨rfl, rfl⟩

theorem Text.utf8ByteSize_of_ascii {s : List Char} (h : ∀ c ∈ s, c.toNat < 128) :
    (String.ofList s).utf8ByteSize = s.length := by
  rw [String.utf8ByteSize_ofList]
  induction s with
  | nil => rfl
  | cons c s ih =>
    have hsize : c.utf8Size = 1 := Char.utf8Size_eq_one_iff.mpr (Nat.le_of_lt_succ (h c List.mem_cons_self))
    rw [String.utf8Len_cons, ih fun d hd => h d (List.mem_cons_of_mem _ hd), hsize, List.length_cons]

namespace FileNameRule

open Text

variable {r : FileNameRule} {maxLen : Nat} {base tag ext : List Char}

/-! ## Names with a tag before the last dot -/

/-- What may be put before the last dot of a name and keeps it from being a device. -/
structure IsTag (tag : List Char) : Prop where
  plain : ∀ c ∈ tag, IsPlainChar c
  noDot : '.' ∉ tag
  noSpace : ' ' ∉ tag
  hyphen : '-' ∈ tag

theorem deviceName_append {front rest : List Char} (h : '.' ∉ front) :
    deviceName (front ++ '.' :: rest) = front.rdropWhile (· == ' ') := by
  unfold deviceName
  rw [List.takeWhile_append_of_pos (Ascii.bne_of_not_mem h), List.takeWhile_cons_of_neg (by simp),
    List.append_nil]

/-- No device has a hyphen in its name. -/
theorem not_device_of_hyphen {name : List Char} (h : '-' ∈ name) :
    ∀ device ∈ reservedNames, lower device ≠ lower (String.ofList name) := by
  have hnone : ∀ device ∈ reservedNames, '-' ∉ device.toList.map Char.toLower := by decide
  intro device hdevice heq
  have hsame := congrArg String.toList heq
  unfold lower at hsame
  rw [String.toList_map, String.toList_map, String.toList_ofList] at hsame
  exact hnone device hdevice (hsame ▸ List.mem_map.mpr ⟨'-', h, rfl⟩)

theorem noDevice_insert (h : Shape maxLen (base ++ '.' :: ext)) (htag : IsTag tag) :
    ∀ device ∈ reservedNames, lower device ≠ lower (String.ofList (deviceName (base ++ tag ++ '.' :: ext))) := by
  by_cases hbase : '.' ∈ base
  · -- The first dot stands before the tag, so the name of the device is what it was.
    obtain ⟨front, more, rfl, hfront⟩ := List.eq_append_cons_of_mem hbase
    have hdevice := h.noDevice
    rw [List.append_assoc, List.cons_append, deviceName_append hfront] at hdevice
    rw [List.append_assoc, List.append_assoc, List.cons_append, deviceName_append hfront]
    exact hdevice
  · have hfront : '.' ∉ base ++ tag := fun hmem => (List.mem_append.mp hmem).elim hbase htag.noDot
    have hkept : (base ++ tag).rdropWhile (· == ' ') = base ++ tag := by
      refine List.rdropWhile_eq_self_iff.mpr fun hne => ?_
      have htag' : tag ≠ [] := List.ne_nil_of_mem htag.hyphen
      rw [List.getLast_append_of_ne_nil _ htag', beq_iff_eq]
      exact fun heq => htag.noSpace (heq ▸ List.getLast_mem htag')
    rw [deviceName_append hfront, hkept]
    exact not_device_of_hyphen (List.mem_append_right _ htag.hyphen)

theorem noDoubleDot_insert (h : Shape maxLen (base ++ '.' :: ext)) (htag : IsTag tag) :
    ¬ ['.', '.'] <:+: base ++ tag ++ '.' :: ext := by
  have hchain := not_doubleDot_iff.mp h.noDoubleDot
  obtain ⟨hbase, hext, -⟩ := List.isChain_append.mp hchain
  have htagged : tag.IsChain fun a b => ¬ (a = '.' ∧ b = '.') :=
    not_doubleDot_iff.mp fun hinfix => htag.noDot (List.IsInfix.subset hinfix List.mem_cons_self)
  refine not_doubleDot_iff.mpr (List.isChain_append.mpr ⟨List.isChain_append.mpr ⟨hbase, htagged, ?_⟩, hext, ?_⟩)
  · rintro a - b hb ⟨-, rfl⟩
    exact htag.noDot (List.mem_of_head? hb)
  · rintro a ha b - ⟨rfl, -⟩
    rw [List.getLast?_append_of_ne_nil _ (List.ne_nil_of_mem htag.hyphen)] at ha
    exact htag.noDot (List.mem_of_getLast? ha)

/-- A tag before the last dot keeps all of the grammar, but makes the name longer. -/
theorem Shape.insert (h : Shape maxLen (base ++ '.' :: ext)) (htag : IsTag tag) :
    Shape (String.ofList (base ++ tag ++ '.' :: ext)).utf8ByteSize (base ++ tag ++ '.' :: ext) where
  nonempty := one_le_utf8ByteSize_iff.mpr (by simp)
  short := Nat.le_refl _
  plain c hc := by
    rw [List.append_assoc, List.mem_append, List.mem_append] at hc
    rcases hc with hbase | htagged | hext
    · exact h.plain c (List.mem_append_left _ hbase)
    · exact htag.plain c htagged
    · exact h.plain c (List.mem_append_right _ hext)
  noDoubleDot := noDoubleDot_insert h htag
  noLeadingDot := by
    have hhead := h.noLeadingDot
    cases base with
    | nil => exact absurd rfl hhead
    | cons c base => exact hhead
  noTrailing := by
    have hlast := h.noTrailing
    rw [List.getLast?_append_cons] at hlast ⊢
    exact hlast
  noDevice := noDevice_insert h htag

theorem Shape.utf8ByteSize_eq {name : List Char} (h : Shape maxLen name) :
    (String.ofList name).utf8ByteSize = name.length :=
  utf8ByteSize_of_ascii fun c hc => (h.plain c hc).ascii

/-- Of a name that keeps the grammar but for its length, the length is the one problem. -/
theorem Shape.problem?_eq {name : String} (h : Shape name.utf8ByteSize name.toList)
    (hext : HasExtension r.allowedExtensions name.toList) :
    r.problem? name.toList = if r.maxLen < name.utf8ByteSize then some .tooLong else none := by
  split
  · rename_i hlong
    have hsize : r.maxLen < (String.ofList name.toList).utf8ByteSize := by rwa [String.ofList_toList]
    have hempty : ¬ name.toList.isEmpty = true := fun hempty =>
      one_le_utf8ByteSize_iff.mp h.nonempty (List.isEmpty_iff.mp hempty)
    have hshape : shapeProblem? r.maxLen name.toList = some .tooLong := by
      unfold shapeProblem?
      rw [if_neg hempty, if_pos hsize]
    unfold problem?
    rw [(Percent.plain_of_not_mem (percent_not_mem h.plain)).decodeText?]
    simp only [hshape, Option.some_or]
  · rename_i hshort
    have hsize : (String.ofList name.toList).utf8ByteSize ≤ r.maxLen := by
      rw [String.ofList_toList]
      exact Nat.le_of_not_lt hshort
    exact problem?_eq_none_iff.mpr ⟨{ h with short := hsize }, hext⟩

theorem problem?_of_sanitize {name : Tainted String} {checked : String} (h : r.sanitize name = .ok ⟨checked⟩) :
    r.problem? checked.toList = none := by
  obtain ⟨hsame, hshape, hext⟩ := sanitize_eq_ok_iff.mp h
  obtain rfl : checked = name.inner := hsame
  exact problem?_eq_none_iff.mpr ⟨hshape, hext⟩

/-! ## Counters -/

/-- A hyphen and a number can be put before the last dot. -/
theorem isTag_counter (n : Nat) : IsTag ('-' :: (toString n).toList) := by
  have hdigits : ∀ c ∈ (toString n).toList, '0' ≤ c ∧ c ≤ '9' := by
    intro c hc
    rw [Nat.toString_eq_ofList_toDigits, String.toList_ofList] at hc
    have hdigit := Nat.isDigit_of_mem_toDigits (by decide) (by decide) hc
    obtain ⟨hlow, hhigh⟩ := Bool.and_eq_true_iff.mp hdigit
    exact ⟨of_decide_eq_true hlow, of_decide_eq_true hhigh⟩
  have hnone : ∀ c, ¬ ('0' ≤ c ∧ c ≤ '9') → c ≠ '-' → c ∉ '-' :: (toString n).toList := by
    intro c hc hne hmem
    exact (List.mem_cons.mp hmem).elim hne fun hmem => hc (hdigits c hmem)
  exact {
    plain := fun c hc => (List.mem_cons.mp hc).elim (fun heq => .inr (.inr (.inr (by simp [heq]))))
      fun hc => .inl (hdigits c hc)
    noDot := hnone '.' (by decide) (by decide)
    noSpace := hnone ' ' (by decide) (by decide)
    hyphen := List.mem_cons_self }

theorem length_counter {n : Nat} (h : n < Upload.maxAttempts) :
    ('-' :: (toString n).toList).length ≤ 4 := by
  rw [Nat.toString_eq_ofList_toDigits, String.toList_ofList, List.length_cons, Nat.succ_le_succ_iff]
  exact (Nat.length_toDigits_le_iff (by decide) (by decide)).mpr h

end FileNameRule

/-! ## Names that are tried -/

namespace Upload

open Text FileNameRule

variable {r : FileNameRule} {name target : String} {n : Nat} {d d' : Disk}

theorem candidate_eq {base ext : List Char} (hname : name.toList = base ++ '.' :: ext) (hext : '.' ∉ ext)
    (hn : n ≠ 0) : candidate name n = String.ofList (base ++ '-' :: (toString n).toList ++ '.' :: ext) := by
  unfold candidate
  rw [if_neg hn, cutLast_eq_some_iff.mpr ⟨hname, hext⟩]

/-- What is tried for a name that was let through keeps the grammar, and is at most four bytes longer. -/
theorem candidate_wellFormed (h : r.problem? name.toList = none) (hn : n < maxAttempts) :
    Shape (candidate name n).utf8ByteSize (candidate name n).toList ∧
      HasExtension r.allowedExtensions (candidate name n).toList ∧
      (candidate name n).utf8ByteSize ≤ r.maxLen + 4 := by
  obtain ⟨hshape, base, ext, hname, hext, hallowed⟩ := problem?_eq_none_iff.mp h
  have hshort := hshape.short
  by_cases hzero : n = 0
  · subst hzero
    have hsame : candidate name 0 = name := if_pos rfl
    rw [String.ofList_toList] at hshort
    rw [hsame]
    exact ⟨{ hshape with short := by rw [String.ofList_toList] }, ⟨base, ext, hname, hext, hallowed⟩,
      Nat.le_add_right_of_le hshort⟩
  · have hsize := hshape.utf8ByteSize_eq
    rw [hsize, hname, List.length_append] at hshort
    rw [hname] at hshape
    have hinserted := hshape.insert (isTag_counter n)
    have hlonger := hinserted.utf8ByteSize_eq
    rw [List.length_append, List.length_append] at hlonger
    have hcounter := length_counter hn
    rw [candidate_eq hname hext hzero, String.toList_ofList]
    refine ⟨hinserted, ⟨_, ext, rfl, hext, hallowed⟩, ?_⟩
    omega

theorem sanitize_candidate (h : r.problem? name.toList = none) (hn : n < maxAttempts) :
    r.sanitize ⟨candidate name n⟩ =
      if r.maxLen < (candidate name n).utf8ByteSize then .error FileNameProblem.tooLong.error
      else .ok ⟨candidate name n⟩ := by
  obtain ⟨hshape, hext, -⟩ := candidate_wellFormed h hn
  unfold sanitize check
  by_cases hlong : r.maxLen < (candidate name n).utf8ByteSize
  · rw [hshape.problem?_eq hext, if_pos hlong, if_pos hlong]
    rfl
  · rw [hshape.problem?_eq hext, if_neg hlong, if_neg hlong]
    rfl

/-- No file gets a name that is longer than names of files are. -/
theorem reserveFrom_size {left attempt : Nat} (h : reserveFrom name left attempt d = (.ok target, d')) :
    target.utf8ByteSize ≤ Disk.maxNameSize := by
  fun_induction reserveFrom name left attempt d with
  | case1 => cases h
  | case2 _ _ _ _ _ hcreated =>
    obtain ⟨htarget, -⟩ := Prod.mk.inj h
    obtain rfl := Except.ok.inj htarget
    exact Disk.create_size hcreated
  | case3 _ _ _ _ _ ih => exact ih h
  | case4 => cases h

/-- The name that a file has got. -/
theorem moveInto_name {staged : String} (h : moveInto staged name d = (.ok target, d')) :
    (∃ n < maxAttempts, target = candidate name n) ∧ target.utf8ByteSize ≤ Disk.maxNameSize := by
  unfold moveInto at h
  split at h
  · cases h
  · rename_i reserved d₁ hreserved
    obtain ⟨-, hstorage, -, n, -, hn, hcandidate, -⟩ := reserveFrom_ok hreserved
    obtain ⟨rfl, -⟩ := fill_ok hstorage h
    exact ⟨⟨n, by omega, hcandidate⟩, reserveFrom_size hreserved⟩

end Upload

namespace UploadSanitizer

open Upload FileNameRule

variable {σ : Type} {u : UploadSanitizer} {staged : List StagedFile} {stored out : List UploadedFile}
  {d d' : Disk}

/-! ## All files -/

/-- The file lies under one of the names that are tried for it. -/
def Named (f : UploadedFile) : Prop :=
  (∃ n < maxAttempts, f.storedName = candidate f.staged.name n) ∧
    f.storedName.utf8ByteSize ≤ Disk.maxNameSize

theorem storeAll_named (hstored : ∀ f ∈ stored, Named f)
    (h : storeAll staged stored d = (.ok out, d')) : ∀ f ∈ out, Named f := by
  induction staged generalizing stored d with
  | nil =>
    cases h
    exact hstored
  | cons s rest ih =>
    rw [storeAll] at h
    split at h
    · cases h
    · rename_i target d₁ hmoved
      have hnew : Named ⟨s, target⟩ := moveInto_name hmoved
      refine ih (fun f hf => ?_) h
      rcases List.mem_append.mp hf with hold | hlast
      · exact hstored f hold
      · exact List.mem_singleton.mp hlast ▸ hnew

/-- Every name under which an upload has put a file keeps all rules of names but the limit of their length:
a counter may take it beyond that limit, by four bytes at most and never beyond what a directory allows. -/
theorem stored_names_keep_every_rule_but_length {scanner : Scanner σ} {stream : UploadStream} {state : σ}
    {r : RandomSource} (h : (u.accept scanner stream d state r).1 = .ok out) :
    ∀ f ∈ out,
      u.names.sanitize ⟨f.storedName⟩ =
        (if u.names.maxLen < f.storedName.utf8ByteSize then .error FileNameProblem.tooLong.error
        else .ok ⟨f.storedName⟩) ∧
      f.storedName.utf8ByteSize ≤ min (u.names.maxLen + 4) Disk.maxNameSize ∧
      (u.names.maxLen < f.storedName.utf8ByteSize → f.storedName ≠ f.staged.name) := by
  obtain ⟨parts, -, haccepted⟩ := accepted_upload_stores_what_was_sent h
  obtain ⟨_, d₂, -, hstore, -, -⟩ := haccepted.scanned
  intro f hf
  obtain ⟨⟨n, hn, hcandidate⟩, hsize⟩ := storeAll_named (fun _ hmem => absurd hmem List.not_mem_nil) hstore f hf
  obtain ⟨p, -, hadmits, -⟩ := exists_left_of_forall₂ haccepted.files hf
  have hallowed : u.names.problem? f.staged.name.toList = none := problem?_of_sanitize hadmits.named
  obtain ⟨-, -, hlonger⟩ := candidate_wellFormed hallowed hn
  rw [← hcandidate] at hlonger
  refine ⟨?_, Nat.le_min.mpr ⟨hlonger, hsize⟩, fun hlong heq => ?_⟩
  · rw [hcandidate]
    exact sanitize_candidate hallowed hn
  · have hshort := (problem?_eq_none_iff.mp hallowed).1.short
    rw [String.ofList_toList, ← heq] at hshort
    exact Nat.not_lt_of_le hshort hlong

/-- Takes files of a type and names of at most so many bytes. -/
def shortNames (maxLen : Nat) : UploadSanitizer := .new { maxFilenameLen := maxLen }

/-- A storage with one file, in which no call fails. -/
def oneFile : Disk where
  staging := some .empty
  storage := some (Dict.empty.insert "a.txt" (.file [120]))

/-- There is room for a counter. -/
theorem stored_name_keeps_limit :
    ∃ out, ((shortNames 7).accept Scanner.none [.ok (note 104)] oneFile () (.counting 7)).1 = .ok out ∧
      out.map (·.storedName) = ["a-1.txt"] ∧
      ∀ f ∈ out, (shortNames 7).names.sanitize ⟨f.storedName⟩ = .ok ⟨f.storedName⟩ := by
  have hok : ((shortNames 7).accept Scanner.none [.ok (note 104)] oneFile () (.counting 7)).1 =
      .ok [⟨⟨"upload-07070707070707070707070707070707.part", "a.txt", "text/plain", 1⟩, "a-1.txt"⟩] := by
    decide +kernel
  refine ⟨_, hok, rfl, fun f hf => ?_⟩
  obtain ⟨hname, -, -⟩ := stored_names_keep_every_rule_but_length hok f hf
  rw [hname, List.mem_singleton.mp hf]
  rfl

/-- The counter takes the name beyond a limit that the client's name has kept. -/
theorem stored_name_outgrows_limit :
    ∃ out, ((shortNames 5).accept Scanner.none [.ok (note 104)] oneFile () (.counting 7)).1 = .ok out ∧
      out.map (·.storedName) = ["a-1.txt"] ∧
      (shortNames 5).names.sanitize ⟨"a-1.txt"⟩ = .error (.validation "file name is too long") := by
  have hok : ((shortNames 5).accept Scanner.none [.ok (note 104)] oneFile () (.counting 7)).1 =
      .ok [⟨⟨"upload-07070707070707070707070707070707.part", "a.txt", "text/plain", 1⟩, "a-1.txt"⟩] := by
    decide +kernel
  exact ⟨_, hok, rfl, by decide +kernel⟩

end UploadSanitizer

end HttpMediation
