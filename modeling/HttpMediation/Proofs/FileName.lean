import HttpMediation.Proofs.Destination
import HttpMediation.Upload.FileName

/-!
# FileName — which names a client may give a file

* `Text.occurs_iff`, `Text.cutLast_eq_some_iff` : what is looked for in a name, and where it is cut.
* `FileNameRule.Shape`, `FileNameRule.HasExtension` : the grammar of names.
* `FileNameRule.problem?_eq_none_iff` : the names that have no problem.
* `FileNameRule.accepts_exactly_well_formed_names` : the names that are let through, and what a name that
  was let through can lead to.
-/

namespace HttpMediation

/-! ## Texts -/

namespace Text

theorem occurs_iff {α : Type} [BEq α] [LawfulBEq α] {part s : List α} : occurs part s = true ↔ part <:+: s := by
  induction s with
  | nil => rw [occurs, List.isEmpty_iff, List.infix_nil]
  | cons a s ih => rw [occurs, Bool.or_eq_true, ih, List.isPrefixOf_iff_prefix, List.infix_cons_iff]

theorem endsWith_iff {last : Char → Bool} {s : List Char} :
    endsWith last s = true ↔ ∃ c, s.getLast? = some c ∧ last c = true := by
  unfold endsWith
  cases s.getLast? <;> simp

/-- A text is cut at the one place that has no further `c` behind it. -/
theorem cutLast_eq_some_iff {c : Char} {s before behind : List Char} :
    cutLast c s = some (before, behind) ↔ s = before ++ c :: behind ∧ c ∉ behind := by
  unfold cutLast
  constructor
  · intro h
    have hparts : s.reverse.takeWhile (· != c) ++ s.reverse.dropWhile (· != c) = s.reverse :=
      List.takeWhile_append_dropWhile
    have hhead := List.head?_dropWhile_not (· != c) s.reverse
    split at h
    · cases h
    · rename_i d rest hrest
      obtain ⟨rfl, rfl⟩ := Prod.mk.inj (Option.some.inj h)
      rw [hrest] at hparts hhead
      obtain rfl : d = c := by simpa using hhead
      refine ⟨?_, fun hmem => ?_⟩
      · calc s = s.reverse.reverse := (List.reverse_reverse s).symm
          _ = (s.reverse.takeWhile (· != d) ++ d :: rest).reverse := by rw [hparts]
          _ = rest.reverse ++ d :: (s.reverse.takeWhile (· != d)).reverse := by simp
      · have hpass := List.mem_takeWhile_imp (List.mem_reverse.mp hmem)
        simp at hpass
  · rintro ⟨rfl, hbehind⟩
    have hpass : ∀ d ∈ behind.reverse, (d != c) = true := fun d hd =>
      Ascii.bne_of_not_mem hbehind d (List.mem_reverse.mp hd)
    have hreverse : (before ++ c :: behind).reverse = behind.reverse ++ c :: before.reverse := by simp
    rw [hreverse, List.dropWhile_append_of_pos hpass, List.takeWhile_append_of_pos hpass]
    simp

theorem dropWhile_congr {α : Type} {p q : α → Bool} {s : List α} (h : ∀ c ∈ s, p c = q c) :
    s.dropWhile p = s.dropWhile q := by
  induction s with
  | nil => rfl
  | cons c s ih =>
    rw [List.dropWhile_cons, List.dropWhile_cons, h c List.mem_cons_self,
      ih fun d hd => h d (List.mem_cons_of_mem _ hd)]

end Text

/-! ## Names in directories -/

namespace Path

/-- The path of a name in a directory.  A name that starts at the root is a path of its own; else a slash is
put between the two where there is none. -/
def inside (dir name : List Char) : List Char :=
  if name.head? = some '/' then name
  else if dir.isEmpty || Text.endsWith (· == '/') dir then dir ++ name
  else dir ++ '/' :: name

theorem IsName.names {s : List Char} (h : IsName s) : names s = [s] := by
  unfold Path.names
  rw [List.splitOn_eq_singleton h.no_slash]
  simp [h.ne_nil]

/-- A name leads one step down from the directory that it is put in. -/
theorem names_inside {name : List Char} (h : IsName name) (dir : List Char) :
    names (inside dir name) = names dir ++ [name] := by
  have hrelative : ¬ name.head? = some '/' := fun hhead => h.no_slash (List.mem_of_head? hhead)
  have hbelow : ∀ d, names (d ++ '/' :: name) = names d ++ [name] := fun d => by
    rw [names_append_slash, h.names]
  unfold inside
  rw [if_neg hrelative]
  split
  · rename_i hdir
    rcases Bool.or_eq_true_iff.mp hdir with hempty | hslash
    · rw [List.isEmpty_iff.mp hempty]
      exact h.names
    · obtain ⟨c, hlast, hc⟩ := Text.endsWith_iff.mp hslash
      obtain rfl := beq_iff_eq.mp hc
      obtain ⟨d, rfl⟩ := List.getLast?_eq_some_iff.mp hlast
      have hroot : names (d ++ ['/']) = names d := by
        rw [names_append_slash]
        exact List.append_nil _
      rw [hroot, List.append_assoc]
      exact hbelow d
  · exact hbelow dir

end Path

namespace FileNameRule

open Text

variable {r : FileNameRule} {maxLen : Nat} {name : List Char} {c : Char}

/-! ## The grammar -/

/-- A letter or a digit of ASCII, or one of four marks. -/
def IsPlainChar (c : Char) : Prop :=
  ('0' ≤ c ∧ c ≤ '9') ∨ ('A' ≤ c ∧ c ≤ 'Z') ∨ ('a' ≤ c ∧ c ≤ 'z') ∨ c ∈ ['.', '_', '-', ' ']

/-- What a device would be called by: the part before the first dot, without the spaces at its end. -/
def deviceName (name : List Char) : List Char :=
  (name.takeWhile (· != '.')).rdropWhile (· == ' ')

/-- Names of a few characters that no system takes for a place elsewhere, for a hidden file or for a device. -/
structure Shape (maxLen : Nat) (name : List Char) : Prop where
  nonempty : 1 ≤ (String.ofList name).utf8ByteSize
  short : (String.ofList name).utf8ByteSize ≤ maxLen
  plain : ∀ c ∈ name, IsPlainChar c
  noDoubleDot : ¬ ['.', '.'] <:+: name
  noLeadingDot : name.head? ≠ some '.'
  noTrailing : name.getLast? ≠ some '.' ∧ name.getLast? ≠ some ' '
  noDevice : ∀ device ∈ reservedNames, lower device ≠ lower (String.ofList (deviceName name))

/-- What follows the last dot is one of these extensions, which are written in small letters. -/
def HasExtension (extensions : List String) (name : List Char) : Prop :=
  ∃ base ext, name = base ++ '.' :: ext ∧ '.' ∉ ext ∧ lower (String.ofList ext) ∈ extensions

/-! ## Characters -/

theorem isFileNameChar_iff : isFileNameChar c = true ↔ IsPlainChar c := by
  unfold isFileNameChar isAsciiAlphanum IsPlainChar
  simp [Ascii.isAlphanum_iff, or_assoc]

theorem IsPlainChar.ascii (h : IsPlainChar c) : c.toNat < 128 := by
  rcases h with ⟨-, hc⟩ | ⟨-, hc⟩ | ⟨-, hc⟩ | hc
  · exact Ascii.lt_of_le hc (by decide)
  · exact Ascii.lt_of_le hc (by decide)
  · exact Ascii.lt_of_le hc (by decide)
  · have hmarks : (['.', '_', '-', ' '].all fun m => decide (m.toNat < 128)) = true := by decide
    exact of_decide_eq_true (List.all_eq_true.mp hmarks c hc)

/-- What is no plain character: separators, the colon of a drive, the sign of an escape, and all blanks but
the space. -/
theorem IsPlainChar.harmless (h : IsPlainChar c) :
    isSeparator c = false ∧ c ≠ ':' ∧ c ≠ '%' ∧ isBlank c = (c == ' ') := by
  have hall : ∀ n < 128, isFileNameChar (Char.ofNat n) = true →
      isSeparator (Char.ofNat n) = false ∧ Char.ofNat n ≠ ':' ∧ Char.ofNat n ≠ '%' ∧
        isBlank (Char.ofNat n) = (Char.ofNat n == ' ') := by decide
  have hchar := hall c.toNat h.ascii
  rw [Char.ofNat_toNat] at hchar
  exact hchar (isFileNameChar_iff.mpr h)

theorem percent_not_mem (h : ∀ c ∈ name, IsPlainChar c) : '%' ∉ name := fun hmem =>
  (h '%' hmem).harmless.2.2.1 rfl

/-- Of plain characters the space is the only blank, so no other is dropped from the end. -/
theorem stem_eq_deviceName (h : ∀ c ∈ name, IsPlainChar c) : stem name = deviceName name := by
  have hblank : ∀ c ∈ (name.takeWhile (· != '.')).reverse, isBlank c = (c == ' ') := fun c hc =>
    (h c ((List.takeWhile_prefix _).subset (List.mem_reverse.mp hc))).harmless.2.2.2
  unfold stem deviceName trimEnd List.rdropWhile
  rw [dropWhile_congr hblank]

theorem isReserved_eq_false_iff (h : ∀ c ∈ name, IsPlainChar c) : isReserved name = false ↔
    ∀ device ∈ reservedNames, lower device ≠ lower (String.ofList (deviceName name)) := by
  unfold isReserved
  rw [stem_eq_deviceName h, List.any_eq_false]
  simp only [sameName, beq_iff_eq, ne_eq]

theorem hasDrive_eq_false (h : ∀ c ∈ name, IsPlainChar c) : hasDrive name = false := by
  unfold hasDrive
  split
  · exact absurd rfl (h ':' (by simp)).harmless.2.1
  · rfl

/-! ## Checks -/

theorem one_le_utf8ByteSize_iff : 1 ≤ (String.ofList name).utf8ByteSize ↔ name ≠ [] := by
  rw [Nat.one_le_iff_ne_zero, ne_eq, String.utf8ByteSize_eq_zero_iff, String.ofList_eq_empty_iff]

theorem leadsAway_eq_false_iff (h : ∀ c ∈ name, IsPlainChar c) :
    (name.any isSeparator || occurs ['.', '.'] name) = false ↔ ¬ ['.', '.'] <:+: name := by
  have hnone : name.any isSeparator = false :=
    List.any_eq_false.mpr fun c hc => by rw [(h c hc).harmless.1]; exact Bool.false_ne_true
  rw [hnone, Bool.false_or, ← Bool.not_eq_true, occurs_iff]

theorem isDotted_eq_false_iff :
    (decide (name.head? = some '.') || endsWith (fun c => c == '.' || c == ' ') name) = false ↔
      name.head? ≠ some '.' ∧ name.getLast? ≠ some '.' ∧ name.getLast? ≠ some ' ' := by
  rw [Bool.or_eq_false_iff, decide_eq_false_iff_not, ← Bool.not_eq_true, endsWith_iff]
  refine and_congr Iff.rfl ⟨fun h => ⟨fun hlast => h ⟨'.', hlast, rfl⟩, fun hlast => h ⟨' ', hlast, rfl⟩⟩, ?_⟩
  rintro ⟨hdot, hspace⟩ ⟨c, hlast, hc⟩
  rcases Bool.or_eq_true_iff.mp hc with hc | hc
  · exact hdot (beq_iff_eq.mp hc ▸ hlast)
  · exact hspace (beq_iff_eq.mp hc ▸ hlast)

/-- The checks exclude the names that break the grammar, and no others: what they look for beyond it has no
plain character. -/
theorem shapeProblem?_eq_none_iff : shapeProblem? maxLen name = none ↔ Shape maxLen name := by
  unfold shapeProblem?
  constructor
  · intro h
    split_ifs at h with hempty hlong hpath hdrive hdot hchars hreserved
    rw [Bool.not_eq_true] at hpath hdot hreserved
    have hplain : ∀ c ∈ name, IsPlainChar c := fun c hc =>
      isFileNameChar_iff.mp (List.all_eq_true.mp (by simpa using hchars) c hc)
    obtain ⟨hhead, hlast⟩ := isDotted_eq_false_iff.mp hdot
    exact {
      nonempty := one_le_utf8ByteSize_iff.mpr fun hnil => hempty (List.isEmpty_iff.mpr hnil)
      short := Nat.le_of_not_lt hlong
      plain := hplain
      noDoubleDot := (leadsAway_eq_false_iff hplain).mp hpath
      noLeadingDot := hhead
      noTrailing := hlast
      noDevice := (isReserved_eq_false_iff hplain).mp hreserved }
  · intro h
    have hempty : ¬ name.isEmpty = true := fun hempty =>
      one_le_utf8ByteSize_iff.mp h.nonempty (List.isEmpty_iff.mp hempty)
    have hall : name.all isFileNameChar = true :=
      List.all_eq_true.mpr fun c hc => isFileNameChar_iff.mpr (h.plain c hc)
    rw [if_neg hempty, if_neg (Nat.not_lt_of_le h.short), (leadsAway_eq_false_iff h.plain).mpr h.noDoubleDot,
      hasDrive_eq_false h.plain, isDotted_eq_false_iff.mpr ⟨h.noLeadingDot, h.noTrailing⟩, hall,
      (isReserved_eq_false_iff h.plain).mpr h.noDevice]
    rfl

theorem extensionProblem?_eq_none_iff :
    r.extensionProblem? name = none ↔ HasExtension r.allowedExtensions name := by
  unfold extensionProblem?
  constructor
  · intro h
    split at h
    · cases h
    · rename_i base ext hcut
      split_ifs at h with hallowed
      obtain ⟨hname, hext⟩ := cutLast_eq_some_iff.mp hcut
      exact ⟨base, ext, hname, hext, List.contains_iff_mem.mp hallowed⟩
  · rintro ⟨base, ext, hname, hext, hallowed⟩
    rw [cutLast_eq_some_iff.mpr ⟨hname, hext⟩]
    exact if_pos (List.contains_iff_mem.mpr hallowed)

/-- A name has no problem if it has the shape of a name and an allowed extension.  Decoding it then shows
nothing else, so that the second round of checks adds nothing. -/
theorem problem?_eq_none_iff :
    r.problem? name = none ↔ Shape r.maxLen name ∧ HasExtension r.allowedExtensions name := by
  rw [← shapeProblem?_eq_none_iff, ← extensionProblem?_eq_none_iff]
  unfold problem?
  constructor
  · intro h
    split at h
    · cases h
    · rw [Option.or_eq_none_iff, Option.or_eq_none_iff] at h
      exact ⟨h.1, h.2.2⟩
  · rintro ⟨hshape, hext⟩
    have hplain := Percent.plain_of_not_mem (percent_not_mem (shapeProblem?_eq_none_iff.mp hshape).plain)
    rw [hplain.decodeText?]
    simp only [hshape, hext, Option.or_none]

theorem check_eq_ok_iff {text checked : String} : r.check text = .ok checked ↔
    checked = text ∧ Shape r.maxLen text.toList ∧ HasExtension r.allowedExtensions text.toList := by
  rw [← problem?_eq_none_iff]
  unfold check
  cases r.problem? text.toList with
  | some p => simp
  | none => simp [eq_comm]

theorem sanitize_eq_ok_iff {tainted : Tainted String} {v : Verified String} : r.sanitize tainted = .ok v ↔
    v.inner = tainted.inner ∧ Shape r.maxLen tainted.inner.toList ∧
      HasExtension r.allowedExtensions tainted.inner.toList := by
  unfold sanitize
  rw [map_eq_ok_iff]
  constructor
  · rintro ⟨_, hcheck, rfl⟩
    exact check_eq_ok_iff.mp hcheck
  · intro h
    exact ⟨v.inner, check_eq_ok_iff.mpr h, rfl⟩

theorem Shape.isName (h : Shape maxLen name) : Path.IsName name where
  ne_nil := one_le_utf8ByteSize_iff.mp h.nonempty
  ne_dot heq := h.noLeadingDot (by rw [heq]; rfl)
  ne_dots heq := h.noLeadingDot (by rw [heq]; rfl)
  no_slash hmem := by
    have hsep := (h.plain '/' hmem).harmless.1
    cases hsep

/-- A name is let through if it keeps the grammar, and then it is let through as it is.  Nobody who decodes
it reads anything else, it holds no separator, and put into a directory it leads one step down from there. -/
theorem accepts_exactly_well_formed_names (extensions : List String) (maxLen : Nat) (name : Tainted String) :
    (∀ v, (new extensions maxLen).sanitize name = .ok v ↔ v.inner = name.inner ∧
      Shape maxLen name.inner.toList ∧
      HasExtension (extensions.map fun e => lower (String.ofList (e.toList.dropWhile (· == '.'))))
        name.inner.toList) ∧
      ∀ v, (new extensions maxLen).sanitize name = .ok v →
        (∀ n, Percent.decodeTimes n v.inner.toList = some v.inner.toList) ∧
        (∀ c ∈ v.inner.toList, isSeparator c = false) ∧ Path.IsName v.inner.toList ∧
        ∀ dir, Path.names (Path.inside dir v.inner.toList) = Path.names dir ++ [v.inner.toList] := by
  refine ⟨fun v => sanitize_eq_ok_iff, fun v hv => ?_⟩
  obtain ⟨hsame, hshape, -⟩ := sanitize_eq_ok_iff.mp hv
  rw [hsame]
  have hplain := Percent.plain_of_not_mem (percent_not_mem hshape.plain)
  exact ⟨hplain.decodeTimes, fun c hc => (hshape.plain c hc).harmless.1, hshape.isName,
    Path.names_inside hshape.isName⟩

/-- An extension may be configured with its dot, and a name may be as long as the limit. -/
theorem scan_is_let_through : ∃ v, (new ["txt", ".pdf"] 18).sanitize ⟨"Scan 2024-01_a.pdf"⟩ = .ok v ∧
    (∀ n, Percent.decodeTimes n v.inner.toList = some "Scan 2024-01_a.pdf".toList) ∧
    Path.names (Path.inside "/srv/files/".toList v.inner.toList) =
      ["srv".toList, "files".toList, "Scan 2024-01_a.pdf".toList] := by
  have hnone : (new ["txt", ".pdf"] 18).problem? "Scan 2024-01_a.pdf".toList = none := by decide +kernel
  have hok : (new ["txt", ".pdf"] 18).sanitize ⟨"Scan 2024-01_a.pdf"⟩ = .ok ⟨"Scan 2024-01_a.pdf"⟩ :=
    map_eq_ok_iff.mpr ⟨_, check_eq_ok_iff.mpr ⟨rfl, problem?_eq_none_iff.mp hnone⟩, rfl⟩
  obtain ⟨-, hleads⟩ := accepts_exactly_well_formed_names ["txt", ".pdf"] 18 ⟨"Scan 2024-01_a.pdf"⟩
  obtain ⟨hdecoded, -, -, hinside⟩ := hleads _ hok
  exact ⟨_, hok, hdecoded, (hinside _).trans (by decide)⟩

end FileNameRule

end HttpMediation
