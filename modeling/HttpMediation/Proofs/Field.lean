import HttpMediation.Field
import HttpMediation.Proofs.Ascii
import HttpMediation.Proofs.Outcome
import Mathlib.Tactic.SplitIfs

/-!
# Field — what a sanitizer lets through

* `IsTchar`, `IsPrinting`, `IsVisible`, `IsToken` : the characters of tokens and of any field, those that can
  be seen, and whole tokens.
* `FieldSanitizer.Admits` : the texts that keep a rule, its limit and its list of forbidden characters.
* `FieldSanitizer.check_eq_ok_iff` : a check changes nothing, and it lets exactly those texts through.
-/

namespace HttpMediation

/-! ## Characters -/

/-- The marks that a token may hold. -/
def tokenMarks : List Char :=
  ['!', '#', '$', '%', '&', '\x27', '*', '+', '-', '.', '^', '_', '\x60', '|', '~']

/-- A character of a token after RFC 7230: one of fifteen marks, a digit or a letter. -/
def IsTchar (c : Char) : Prop :=
  c ∈ tokenMarks ∨ ('0' ≤ c ∧ c ≤ '9') ∨ ('A' ≤ c ∧ c ≤ 'Z') ∨ ('a' ≤ c ∧ c ≤ 'z')

/-- A tab or a printing character of ASCII, the space included. -/
def IsPrinting (c : Char) : Prop :=
  c = '\t' ∨ (0x20 ≤ c.toNat ∧ c.toNat ≤ 0x7e)

/-- A character of ASCII that is neither a control character nor the space. -/
def IsVisible (c : Char) : Prop :=
  0x21 ≤ c.toNat ∧ c.toNat ≤ 0x7e

instance (c : Char) : Decidable (IsVisible c) :=
  inferInstanceAs (Decidable (0x21 ≤ c.toNat ∧ c.toNat ≤ 0x7e))

theorem IsTchar.isPrinting {c : Char} (h : IsTchar c) : IsPrinting c := by
  have hrange : ∀ {a b : Char}, 0x20 ≤ a.toNat → b.toNat ≤ 0x7e → a ≤ c ∧ c ≤ b → IsPrinting c := by
    rintro a b ha hb ⟨hac, hcb⟩
    exact .inr ⟨Nat.le_trans ha (Ascii.le_iff_toNat_le.mp hac),
      Nat.le_trans (Ascii.le_iff_toNat_le.mp hcb) hb⟩
  rcases h with hmark | hdigit | hupper | hlower
  · have hmarks : (tokenMarks.all fun m => 0x20 ≤ m.toNat && m.toNat ≤ 0x7e) = true := by decide
    have hmark := List.all_eq_true.mp hmarks c hmark
    rw [Bool.and_eq_true, decide_eq_true_eq, decide_eq_true_eq] at hmark
    exact .inr hmark
  · exact hrange (by decide) (by decide) hdigit
  · exact hrange (by decide) (by decide) hupper
  · exact hrange (by decide) (by decide) hlower

theorem IsPrinting.not_lineBreak {c : Char} (h : IsPrinting c) : c ≠ '\r' ∧ c ≠ '\n' := by
  constructor
  · rintro rfl
    exact absurd h (by unfold IsPrinting; decide)
  · rintro rfl
    exact absurd h (by unfold IsPrinting; decide)

namespace FieldRule

theorem isTchar_of_isTokenChar {c : Char} (h : isTokenChar c = true) : IsTchar c := by
  unfold isTokenChar at h
  rcases Bool.or_eq_true_iff.mp h with halnum | hmark
  · exact .inr (Ascii.isAlphanum_iff.mp halnum)
  · exact .inl (List.contains_iff_mem.mp hmark)

theorem isTokenChar_of_isTchar {c : Char} (h : IsTchar c) : isTokenChar c = true := by
  rcases h with hmark | halnum
  · exact Bool.or_eq_true_iff.mpr (.inr (List.contains_iff_mem.mpr hmark))
  · exact Bool.or_eq_true_iff.mpr (.inl (Ascii.isAlphanum_iff.mpr halnum))

theorem isVisible_iff {c : Char} : isVisible c = true ↔ IsVisible c := by
  unfold isVisible
  rw [Bool.and_eq_true, decide_eq_true_eq, decide_eq_true_eq, Ascii.le_iff_toNat_le, Ascii.le_iff_toNat_le]
  exact Iff.rfl

theorem isPrinting_of_isVisible {c : Char} (h : isVisible c = true) : IsPrinting c := by
  obtain ⟨hlow, hhigh⟩ := isVisible_iff.mp h
  exact .inr ⟨by omega, hhigh⟩

/-- No field holds a control character other than the tab, and none holds more than ASCII. -/
theorem isPrinting_of_allows {rule : FieldRule} {c : Char} (h : rule.allows c = true) :
    IsPrinting c := by
  cases rule with
  | headerName => exact (isTchar_of_isTokenChar h).isPrinting
  | cookieName => exact (isTchar_of_isTokenChar h).isPrinting
  | headerValue =>
    unfold allows at h
    rcases Bool.or_eq_true_iff.mp h with hblank | hvisible
    · rcases Bool.or_eq_true_iff.mp hblank with htab | hspace
      · exact .inl (beq_iff_eq.mp htab)
      · rw [beq_iff_eq.mp hspace]
        exact .inr (by decide)
    · exact isPrinting_of_isVisible hvisible
  | cookieValue => exact isPrinting_of_isVisible (Bool.and_eq_true_iff.mp h).1
  | cookieAttribute => exact isPrinting_of_isVisible (Bool.and_eq_true_iff.mp h).1

/-- The rule for header values excludes nothing else. -/
theorem allows_headerValue_iff {c : Char} : headerValue.allows c = true ↔ IsPrinting c := by
  refine ⟨isPrinting_of_allows, ?_⟩
  rintro (rfl | ⟨hlow, hhigh⟩)
  · decide
  · by_cases hspace : c = ' '
    · subst hspace
      decide
    have hne : c.toNat ≠ 0x20 := fun h => hspace (Char.toNat_inj.mp h)
    have hvisible : isVisible c = true := isVisible_iff.mpr ⟨by omega, hhigh⟩
    exact Bool.or_eq_true_iff.mpr (.inr hvisible)

end FieldRule

/-- The text is a token: it is not empty and has no other characters. -/
def IsToken (s : String) : Prop :=
  s ≠ "" ∧ ∀ c ∈ s.toList, IsTchar c

/-! ## Checks -/

namespace FieldSanitizer

/-- The text keeps the rule, the limit and the list of forbidden characters. -/
structure Admits (s : FieldSanitizer) (value : String) : Prop where
  nonempty : s.rule.allowsEmpty = false → value ≠ ""
  short : value.utf8ByteSize ≤ s.maxLen
  allowed : ∀ c ∈ value.toList, s.rule.allows c = true ∧ c ∉ s.forbidden

variable {s : FieldSanitizer} {value text : String}

theorem Admits.not_mem (h : s.Admits value) {c : Char} (hc : s.rule.allows c = false) : c ∉ value.toList := by
  intro hmem
  rw [(h.allowed c hmem).1] at hc
  cases hc

theorem allows_iff {c : Char} : s.allows c = true ↔ s.rule.allows c = true ∧ c ∉ s.forbidden := by
  unfold allows
  simp

theorem problem?_eq_none_iff : s.problem? value = none ↔ s.Admits value := by
  unfold problem?
  constructor
  · intro h
    split_ifs at h with hempty hlong hbreak hallowed
    refine ⟨fun hrule hvalue => hempty ?_, Nat.le_of_not_lt hlong, fun c hc => ?_⟩
    · rw [hrule, hvalue]
      rfl
    · exact allows_iff.mp (List.all_eq_true.mp hallowed c hc)
  · intro h
    have hempty : ¬ (value.toList.isEmpty && !s.rule.allowsEmpty) = true := by
      rw [Bool.and_eq_true, List.isEmpty_iff, String.toList_eq_nil_iff, Bool.not_eq_true']
      exact fun hboth => h.nonempty hboth.2 hboth.1
    have hbreak : ¬ (value.toList.any fun c => c == '\r' || c == '\n') = true := by
      rw [List.any_eq_true]
      rintro ⟨c, hc, hline⟩
      obtain ⟨hr, hn⟩ := (FieldRule.isPrinting_of_allows (h.allowed c hc).1).not_lineBreak
      simp [hr, hn] at hline
    have hallowed : value.toList.all s.allows = true :=
      List.all_eq_true.mpr fun c hc => allows_iff.mpr (h.allowed c hc)
    rw [if_neg hempty, if_neg (Nat.not_lt_of_le h.short), if_neg hbreak, if_pos hallowed]

/-- A check changes nothing: it lets a text through as it is, or not at all. -/
theorem check_eq_ok_iff : s.check value = .ok text ↔ text = value ∧ s.Admits value := by
  rw [← problem?_eq_none_iff]
  unfold check
  cases s.problem? value with
  | some p => simp
  | none => simp [eq_comm]

theorem failsAs_check (s : FieldSanitizer) (value : String) : FailsAs .validation (s.check value) := by
  intro e he
  unfold check at he
  split at he
  · rename_i p _
    obtain rfl := Except.error.inj he
    cases p <;> rfl
  · cases he

end FieldSanitizer

end HttpMediation
