import HttpMediation.Proofs.Percent
import HttpMediation.Redirect.Path

/-!
# Decoding — paths that are read to the end

A path is decoded round by round until a round changes nothing.  A round is refused if its bytes are no text or
if a control character is among what they spell.

* `Percent.decodeTimes` : what is read by somebody who decodes a text several times.
* `Percent.Changes` : a round makes another text of what it reads.
* `Path.settle_eq_none_iff` : a path is given up in a refused round, or after a last round that still changes it.
* `Path.settle_write` : a written path is decoded to the path that it was written from.
* `Path.settle_slash` : decoding leaves the slash alone that a path starts with.
* `Path.decodeFully_ends_in_stable_text` : what is left at the end, and when nothing is.
-/

namespace HttpMediation

/-! ## Rounds -/

namespace Percent

variable {s t d : List Char} {n m : Nat}

/-- The text after a number of rounds of decoding. -/
def decodeTimes : Nat → List Char → Option (List Char)
  | 0, s => some s
  | n + 1, s => (decodeText? s).bind (decodeTimes n)

theorem decodeTimes_succ_of (h : decodeText? s = some t) (n : Nat) :
    decodeTimes (n + 1) s = decodeTimes n t := by
  rw [decodeTimes, h, Option.bind_some]

/-- The last round reads what the rounds before it leave. -/
theorem decodeTimes_succ (n : Nat) (s : List Char) :
    decodeTimes (n + 1) s = (decodeTimes n s).bind decodeText? := by
  induction n generalizing s with
  | zero =>
    rw [decodeTimes, decodeTimes, Option.bind_some]
    exact Option.bind_fun_some _
  | succ n ih =>
    cases h : decodeText? s with
    | none =>
      rw [decodeTimes, decodeTimes, h]
      rfl
    | some t => rw [decodeTimes_succ_of h, decodeTimes_succ_of h, ih]

theorem Plain.decodeTimes (h : Plain s) (n : Nat) : decodeTimes n s = some s := by
  induction n with
  | zero => rfl
  | succ n ih => rw [decodeTimes_succ_of h.decodeText?, ih]

/-- If one round of decoding leaves no escape, further rounds change nothing. -/
theorem exists_of_decodeTimes (h : decodeTimes n s = some d) (hd : Plain d) :
    ∃ t, decodeText? s = some t ∧ (Plain t → t = d) := by
  cases n with
  | zero =>
    obtain rfl := Option.some.inj h
    exact ⟨s, hd.decodeText?, fun _ => rfl⟩
  | succ n =>
    obtain ⟨t, ht, hrest⟩ := Option.bind_eq_some_iff.mp h
    refine ⟨t, ht, fun hplain => ?_⟩
    rw [hplain.decodeTimes n] at hrest
    exact Option.some.inj hrest

/-- The round behind `n` others has a text to read, and makes another text of it. -/
def Changes (n : Nat) (s : List Char) : Prop :=
  ∃ t u, decodeTimes n s = some t ∧ decodeTimes (n + 1) s = some u ∧ u ≠ t

theorem changes_zero_iff (h : decodeText? s = some t) : Changes 0 s ↔ t ≠ s := by
  unfold Changes
  rw [decodeTimes_succ_of h]
  simp [decodeTimes]

theorem changes_succ_iff (h : decodeText? s = some t) : Changes (n + 1) s ↔ Changes n t := by
  unfold Changes
  rw [decodeTimes_succ_of h, decodeTimes_succ_of h]

/-- A text that one round leaves alone is left alone by the next. -/
theorem Changes.of_succ (h : Changes (n + 1) s) : Changes n s := by
  obtain ⟨t, u, ht, hu, hne⟩ := h
  rw [decodeTimes_succ, ht, Option.bind_some] at hu
  obtain ⟨r, hr, hrt⟩ := Option.bind_eq_some_iff.mp ((decodeTimes_succ n s).symm.trans ht)
  refine ⟨r, t, hr, ht, ?_⟩
  rintro rfl
  rw [hrt] at hu
  exact hne (Option.some.inj hu).symm

theorem Changes.of_le (h : Changes n s) (hm : m ≤ n) : Changes m s := by
  induction hm with
  | refl => exact h
  | step _ ih => exact ih h.of_succ

end Percent

/-! ## Decoding to the end -/

namespace Path

open Percent (Plain HasEscape Changes decodeText? decodeTimes decodeText?_eq_some_iff)
open Text (isControl)

variable {s t d p : List Char} {rounds : Nat}

/-- A round that reads the text is refused: its bytes are those of no text, or of one with a control
character. -/
def IsRefused (s : List Char) : Prop :=
  (¬∃ t, Percent.decode (Utf8.encode s) = Utf8.encode t) ∨
    ∃ t, Percent.decode (Utf8.encode s) = Utf8.encode t ∧ ∃ c ∈ t, isControl c = true

/-! ### One round -/

/-- A round is refused, or it makes a text without control characters. -/
theorem isRefused_or (s : List Char) :
    IsRefused s ∨ ∃ t, decodeText? s = some t ∧ ∀ c ∈ t, isControl c = false := by
  cases h : decodeText? s with
  | none =>
    refine .inl (.inl ?_)
    rintro ⟨t, ht⟩
    rw [decodeText?_eq_some_iff.mpr ht] at h
    cases h
  | some t =>
    cases hcontrol : t.any isControl with
    | true => exact .inl (.inr ⟨t, decodeText?_eq_some_iff.mp h, List.any_eq_true.mp hcontrol⟩)
    | false => exact .inr ⟨t, rfl, by simpa using hcontrol⟩

theorem not_isRefused (h : decodeText? s = some t) (hclean : ∀ c ∈ t, isControl c = false) : ¬IsRefused s := by
  rw [decodeText?_eq_some_iff] at h
  rintro (hnone | ⟨u, hu, c, hc, hcontrol⟩)
  · exact hnone ⟨t, h⟩
  · rw [Utf8.encode_injective (hu.symm.trans h)] at hc
    rw [hclean c hc] at hcontrol
    cases hcontrol

theorem settle_of_isRefused (h : IsRefused s) : settle rounds s = none := by
  cases rounds with
  | zero => rfl
  | succ rounds =>
    rw [settle]
    rcases h with hnone | ⟨t, ht, hcontrol⟩
    · have hdecode : decodeText? s = none := by
        rw [Option.eq_none_iff_forall_ne_some]
        exact fun t ht => hnone ⟨t, decodeText?_eq_some_iff.mp ht⟩
      rw [hdecode]
    · rw [decodeText?_eq_some_iff.mpr ht]
      exact if_pos (List.any_eq_true.mpr hcontrol)

/-- A round that is not refused is the last one if it changes nothing. -/
theorem settle_succ (h : decodeText? s = some t) (hclean : ∀ c ∈ t, isControl c = false) :
    settle (rounds + 1) s = if t = s then some s else settle rounds t := by
  have hcontrol : ¬t.any isControl = true := by simpa using hclean
  rw [settle, h]
  exact if_neg hcontrol

theorem exists_of_settle_succ (h : settle (rounds + 1) s = some d) :
    ∃ t, decodeText? s = some t ∧ (∀ c ∈ t, isControl c = false) ∧
      ((t = s ∧ d = s) ∨ settle rounds t = some d) := by
  rcases isRefused_or s with hrefused | ⟨t, ht, hclean⟩
  · rw [settle_of_isRefused hrefused] at h
    cases h
  · rw [settle_succ ht hclean] at h
    split_ifs at h with hsame
    · exact ⟨t, ht, hclean, .inl ⟨hsame, (Option.some.inj h).symm⟩⟩
    · exact ⟨t, ht, hclean, .inr h⟩

/-! ### What is left -/

/-- What is left when a path has been decoded to the end holds no escape and no control character. -/
theorem of_settle (h : settle rounds s = some d) : Plain d ∧ ∀ c ∈ d, isControl c = false := by
  induction rounds generalizing s with
  | zero => cases h
  | succ rounds ih =>
    obtain ⟨t, ht, hclean, ⟨rfl, rfl⟩ | hrest⟩ := exists_of_settle_succ h
    · exact ⟨decodeText?_eq_some_iff.mp ht, hclean⟩
    · exact ih hrest

/-- What is decoded until nothing changes has been decoded a number of times, and holds no escapes. -/
theorem exists_of_settle (h : settle rounds s = some d) :
    Plain d ∧ ∃ k < rounds, decodeTimes k s = some d := by
  refine ⟨(of_settle h).1, ?_⟩
  induction rounds generalizing s with
  | zero => cases h
  | succ rounds ih =>
    obtain ⟨t, ht, -, ⟨rfl, rfl⟩ | hrest⟩ := exists_of_settle_succ h
    · exact ⟨0, Nat.zero_lt_succ _, rfl⟩
    · obtain ⟨k, hk, hdecoded⟩ := ih hrest
      exact ⟨k + 1, Nat.succ_lt_succ hk, (Percent.decodeTimes_succ_of ht k).trans hdecoded⟩

/-- A text without escapes is what it is decoded to, if nothing refuses it. -/
theorem eq_of_settle_plain (hs : Plain s) (h : settle rounds s = some t) : t = s := by
  obtain ⟨-, k, -, hdecoded⟩ := exists_of_settle h
  rw [hs.decodeTimes k] at hdecoded
  exact (Option.some.inj hdecoded).symm

theorem settle_of_plain (hplain : Plain s) (hclean : ∀ c ∈ s, isControl c = false) :
    settle (rounds + 1) s = some s := by
  rw [settle_succ hplain.decodeText? hclean, if_pos rfl]

theorem settle_slash (rounds : Nat) (s : List Char) :
    settle rounds ('/' :: s) = (settle rounds s).map ('/' :: ·) := by
  induction rounds generalizing s with
  | zero => rfl
  | succ rounds ih =>
    rw [settle, settle, Percent.decodeText?_slash]
    cases decodeText? s with
    | none => rfl
    | some t =>
      have hcontrol : ('/' :: t).any isControl = t.any isControl := rfl
      simp only [Option.map_some, hcontrol, List.cons.injEq, true_and, ih]
      split_ifs <;> rfl

/-! ### Written paths -/

theorem decodeText?_write (p : List Char) : decodeText? (write p) = some p :=
  Percent.decodeText?_encode (by decide) p

/-- A written path without escapes of its own is read the same way by all who decode it. -/
theorem decodeTimes_write (h : Plain p) (n : Nat) : decodeTimes (n + 1) (write p) = some p := by
  rw [Percent.decodeTimes_succ_of (decodeText?_write p), h.decodeTimes n]

/-- One round reads a written path and a second one finds nothing to do. -/
theorem settle_write (hplain : Plain p) (hclean : ∀ c ∈ p, isControl c = false) :
    settle (rounds + 2) (write p) = some p := by
  rw [settle_succ (decodeText?_write p) hclean]
  split_ifs with hsame
  · rw [← hsame]
  · exact settle_of_plain hplain hclean

/-! ### What is given up -/

/-- A path is given up if one of the rounds up to the first that changes nothing is refused, or if every round
changes it. -/
theorem settle_eq_none_iff : settle rounds s = none ↔
    (∃ n < rounds, (∀ m < n, Changes m s) ∧ ∃ t, decodeTimes n s = some t ∧ IsRefused t) ∨
      ∀ n < rounds, Changes n s := by
  induction rounds generalizing s with
  | zero => simp [settle]
  | succ rounds ih =>
    rw [Nat.exists_lt_succ_left, Nat.forall_lt_succ_left]
    rcases isRefused_or s with hrefused | ⟨t, ht, hclean⟩
    · refine iff_of_true (settle_of_isRefused hrefused) (.inl (.inl ⟨fun m hm => ?_, s, rfl, hrefused⟩))
      exact absurd hm (Nat.not_lt_zero m)
    · have hfirst : ¬∃ u, decodeTimes 0 s = some u ∧ IsRefused u := by
        rintro ⟨u, hu, hrefused⟩
        obtain rfl := Option.some.inj hu
        exact not_isRefused ht hclean hrefused
      -- the other rounds are those of the text that the first one makes
      simp only [hfirst, and_false, false_or, Nat.forall_lt_succ_left, Percent.changes_zero_iff ht,
        Percent.changes_succ_iff ht, Percent.decodeTimes_succ_of ht, settle_succ ht hclean]
      split_ifs with hsame
      · simp [hsame]
      · simp [hsame, ih]

/-- Decoding to the end.  What is left is the text after at most three rounds.  No percent sign in it stands in
front of two digits, and no control character is in it; it is left as it is if it is decoded again, and it is what
is left of its written form.  Nothing is left exactly if a round up to the first that changes nothing, and at most
the fourth, gives bytes that are no text or a text with a control character, or if the fourth round still changes
the text. -/
theorem decodeFully_ends_in_stable_text (s : List Char) :
    (∀ d, decodeFully s = some d →
      (∃ k ≤ 3, decodeTimes k s = some d) ∧ ¬HasEscape d ∧ (∀ c ∈ d, isControl c = false) ∧
        decodeFully d = some d ∧ decodeFully (write d) = some d) ∧
      (decodeFully s = none ↔
        (∃ n < 4, (∀ m < n, Changes m s) ∧ ∃ t, decodeTimes n s = some t ∧ IsRefused t) ∨ Changes 3 s) := by
  constructor
  · intro d hd
    obtain ⟨hplain, k, hk, hdecoded⟩ := exists_of_settle hd
    have hclean : ∀ c ∈ d, isControl c = false := (of_settle hd).2
    exact ⟨⟨k, Nat.le_of_lt_succ hk, hdecoded⟩, Percent.plain_iff.mp hplain, hclean,
      settle_of_plain hplain hclean, settle_write hplain hclean⟩
  · have hlast : (∀ n < 4, Changes n s) ↔ Changes 3 s := by
      constructor
      · intro h
        exact h 3 (by decide)
      · intro h n hn
        exact h.of_le (Nat.le_of_lt_succ hn)
    rw [← hlast]
    exact settle_eq_none_iff

/-- Three rounds: decoded digits make escapes of their own, two escapes make one character, and a percent sign
is left that escapes nothing. -/
theorem nested_escapes_end_in_stable_text :
    decodeFully "/%2525c3%25%32%35a9%2%2535zz".toList = some "/é%zz".toList ∧
      (∃ k ≤ 3, decodeTimes k "/%2525c3%25%32%35a9%2%2535zz".toList = some "/é%zz".toList) ∧
      ¬HasEscape "/é%zz".toList ∧ (∀ c ∈ "/é%zz".toList, isControl c = false) ∧
      decodeFully "/é%zz".toList = some "/é%zz".toList ∧
      decodeFully "/%C3%A9%25zz".toList = some "/é%zz".toList := by
  have hend : decodeFully "/%2525c3%25%32%35a9%2%2535zz".toList = some "/é%zz".toList := by decide +kernel
  have hwritten : write "/é%zz".toList = "/%C3%A9%25zz".toList := by decide +kernel
  have hleft := (decodeFully_ends_in_stable_text _).1 _ hend
  rw [hwritten] at hleft
  exact ⟨hend, hleft⟩

-- One escape deeper, the fourth round still changes the text.
example : decodeFully "/%2525252e".toList = none := by decide +kernel

end Path

end HttpMediation
