import HttpMediation.Encoding.Percent
import HttpMediation.Proofs.Ascii
import HttpMediation.Proofs.Utf8
import Mathlib.Data.List.Basic

/-!
# Percent — decoding and escaping

* `Percent.Plain s` : the text holds no escape, so decoding leaves it alone.
* `Percent.plain_iff` : a text is plain exactly if no percent sign stands in front of two digits.
* `Percent.plain_intercalate_iff` : a text between slashes is plain when its segments are.  No escape
  reaches over a slash, which is no hexadecimal digit.
* `Percent.exists_of_decodeText?_intercalate` : for the same reason a path can be decoded segment by segment.
* `Percent.decodeText?_encode` : one round of decoding gives back what was escaped, as long as `%` is
  never kept.
-/

namespace HttpMediation.Percent

/-! ## One step of decoding -/

@[simp] theorem decode_nil : decode [] = [] := rfl

theorem decode_cons_of_ne {a : UInt8} (h : a ≠ 0x25) (r : List UInt8) :
    decode (a :: r) = a :: decode r := by
  rw [decode.eq_def]
  simp only [if_neg h]

/-- Bytes that are no percent signs stand for themselves. -/
theorem decode_append_of_not_mem {x : List UInt8} (h : 0x25 ∉ x) (y : List UInt8) :
    decode (x ++ y) = x ++ decode y := by
  induction x with
  | nil => rfl
  | cons a x ih =>
    rw [List.cons_append, decode_cons_of_ne fun ha => h (ha ▸ List.mem_cons_self),
      ih fun hmem => h (List.mem_cons_of_mem _ hmem), List.cons_append]

theorem decode_escape {hi lo b : UInt8} (h : pair? hi lo = some b) (r : List UInt8) :
    decode (0x25 :: hi :: lo :: r) = b :: decode r := by
  rw [decode, if_pos rfl]
  simp only [h]

theorem decode_singleton (a : UInt8) : decode [a] = [a] := by
  by_cases h : a = 0x25
  · subst h; rfl
  · rw [decode_cons_of_ne h, decode_nil]

/-- A percent sign without two digits behind it stands for itself. -/
theorem decode_percent {r : List UInt8} (h : ∀ hi lo r', r = hi :: lo :: r' → pair? hi lo = none) :
    decode (0x25 :: r) = 0x25 :: decode r := by
  match r with
  | [] => rfl
  | [a] =>
    rw [decode_singleton]
    rfl
  | hi :: lo :: r' =>
    rw [decode, if_pos rfl]
    simp only [h hi lo r' rfl]

/-! ## Texts without escapes -/

theorem pair?_slash_left (lo : UInt8) : pair? 0x2f lo = none := by
  have : digit? 0x2f = none := by decide
  unfold pair?
  rw [this]

theorem pair?_slash_right (hi : UInt8) : pair? hi 0x2f = none := by
  have : digit? 0x2f = none := by decide
  unfold pair?
  rw [this]
  cases digit? hi <;> rfl

/-- Decoding goes on at a slash as if it had begun there. -/
theorem decode_append_slash (x y : List UInt8) :
    decode (x ++ 0x2f :: y) = decode x ++ 0x2f :: decode y := by
  have hslash : decode (0x2f :: y) = 0x2f :: decode y := decode_cons_of_ne (by decide) y
  have hpercent : decode (0x25 :: 0x2f :: y) = 0x25 :: 0x2f :: decode y := by
    rw [decode_percent, hslash]
    intro hi lo r' h
    obtain ⟨rfl, -⟩ := List.cons.inj h
    exact pair?_slash_left lo
  fun_induction decode x with
  | case1 => exact hslash
  | case2 hi lo r b hb ih =>
    rw [List.cons_append, List.cons_append, List.cons_append, decode_escape hb, ih]
    rfl
  | case3 hi lo r hnone ih =>
    rw [List.cons_append, decode_percent, ih]
    · rfl
    · intro hi' lo' r' h
      simp only [List.cons_append, List.cons.injEq] at h
      obtain ⟨rfl, rfl, -⟩ := h
      exact hnone
  | case4 r hshort =>
    match r, hshort with
    | [], _ => exact hpercent
    | [a], _ =>
      have ha : decode (a :: 0x2f :: y) = a :: 0x2f :: decode y := by
        by_cases h : a = 0x25
        · rw [h, hpercent]
        · rw [decode_cons_of_ne h, hslash]
      show decode (0x25 :: a :: 0x2f :: y) = 0x25 :: a :: 0x2f :: decode y
      rw [decode_percent, ha]
      intro hi lo r' h
      obtain ⟨-, h⟩ := List.cons.inj h
      obtain ⟨rfl, -⟩ := List.cons.inj h
      exact pair?_slash_right hi
    | hi :: lo :: r', h => exact absurd rfl (h hi lo r')
  | case5 a r ha ih =>
    rw [List.cons_append, decode_cons_of_ne ha, ih]
    rfl

theorem length_decode_le (b : List UInt8) : (decode b).length ≤ b.length := by
  fun_induction decode b with
  | case1 => exact Nat.le_refl _
  | case2 hi lo r b hb ih => simp only [List.length_cons]; omega
  | case3 hi lo r hnone ih => simp only [List.length_cons] at ih ⊢; omega
  | case4 r hshort => exact Nat.le_refl _
  | case5 a r ha ih => simp only [List.length_cons]; omega

/-- Every escape that is decoded makes the text shorter. -/
theorem decode_eq_self_of_length {b : List UInt8} (h : (decode b).length = b.length) :
    decode b = b := by
  fun_induction decode b with
  | case1 => rfl
  | case2 hi lo r b hb ih =>
    have := length_decode_le r
    simp only [List.length_cons] at h
    omega
  | case3 hi lo r hnone ih =>
    simp only [List.length_cons] at h ih
    rw [ih (by omega)]
  | case4 r hshort => rfl
  | case5 a r ha ih =>
    simp only [List.length_cons] at h
    rw [ih (by omega)]

/-- There is nothing to decode in the text. -/
def Plain (s : List Char) : Prop :=
  decode (Utf8.encode s) = Utf8.encode s

theorem decodeText?_eq_some_iff {s t : List Char} :
    decodeText? s = some t ↔ decode (Utf8.encode s) = Utf8.encode t :=
  Utf8.decode?_eq_some_iff

theorem Plain.decodeText? {s : List Char} (h : Plain s) : decodeText? s = some s :=
  decodeText?_eq_some_iff.mpr h

theorem plain_nil : Plain [] := rfl

theorem encode_append_slash (s t : List Char) :
    Utf8.encode (s ++ '/' :: t) = Utf8.encode s ++ 0x2f :: Utf8.encode t := by
  rw [Utf8.encode_append, Utf8.encode_cons_ascii (by decide)]
  rfl

theorem plain_append_slash_iff {s t : List Char} : Plain (s ++ '/' :: t) ↔ Plain s ∧ Plain t := by
  unfold Plain
  rw [encode_append_slash, decode_append_slash]
  constructor
  · intro h
    have hs := length_decode_le (Utf8.encode s)
    have ht := length_decode_le (Utf8.encode t)
    have hlen := congrArg List.length h
    simp only [List.length_append, List.length_cons] at hlen
    exact ⟨decode_eq_self_of_length (by omega), decode_eq_self_of_length (by omega)⟩
  · rintro ⟨hs, ht⟩
    rw [hs, ht]

theorem plain_intercalate_iff {segments : List (List Char)} :
    Plain (['/'].intercalate segments) ↔ ∀ s ∈ segments, Plain s := by
  match segments with
  | [] => simp [plain_nil]
  | [s] => simp
  | s :: t :: r =>
    have ih : Plain (['/'].intercalate (t :: r)) ↔ ∀ s ∈ t :: r, Plain s := plain_intercalate_iff
    rw [List.intercalate_cons_cons, List.append_assoc, List.singleton_append,
      plain_append_slash_iff, ih]
    simp only [List.forall_mem_cons]

/-! ## Escapes in a text -/

/-- The text starts with two hexadecimal digits. -/
def StartsWithDigits (s : List Char) : Prop :=
  ∃ hi lo r, s = hi :: lo :: r ∧ (Hex.digit? hi).isSome ∧ (Hex.digit? lo).isSome

/-- Somewhere in the text a percent sign stands in front of two hexadecimal digits. -/
def HasEscape (s : List Char) : Prop :=
  ∃ hi lo, ['%', hi, lo] <:+: s ∧ (Hex.digit? hi).isSome ∧ (Hex.digit? lo).isSome

theorem ascii_of_digit? {c : Char} (h : (Hex.digit? c).isSome) : c.toNat < 0x80 := by
  unfold Hex.digit? at h
  split_ifs at h with hdigit hsmall hcapital
  · exact Ascii.lt_of_le hdigit.2 (by decide)
  · exact Ascii.lt_of_le hsmall.2 (by decide)
  · exact Ascii.lt_of_le hcapital.2 (by decide)
  · cases h

theorem digit?_byte {c : Char} (hc : c.toNat < 0x80) : digit? (UInt8.ofNat c.toNat) = Hex.digit? c := by
  unfold digit?
  rw [Ascii.ofNat_toNat hc]

theorem lt_of_digit? {b : UInt8} (h : (digit? b).isSome) : b < 0x80 := by
  have hbyte : (Char.ofNat b.toNat).toNat = b.toNat := by
    have hvalid : b.toNat.isValidChar := .inl (Nat.lt_trans b.toNat_lt (by decide))
    rw [Char.ofNat, dif_pos hvalid]
    rfl
  have hascii := ascii_of_digit? h
  rw [hbyte] at hascii
  exact UInt8.lt_iff_toNat_lt.mpr hascii

theorem pair?_eq_none_iff {hi lo : UInt8} :
    pair? hi lo = none ↔ ¬((digit? hi).isSome ∧ (digit? lo).isSome) := by
  unfold pair?
  cases digit? hi <;> cases digit? lo <;> simp

section

variable {c : Char} {s : List Char}

theorem encode_percent (s : List Char) : Utf8.encode ('%' :: s) = 0x25 :: Utf8.encode s :=
  Utf8.encode_cons_ascii (by decide) s

theorem plain_cons_of_ne (hc : c ≠ '%') : Plain (c :: s) ↔ Plain s := by
  have hbytes : 0x25 ∉ String.utf8EncodeChar c := by
    intro hmem
    have hsingle : UInt8.ofNat '%'.toNat ∈ Utf8.encode [c] := by
      rwa [Utf8.encode_cons, Utf8.encode_nil, List.append_nil]
    rw [Utf8.byte_mem_encode (by decide), List.mem_singleton] at hsingle
    exact hc hsingle.symm
  unfold Plain
  rw [Utf8.encode_cons, decode_append_of_not_mem hbytes, List.append_cancel_left_eq]

/-- Two digits behind a percent sign make an escape, and decoding it makes the text shorter. -/
theorem not_plain_percent (h : StartsWithDigits s) : ¬Plain ('%' :: s) := by
  obtain ⟨hi, lo, r, rfl, hhi, hlo⟩ := h
  have hbytes : Utf8.encode (hi :: lo :: r) =
      UInt8.ofNat hi.toNat :: UInt8.ofNat lo.toNat :: Utf8.encode r := by
    rw [Utf8.encode_cons_ascii (ascii_of_digit? hhi), Utf8.encode_cons_ascii (ascii_of_digit? hlo)]
  rw [← digit?_byte (ascii_of_digit? hhi)] at hhi
  rw [← digit?_byte (ascii_of_digit? hlo)] at hlo
  obtain ⟨b, hb⟩ := Option.ne_none_iff_exists'.mp fun hnone => pair?_eq_none_iff.mp hnone ⟨hhi, hlo⟩
  intro hplain
  unfold Plain at hplain
  rw [encode_percent, hbytes, decode_escape hb] at hplain
  have hlength := congrArg List.length hplain
  have hle := length_decode_le (Utf8.encode r)
  simp only [List.length_cons] at hlength
  omega

/-- A percent sign without two digits behind it stands for itself, whatever the text behind it is. -/
theorem plain_percent_of_not (h : ¬StartsWithDigits s) : Plain ('%' :: s) ↔ Plain s := by
  have hpercent : decode (0x25 :: Utf8.encode s) = 0x25 :: decode (Utf8.encode s) := by
    refine decode_percent fun x y r hbytes => pair?_eq_none_iff.mpr ?_
    rintro ⟨hx, hy⟩
    obtain ⟨hi, t, rfl, hhi, rfl, hrest⟩ := Utf8.exists_of_encode_eq_cons (lt_of_digit? hx) hbytes
    obtain ⟨lo, u, rfl, hlo, rfl, -⟩ := Utf8.exists_of_encode_eq_cons (lt_of_digit? hy) hrest
    rw [digit?_byte hhi] at hx
    rw [digit?_byte hlo] at hy
    exact h ⟨hi, lo, u, rfl, hx, hy⟩
  unfold Plain
  rw [encode_percent, hpercent, List.cons.injEq]
  exact and_iff_right rfl

theorem not_hasEscape_nil : ¬HasEscape [] := by
  rintro ⟨hi, lo, h, -⟩
  cases List.infix_nil.mp h

theorem hasEscape_cons_of_ne (hc : c ≠ '%') : HasEscape (c :: s) ↔ HasEscape s := by
  refine exists_congr fun hi => exists_congr fun lo => and_congr_left fun _ => ?_
  rw [List.infix_cons_iff, List.cons_prefix_cons]
  exact or_iff_right fun h => hc h.1.symm

theorem hasEscape_percent_iff : HasEscape ('%' :: s) ↔ StartsWithDigits s ∨ HasEscape s := by
  constructor
  · rintro ⟨hi, lo, h, hhi, hlo⟩
    rcases List.infix_cons_iff.mp h with ⟨r, hr⟩ | h
    · exact .inl ⟨hi, lo, r, (List.cons.inj hr).2.symm, hhi, hlo⟩
    · exact .inr ⟨hi, lo, h, hhi, hlo⟩
  · rintro (⟨hi, lo, r, rfl, hhi, hlo⟩ | ⟨hi, lo, h, hhi, hlo⟩)
    · exact ⟨hi, lo, ⟨[], r, rfl⟩, hhi, hlo⟩
    · exact ⟨hi, lo, List.infix_cons h, hhi, hlo⟩

/-- The texts that a round of decoding leaves alone are those without an escape. -/
theorem plain_iff : Plain s ↔ ¬HasEscape s := by
  induction s with
  | nil => exact iff_of_true plain_nil not_hasEscape_nil
  | cons c s ih =>
    by_cases hc : c = '%'
    · subst hc
      rw [hasEscape_percent_iff, not_or, ← ih]
      by_cases hdigits : StartsWithDigits s
      · exact iff_of_false (not_plain_percent hdigits) fun h => h.1 hdigits
      · rw [plain_percent_of_not hdigits]
        exact (and_iff_right hdigits).symm
    · rw [plain_cons_of_ne hc, hasEscape_cons_of_ne hc, ih]

/-- Without a percent sign there is nothing to decode. -/
theorem plain_of_not_mem (h : '%' ∉ s) : Plain s := by
  rw [plain_iff]
  rintro ⟨hi, lo, hescape, -⟩
  exact h (hescape.subset List.mem_cons_self)

end

/-! ## Decoding segment by segment -/

theorem exists_of_decodeText?_append_slash {s t r : List Char} (h : decodeText? (s ++ '/' :: t) = some r) :
    ∃ a b, decodeText? s = some a ∧ decodeText? t = some b ∧ r = a ++ '/' :: b := by
  rw [decodeText?_eq_some_iff, encode_append_slash, decode_append_slash] at h
  obtain ⟨a, b, hr, ha, hb⟩ := Utf8.exists_of_encode_eq_append h.symm
  exact ⟨a, b, decodeText?_eq_some_iff.mpr ha.symm, decodeText?_eq_some_iff.mpr hb.symm, hr⟩

theorem decodeText?_slash (s : List Char) : decodeText? ('/' :: s) = (decodeText? s).map ('/' :: ·) := by
  have hslash : Utf8.encode ('/' :: s) = 0x2f :: Utf8.encode s := encode_append_slash [] s
  cases h : decodeText? s with
  | some t =>
    rw [decodeText?_eq_some_iff] at h
    rw [Option.map_some, decodeText?_eq_some_iff, hslash, decode_cons_of_ne (by decide), h]
    exact (encode_append_slash [] t).symm
  | none =>
    rw [Option.map_none, Option.eq_none_iff_forall_ne_some]
    intro t ht
    obtain ⟨_, b, -, hb, -⟩ := exists_of_decodeText?_append_slash (s := []) ht
    rw [h] at hb
    cases hb

/-- Decoding a path decodes each of its segments. -/
theorem exists_of_decodeText?_intercalate {segments : List (List Char)} (hne : segments ≠ []) {r : List Char}
    (h : decodeText? (['/'].intercalate segments) = some r) :
    ∃ decoded, segments.mapM decodeText? = some decoded ∧ r = ['/'].intercalate decoded := by
  match segments with
  | [s] =>
    rw [List.intercalate_singleton] at h
    refine ⟨[r], ?_, List.intercalate_singleton.symm⟩
    rw [List.mapM_cons, h]
    rfl
  | s :: t :: rest =>
    rw [List.intercalate_cons_cons, List.append_assoc, List.singleton_append] at h
    obtain ⟨a, b, ha, hb, rfl⟩ := exists_of_decodeText?_append_slash h
    obtain ⟨decoded, hdecoded, rfl⟩ := exists_of_decodeText?_intercalate (List.cons_ne_nil t rest) hb
    refine ⟨a :: decoded, by rw [List.mapM_cons, ha, hdecoded]; rfl, ?_⟩
    match decoded with
    | [] =>
      rw [List.mapM_cons] at hdecoded
      obtain ⟨_, -, hdecoded⟩ := Option.bind_eq_some_iff.mp hdecoded
      obtain ⟨_, -, hdecoded⟩ := Option.bind_eq_some_iff.mp hdecoded
      cases hdecoded
    | d :: ds =>
      rw [List.intercalate_cons_cons, List.append_assoc, List.singleton_append]

/-! ## Escaping -/

theorem encode_cons (keep : Char → Bool) (c : Char) (s : List Char) :
    encode keep (c :: s) = encode keep [c] ++ encode keep s := by
  unfold encode encodeBytes
  rw [Utf8.encode_cons, Utf8.encode_cons, Utf8.encode_nil, List.append_nil, List.flatMap_append]

theorem encode_singleton_of_kept {keep : Char → Bool} {c : Char} (hc : c.toNat < 0x80)
    (h : keep c = true) : encode keep [c] = [c] := by
  have hbyte : UInt8.ofNat c.toNat < 0x80 := by
    rw [UInt8.lt_iff_toNat_lt, Ascii.toNat_byte (by omega)]
    exact hc
  unfold encode encodeBytes
  rw [Utf8.encode_cons_ascii hc, Utf8.encode_nil, List.flatMap_singleton, Ascii.ofNat_toNat hc, if_pos]
  rw [h, decide_eq_true hbyte]
  rfl

/-- A character that is not kept becomes escapes and nothing else. -/
theorem encode_singleton_of_escaped {keep : Char → Bool} {c : Char}
    (h : ¬(c.toNat < 0x80 ∧ keep c = true)) :
    encode keep [c] = (String.utf8EncodeChar c).flatMap escape := by
  unfold encode encodeBytes
  rw [Utf8.encode_cons, Utf8.encode_nil, List.append_nil]
  apply List.flatMap_congr
  intro x hx
  by_cases hc : c.toNat < 0x80
  · rw [Utf8.encodeChar_ascii hc, List.mem_singleton] at hx
    have hkeep : keep c = false := by simpa [hc] using h
    rw [hx, Ascii.ofNat_toNat hc, hkeep, Bool.and_false]
    rfl
  · have := Utf8.le_of_mem_encodeChar hc hx
    rw [if_neg]
    simp [UInt8.not_lt.mpr this]

/-- The byte of a digit. -/
def digitByte (n : Nat) : UInt8 :=
  UInt8.ofNat (Hex.upperDigit n).toNat

theorem encode_escape (b : UInt8) :
    Utf8.encode (escape b) = [0x25, digitByte (b.toNat / 16), digitByte (b.toNat % 16)] := by
  have hb := b.toNat_lt
  have hascii : ∀ n < 16, (Hex.upperDigit n).toNat < 0x80 := by decide
  unfold escape
  rw [encode_percent, Utf8.encode_cons_ascii (hascii _ (by omega)),
    Utf8.encode_cons_ascii (hascii _ (by omega)), Utf8.encode_nil]
  rfl

theorem pair?_digitByte (b : UInt8) :
    pair? (digitByte (b.toNat / 16)) (digitByte (b.toNat % 16)) = some b := by
  have hb := b.toNat_lt
  have hdigit : ∀ n < 16, digit? (digitByte n) = some n := by decide
  unfold pair?
  rw [hdigit _ (by omega), hdigit _ (by omega)]
  simp only [Option.some.injEq]
  rw [show b.toNat / 16 * 16 + b.toNat % 16 = b.toNat by omega, UInt8.ofNat_toNat]

theorem decode_flatMap_escape (b r : List UInt8) :
    decode (Utf8.encode (b.flatMap escape) ++ r) = b ++ decode r := by
  induction b with
  | nil => rfl
  | cons x b ih =>
    rw [List.flatMap_cons, Utf8.encode_append, encode_escape, List.append_assoc]
    simp only [List.cons_append, List.nil_append]
    rw [decode_escape (pair?_digitByte x), ih]

theorem decode_encode_append {keep : Char → Bool} (hkeep : keep '%' = false) (s : List Char)
    (r : List UInt8) :
    decode (Utf8.encode (encode keep s) ++ r) = Utf8.encode s ++ decode r := by
  induction s with
  | nil => rfl
  | cons c s ih =>
    rw [encode_cons, Utf8.encode_append, List.append_assoc, Utf8.encode_cons, List.append_assoc]
    by_cases h : c.toNat < 0x80 ∧ keep c = true
    · have hne : UInt8.ofNat c.toNat ≠ 0x25 := by
        intro he
        have hc : c = '%' := by
          rw [← Ascii.ofNat_toNat h.1, he]
          rfl
        rw [hc, hkeep] at h
        exact absurd h.2 (by decide)
      rw [encode_singleton_of_kept h.1 h.2, Utf8.encode_cons_ascii h.1, Utf8.encode_nil,
        List.singleton_append, decode_cons_of_ne hne, ih, Utf8.encodeChar_ascii h.1]
      rfl
    · rw [encode_singleton_of_escaped h, decode_flatMap_escape, ih]

theorem decodeText?_encode {keep : Char → Bool} (hkeep : keep '%' = false) (s : List Char) :
    decodeText? (encode keep s) = some s := by
  have := decode_encode_append hkeep s []
  rw [List.append_nil, decode_nil, List.append_nil] at this
  exact decodeText?_eq_some_iff.mpr this

/-- What an escaped text consists of: kept characters, percent signs and capital digits. -/
theorem mem_encode {keep : Char → Bool} {s : List Char} {d : Char} (h : d ∈ encode keep s) :
    (d ∈ s ∧ d.toNat < 0x80 ∧ keep d = true) ∨ d = '%' ∨ ∃ n < 16, d = Hex.upperDigit n := by
  induction s with
  | nil => exact absurd h List.not_mem_nil
  | cons c s ih =>
    rw [encode_cons, List.mem_append] at h
    rcases h with h | h
    · by_cases hc : c.toNat < 0x80 ∧ keep c = true
      · rw [encode_singleton_of_kept hc.1 hc.2, List.mem_singleton] at h
        subst h
        exact .inl ⟨List.mem_cons_self, hc⟩
      · rw [encode_singleton_of_escaped hc, List.mem_flatMap] at h
        obtain ⟨b, -, h⟩ := h
        have hb := b.toNat_lt
        simp only [escape, List.mem_cons, List.not_mem_nil, or_false] at h
        rcases h with h | h | h
        · exact .inr (.inl h)
        · exact .inr (.inr ⟨_, by omega, h⟩)
        · exact .inr (.inr ⟨_, by omega, h⟩)
    · rcases ih h with ⟨hs, hd⟩ | h
      · exact .inl ⟨List.mem_cons_of_mem _ hs, hd⟩
      · exact .inr h

/-- Escaping makes no character that was not there, but for percent signs and digits. -/
theorem not_mem_encode {keep : Char → Bool} {s : List Char} {d : Char}
    (hd : d ≠ '%' ∧ ∀ n < 16, d ≠ Hex.upperDigit n) (hs : d ∉ s) : d ∉ encode keep s := by
  intro hmem
  rcases mem_encode hmem with ⟨hold, -, -⟩ | hpercent | ⟨n, hn, heq⟩
  · exact hs hold
  · exact hd.1 hpercent
  · exact hd.2 n hn heq

/-- An escaped text begins with its first character or with an escape. -/
theorem head?_encode_cons (keep : Char → Bool) (c : Char) (s : List Char) :
    (encode keep (c :: s)).head? = some c ∨ (encode keep (c :: s)).head? = some '%' := by
  rw [encode_cons]
  by_cases h : c.toNat < 0x80 ∧ keep c = true
  · rw [encode_singleton_of_kept h.1 h.2]
    exact .inl rfl
  · rw [encode_singleton_of_escaped h]
    right
    match hbytes : String.utf8EncodeChar c with
    | [] => exact absurd hbytes String.utf8EncodeChar_ne_nil
    | x :: r => rfl

end HttpMediation.Percent
