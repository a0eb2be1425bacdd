import HttpMediation.Encoding.Utf8
import HttpMediation.Proofs.Ascii
import Mathlib.Tactic.SplitIfs

/-!
# Utf8 — texts and their bytes

* `Utf8.decode?_eq_some_iff` : the bytes that read as a text are the bytes of that text and no others.
* `Utf8.encodeChar_ascii` : a character of ASCII is one byte, and every other character is bytes from
  `0x80` on only (`Utf8.le_of_mem_encodeChar`).
* `Utf8.exists_of_encode_eq_append` : a text can be cut at the bytes of its slashes.
* `Utf8.decodeLossy_encode` : nothing is replaced in the bytes of a text.
-/

namespace HttpMediation.Utf8

/-! ## Reading what was written -/

theorem toByteArray_encode (s : List Char) : (encode s).toByteArray = s.utf8Encode := rfl

@[simp] theorem encode_nil : encode [] = [] := rfl

@[simp] theorem encode_cons (c : Char) (s : List Char) :
    encode (c :: s) = String.utf8EncodeChar c ++ encode s := by
  unfold encode
  rw [List.flatMap_cons]

@[simp] theorem encode_append (s t : List Char) : encode (s ++ t) = encode s ++ encode t := by
  unfold encode
  rw [List.flatMap_append]

theorem decode?_encode (s : List Char) : decode? (encode s) = some s := by
  have hvalid : ByteArray.IsValidUTF8 (encode s).toByteArray := ByteArray.isValidUTF8_utf8Encode
  have htext : String.fromUTF8 (encode s).toByteArray hvalid = String.ofList s := by
    apply String.toByteArray_inj.mp
    rw [String.toByteArray_ofList]
    rfl
  unfold decode? String.fromUTF8?
  rw [dif_pos hvalid, htext, Option.map_some, String.toList_ofList]

theorem encode_of_decode? {b : List UInt8} {s : List Char} (h : decode? b = some s) :
    encode s = b := by
  unfold decode? at h
  obtain ⟨text, htext, rfl⟩ := Option.map_eq_some_iff.mp h
  unfold String.fromUTF8? at htext
  split_ifs at htext with hvalid
  obtain rfl := Option.some.inj htext
  have hbytes : (encode (String.fromUTF8 b.toByteArray hvalid).toList).toByteArray =
      b.toByteArray := by
    rw [toByteArray_encode, String.utf8Encode_toList]
    rfl
  have := congrArg (fun a => a.data.toList) hbytes
  simpa using this

theorem decode?_eq_some_iff {b : List UInt8} {s : List Char} :
    decode? b = some s ↔ b = encode s := by
  constructor
  · intro h
    exact (encode_of_decode? h).symm
  · rintro rfl
    exact decode?_encode s

theorem encode_injective {s t : List Char} (h : encode s = encode t) : s = t := by
  have := decode?_encode s
  rw [h, decode?_encode t] at this
  exact (Option.some.inj this).symm

/-! ## Bytes of ASCII -/

theorem encodeChar_ascii {c : Char} (h : c.toNat < 0x80) :
    String.utf8EncodeChar c = [UInt8.ofNat c.toNat] := by
  have hc : c.val.toNat ≤ 0x7f := Nat.le_of_lt_succ h
  unfold String.utf8EncodeChar
  rw [if_pos hc]
  rfl

theorem encode_cons_ascii {c : Char} (h : c.toNat < 0x80) (s : List Char) :
    encode (c :: s) = UInt8.ofNat c.toNat :: encode s := by
  rw [encode_cons, encodeChar_ascii h, List.singleton_append]

theorem le_ofNat {n : Nat} (h : n < 256) (hn : 0x80 ≤ n) : 0x80 ≤ UInt8.ofNat n := by
  rw [UInt8.le_iff_toNat_le, Ascii.toNat_byte h]
  exact hn

/-- No byte of a character outside ASCII is a character of ASCII. -/
theorem le_of_mem_encodeChar {c : Char} (h : ¬c.toNat < 0x80) {x : UInt8}
    (hx : x ∈ String.utf8EncodeChar c) : 0x80 ≤ x := by
  have hc : ¬c.val.toNat ≤ 0x7f := fun hle => h (Nat.lt_succ_of_le hle)
  unfold String.utf8EncodeChar at hx
  simp only [if_neg hc] at hx
  split_ifs at hx
  · rcases List.mem_cons.mp hx with rfl | hx
    · exact le_ofNat (by omega) (by omega)
    · rw [List.mem_singleton.mp hx]
      exact le_ofNat (by omega) (by omega)
  · rcases List.mem_cons.mp hx with rfl | hx
    · exact le_ofNat (by omega) (by omega)
    rcases List.mem_cons.mp hx with rfl | hx
    · exact le_ofNat (by omega) (by omega)
    · rw [List.mem_singleton.mp hx]
      exact le_ofNat (by omega) (by omega)
  · rcases List.mem_cons.mp hx with rfl | hx
    · exact le_ofNat (by omega) (by omega)
    rcases List.mem_cons.mp hx with rfl | hx
    · exact le_ofNat (by omega) (by omega)
    rcases List.mem_cons.mp hx with rfl | hx
    · exact le_ofNat (by omega) (by omega)
    · rw [List.mem_singleton.mp hx]
      exact le_ofNat (by omega) (by omega)

/-- A character of ASCII is in a text if and only if its byte is. -/
theorem byte_mem_encode {a : Char} (ha : a.toNat < 0x80) {s : List Char} :
    UInt8.ofNat a.toNat ∈ encode s ↔ a ∈ s := by
  induction s with
  | nil => simp
  | cons c s ih =>
    rw [encode_cons, List.mem_append, List.mem_cons, ih]
    refine or_congr ?_ Iff.rfl
    by_cases hc : c.toNat < 0x80
    · rw [encodeChar_ascii hc, List.mem_singleton]
      constructor
      · intro h
        rw [← Ascii.ofNat_toNat ha, h, Ascii.ofNat_toNat hc]
      · rintro rfl
        rfl
    · constructor
      · intro h
        have hle := le_of_mem_encodeChar hc h
        rw [UInt8.le_iff_toNat_le, Ascii.toNat_byte (by omega)] at hle
        exact absurd ha (Nat.not_lt.mpr hle)
      · rintro rfl
        exact absurd ha hc

/-- Where a byte of ASCII begins a text, its character does. -/
theorem exists_of_encode_eq_cons {s : List Char} {a : UInt8} {r : List UInt8} (ha : a < 0x80)
    (h : encode s = a :: r) :
    ∃ c t, s = c :: t ∧ c.toNat < 0x80 ∧ UInt8.ofNat c.toNat = a ∧ encode t = r := by
  cases s with
  | nil => cases h
  | cons c t =>
    by_cases hc : c.toNat < 0x80
    · rw [encode_cons_ascii hc] at h
      obtain ⟨hbyte, hrest⟩ := List.cons.inj h
      exact ⟨c, t, rfl, hc, hbyte, hrest⟩
    · obtain ⟨x, xs, hx⟩ := List.exists_cons_of_ne_nil (String.utf8EncodeChar_ne_nil (c := c))
      have hle : 0x80 ≤ x := le_of_mem_encodeChar hc (by rw [hx]; exact List.mem_cons_self)
      rw [encode_cons, hx, List.cons_append] at h
      obtain ⟨rfl, -⟩ := List.cons.inj h
      exact absurd ha (UInt8.not_lt.mpr hle)

/-- Where the byte of a slash stands in a text, a slash does. -/
theorem exists_of_encode_eq_append {r : List Char} {x y : List UInt8} (h : encode r = x ++ 0x2f :: y) :
    ∃ a b, r = a ++ '/' :: b ∧ encode a = x ∧ encode b = y := by
  induction r generalizing x with
  | nil => simp at h
  | cons c r ih =>
    rw [encode_cons] at h
    rcases List.append_eq_append_iff.mp h with ⟨as, rfl, hr⟩ | ⟨bs, hc, hr⟩
    · obtain ⟨a, b, rfl, rfl, hb⟩ := ih hr
      exact ⟨c :: a, b, rfl, encode_cons c a, hb⟩
    · cases bs with
      | nil =>
        obtain ⟨a, b, rfl, ha, hb⟩ := ih (x := []) hr.symm
        rw [List.append_nil] at hc
        refine ⟨c :: a, b, rfl, ?_, hb⟩
        rw [encode_cons, ha, hc, List.append_nil]
      | cons d bs =>
        -- A byte of ASCII in the middle of a character: it is the whole character.
        obtain ⟨rfl, rfl⟩ := List.cons.inj hr
        have hascii : c.toNat < 0x80 := by
          refine Decidable.byContradiction fun hlarge => ?_
          have hmem : (0x2f : UInt8) ∈ String.utf8EncodeChar c := by
            rw [hc]
            exact List.mem_append_right _ List.mem_cons_self
          exact absurd (le_of_mem_encodeChar hlarge hmem) (by decide)
        rw [encodeChar_ascii hascii, eq_comm, List.append_eq_singleton_iff] at hc
        rcases hc with ⟨rfl, hc⟩ | ⟨-, hc⟩
        · obtain ⟨hbyte, rfl⟩ := List.cons.inj hc
          have hslash : c = '/' := by
            rw [← Ascii.ofNat_toNat hascii, ← hbyte]
            rfl
          exact ⟨[], r, by rw [hslash, List.nil_append], rfl, rfl⟩
        · cases hc

/-! ## Reading with replacement -/

/-- A byte between bounds, by its number. -/
theorem within_ofNat {lo hi : UInt8} {n : Nat} (hlo : lo.toNat ≤ n) (hhi : n ≤ hi.toNat) :
    (lo ≤ UInt8.ofNat n && UInt8.ofNat n ≤ hi) = true := by
  have hn : n < 256 := Nat.lt_of_le_of_lt hhi hi.toNat_lt
  rw [Bool.and_eq_true, decide_eq_true_eq, decide_eq_true_eq, UInt8.le_iff_toNat_le,
    UInt8.le_iff_toNat_le, Ascii.toNat_byte hn]
  exact ⟨hlo, hhi⟩

theorem not_within_ofNat {lo hi : UInt8} {n : Nat} (hn : n < 256) (h : hi.toNat < n) :
    ¬(lo ≤ UInt8.ofNat n && UInt8.ofNat n ≤ hi) = true := by
  rw [Bool.and_eq_true, decide_eq_true_eq, decide_eq_true_eq, UInt8.le_iff_toNat_le,
    UInt8.le_iff_toNat_le, Ascii.toNat_byte hn]
  omega

theorem not_lt_ofNat {n : Nat} (h : n < 256) (hn : 0x80 ≤ n) : ¬UInt8.ofNat n < 0x80 :=
  UInt8.not_lt.mpr (le_ofNat h hn)

theorem ofNat_beq_of_ne {n : Nat} {b : UInt8} (hn : n < 256) (h : n ≠ b.toNat) :
    (UInt8.ofNat n == b) = false := by
  rw [beq_eq_false_iff_ne]
  rintro rfl
  exact h (Ascii.toNat_byte hn).symm

theorem isContinuation_ofNat {n : Nat} (h : n < 64) : isContinuation (UInt8.ofNat (n + 128)) = true :=
  within_ofNat (show 128 ≤ _ by omega) (show _ ≤ 191 by omega)

/-- The second of three bytes fits if the character needs so many and is no surrogate. -/
theorem fitsSecondOfThree_ofNat {a b : Nat} (ha : a < 16) (hb : b < 64) (hlong : a = 0 → 32 ≤ b)
    (hsurrogate : a = 13 → b < 32) :
    fitsSecondOfThree (UInt8.ofNat (a + 224)) (UInt8.ofNat (b + 128)) = true := by
  unfold fitsSecondOfThree
  by_cases h0 : a = 0
  · subst h0
    exact within_ofNat (show 160 ≤ _ by omega) (show _ ≤ 191 by omega)
  by_cases h13 : a = 13
  · subst h13
    exact within_ofNat (show 128 ≤ _ by omega) (show _ ≤ 159 by omega)
  · rw [ofNat_beq_of_ne (by omega) (show a + 224 ≠ 224 by omega),
      ofNat_beq_of_ne (by omega) (show a + 224 ≠ 237 by omega)]
    exact isContinuation_ofNat hb

/-- The second of four bytes fits if the character needs so many and there is such a character. -/
theorem fitsSecondOfFour_ofNat {a b : Nat} (ha : a ≤ 4) (hb : b < 64) (hlong : a = 0 → 16 ≤ b)
    (hrange : a = 4 → b < 16) :
    fitsSecondOfFour (UInt8.ofNat (a + 240)) (UInt8.ofNat (b + 128)) = true := by
  unfold fitsSecondOfFour
  by_cases h0 : a = 0
  · subst h0
    exact within_ofNat (show 144 ≤ _ by omega) (show _ ≤ 191 by omega)
  by_cases h4 : a = 4
  · subst h4
    exact within_ofNat (show 128 ≤ _ by omega) (show _ ≤ 143 by omega)
  · rw [ofNat_beq_of_ne (by omega) (show a + 240 ≠ 240 by omega),
      ofNat_beq_of_ne (by omega) (show a + 240 ≠ 244 by omega)]
    exact isContinuation_ofNat hb

section Lengths

variable {a b c d : Nat}

theorem decodeLossy_one (ha : a < 0x80) (r : List UInt8) :
    decodeLossy (UInt8.ofNat a :: r) = Char.ofNat a :: decodeLossy r := by
  have hsmall : UInt8.ofNat a < 0x80 := by
    rw [UInt8.lt_iff_toNat_lt, Ascii.toNat_byte (by omega)]
    exact ha
  rw [decodeLossy.eq_def]
  dsimp only
  rw [if_pos hsmall, Ascii.toNat_byte (by omega)]

theorem decodeLossy_two (ha : a < 32) (hb : b < 64) (hlong : 2 ≤ a) (r : List UInt8) :
    decodeLossy (UInt8.ofNat (a + 192) :: UInt8.ofNat (b + 128) :: r) =
      Char.ofNat (a * 64 + b) :: decodeLossy r := by
  have hlead : (0xc2 ≤ UInt8.ofNat (a + 192) && UInt8.ofNat (a + 192) ≤ 0xdf) = true :=
    within_ofNat (show 194 ≤ _ by omega) (show _ ≤ 223 by omega)
  have hchar : join2 (UInt8.ofNat (a + 192)) (UInt8.ofNat (b + 128)) = Char.ofNat (a * 64 + b) := by
    unfold join2
    rw [Ascii.toNat_byte (show a + 192 < 256 by omega), Ascii.toNat_byte (show b + 128 < 256 by omega)]
    exact congrArg Char.ofNat (by omega)
  rw [decodeLossy.eq_def]
  dsimp only
  rw [if_neg (not_lt_ofNat (by omega) (by omega)), if_pos hlead, if_pos (isContinuation_ofNat hb), hchar]

theorem decodeLossy_three (ha : a < 16) (hb : b < 64) (hc : c < 64) (hlong : a = 0 → 32 ≤ b)
    (hsurrogate : a = 13 → b < 32) (r : List UInt8) :
    decodeLossy (UInt8.ofNat (a + 224) :: UInt8.ofNat (b + 128) :: UInt8.ofNat (c + 128) :: r) =
      Char.ofNat (a * 4096 + b * 64 + c) :: decodeLossy r := by
  have hlead : (0xe0 ≤ UInt8.ofNat (a + 224) && UInt8.ofNat (a + 224) ≤ 0xef) = true :=
    within_ofNat (show 224 ≤ _ by omega) (show _ ≤ 239 by omega)
  have hchar : join3 (UInt8.ofNat (a + 224)) (UInt8.ofNat (b + 128)) (UInt8.ofNat (c + 128)) =
      Char.ofNat (a * 4096 + b * 64 + c) := by
    unfold join3
    rw [Ascii.toNat_byte (show a + 224 < 256 by omega), Ascii.toNat_byte (show b + 128 < 256 by omega),
      Ascii.toNat_byte (show c + 128 < 256 by omega)]
    exact congrArg Char.ofNat (by omega)
  rw [decodeLossy.eq_def]
  dsimp only
  rw [if_neg (not_lt_ofNat (by omega) (by omega)),
    if_neg (not_within_ofNat (by omega) (show 223 < _ by omega)), if_pos hlead,
    if_pos (fitsSecondOfThree_ofNat ha hb hlong hsurrogate), if_pos (isContinuation_ofNat hc), hchar]

theorem decodeLossy_four (ha : a ≤ 4) (hb : b < 64) (hc : c < 64) (hd : d < 64) (hlong : a = 0 → 16 ≤ b)
    (hrange : a = 4 → b < 16) (r : List UInt8) :
    decodeLossy (UInt8.ofNat (a + 240) :: UInt8.ofNat (b + 128) :: UInt8.ofNat (c + 128) ::
        UInt8.ofNat (d + 128) :: r) =
      Char.ofNat (a * 262144 + b * 4096 + c * 64 + d) :: decodeLossy r := by
  have hlead : (0xf0 ≤ UInt8.ofNat (a + 240) && UInt8.ofNat (a + 240) ≤ 0xf4) = true :=
    within_ofNat (show 240 ≤ _ by omega) (show _ ≤ 244 by omega)
  have hchar : join4 (UInt8.ofNat (a + 240)) (UInt8.ofNat (b + 128)) (UInt8.ofNat (c + 128))
      (UInt8.ofNat (d + 128)) = Char.ofNat (a * 262144 + b * 4096 + c * 64 + d) := by
    unfold join4
    rw [Ascii.toNat_byte (show a + 240 < 256 by omega), Ascii.toNat_byte (show b + 128 < 256 by omega),
      Ascii.toNat_byte (show c + 128 < 256 by omega), Ascii.toNat_byte (show d + 128 < 256 by omega)]
    exact congrArg Char.ofNat (by omega)
  rw [decodeLossy.eq_def]
  dsimp only
  rw [if_neg (not_lt_ofNat (by omega) (by omega)),
    if_neg (not_within_ofNat (by omega) (show 223 < _ by omega)),
    if_neg (not_within_ofNat (by omega) (show 239 < _ by omega)), if_pos hlead,
    if_pos (fitsSecondOfFour_ofNat ha hb hlong hrange), if_pos (isContinuation_ofNat hc),
    if_pos (isContinuation_ofNat hd), hchar]

end Lengths

/-- The bytes of a character are read as this character, whatever stands behind them. -/
theorem decodeLossy_encodeChar_append (c : Char) (r : List UInt8) :
    decodeLossy (String.utf8EncodeChar c ++ r) = c :: decodeLossy r := by
  have hvalid : c.val.toNat < 0xd800 ∨ 0xdfff < c.val.toNat ∧ c.val.toNat < 0x110000 := c.valid
  have hc : Char.ofNat c.val.toNat = c := Char.ofNat_toNat c
  unfold String.utf8EncodeChar
  dsimp only
  generalize c.val.toNat = n at hvalid hc ⊢
  -- One case for each length; the digits of base 64 put the number together again.
  split_ifs with h1 h2 h3
  · rw [List.singleton_append, decodeLossy_one (by omega), hc]
  · have hn : n / 64 % 32 * 64 + n % 64 = n := by omega
    simp only [List.cons_append, List.nil_append]
    rw [decodeLossy_two (by omega) (by omega) (by omega), hn, hc]
  · have hn : n / 4096 % 16 * 4096 + n / 64 % 64 * 64 + n % 64 = n := by omega
    simp only [List.cons_append, List.nil_append]
    rw [decodeLossy_three (by omega) (by omega) (by omega) (by omega) (by omega), hn, hc]
  · have hn : n / 262144 % 8 * 262144 + n / 4096 % 64 * 4096 + n / 64 % 64 * 64 + n % 64 = n := by
      omega
    simp only [List.cons_append, List.nil_append]
    rw [decodeLossy_four (by omega) (by omega) (by omega) (by omega) (by omega) (by omega), hn, hc]

/-- Nothing is replaced in the bytes of a text. -/
theorem decodeLossy_encode (s : List Char) : decodeLossy (encode s) = s := by
  induction s with
  | nil => rfl
  | cons c s ih => rw [encode_cons, decodeLossy_encodeChar_append, ih]

end HttpMediation.Utf8
