import HttpMediation.Encoding.Base64Url
import HttpMediation.Proofs.Ascii
import Mathlib.Tactic.SplitIfs

/-!
# Base64Url — every byte string has one written form

* `Base64Url.value?_eq_some_iff` : letters and numbers below 64 are one-to-one.
* `Base64Url.decode?_eq_some_iff` : reading accepts exactly what writing produces.  Padding, a foreign
  letter, a group of one letter and a bit left over are thus all refused.
-/

namespace HttpMediation.Base64Url

/-! ## Letters -/

/-- Only characters of ASCII stand for a number. -/
theorem ascii_of_value? {c : Char} {n : Nat} (h : value? c = some n) : c.toNat < 128 := by
  unfold value? at h
  split_ifs at h with hA ha h0 h62 h63
  · exact Ascii.lt_of_le hA.2 (by decide)
  · exact Ascii.lt_of_le ha.2 (by decide)
  · exact Ascii.lt_of_le h0.2 (by decide)
  · rw [h62]; decide
  · rw [h63]; decide

theorem value?_letter : ∀ {n : Nat}, n < 64 → value? (letter n) = some n := by
  decide

theorem value?_eq_some_iff {c : Char} {n : Nat} : value? c = some n ↔ n < 64 ∧ letter n = c := by
  constructor
  · intro h
    have hascii : ∀ k < 128, ∀ m ∈ value? (Char.ofNat k), m < 64 ∧ letter m = Char.ofNat k := by
      decide
    exact Ascii.forall_of_lt (P := fun c => ∀ m ∈ value? c, m < 64 ∧ letter m = c) hascii
      (ascii_of_value? h) n h
  · rintro ⟨hn, rfl⟩
    exact value?_letter hn

/-! ## Groups -/

/-- What is written consists of letters. -/
theorem mem_encode {b : List UInt8} {c : Char} (h : c ∈ encode b) : ∃ n < 64, c = letter n := by
  fun_induction encode b with
  | case1 => exact absurd h List.not_mem_nil
  | case2 a =>
    have ha := a.toNat_lt
    simp only [List.mem_cons, List.not_mem_nil, or_false] at h
    rcases h with rfl | rfl
    · exact ⟨_, by omega, rfl⟩
    · exact ⟨_, by omega, rfl⟩
  | case3 a b =>
    have ha := a.toNat_lt
    have hb := b.toNat_lt
    simp only [List.mem_cons, List.not_mem_nil, or_false] at h
    rcases h with rfl | rfl | rfl
    · exact ⟨_, by omega, rfl⟩
    · exact ⟨_, by omega, rfl⟩
    · exact ⟨_, by omega, rfl⟩
  | case4 a b c r ih =>
    have ha := a.toNat_lt
    have hb := b.toNat_lt
    have hc := c.toNat_lt
    simp only [List.mem_cons] at h
    rcases h with rfl | rfl | rfl | rfl | h
    · exact ⟨_, by omega, rfl⟩
    · exact ⟨_, by omega, rfl⟩
    · exact ⟨_, by omega, rfl⟩
    · exact ⟨_, by omega, rfl⟩
    · exact ih h

/-- A byte put together from the numbers that it was taken apart into. -/
theorem ofNat_eq {n : Nat} {a : UInt8} (h : n = a.toNat) : UInt8.ofNat n = a := by
  rw [h, UInt8.ofNat_toNat]

theorem decode?_encode (b : List UInt8) : decode? (encode b) = some b := by
  fun_induction encode b with
  | case1 => rfl
  | case2 a =>
    have ha := a.toNat_lt
    have h1 : UInt8.ofNat (a.toNat / 4 * 4 + a.toNat % 4 * 16 / 16) = a := ofNat_eq (by omega)
    simp only [decode?, value?_letter (show a.toNat / 4 < 64 by omega),
      value?_letter (show a.toNat % 4 * 16 < 64 by omega), Option.bind_eq_bind, Option.bind_some]
    rw [if_pos (by omega), h1]
  | case3 a b =>
    have ha := a.toNat_lt
    have hb := b.toNat_lt
    have h1 : UInt8.ofNat (a.toNat / 4 * 4 + (a.toNat % 4 * 16 + b.toNat / 16) / 16) = a :=
      ofNat_eq (by omega)
    have h2 : UInt8.ofNat ((a.toNat % 4 * 16 + b.toNat / 16) % 16 * 16 +
        b.toNat % 16 * 4 / 4) = b := ofNat_eq (by omega)
    simp only [decode?, value?_letter (show a.toNat / 4 < 64 by omega),
      value?_letter (show a.toNat % 4 * 16 + b.toNat / 16 < 64 by omega),
      value?_letter (show b.toNat % 16 * 4 < 64 by omega), Option.bind_eq_bind, Option.bind_some]
    rw [if_pos (by omega), h1, h2]
  | case4 a b c r ih =>
    have ha := a.toNat_lt
    have hb := b.toNat_lt
    have hc := c.toNat_lt
    have h1 : UInt8.ofNat (a.toNat / 4 * 4 + (a.toNat % 4 * 16 + b.toNat / 16) / 16) = a :=
      ofNat_eq (by omega)
    have h2 : UInt8.ofNat ((a.toNat % 4 * 16 + b.toNat / 16) % 16 * 16 +
        (b.toNat % 16 * 4 + c.toNat / 64) / 4) = b := ofNat_eq (by omega)
    have h3 : UInt8.ofNat ((b.toNat % 16 * 4 + c.toNat / 64) % 4 * 64 + c.toNat % 64) = c :=
      ofNat_eq (by omega)
    simp only [decode?, value?_letter (show a.toNat / 4 < 64 by omega),
      value?_letter (show a.toNat % 4 * 16 + b.toNat / 16 < 64 by omega),
      value?_letter (show b.toNat % 16 * 4 + c.toNat / 64 < 64 by omega),
      value?_letter (show c.toNat % 64 < 64 by omega), ih, Option.bind_eq_bind, Option.bind_some]
    rw [h1, h2, h3]

/-- Strictness: no text but the one that `encode` writes stands for the bytes. -/
theorem encode_of_decode? {t : List Char} {b : List UInt8} (h : decode? t = some b) :
    encode b = t := by
  fun_induction decode? t generalizing b with
  | case1 =>
    obtain rfl := Option.some.inj h
    rfl
  | case2 => simp at h
  | case3 a b' =>
    simp only [Option.bind_eq_bind, Option.bind_eq_some_iff] at h
    obtain ⟨x, hx, y, hy, h⟩ := h
    split_ifs at h with hbits
    obtain rfl := Option.some.inj h
    obtain ⟨hx64, rfl⟩ := value?_eq_some_iff.mp hx
    obtain ⟨hy64, rfl⟩ := value?_eq_some_iff.mp hy
    unfold encode
    rw [Ascii.toNat_byte (show x * 4 + y / 16 < 256 by omega),
      show (x * 4 + y / 16) / 4 = x by omega, show (x * 4 + y / 16) % 4 * 16 = y by omega]
  | case4 a b' c =>
    simp only [Option.bind_eq_bind, Option.bind_eq_some_iff] at h
    obtain ⟨x, hx, y, hy, z, hz, h⟩ := h
    split_ifs at h with hbits
    obtain rfl := Option.some.inj h
    obtain ⟨hx64, rfl⟩ := value?_eq_some_iff.mp hx
    obtain ⟨hy64, rfl⟩ := value?_eq_some_iff.mp hy
    obtain ⟨hz64, rfl⟩ := value?_eq_some_iff.mp hz
    unfold encode
    rw [Ascii.toNat_byte (show x * 4 + y / 16 < 256 by omega),
      Ascii.toNat_byte (show y % 16 * 16 + z / 4 < 256 by omega),
      show (x * 4 + y / 16) / 4 = x by omega,
      show (x * 4 + y / 16) % 4 * 16 + (y % 16 * 16 + z / 4) / 16 = y by omega,
      show (y % 16 * 16 + z / 4) % 16 * 4 = z by omega]
  | case5 a b' c d r ih =>
    simp only [Option.bind_eq_bind, Option.bind_eq_some_iff] at h
    obtain ⟨x, hx, y, hy, z, hz, w, hw, rest, hrest, h⟩ := h
    obtain rfl := Option.some.inj h
    obtain ⟨hx64, rfl⟩ := value?_eq_some_iff.mp hx
    obtain ⟨hy64, rfl⟩ := value?_eq_some_iff.mp hy
    obtain ⟨hz64, rfl⟩ := value?_eq_some_iff.mp hz
    obtain ⟨hw64, rfl⟩ := value?_eq_some_iff.mp hw
    unfold encode
    rw [Ascii.toNat_byte (show x * 4 + y / 16 < 256 by omega),
      Ascii.toNat_byte (show y % 16 * 16 + z / 4 < 256 by omega),
      Ascii.toNat_byte (show z % 4 * 64 + w < 256 by omega),
      show (x * 4 + y / 16) / 4 = x by omega,
      show (x * 4 + y / 16) % 4 * 16 + (y % 16 * 16 + z / 4) / 16 = y by omega,
      show (y % 16 * 16 + z / 4) % 16 * 4 + (z % 4 * 64 + w) / 64 = z by omega,
      show (z % 4 * 64 + w) % 64 = w by omega, ih hrest]

theorem decode?_eq_some_iff {t : List Char} {b : List UInt8} :
    decode? t = some b ↔ t = encode b := by
  constructor
  · intro h
    exact (encode_of_decode? h).symm
  · rintro rfl
    exact decode?_encode b

theorem encode_injective {a b : List UInt8} (h : encode a = encode b) : a = b := by
  have hdecode : decode? (encode a) = some b := by
    rw [h]
    exact decode?_encode b
  rw [decode?_encode] at hdecode
  exact Option.some.inj hdecode

theorem encodeText_injective {a b : List UInt8} (h : encodeText a = encodeText b) : a = b :=
  encode_injective (String.ofList_injective h)

end HttpMediation.Base64Url
