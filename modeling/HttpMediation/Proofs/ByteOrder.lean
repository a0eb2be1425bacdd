import HttpMediation.Proofs.Utf8

/-!
# ByteOrder — texts in the order of their bytes

Texts are compared character by character.  Their bytes come in the same order, because the first byte of a
character tells how long it is and longer characters have larger numbers.

* `Utf8.Departs` : two runs of bytes differ before either ends, and the first one is smaller there.
* `Utf8.departs_encodeChar` : so it is for the bytes of two characters.
* `Utf8.le_iff_encode_le` : the order of texts is that of their bytes.
-/

namespace HttpMediation.Utf8

/-- The bytes differ before either run ends, and the first run has the smaller byte there. -/
def Departs (a b : List UInt8) : Prop :=
  ∃ before x y restA restB, a = before ++ x :: restA ∧ b = before ++ y :: restB ∧ x < y

variable {a b : List UInt8} {m n : Nat} {c d : Char} {s t : List Char}

theorem Departs.cons (h : Departs a b) (x : UInt8) : Departs (x :: a) (x :: b) := by
  obtain ⟨before, y, z, restA, restB, rfl, rfl, hlt⟩ := h
  exact ⟨x :: before, y, z, restA, restB, rfl, rfl, hlt⟩

/-- The first bytes decide, unless they are equal. -/
theorem departs_ofNat (hm : m < 256) (hn : n < 256) (hle : m ≤ n) (hrest : m = n → Departs a b) :
    Departs (UInt8.ofNat m :: a) (UInt8.ofNat n :: b) := by
  rcases Nat.lt_or_eq_of_le hle with hlt | rfl
  · refine ⟨[], _, _, a, b, rfl, rfl, ?_⟩
    rw [UInt8.lt_iff_toNat_lt, Ascii.toNat_byte hm, Ascii.toNat_byte hn]
    exact hlt
  · exact (hrest rfl).cons _

/-- What stands behind the difference does not count. -/
theorem Departs.append_lt (h : Departs a b) (r q : List UInt8) : a ++ r < b ++ q := by
  obtain ⟨before, x, y, restA, restB, rfl, rfl, hlt⟩ := h
  induction before with
  | nil => exact List.Lex.rel hlt
  | cons z before ih => exact List.Lex.cons ih

theorem toNat_lt (c : Char) : c.val.toNat < 0x110000 := by
  rcases c.valid with hlow | hhigh
  · exact Nat.lt_trans hlow (by decide)
  · exact hhigh.2

/-- The bytes of a smaller character depart from those of a larger one. -/
theorem departs_encodeChar (h : c < d) : Departs (String.utf8EncodeChar c) (String.utf8EncodeChar d) := by
  have hlt : c.val.toNat < d.val.toNat := h
  have hc := toNat_lt c
  have hd := toNat_lt d
  unfold String.utf8EncodeChar
  dsimp only
  generalize c.val.toNat = m at hlt hc ⊢
  generalize d.val.toNat = n at hlt hd ⊢
  split_ifs
  -- The first byte decides between characters of different lengths, and between two of ASCII.
  all_goals refine departs_ofNat (by omega) (by omega) (by omega) fun hfirst => ?_
  all_goals try omega
  · exact departs_ofNat (by omega) (by omega) (by omega) fun hlast => by omega
  · refine departs_ofNat (by omega) (by omega) (by omega) fun hsecond => ?_
    exact departs_ofNat (by omega) (by omega) (by omega) fun hlast => by omega
  · refine departs_ofNat (by omega) (by omega) (by omega) fun hsecond => ?_
    refine departs_ofNat (by omega) (by omega) (by omega) fun hthird => ?_
    exact departs_ofNat (by omega) (by omega) (by omega) fun hlast => by omega

/-! ## Texts -/

theorem encode_lt_of_lt (h : s < t) : encode s < encode t := by
  induction h with
  | nil =>
    rename_i c t
    obtain ⟨x, rest, hbytes⟩ := List.exists_cons_of_ne_nil (String.utf8EncodeChar_ne_nil (c := c))
    rw [encode_nil, encode_cons, hbytes, List.cons_append]
    exact List.nil_lt_cons _ _
  | cons _ ih =>
    rw [encode_cons, encode_cons]
    exact List.append_left_lt ih
  | rel hlt =>
    rw [encode_cons, encode_cons]
    exact (departs_encodeChar hlt).append_lt _ _

/-- The order of texts is the order of their bytes. -/
theorem le_iff_encode_le {x y : String} : x ≤ y ↔ encode x.toList ≤ encode y.toList := by
  constructor
  · intro h
    by_cases hback : y ≤ x
    · rw [String.le_antisymm h hback]
      exact List.le_refl _
    · exact List.le_of_lt (encode_lt_of_lt (String.not_le.mp hback))
  · intro h
    rw [← String.not_lt]
    intro hlt
    exact h (encode_lt_of_lt hlt)

end HttpMediation.Utf8
