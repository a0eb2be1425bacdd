import HttpMediation.Text.Basic

/-!
# Ascii — characters by their number

Facts about the 128 characters of ASCII are settled by trying them all (`Ascii.forall_of_lt`); the lemmas
here bring a character to that point.  Names are compared through their characters (`Ascii.sameName_iff`).
-/

namespace HttpMediation.Ascii

theorem le_iff_toNat_le {a b : Char} : a ≤ b ↔ a.toNat ≤ b.toNat :=
  UInt32.le_iff_toNat_le

/-- What holds of every number below 128 holds of every character of ASCII. -/
theorem forall_of_lt {P : Char → Prop} (h : ∀ n < 128, P (Char.ofNat n)) {c : Char}
    (hc : c.toNat < 128) : P c := by
  have := h c.toNat hc
  rwa [Char.ofNat_toNat] at this

theorem lt_of_le {c d : Char} (h : c ≤ d) (hd : d.toNat < 128) : c.toNat < 128 :=
  Nat.lt_of_le_of_lt (le_iff_toNat_le.mp h) hd

/-- A text without a character passes where that character is looked for. -/
theorem bne_of_not_mem {c : Char} {s : List Char} (h : c ∉ s) : ∀ d ∈ s, (d != c) = true := by
  intro d hd
  rw [bne_iff_ne]
  rintro rfl
  exact h hd

/-- A text begins with a character. -/
theorem isPrefixOf_singleton_iff {c : Char} {s : List Char} : [c].isPrefixOf s = true ↔ s.head? = some c := by
  rw [List.isPrefixOf_iff_prefix, List.head?_eq_some_iff]
  exact exists_congr fun _ => eq_comm

theorem toNat_ofNat : ∀ {n : Nat}, n < 128 → (Char.ofNat n).toNat = n := by
  decide

theorem toNat_byte {n : Nat} (h : n < 256) : (UInt8.ofNat n).toNat = n :=
  UInt8.toNat_ofNat_of_lt' h

/-- The byte of a character of ASCII, read as a character. -/
theorem ofNat_toNat {c : Char} (h : c.toNat < 128) : Char.ofNat (UInt8.ofNat c.toNat).toNat = c := by
  rw [toNat_byte (Nat.lt_trans h (by decide)), Char.ofNat_toNat]

/-- A letter or a digit stands in one of three ranges. -/
theorem isAlphanum_iff {c : Char} :
    c.isAlphanum = true ↔ ('0' ≤ c ∧ c ≤ '9') ∨ ('A' ≤ c ∧ c ≤ 'Z') ∨ ('a' ≤ c ∧ c ≤ 'z') := by
  have hkind : c.isAlphanum = (c.isUpper || c.isLower || c.isDigit) := rfl
  rw [hkind, Bool.or_eq_true, Bool.or_eq_true]
  constructor
  · rintro ((hupper | hlower) | hdigit)
    · exact .inr (.inl (of_decide_eq_true hupper))
    · obtain ⟨hlow, hhigh⟩ := Bool.and_eq_true_iff.mp hlower
      exact .inr (.inr ⟨of_decide_eq_true hlow, of_decide_eq_true hhigh⟩)
    · obtain ⟨hlow, hhigh⟩ := Bool.and_eq_true_iff.mp hdigit
      exact .inl ⟨of_decide_eq_true hlow, of_decide_eq_true hhigh⟩
  · rintro (⟨hlow, hhigh⟩ | hupper | ⟨hlow, hhigh⟩)
    · exact .inr (Bool.and_eq_true_iff.mpr ⟨decide_eq_true hlow, decide_eq_true hhigh⟩)
    · exact .inl (.inl (decide_eq_true hupper))
    · exact .inl (.inr (Bool.and_eq_true_iff.mpr ⟨decide_eq_true hlow, decide_eq_true hhigh⟩))

/-- Names are compared character by character. -/
theorem sameName_iff {a b : String} :
    Text.sameName a b = true ↔ a.toList.map Char.toLower = b.toList.map Char.toLower := by
  unfold Text.sameName Text.lower
  rw [beq_iff_eq, ← String.toList_inj, String.toList_map, String.toList_map]

end HttpMediation.Ascii
