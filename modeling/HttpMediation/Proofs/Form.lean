import HttpMediation.Encoding.Form
import HttpMediation.Proofs.Percent

/-!
# Form — parameters are read as they were written

* `Form.decodePart_encodePart` : a name or value of any characters comes back as it was.
* `Form.decode_encode` : so does a list of parameters.
* `Form.decode_append_ampersand` : forms around a `&` are read one after the other.
* `Form.decode_eq_nil_iff` : which forms have no parameters.
* `Form.exists_of_decode_append` : what is written behind a form without a `&` goes to its last parameter.
-/

namespace HttpMediation.Form

/-! ## Names and values -/

theorem keeps_upperDigit : ∀ n < 16, keeps (Hex.upperDigit n) = true := by
  decide

/-- What a written byte consists of. -/
theorem mem_encodeByte {b : UInt8} {c : Char} (h : c ∈ encodeByte b) :
    c = '+' ∨ c = '%' ∨ keeps c = true := by
  have hb := b.toNat_lt
  unfold encodeByte at h
  split_ifs at h with hspace hkept
  · exact .inl (List.mem_singleton.mp h)
  · rw [List.mem_singleton] at h
    rw [h]
    exact .inr (.inr (Bool.and_eq_true_iff.mp hkept).2)
  · simp only [Percent.escape, List.mem_cons, List.not_mem_nil, or_false] at h
    rcases h with rfl | rfl | rfl
    · exact .inr (.inl rfl)
    · exact .inr (.inr (keeps_upperDigit _ (by omega)))
    · exact .inr (.inr (keeps_upperDigit _ (by omega)))

theorem not_mem_encodePart {c : Char} (hkeep : keeps c = false) (hplus : c ≠ '+') (hpercent : c ≠ '%')
    (s : String) : c ∉ encodePart s := by
  intro h
  obtain ⟨b, -, hc⟩ := List.mem_flatMap.mp h
  rcases mem_encodeByte hc with rfl | rfl | hkept
  · exact hplus rfl
  · exact hpercent rfl
  · rw [hkeep] at hkept
    cases hkept

/-- The bytes with a space for every plus. -/
def spaced (b : List UInt8) : List UInt8 :=
  b.map fun x => if x = 0x2b then 0x20 else x

theorem decodePart_eq (b : List UInt8) :
    decodePart b = String.ofList (Utf8.decodeLossy (Percent.decode (spaced b))) := rfl

theorem spaced_append (a b : List UInt8) : spaced (a ++ b) = spaced a ++ spaced b :=
  List.map_append

theorem spaced_escape (b : UInt8) :
    spaced (Utf8.encode (Percent.escape b)) = Utf8.encode (Percent.escape b) := by
  have hb := b.toNat_lt
  have hdigit : ∀ n < 16, Percent.digitByte n ≠ 0x2b := by decide
  rw [Percent.encode_escape]
  unfold spaced
  rw [List.map_cons, List.map_cons, List.map_cons, List.map_nil, if_neg (by decide),
    if_neg (hdigit _ (by omega)), if_neg (hdigit _ (by omega))]

theorem decode_encodeByte_append (b : UInt8) (r : List UInt8) :
    Percent.decode (spaced (Utf8.encode (encodeByte b)) ++ r) = b :: Percent.decode r := by
  unfold encodeByte
  split_ifs with hspace hkept
  · subst hspace
    exact Percent.decode_cons_of_ne (by decide) r
  · obtain ⟨hsmall, hkeep⟩ := Bool.and_eq_true_iff.mp hkept
    have hascii : b.toNat < 0x80 := UInt8.lt_iff_toNat_lt.mp (of_decide_eq_true hsmall)
    have hplus : b ≠ 0x2b := by
      rintro rfl
      exact absurd hkeep (by decide)
    have hpercent : b ≠ 0x25 := by
      rintro rfl
      exact absurd hkeep (by decide)
    have hbyte : Utf8.encode [Char.ofNat b.toNat] = [b] := by
      rw [Utf8.encode_cons_ascii, Utf8.encode_nil, Ascii.toNat_ofNat hascii, UInt8.ofNat_toNat]
      rw [Ascii.toNat_ofNat hascii]
      exact hascii
    rw [hbyte, spaced, List.map_singleton, if_neg hplus]
    exact Percent.decode_cons_of_ne hpercent r
  · have hescape := Percent.decode_flatMap_escape [b] r
    rw [List.flatMap_singleton] at hescape
    rw [spaced_escape, hescape, List.singleton_append]

theorem decode_encodePart (s : String) :
    Percent.decode (spaced (Utf8.encode (encodePart s))) = Utf8.encode s.toList := by
  unfold encodePart
  induction Utf8.encode s.toList with
  | nil => rfl
  | cons b l ih =>
    rw [List.flatMap_cons, Utf8.encode_append, spaced_append, decode_encodeByte_append, ih]

/-- A written name or value is read as it was. -/
theorem decodePart_encodePart (s : String) : decodePart (Utf8.encode (encodePart s)) = s := by
  rw [decodePart_eq, decode_encodePart, Utf8.decodeLossy_encode, String.ofList_toList]

theorem ascii_of_keeps {c : Char} (h : keeps c = true) : c.toNat < 128 := by
  have hrange : ∀ {a b : Char}, b.toNat < 128 → (decide (a ≤ c) && decide (c ≤ b)) = true → c.toNat < 128 :=
    fun hb hbetween => Ascii.lt_of_le (of_decide_eq_true (Bool.and_eq_true_iff.mp hbetween).2) hb
  unfold keeps at h
  simp only [Bool.or_eq_true, beq_iff_eq] at h
  rcases h with (((halnum | rfl) | rfl) | rfl) | rfl
  · rcases Bool.or_eq_true_iff.mp halnum with halpha | hdigit
    · rcases Bool.or_eq_true_iff.mp halpha with hupper | hlower
      · exact Ascii.lt_of_le (of_decide_eq_true hupper).2 (by decide)
      · exact hrange (a := 'a') (b := 'z') (by decide) hlower
    · exact hrange (a := '0') (b := '9') (by decide) hdigit
  all_goals decide

theorem encodeByte_of_keeps {c : Char} (h : keeps c = true) : encodeByte (UInt8.ofNat c.toNat) = [c] := by
  have hascii : ∀ n < 128, keeps (Char.ofNat n) = true →
      encodeByte (UInt8.ofNat (Char.ofNat n).toNat) = [Char.ofNat n] := by
    decide
  exact Ascii.forall_of_lt (P := fun c => keeps c = true → encodeByte (UInt8.ofNat c.toNat) = [c]) hascii
    (ascii_of_keeps h) h

/-- A name or value of letters that are kept is written as it is. -/
theorem encodePart_of_keeps {s : String} (h : ∀ c ∈ s.toList, keeps c = true) : encodePart s = s.toList := by
  unfold encodePart
  generalize s.toList = l at h ⊢
  induction l with
  | nil => rfl
  | cons c l ih =>
    have hc := h c List.mem_cons_self
    rw [Utf8.encode_cons_ascii (ascii_of_keeps hc), List.flatMap_cons, encodeByte_of_keeps hc,
      ih fun d hd => h d (List.mem_cons_of_mem c hd)]
    rfl

/-! ## Pairs -/

theorem encode_encodePair (p : String × String) :
    Utf8.encode (encodePair p) =
      Utf8.encode (encodePart p.1) ++ 0x3d :: Utf8.encode (encodePart p.2) := by
  unfold encodePair
  rw [Utf8.encode_append, Utf8.encode_cons_ascii (by decide)]
  rfl

theorem ampersand_not_mem_encodePair (p : String × String) : '&' ∉ encodePair p := by
  have hpart : ∀ s, '&' ∉ encodePart s := not_mem_encodePart (by decide) (by decide) (by decide)
  rw [encodePair, List.mem_append, List.mem_cons]
  rintro (h | h | h)
  · exact hpart _ h
  · cases h
  · exact hpart _ h

/-- The first `=` of a written pair is the one between its parts. -/
theorem decodePiece_encodePair (p : String × String) : decodePiece (Utf8.encode (encodePair p)) = p := by
  have hname : ∀ b ∈ Utf8.encode (encodePart p.1), (b != 0x3d) = true := by
    intro b hb
    rw [bne_iff_ne]
    rintro rfl
    have hmem : '=' ∈ encodePart p.1 := (Utf8.byte_mem_encode (by decide)).mp hb
    exact not_mem_encodePart (by decide) (by decide) (by decide) p.1 hmem
  rw [encode_encodePair, decodePiece, List.takeWhile_append_of_pos hname,
    List.dropWhile_append_of_pos hname, List.takeWhile_cons_of_neg (by decide),
    List.dropWhile_cons_of_neg (by decide), List.append_nil, List.drop_succ_cons, List.drop_zero,
    decodePart_encodePart, decodePart_encodePart]

/-! ## Forms -/

theorem encode_intercalate (l : List (List Char)) :
    Utf8.encode (['&'].intercalate l) = [0x26].intercalate (l.map Utf8.encode) := by
  match l with
  | [] => rfl
  | [s] => rw [List.intercalate_singleton, List.map_singleton, List.intercalate_singleton]
  | s :: t :: r =>
    have ih : Utf8.encode (['&'].intercalate (t :: r)) = [0x26].intercalate ((t :: r).map Utf8.encode) :=
      encode_intercalate (t :: r)
    rw [List.intercalate_cons_cons, Utf8.encode_append, Utf8.encode_append, ih, List.map_cons,
      List.map_cons, List.map_cons, List.intercalate_cons_cons]
    rfl

/-- Parameters are read as they were written, empty names and values among them. -/
theorem decode_encode (l : List (String × String)) : decode (encode l) = l := by
  by_cases hnil : l = []
  · subst hnil
    rfl
  have hpieces : (Utf8.encode (encode l)).splitOn 0x26 = l.map fun p => Utf8.encode (encodePair p) := by
    rw [encode, encode_intercalate, List.map_map]
    refine List.splitOn_intercalate 0x26 ?_ (by simpa using hnil)
    intro piece hpiece hmem
    obtain ⟨p, -, rfl⟩ := List.mem_map.mp hpiece
    exact ampersand_not_mem_encodePair p ((Utf8.byte_mem_encode (by decide)).mp hmem)
  -- A written pair holds a `=`, so no piece is skipped.
  have hfull : l.filter ((fun piece => !piece.isEmpty) ∘ fun p => Utf8.encode (encodePair p)) = l := by
    refine List.filter_eq_self.mpr fun p _ => ?_
    rw [Function.comp_apply, encode_encodePair]
    simp
  rw [decode, hpieces, List.filter_map, hfull, List.map_map]
  exact List.map_id'' decodePiece_encodePair l

/-! ## Forms behind each other -/

theorem decode_append_ampersand (s t : List Char) : decode (s ++ '&' :: t) = decode s ++ decode t := by
  have hbytes : Utf8.encode (s ++ '&' :: t) = Utf8.encode s ++ 0x26 :: Utf8.encode t := by
    rw [Utf8.encode_append, Utf8.encode_cons_ascii (by decide)]
    rfl
  rw [decode, hbytes, List.splitOn_append_cons_self, List.filter_append, List.map_append]
  rfl

theorem decode_piece {s : List Char} (hne : s ≠ []) (h : '&' ∉ s) :
    decode s = [decodePiece (Utf8.encode s)] := by
  have hbytes : (Utf8.encode s).isEmpty = false := by
    rw [List.isEmpty_eq_false_iff]
    intro hnil
    exact hne (Utf8.encode_injective (hnil.trans Utf8.encode_nil.symm))
  have hsplit : (Utf8.encode s).splitOn 0x26 = [Utf8.encode s] :=
    List.splitOn_eq_singleton fun hmem => h ((Utf8.byte_mem_encode (by decide)).mp hmem)
  rw [decode, hsplit, List.filter_cons_of_pos (by rw [hbytes]; rfl), List.filter_nil, List.map_singleton]

/-- Nothing is read from a form exactly if there is nothing between its `&`. -/
theorem decode_eq_nil_iff {s : List Char} : decode s = [] ↔ ∀ c ∈ s, c = '&' := by
  induction s with
  | nil => exact iff_of_true rfl fun _ h => absurd h List.not_mem_nil
  | cons c s ih =>
    by_cases hc : c = '&'
    · subst hc
      have hdropped : decode ('&' :: s) = decode s := decode_append_ampersand [] s
      rw [hdropped, ih, List.forall_mem_cons, and_iff_right rfl]
    · refine iff_of_false ?_ fun h => hc (h c List.mem_cons_self)
      -- The first piece begins with `c`.
      by_cases hmem : '&' ∈ s
      · obtain ⟨front, rest, rfl, hfront⟩ := List.eq_append_cons_of_mem hmem
        have hpiece : '&' ∉ c :: front := List.not_mem_cons_of_ne_of_not_mem (Ne.symm hc) hfront
        rw [← List.cons_append, decode_append_ampersand, decode_piece (List.cons_ne_nil c front) hpiece]
        exact List.cons_ne_nil _ _
      · rw [decode_piece (List.cons_ne_nil c s) (List.not_mem_cons_of_ne_of_not_mem (Ne.symm hc) hmem)]
        exact List.cons_ne_nil _ _

/-- What is written right behind a form that does not end with a `&` becomes part of the last parameter. -/
theorem exists_of_decode_append {s t : List Char} (hne : s ≠ []) (hlast : s.getLast? ≠ some '&')
    (ht : '&' ∉ t) :
    ∃ front piece, decode s = front ++ [decodePiece piece] ∧
      decode (s ++ t) = front ++ [decodePiece (piece ++ Utf8.encode t)] := by
  by_cases hs : '&' ∈ s
  · obtain ⟨after, before, hreverse, hafter⟩ := List.eq_append_cons_of_mem (List.mem_reverse.mpr hs)
    have hcut : s = before.reverse ++ '&' :: after.reverse := by
      rw [← List.reverse_reverse s, hreverse]
      simp
    have hpiece : after.reverse ≠ [] := by
      intro hnil
      rw [hcut, hnil, List.getLast?_concat] at hlast
      exact hlast rfl
    have hno : '&' ∉ after.reverse := fun hmem => hafter (List.mem_reverse.mp hmem)
    have hrest : '&' ∉ after.reverse ++ t := by
      rw [List.mem_append, not_or]
      exact ⟨hno, ht⟩
    refine ⟨decode before.reverse, Utf8.encode after.reverse, ?_, ?_⟩
    · rw [hcut, decode_append_ampersand, decode_piece hpiece hno]
    · rw [hcut, List.append_assoc, List.cons_append, decode_append_ampersand,
        decode_piece (List.append_ne_nil_of_left_ne_nil hpiece t) hrest, Utf8.encode_append]
  · have hrest : '&' ∉ s ++ t := by
      rw [List.mem_append, not_or]
      exact ⟨hs, ht⟩
    refine ⟨[], Utf8.encode s, decode_piece hne hs, ?_⟩
    rw [decode_piece (List.append_ne_nil_of_left_ne_nil hne t) hrest, Utf8.encode_append, List.nil_append]

end HttpMediation.Form
