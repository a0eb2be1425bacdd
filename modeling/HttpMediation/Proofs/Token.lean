import HttpMediation.Proofs.Base64Url
import HttpMediation.Session.Rotator

/-!
# Token — which requests pass as the site's own

* `Secret.agrees_iff` : the comparison without a stop at the first difference is equality.
* `TokenManager.verify_eq_ok_iff`, `TokenManager.exists_of_not_presented` : a request passes with the very
  token of the session, and looks like a forged one without it.
-/

namespace HttpMediation

namespace Secret

theorem difference_eq_zero_iff {xs ys : List UInt8} (h : xs.length = ys.length) :
    difference xs ys = 0 ↔ xs = ys := by
  induction xs generalizing ys with
  | nil =>
    have hys : ys = [] := List.length_eq_zero_iff.mp h.symm
    simp [hys, difference]
  | cons x xs ih =>
    cases ys with
    | nil => simp at h
    | cons y ys =>
      have hrest := ih (Nat.succ.inj h)
      rw [difference, UInt8.or_eq_zero_iff, UInt8.xor_eq_zero_iff, hrest, List.cons.injEq]

theorem agrees_iff {s : Secret} {candidate : List UInt8} :
    s.agrees candidate = true ↔ candidate = s.bytes := by
  rw [agrees, Bool.and_eq_true, beq_iff_eq, beq_iff_eq]
  constructor
  · rintro ⟨hlength, hdiff⟩
    exact ((difference_eq_zero_iff hlength).mp hdiff).symm
  · rintro rfl
    exact ⟨rfl, (difference_eq_zero_iff rfl).mpr rfl⟩

end Secret

theorem Token.isPresentedBy_iff {t : Token} {candidate : String} :
    t.isPresentedBy candidate = true ↔ candidate = t.text := by
  rw [isPresentedBy, Secret.agrees_iff]
  constructor
  · intro h
    have hdata : candidate.toUTF8.data = t.text.toUTF8.data := Array.toList_inj.mp h
    exact String.toByteArray_inj.mp (ByteArray.ext hdata)
  · rintro rfl
    rfl

namespace TokenManager

variable {expected : Token} {presented : Option (Tainted String)}

theorem verify_eq_ok_iff : verify expected presented = .ok () ↔ presented = some ⟨expected.text⟩ := by
  cases presented with
  | none => simp [verify]
  | some candidate =>
    have hiff : expected.isPresentedBy candidate.inner = true ↔ candidate.inner = expected.text :=
      Token.isPresentedBy_iff
    by_cases hc : candidate.inner = expected.text
    · have hsame : candidate = ⟨expected.text⟩ := congrArg Tainted.mk hc
      rw [verify, if_pos (hiff.mpr hc), hsame]
      simp
    · have hother : ¬(some candidate = some (⟨expected.text⟩ : Tainted String)) := by
        intro h
        exact hc (congrArg Tainted.inner (Option.some.inj h))
      rw [verify, if_neg (mt hiff.mp hc)]
      simp [hother]

theorem exists_of_not_presented (h : presented ≠ some ⟨expected.text⟩) :
    ∃ message, verify expected presented = .error (.intrusion message) := by
  cases presented with
  | none => exact ⟨_, rfl⟩
  | some candidate =>
    have hnot : ¬expected.isPresentedBy candidate.inner = true := by
      intro hpresented
      have hsame : candidate = ⟨expected.text⟩ :=
        congrArg Tainted.mk (Token.isPresentedBy_iff.mp hpresented)
      exact h (congrArg some hsame)
    exact ⟨_, if_neg hnot⟩

theorem ofBytes_injective {a b : List UInt8} (h : ofBytes a = ofBytes b) : a = b :=
  Base64Url.encodeText_injective (Token.mk.inj h)

end TokenManager

theorem Session.idOfBytes_injective {a b : List UInt8} (h : idOfBytes a = idOfBytes b) : a = b :=
  Base64Url.encodeText_injective h

end HttpMediation
