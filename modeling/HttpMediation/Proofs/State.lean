import HttpMediation.Proofs.Dict
import HttpMediation.Proofs.Form
import HttpMediation.Proofs.Sealing

/-!
# State — what a client carries comes back

* `StateMap.ofForm_toForm` : state is read from a form as it was written into it.
* `Codec.state_survives_sealing` : so it is from a blob, under every key and with every nonce.
-/

namespace HttpMediation

/-- Whatever names and values state has, its form tells all of them. -/
theorem StateMap.ofForm_toForm (m : StateMap) : ofForm m.toForm = m := by
  rw [ofForm, toForm, Form.decode_encode, Dict.ofList_entries]

namespace Codec

variable {c : Codec} {m : StateMap} {blob : String}

theorem decryptState_of_seals (h : c.Seals .state m.toForm blob) : c.decryptState ⟨blob⟩ = .ok m :=
  map_eq_ok_iff.mpr ⟨m.toForm, decrypt_eq_ok_iff.mpr h, m.ofForm_toForm⟩

/-- State survives being sealed.  Under every key the state is written into a blob, whatever its names and
values and whatever is drawn, and every codec with this key reads the same state from the blob; and every
nonce is the one of some draw. -/
theorem state_survives_sealing (key : Aes.Key) (m : StateMap) (writer reader : String) :
    (∀ r, ∃ blob, (encryptState ⟨.held key, writer⟩ m r).1 = .ok blob ∧
      decryptState ⟨.held key, reader⟩ ⟨blob⟩ = .ok m) ∧
    ∀ nonce : Vector UInt8 Gcm.nonceSize, ∃ r, (encryptState ⟨.held key, writer⟩ m r).1 =
      .ok (String.ofList (Blob.write key .state nonce.toList m.toForm)) := by
  constructor
  · intro r
    refine ⟨_, rfl, decryptState_of_seals (seals_iff.mpr ⟨key, rfl, (r.draw Gcm.nonceSize).1, ?_, rfl⟩)⟩
    exact r.length_draw Gcm.nonceSize
  · intro nonce
    have hseals : Seals ⟨.held key, writer⟩ .state m.toForm
        (String.ofList (Blob.write key .state nonce.toList m.toForm)) :=
      seals_iff.mpr ⟨key, rfl, nonce.toList, nonce.length_toList, rfl⟩
    exact hseals

end Codec

end HttpMediation
