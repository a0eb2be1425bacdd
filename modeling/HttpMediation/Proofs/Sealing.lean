import HttpMediation.Proofs.Base64Url
import HttpMediation.Proofs.Outcome
import HttpMediation.Proofs.Utf8
import HttpMediation.Sealing.Codec

/-!
# Sealing — a blob is read if and only if it was written

* `Gcm.decrypt?_eq_some_iff`, `Blob.read?_eq_some_iff` : the sealed forms of a text are those that
  decryption accepts, and no others.
* `Codec.Seals`, `Codec.OpensOnly` : what a codec writes for a text, and what an operation that reads does
  with blobs.
* `Codec.decryptChecked?` : reading with every access to a byte string checked.
* `Codec.opens_exactly_what_is_sealed` : all reading operations give back what was sealed and have one
  error for everything else.
-/

namespace HttpMediation

/-! ## The mode -/

namespace Gcm

variable {keys : List Aes.Block} {nonce associated text : List UInt8}

theorem length_tag : (tag keys nonce associated text).length = tagSize := by
  unfold tag elementBytes
  rw [List.length_zipWith, List.length_map, List.length_range, Vector.length_toList]
  rfl

theorem length_keyStream (n : Nat) : (keyStream keys nonce n).length = 16 * n := by
  induction n with
  | zero => rfl
  | succ n ih =>
    unfold keyStream at ih ⊢
    rw [List.range_succ, List.flatMap_append, List.length_append, ih, List.flatMap_singleton,
      Vector.length_toList]
    omega

/-- A sum with a long enough stream loses the stream again. -/
theorem zipWith_xor_cancel : ∀ {s t : List UInt8}, s.length ≤ t.length →
    List.zipWith (· ^^^ ·) (List.zipWith (· ^^^ ·) s t) t = s
  | [], _, _ => rfl
  | _ :: _, [], h => absurd h (by simp)
  | a :: s, b :: t, h => by
    have hst : s.length ≤ t.length := by simpa using h
    rw [List.zipWith_cons_cons, List.zipWith_cons_cons, zipWith_xor_cancel hst, UInt8.xor_assoc,
      UInt8.xor_self, UInt8.xor_zero]

theorem length_addStream : (addStream keys nonce text).length = text.length := by
  unfold addStream
  rw [List.length_zipWith, length_keyStream]
  omega

theorem addStream_addStream : addStream keys nonce (addStream keys nonce text) = text := by
  have hstream : text.length ≤ (keyStream keys nonce ((text.length + 15) / 16)).length := by
    rw [length_keyStream]
    omega
  rw [addStream, length_addStream]
  exact zipWith_xor_cancel hstream

theorem decrypt?_eq_some_iff {key : Aes.Key} {sealed : List UInt8} :
    decrypt? key nonce associated sealed = some text ↔ sealed = encrypt key nonce associated text := by
  constructor
  · intro h
    unfold decrypt? at h
    dsimp only at h
    split_ifs at h with htag
    obtain rfl := Option.some.inj h
    unfold encrypt
    dsimp only
    rw [addStream_addStream, htag, List.take_append_drop]
  · rintro rfl
    have hbody : (encrypt key nonce associated text).length - tagSize =
        (addStream key.roundKeys nonce text).length := by
      unfold encrypt
      rw [List.length_append, length_tag, Nat.add_sub_cancel]
    unfold decrypt?
    dsimp only
    rw [hbody, encrypt, List.take_left, List.drop_left, if_pos rfl, addStream_addStream]

end Gcm

/-! ## Blobs -/

namespace Blob

variable {key : Aes.Key} {purpose : Purpose} {nonce : List UInt8} {text : List Char}

theorem isComplete_bytes (h : nonce.length = Gcm.nonceSize) :
    isComplete (bytes key purpose nonce text) = true := by
  unfold isComplete bytes Gcm.encrypt
  rw [List.length_cons, List.length_append, List.length_append, Gcm.length_tag, h]
  simp only [decide_eq_true_eq]
  omega

theorem ofBytes?_eq_some_iff {b : List UInt8} : ofBytes? key purpose b = some text ↔
    ∃ nonce, nonce.length = Gcm.nonceSize ∧ b = bytes key purpose nonce text := by
  constructor
  · intro h
    unfold ofBytes? at h
    split at h
    · rename_i v rest
      split_ifs at h with hwhole
      · obtain ⟨rfl, hcomplete⟩ : v = version ∧ isComplete (v :: rest) = true := by
          simpa using hwhole
        obtain ⟨plain, hplain, htext⟩ := Option.bind_eq_some_iff.mp h
        have hlength : (rest.take Gcm.nonceSize).length = Gcm.nonceSize := by
          have hle := of_decide_eq_true hcomplete
          rw [List.length_cons] at hle
          rw [List.length_take]
          omega
        refine ⟨rest.take Gcm.nonceSize, hlength, ?_⟩
        rw [bytes, ← Utf8.decode?_eq_some_iff.mp htext, ← Gcm.decrypt?_eq_some_iff.mp hplain,
          List.take_append_drop]
    · simp at h
  · rintro ⟨nonce, hlength, rfl⟩
    have hcomplete : isComplete (bytes key purpose nonce text) = true := isComplete_bytes hlength
    unfold bytes at hcomplete ⊢
    unfold ofBytes?
    dsimp only
    rw [hcomplete, if_pos (by simp), List.take_left' hlength, List.drop_left' hlength,
      Gcm.decrypt?_eq_some_iff.mpr rfl]
    exact Utf8.decode?_encode text

/-- The blobs that are read as a text are those written for it, one for each nonce. -/
theorem read?_eq_some_iff {blob : List Char} : read? key purpose blob = some text ↔
    ∃ nonce, nonce.length = Gcm.nonceSize ∧ blob = write key purpose nonce text := by
  constructor
  · intro h
    obtain ⟨b, hb, hread⟩ := Option.bind_eq_some_iff.mp h
    obtain ⟨nonce, hlength, rfl⟩ := ofBytes?_eq_some_iff.mp hread
    exact ⟨nonce, hlength, Base64Url.decode?_eq_some_iff.mp hb⟩
  · rintro ⟨nonce, hlength, rfl⟩
    refine Option.bind_eq_some_iff.mpr ⟨_, Base64Url.decode?_encode _, ?_⟩
    exact ofBytes?_eq_some_iff.mpr ⟨nonce, hlength, rfl⟩

end Blob

/-! ## What codecs read and write -/

/-- A source whose next bytes are the given ones. -/
def RandomSource.beginning (bytes : List UInt8) : RandomSource :=
  { byteAt := fun _ place => bytes.getD place 0 }

theorem RandomSource.draw_beginning (bytes : List UInt8) :
    ((RandomSource.beginning bytes).draw bytes.length).1 = bytes := by
  refine List.ext_getElem (length_draw _ _) fun i hi hi' => ?_
  simp [RandomSource.draw, beginning, hi']

theorem KeySource.key?_eq_some_iff {keys : KeySource} {key : Aes.Key} :
    keys.key? = some key ↔ keys = .held key := by
  cases keys with
  | held k => rw [key?, Option.some.injEq, held.injEq]
  | unavailable => simp [key?]

namespace Codec

/-- The codec writes the blob for the text, whatever the nonce turns out to be. -/
def Seals (c : Codec) (purpose : Purpose) (text : List Char) (blob : String) : Prop :=
  ∃ r, (c.encrypt purpose text r).1 = .ok blob

/-- What is read from a blob that may be missing: `f` of the text that was sealed as the blob, and the
one error of reading if no text was. -/
structure OpensOnly {α : Type} (c : Codec) (purpose : Purpose) (f : List Char → α)
    (blob? : Option (Tainted String)) (out : Except Error α) : Prop where
  ok : ∀ a, out = .ok a ↔
    ∃ blob, blob? = some blob ∧ ∃ text, c.Seals purpose text blob.inner ∧ f text = a
  error : ∀ e, out = .error e ↔
    e = decryptFailed ∧ ∀ blob, blob? = some blob → ∀ text, ¬ c.Seals purpose text blob.inner

variable {c : Codec} {purpose : Purpose}

theorem seals_iff {text : List Char} {blob : String} : c.Seals purpose text blob ↔
    ∃ key, c.keys.key? = some key ∧ ∃ nonce : List UInt8, nonce.length = Gcm.nonceSize ∧
      blob = String.ofList (Blob.write key purpose nonce text) := by
  constructor
  · rintro ⟨r, h⟩
    unfold encrypt at h
    split at h
    · cases h
    · rename_i key hkey
      exact ⟨key, hkey, (r.draw Gcm.nonceSize).1, r.length_draw _, (Except.ok.inj h).symm⟩
  · rintro ⟨key, hkey, nonce, hlength, rfl⟩
    refine ⟨.beginning nonce, ?_⟩
    have hdraw := RandomSource.draw_beginning nonce
    rw [hlength] at hdraw
    unfold encrypt
    rw [hkey]
    dsimp only
    rw [hdraw]

theorem decrypt_eq_ok_iff {blob : Tainted String} {text : List Char} :
    c.decrypt purpose blob = .ok text ↔ c.Seals purpose text blob.inner := by
  have hread : c.decrypt purpose blob = .ok text ↔
      (c.keys.key?.bind fun key => Blob.read? key purpose blob.inner.toList) = some text := by
    unfold decrypt
    split
    · rename_i found hfound
      rw [hfound, Except.ok.injEq, Option.some.injEq]
    · rename_i hnone
      rw [hnone]
      simp
  rw [hread, seals_iff, Option.bind_eq_some_iff]
  refine exists_congr fun key => and_congr_right fun _ => ?_
  rw [Blob.read?_eq_some_iff]
  refine exists_congr fun nonce => and_congr_right fun _ => ?_
  constructor
  · intro h
    rw [← h, String.ofList_toList]
  · intro h
    rw [h, String.toList_ofList]

theorem decrypt_eq_error {blob : Tainted String} {e : Error} (h : c.decrypt purpose blob = .error e) :
    e = decryptFailed := by
  unfold decrypt at h
  split at h
  · cases h
  · exact (Except.error.inj h).symm

theorem decrypt_eq_error_iff {blob : Tainted String} {e : Error} :
    c.decrypt purpose blob = .error e ↔
      e = decryptFailed ∧ ∀ text, ¬ c.Seals purpose text blob.inner := by
  constructor
  · intro h
    refine ⟨decrypt_eq_error h, fun text hseals => ?_⟩
    rw [decrypt_eq_ok_iff.mpr hseals] at h
    cases h
  · rintro ⟨rfl, hnone⟩
    cases hd : c.decrypt purpose blob with
    | ok text => exact absurd (decrypt_eq_ok_iff.mp hd) (hnone text)
    | error e => rw [decrypt_eq_error hd]

/-- An operation that passes a blob on to `decrypt` opens only what was sealed. -/
theorem opensOnly_map {α : Type} (f : List Char → α) (blob : Tainted String) :
    c.OpensOnly purpose f (some blob) ((c.decrypt purpose blob).map f) := by
  constructor
  · intro a
    rw [map_eq_ok_iff]
    constructor
    · rintro ⟨text, hd, rfl⟩
      exact ⟨blob, rfl, text, decrypt_eq_ok_iff.mp hd, rfl⟩
    · rintro ⟨_, ⟨⟩, text, hseals, rfl⟩
      exact ⟨text, decrypt_eq_ok_iff.mpr hseals, rfl⟩
  · intro e
    rw [map_eq_error_iff, decrypt_eq_error_iff]
    constructor
    · rintro ⟨rfl, hnone⟩
      refine ⟨rfl, ?_⟩
      rintro _ ⟨⟩
      exact hnone
    · rintro ⟨rfl, hnone⟩
      exact ⟨rfl, hnone blob rfl⟩

theorem opensOnly_none {α : Type} (f : List Char → α) :
    c.OpensOnly purpose f none (.error decryptFailed) := by
  constructor
  · intro a
    simp
  · intro e
    simp [eq_comm]

end Codec

/-! ## Accesses within bounds -/

namespace Blob

/-- The bytes before and behind a place; nothing if the place is out of range. -/
def splitAt? (n : Nat) (bytes : List UInt8) : Option (List UInt8 × List UInt8) :=
  if n ≤ bytes.length then some (bytes.splitAt n) else none

/-- The bytes as a nonce; nothing if there are too few or too many. -/
def nonce? (bytes : List UInt8) : Option (List UInt8) :=
  if bytes.length = Gcm.nonceSize then some bytes else none

/-- Reading with every access checked and the key asked for last.  Nothing at all comes out if an access
is out of range, and nothing inside it if the bytes are refused. -/
def ofBytesChecked? (key? : Option Aes.Key) (purpose : Purpose) (bytes : List UInt8) :
    Option (Option (List Char)) :=
  if isComplete bytes then do
    if (← bytes[0]?) ≠ version then return none
    let (_, rest) ← splitAt? 1 bytes
    let (first, sealed) ← splitAt? Gcm.nonceSize rest
    match key? with
    | none => return none
    | some key =>
      let nonce ← nonce? first
      return (Gcm.decrypt? key nonce purpose.associatedData sealed).bind Utf8.decode?
  else some none

theorem splitAt?_of_le {n : Nat} {bytes : List UInt8} (h : n ≤ bytes.length) :
    splitAt? n bytes = some (bytes.take n, bytes.drop n) := by
  rw [splitAt?, if_pos h, List.splitAt_eq]

theorem nonce?_take {bytes : List UInt8} (h : Gcm.nonceSize ≤ bytes.length) :
    nonce? (bytes.take Gcm.nonceSize) = some (bytes.take Gcm.nonceSize) := by
  rw [nonce?, if_pos (List.length_take_of_le h)]

theorem ofBytes?_of_not_complete {key : Aes.Key} {purpose : Purpose} {bytes : List UInt8}
    (h : isComplete bytes = false) : ofBytes? key purpose bytes = none := by
  cases bytes with
  | nil => rfl
  | cons v rest => rw [ofBytes?, if_neg (by simp [h])]

/-- Bytes that pass the check of their length have all the parts that are taken from them. -/
theorem ofBytesChecked?_eq_some (key? : Option Aes.Key) (purpose : Purpose) (bytes : List UInt8) :
    ofBytesChecked? key? purpose bytes = some (key?.bind fun key => ofBytes? key purpose bytes) := by
  unfold ofBytesChecked?
  by_cases hcomplete : isComplete bytes = true
  · rw [if_pos hcomplete]
    have hlong : 1 + Gcm.nonceSize + Gcm.tagSize ≤ bytes.length := of_decide_eq_true hcomplete
    cases bytes with
    | nil => exact absurd hlong (by decide)
    | cons v rest =>
      have hone : 1 ≤ (v :: rest).length := by omega
      have hrest : Gcm.nonceSize ≤ rest.length := by
        rw [List.length_cons] at hlong
        omega
      rw [splitAt?_of_le hone, List.drop_succ_cons, List.drop_zero]
      by_cases hversion : v = version
      · subst hversion
        cases key? with
        | none => simp [splitAt?_of_le hrest]
        | some key => simp [splitAt?_of_le hrest, nonce?_take hrest, ofBytes?, hcomplete]
      · cases key? with
        | none => simp [hversion]
        | some key => simp [hversion, ofBytes?]
  · rw [Bool.not_eq_true] at hcomplete
    rw [if_neg (by simp [hcomplete])]
    cases key? with
    | none => rfl
    | some key => rw [Option.bind_some, ofBytes?_of_not_complete hcomplete]

end Blob

namespace Codec

/-- Reading a blob with every access checked; nothing if one is out of range. -/
def decryptChecked? (c : Codec) (purpose : Purpose) (blob : Tainted String) :
    Option (Except Error (List Char)) :=
  match Base64Url.decode? blob.inner.toList with
  | none => some (.error decryptFailed)
  | some bytes => do
    match ← Blob.ofBytesChecked? c.keys.key? purpose bytes with
    | some text => return .ok text
    | none => return .error decryptFailed

theorem decryptChecked?_eq_some (c : Codec) (purpose : Purpose) (blob : Tainted String) :
    c.decryptChecked? purpose blob = some (c.decrypt purpose blob) := by
  unfold decryptChecked? decrypt Blob.read?
  cases hb : Base64Url.decode? blob.inner.toList with
  | none => cases c.keys.key? <;> rfl
  | some bytes =>
    simp only [Blob.ofBytesChecked?_eq_some, Option.bind_eq_bind, Option.bind_some]
    cases c.keys.key?.bind fun key => Blob.ofBytes? key purpose bytes <;> rfl

/-! ## Opening and sealing -/

/-- Opening is the inverse of sealing, and it says nothing about what it refuses.  Reading for a purpose
gives a text if and only if the blob is what sealing that text for the purpose writes with the same key
under some nonce, and the operations of each purpose give what they make of that text.  In every other
case, without a key or without a blob too, they have one error, and no access is out of range. -/
theorem opens_exactly_what_is_sealed (c : Codec) :
    (∀ purpose blob, c.OpensOnly purpose id (some blob) (c.decrypt purpose blob)) ∧
    (∀ blob, c.OpensOnly .state StateMap.ofForm (some blob) (c.decryptState blob)) ∧
    (∀ blob, c.OpensOnly .hiddenField String.ofList (some blob) (c.decryptValue blob)) ∧
    (∀ blob, c.OpensOnly .queryString StateMap.ofForm (some blob) (c.decryptQuery blob)) ∧
    (∀ x : Exchange, c.OpensOnly (.cookie c.cookieName) StateMap.ofForm (x.cookie? c.cookieName)
      (c.decryptCookie x)) ∧
    (∀ purpose text blob, c.Seals purpose text blob ↔
      ∃ key, c.keys = .held key ∧ ∃ nonce : List UInt8, nonce.length = Gcm.nonceSize ∧
        blob = String.ofList (Blob.write key purpose nonce text)) ∧
    decryptFailed.kind = .encryption ∧
    ∀ purpose blob, c.decryptChecked? purpose blob = some (c.decrypt purpose blob) := by
  refine ⟨fun purpose blob => ?_, opensOnly_map _, opensOnly_map _, opensOnly_map _, fun x => ?_,
    fun purpose text blob => ?_, rfl, c.decryptChecked?_eq_some⟩
  · have hid : (c.decrypt purpose blob).map id = c.decrypt purpose blob := by
      cases c.decrypt purpose blob <;> rfl
    exact hid ▸ opensOnly_map id blob
  · unfold decryptCookie
    split
    · rename_i hnone
      rw [hnone]
      exact opensOnly_none _
    · rename_i blob hblob
      rw [hblob]
      exact opensOnly_map _ blob
  · rw [seals_iff]
    refine exists_congr fun key => and_congr_left fun _ => ?_
    cases c.keys with
    | held k => rw [KeySource.key?, Option.some.injEq, KeySource.held.injEq]
    | unavailable => simp [KeySource.key?]

end Codec

end HttpMediation
