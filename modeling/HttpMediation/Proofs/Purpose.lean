import HttpMediation.Proofs.StateCookie
import Mathlib.Logic.Function.Defs

/-!
# Purpose — what a blob is not good for

Hidden fields, queries, state and state cookies are sealed with one key.  What keeps them apart is the
associated data alone.

* `Purpose.associatedData_injective` : every purpose has its own, and so has every cookie's name.
* `Gcm.Forges` : a sealed text passes with other associated data than it was sealed with.
* `Blob.read?_write_iff` : for whom a blob that is made for one purpose has a text.
* `Codec.Produces`, `Codec.Reads` : the operations of codecs, by purpose.
* `Codec.purposes_are_kept_apart` : an operation reads another one's blobs by forgery only.
-/

namespace HttpMediation

/-! ## Labels -/

namespace Purpose

/-- The purpose that a label names. -/
def ofLabel? (label : List Char) : Option Purpose :=
  if "cookie:".toList.isPrefixOf label then some (cookie (String.ofList (label.drop 7)))
  else [hiddenField, queryString, state].find? (·.label.toList == label)

/-- Every label says which purpose it is of, whatever a cookie is called. -/
theorem ofLabel?_label (u : Purpose) : ofLabel? u.label.toList = some u := by
  cases u with
  | hiddenField => decide
  | queryString => decide
  | state => decide
  | cookie name =>
    have hlabel : (cookie name).label.toList = "cookie:".toList ++ name.toList := String.toList_append
    have hprefix : "cookie:".toList.isPrefixOf ("cookie:".toList ++ name.toList) = true :=
      List.isPrefixOf_iff_prefix.mpr (List.prefix_append _ _)
    have hname : ("cookie:".toList ++ name.toList).drop 7 = name.toList := List.drop_left' rfl
    rw [ofLabel?, hlabel, if_pos hprefix, hname, String.ofList_toList]

theorem associatedData_injective : Function.Injective associatedData := by
  intro u v h
  have hlabel : u.label.toList = v.label.toList := Utf8.encode_injective (List.cons.inj h).2
  have hread := ofLabel?_label u
  rw [hlabel, ofLabel?_label] at hread
  exact (Option.some.inj hread).symm

end Purpose

/-! ## Blobs -/

/-- A text is sealed with one associated data and passes with another: it is taken for the other text. -/
structure Gcm.Forges (key : Aes.Key) (nonce sealedWith openedWith text other : List UInt8) : Prop where
  differ : sealedWith ≠ openedWith
  accepted : Gcm.decrypt? key nonce openedWith (Gcm.encrypt key nonce sealedWith text) = some other

namespace Blob

variable {key : Aes.Key} {u v : Purpose} {nonce : List UInt8} {text t : List Char}

/-- Of a blob that was made for one purpose, only what is sealed in it decides about another. -/
theorem read?_write (h : nonce.length = Gcm.nonceSize) : read? key v (write key u nonce text) =
    (Gcm.decrypt? key nonce v.associatedData
      (Gcm.encrypt key nonce u.associatedData (Utf8.encode text))).bind Utf8.decode? := by
  have hcomplete : isComplete (bytes key u nonce text) = true := isComplete_bytes h
  rw [read?, write, Base64Url.decode?_encode]
  show ofBytes? key v (bytes key u nonce text) = _
  unfold bytes at hcomplete ⊢
  rw [ofBytes?, if_pos (by simp [hcomplete])]
  simp only [List.take_left' h, List.drop_left' h]
  rfl

/-- A blob has the text that it was made from for its own purpose.  Whatever else is read from it, for the
same or another purpose, was accepted with associated data that it was not sealed with. -/
theorem read?_write_iff (h : nonce.length = Gcm.nonceSize) :
    read? key v (write key u nonce text) = some t ↔
      (u = v ∧ t = text) ∨ Gcm.Forges key nonce u.associatedData v.associatedData (Utf8.encode text)
        (Utf8.encode t) := by
  rw [read?_write h]
  constructor
  · intro hread
    obtain ⟨other, haccepted, hother⟩ := Option.bind_eq_some_iff.mp hread
    obtain rfl := Utf8.decode?_eq_some_iff.mp hother
    by_cases huv : u = v
    · subst huv
      have hsame := Gcm.decrypt?_eq_some_iff.mpr (rfl : Gcm.encrypt key nonce u.associatedData (Utf8.encode text) = _)
      rw [hsame] at haccepted
      exact .inl ⟨rfl, (Utf8.encode_injective (Option.some.inj haccepted)).symm⟩
    · exact .inr ⟨fun hdata => huv (Purpose.associatedData_injective hdata), haccepted⟩
  · rintro (⟨rfl, rfl⟩ | hforges)
    · rw [Gcm.decrypt?_eq_some_iff.mpr rfl]
      exact Utf8.decode?_encode t
    · rw [hforges.accepted]
      exact Utf8.decode?_encode t

end Blob

/-! ## Operations -/

namespace Codec

variable {c d : Codec} {blob : String} {u v : Purpose}

/-- An operation of the codec gives out the blob for the purpose: as its result, or for a cookie as the value
in the header line that it adds to a response. -/
def Produces (c : Codec) (blob : String) : Purpose → Prop
  | .hiddenField => ∃ value r, (c.encryptValue value r).1 = .ok blob
  | .queryString => ∃ query r, (c.encryptQuery query r).1 = .ok blob
  | .state => ∃ m r, (c.encryptState m r).1 = .ok blob
  | .cookie name => name = c.cookieName ∧ ∃ e m x r line, (c.encryptCookie e m x r).1 = .ok () ∧
      (c.encryptCookie e m x r).2.1 = x.mapResponse (Response.add ⟨"Set-Cookie", line⟩) ∧
      line.toList.takeWhile (· != ';') = name.toList ++ '=' :: blob.toList

/-- An operation of the codec takes the blob for one of the purpose: as its argument, or for a cookie from a
request that presents it. -/
def Reads (c : Codec) (blob : String) : Purpose → Prop
  | .hiddenField => ∃ value, c.decryptValue ⟨blob⟩ = .ok value
  | .queryString => ∃ m, c.decryptQuery ⟨blob⟩ = .ok m
  | .state => ∃ m, c.decryptState ⟨blob⟩ = .ok m
  | .cookie name => name = c.cookieName ∧ ∃ (x : Exchange) (m : StateMap),
      x.request.cookie? name = some blob ∧ c.decryptCookie x = .ok m

theorem exists_of_produces (h : c.Produces blob u) : ∃ text, c.Seals u text blob := by
  cases u with
  | hiddenField =>
    obtain ⟨value, r, hblob⟩ := h
    exact ⟨_, r, hblob⟩
  | queryString =>
    obtain ⟨query, r, hblob⟩ := h
    exact ⟨_, r, hblob⟩
  | state =>
    obtain ⟨m, r, hblob⟩ := h
    exact ⟨_, r, hblob⟩
  | cookie name =>
    obtain ⟨rfl, e, m, x, r, line, hok, hresponse, hline⟩ := h
    cases hkeys : c.keys with
    | unavailable =>
      rw [encryptCookie_of_unavailable hkeys] at hok
      cases hok
    | held key =>
      rw [encryptCookie_of_held hkeys] at hok hresponse
      cases hrender : e.renderCookie x.request.secure
          (c.stateCookie (c.cookieBlob key (r.draw Gcm.nonceSize).1 m)) with
      | error err =>
        rw [Emitter.emit_cookie_of_error hrender] at hok
        cases hok
      | ok header =>
        obtain ⟨hparts, -, rfl⟩ := Emitter.renderCookie_eq_ok_iff.mp hrender
        have hheaders := congrArg (·.response.headers) hresponse
        rw [Emitter.emit_cookie_of_ok hrender] at hheaders
        have hheader := List.singleton_inj.mp (List.append_cancel_left hheaders)
        obtain ⟨-, rfl⟩ := Header.mk.inj hheader
        rw [Emitter.takeWhile_line hparts] at hline
        have hvalue := (List.cons.inj (List.append_cancel_left hline)).2
        rw [← String.toList_inj.mp hvalue]
        exact ⟨m.toForm, seals_iff.mpr ⟨key, by rw [hkeys]; rfl, _, r.length_draw _, rfl⟩⟩

theorem exists_of_reads (h : c.Reads blob v) : ∃ text, c.Seals v text blob := by
  cases v with
  | hiddenField =>
    obtain ⟨value, hvalue⟩ := h
    obtain ⟨text, htext, -⟩ := map_eq_ok_iff.mp hvalue
    exact ⟨text, decrypt_eq_ok_iff.mp htext⟩
  | queryString =>
    obtain ⟨m, hm⟩ := h
    obtain ⟨text, htext, -⟩ := map_eq_ok_iff.mp hm
    exact ⟨text, decrypt_eq_ok_iff.mp htext⟩
  | state =>
    obtain ⟨m, hm⟩ := h
    obtain ⟨text, htext, -⟩ := map_eq_ok_iff.mp hm
    exact ⟨text, decrypt_eq_ok_iff.mp htext⟩
  | cookie name =>
    obtain ⟨rfl, x, m, hx, hm⟩ := h
    have hcookie : x.cookie? c.cookieName = some ⟨blob⟩ := by
      rw [Exchange.cookie?, hx]
      rfl
    unfold decryptCookie at hm
    rw [hcookie] at hm
    obtain ⟨text, htext, -⟩ := map_eq_ok_iff.mp hm
    exact ⟨text, decrypt_eq_ok_iff.mp htext⟩

/-- No operation reads the blobs of another one, unless sealing fails as such.  Purposes have the same
associated data only if they are the same, state cookies of different names included.  A blob that is made
for one purpose has its text for this purpose; a text that it has for another one was accepted with
associated data that it was not sealed with.  So if a codec with the same key takes what an operation gave
out, whatever the cookies of the two are called, it was given out for the purpose that it is taken for, or it
is such a forgery. -/
theorem purposes_are_kept_apart :
    Function.Injective Purpose.associatedData ∧
    (∀ (key : Aes.Key) (nonce : List UInt8) (text t : List Char) (u v : Purpose),
      nonce.length = Gcm.nonceSize →
        (Blob.read? key v (Blob.write key u nonce text) = some t ↔
          (u = v ∧ t = text) ∨ Gcm.Forges key nonce u.associatedData v.associatedData (Utf8.encode text)
            (Utf8.encode t))) ∧
    ∀ (c d : Codec) (blob : String) (u v : Purpose), c.keys = d.keys → c.Produces blob u → d.Reads blob v →
      u = v ∨ ∃ key nonce text other, c.keys = .held key ∧
        blob = String.ofList (Blob.write key u nonce text) ∧
        Gcm.Forges key nonce u.associatedData v.associatedData (Utf8.encode text) other := by
  refine ⟨Purpose.associatedData_injective, fun _ _ _ _ _ _ hnonce => Blob.read?_write_iff hnonce, ?_⟩
  intro c d blob u v hkeys hproduces hreads
  obtain ⟨text, hsealed⟩ := exists_of_produces hproduces
  obtain ⟨t, hopened⟩ := exists_of_reads hreads
  obtain ⟨key, hkey, nonce, hnonce, rfl⟩ := seals_iff.mp hsealed
  obtain ⟨key', hkey', nonce', hnonce', hblob⟩ := seals_iff.mp hopened
  obtain rfl : key' = key := by
    rw [← hkeys, hkey] at hkey'
    exact (Option.some.inj hkey').symm
  have hread : Blob.read? key' v (Blob.write key' u nonce text) = some t :=
    Blob.read?_eq_some_iff.mpr ⟨nonce', hnonce', String.ofList_injective hblob⟩
  rcases (Blob.read?_write_iff hnonce).mp hread with ⟨huv, -⟩ | hforges
  · exact .inl huv
  · exact .inr ⟨key', nonce, text, _, KeySource.key?_eq_some_iff.mp hkey, rfl, hforges⟩

/-- What is sealed in a blob does not pass with the associated data of this purpose. -/
theorem decrypt_write_of_refused {key : Aes.Key} {nonce : List UInt8} {text : List Char}
    (hkeys : c.keys = .held key) (hnonce : nonce.length = Gcm.nonceSize)
    (hrefused : Gcm.decrypt? key nonce v.associatedData
      (Gcm.encrypt key nonce u.associatedData (Utf8.encode text)) = none) :
    c.decrypt v ⟨String.ofList (Blob.write key u nonce text)⟩ = .error decryptFailed := by
  have hread : Blob.read? key v (Blob.write key u nonce text) = none := by
    rw [Blob.read?_write hnonce, hrefused]
    rfl
  unfold decrypt
  rw [hkeys, KeySource.key?, Option.bind_some, String.toList_ofList, hread]

/-- A hidden field is read by a codec with the same key that has another name for its cookie.  As a query or
as state it is refused. -/
theorem hidden_field_is_read_by_its_kind :
    ∃ (c d : Codec) (blob : String), c.cookieName ≠ d.cookieName ∧ c.keys = d.keys ∧
      c.Produces blob .hiddenField ∧ d.decryptValue ⟨blob⟩ = .ok "id=42" ∧
      d.decryptQuery ⟨blob⟩ = .error decryptFailed ∧ d.decryptState ⟨blob⟩ = .error decryptFailed ∧
      (Purpose.hiddenField = .hiddenField ∨ ∃ key nonce text other, c.keys = .held key ∧
        blob = String.ofList (Blob.write key .hiddenField nonce text) ∧
        Gcm.Forges key nonce Purpose.hiddenField.associatedData Purpose.hiddenField.associatedData
          (Utf8.encode text) other) := by
  let c : Codec := { keys := .held (Vector.replicate 32 7) }
  let d : Codec := { keys := .held (Vector.replicate 32 7), cookieName := "cart" }
  have hnonce := (RandomSource.counting 0).length_draw Gcm.nonceSize
  have hproduces : c.Produces _ .hiddenField := ⟨"id=42", .counting 0, rfl⟩
  have hread : d.decryptValue ⟨_⟩ = .ok "id=42" :=
    map_eq_ok_iff.mpr ⟨"id=42".toList, decrypt_eq_ok_iff.mpr (seals_iff.mpr ⟨_, rfl, _, hnonce, rfl⟩), rfl⟩
  have hrefused : ∀ v ∈ [Purpose.queryString, .state],
      Gcm.decrypt? (Vector.replicate 32 7) ((RandomSource.counting 0).draw Gcm.nonceSize).1 v.associatedData
        (Gcm.encrypt (Vector.replicate 32 7) ((RandomSource.counting 0).draw Gcm.nonceSize).1
          Purpose.hiddenField.associatedData (Utf8.encode "id=42".toList)) = none := by
    decide +kernel
  have hquery := decrypt_write_of_refused (c := d) rfl hnonce (hrefused .queryString (by simp))
  have hstate := decrypt_write_of_refused (c := d) rfl hnonce (hrefused .state (by simp))
  exact ⟨c, d, _, by decide, rfl, hproduces, hread, congrArg (Except.map StateMap.ofForm) hquery,
    congrArg (Except.map StateMap.ofForm) hstate,
    purposes_are_kept_apart.2.2 c d _ .hiddenField .hiddenField rfl hproduces ⟨_, hread⟩⟩

end Codec

end HttpMediation
