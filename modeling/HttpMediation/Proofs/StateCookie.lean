import HttpMediation.Proofs.SetCookie
import HttpMediation.Proofs.State

/-!
# StateCookie — state goes out in a cookie and comes back

* `Emitter.cookieName_admits_iff` : the names that a cookie may have.
* `Codec.allows_of_mem_write` : a blob needs no character that a cookie may not hold.
* `Codec.renderCookie_stateCookie_iff` : when the state cookie is written.
* `Codec.state_cookie_makes_the_round` : from one exchange to the next.
-/

namespace HttpMediation

theorem Emitter.cookieName_admits_iff {e : Emitter} {name : String} :
    e.cookieName.Admits name ↔ IsToken name ∧ name.utf8ByteSize ≤ e.headers.maxNameLen := by
  constructor
  · intro h
    exact ⟨⟨h.nonempty rfl, fun ch hch => FieldRule.isTchar_of_isTokenChar (h.allowed ch hch).1⟩, h.short⟩
  · rintro ⟨⟨hne, hchars⟩, hshort⟩
    exact ⟨fun _ => hne, hshort, fun ch hch =>
      ⟨FieldRule.isTokenChar_of_isTchar (hchars ch hch), List.not_mem_nil⟩⟩

theorem Emitter.size_value_le_size_line (e : Emitter) (secure : Bool) (c : Cookie) :
    c.value.utf8ByteSize ≤ (e.line secure c).utf8ByteSize := by
  rw [line_eq]
  simp only [String.utf8ByteSize_append]
  omega

namespace Codec

variable {c : Codec} {e : Emitter} {secure : Bool}

/-! ## Blobs in cookies -/

/-- The letters of a blob are among the characters of a cookie's value. -/
theorem allows_of_mem_write {key : Aes.Key} {purpose : Purpose} {nonce : List UInt8} {text : List Char}
    {ch : Char} (h : ch ∈ Blob.write key purpose nonce text) : FieldRule.cookieValue.allows ch = true := by
  have hletters : ∀ n < 64, FieldRule.cookieValue.allows (Base64Url.letter n) = true := by decide
  obtain ⟨n, hn, rfl⟩ := Base64Url.mem_encode h
  exact hletters n hn

/-- The blob that state is written as under a key and a nonce. -/
def cookieBlob (c : Codec) (key : Aes.Key) (nonce : List UInt8) (m : StateMap) : String :=
  String.ofList (Blob.write key (.cookie c.cookieName) nonce m.toForm)

theorem allows_of_mem_cookieBlob {key : Aes.Key} {nonce : List UInt8} {m : StateMap} :
    ∀ ch ∈ (c.cookieBlob key nonce m).toList, FieldRule.cookieValue.allows ch = true := by
  intro ch hch
  rw [cookieBlob, String.toList_ofList] at hch
  exact allows_of_mem_write hch

/-- The rendered state cookie. -/
def stateLine (c : Codec) (e : Emitter) (secure : Bool) (blob : String) : String :=
  e.line secure (c.stateCookie blob)

/-- Of its parts, only the name and the length of the state cookie can keep it from being rendered. -/
theorem admitsParts_stateCookie {blob : String} (hname : e.cookieName.Admits c.cookieName)
    (hletters : ∀ ch ∈ blob.toList, FieldRule.cookieValue.allows ch = true)
    (hshort : (c.stateLine e secure blob).utf8ByteSize ≤ e.cookies.maxCookieLen) :
    e.AdmitsParts (c.stateCookie blob) where
  name := hname
  value :=
    { nonempty := fun hempty => nomatch hempty
      short := Nat.le_trans (e.size_value_le_size_line secure (c.stateCookie blob)) hshort
      allowed := fun ch hch => ⟨hletters ch hch, List.not_mem_nil⟩ }
  domain := fun _ hdomain => nomatch hdomain
  path := by
    rintro _ ⟨⟩
    exact e.cookieAttribute_admits_root

theorem renderCookie_stateCookie_iff {blob : String} {h : Header}
    (hletters : ∀ ch ∈ blob.toList, FieldRule.cookieValue.allows ch = true) :
    e.renderCookie secure (c.stateCookie blob) = .ok h ↔
      e.cookieName.Admits c.cookieName ∧
        (c.stateLine e secure blob).utf8ByteSize ≤ e.cookies.maxCookieLen ∧
        (∀ ch ∈ (c.stateLine e secure blob).toList, ch ∉ e.headers.forbiddenValueChars.toList) ∧
        h = ⟨"Set-Cookie", c.stateLine e secure blob⟩ := by
  rw [Emitter.renderCookie_eq_ok_iff]
  constructor
  · rintro ⟨hparts, hline, rfl⟩
    obtain ⟨hshort, hallowed⟩ := (Emitter.admits_line_iff hparts).mp hline
    exact ⟨hparts.name, hshort, hallowed, rfl⟩
  · rintro ⟨hname, hshort, hallowed, rfl⟩
    have hparts := admitsParts_stateCookie hname hletters hshort
    exact ⟨hparts, (Emitter.admits_line_iff hparts).mpr ⟨hshort, hallowed⟩, rfl⟩

/-! ## There and back -/

theorem encryptCookie_of_unavailable (h : c.keys = .unavailable) (m : StateMap) (x : Exchange)
    (r : RandomSource) : c.encryptCookie e m x r = (.error encryptFailed, x, r) := by
  unfold encryptCookie encrypt
  rw [h]
  rfl

theorem encryptCookie_of_held {key : Aes.Key} (h : c.keys = .held key) (m : StateMap) (x : Exchange)
    (r : RandomSource) : c.encryptCookie e m x r =
      ((e.emit (.cookie (c.stateCookie (c.cookieBlob key (r.draw Gcm.nonceSize).1 m))) x).1,
        (e.emit (.cookie (c.stateCookie (c.cookieBlob key (r.draw Gcm.nonceSize).1 m))) x).2,
        (r.draw Gcm.nonceSize).2) := by
  have hencrypt : c.encrypt (.cookie c.cookieName) m.toForm r =
      (.ok (c.cookieBlob key (r.draw Gcm.nonceSize).1 m), (r.draw Gcm.nonceSize).2) := by
    unfold encrypt
    rw [h]
    rfl
  unfold encryptCookie
  rw [hencrypt]

theorem decryptCookie_cookieBlob {key : Aes.Key} (h : c.keys = .held key) {nonce : List UInt8}
    (hnonce : nonce.length = Gcm.nonceSize) {m : StateMap} {y : Exchange}
    (hy : y.request.cookie? c.cookieName = some (c.cookieBlob key nonce m)) : c.decryptCookie y = .ok m := by
  have hcookie : y.cookie? c.cookieName = some ⟨c.cookieBlob key nonce m⟩ := by
    rw [Exchange.cookie?, hy]
    rfl
  have hseals : c.Seals (.cookie c.cookieName) m.toForm (c.cookieBlob key nonce m) :=
    seals_iff.mpr ⟨key, by rw [h]; rfl, nonce, hnonce, rfl⟩
  unfold decryptCookie
  rw [hcookie]
  exact map_eq_ok_iff.mpr ⟨m.toForm, decrypt_eq_ok_iff.mpr hseals, m.ofForm_toForm⟩

/-- State goes out in a cookie and comes back with it.  If it is written, the response has one header more,
a `Set-Cookie` that begins with the cookie's name and a blob, and whoever presents this blob under this name
gives the state back.  It is not written, and the response stays as it was, exactly if there is no key, if
the name is no token or too long, or if the rendered cookie is too long or holds a character that the
settings forbid. -/
theorem state_cookie_makes_the_round (c : Codec) (e : Emitter) (m : StateMap) (x : Exchange)
    (r : RandomSource) :
    ((c.encryptCookie e m x r).1 = .ok () → ∃ line blob, line = c.stateLine e x.request.secure blob ∧
      (c.encryptCookie e m x r).2.1 = x.mapResponse (Response.add ⟨"Set-Cookie", line⟩) ∧
      line.toList.takeWhile (· != ';') = c.cookieName.toList ++ '=' :: blob.toList ∧
      ∀ y : Exchange, y.request.cookie? c.cookieName = some blob → c.decryptCookie y = .ok m) ∧
    ((∃ err, (c.encryptCookie e m x r).1 = .error err) ↔
      c.keys = .unavailable ∨
      ¬ (IsToken c.cookieName ∧ c.cookieName.utf8ByteSize ≤ e.headers.maxNameLen) ∨
      ∃ key line, c.keys = .held key ∧
        line = c.stateLine e x.request.secure (c.cookieBlob key (r.draw Gcm.nonceSize).1 m) ∧
        ((∃ ch ∈ line.toList, ch ∈ e.headers.forbiddenValueChars.toList) ∨
          e.cookies.maxCookieLen < line.utf8ByteSize)) ∧
    ∀ err, (c.encryptCookie e m x r).1 = .error err → (c.encryptCookie e m x r).2.1 = x := by
  cases hkeys : c.keys with
  | unavailable =>
    rw [encryptCookie_of_unavailable hkeys]
    exact ⟨fun h => (nomatch h), ⟨fun _ => .inl rfl, fun _ => ⟨_, rfl⟩⟩, fun _ _ => rfl⟩
  | held key =>
    rw [encryptCookie_of_held hkeys]
    cases hrender : e.renderCookie x.request.secure
        (c.stateCookie (c.cookieBlob key (r.draw Gcm.nonceSize).1 m)) with
    | ok header =>
      rw [Emitter.emit_cookie_of_ok hrender]
      have hparts := (Emitter.renderCookie_eq_ok_iff.mp hrender).1
      obtain ⟨hname, hshort, hallowed, rfl⟩ := (renderCookie_stateCookie_iff allows_of_mem_cookieBlob).mp hrender
      refine ⟨fun _ => ⟨_, _, rfl, rfl, Emitter.takeWhile_line hparts, fun y hy =>
        decryptCookie_cookieBlob hkeys (r.length_draw _) hy⟩, ⟨?_, ?_⟩, fun _ herr => (nomatch herr)⟩
      · rintro ⟨_, ⟨⟩⟩
      · rintro (⟨⟨⟩⟩ | hno | ⟨_, _, ⟨⟩, rfl, ⟨ch, hch, hforbidden⟩ | hlong⟩)
        · exact absurd (Emitter.cookieName_admits_iff.mp hname) hno
        · exact absurd hforbidden (hallowed ch hch)
        · exact absurd hshort (Nat.not_le_of_lt hlong)
    | error err =>
      rw [Emitter.emit_cookie_of_error hrender]
      refine ⟨fun h => (nomatch h), ⟨fun _ => .inr ?_, fun _ => ⟨err, rfl⟩⟩, fun _ _ => rfl⟩
      -- If none of the reasons held, every check would pass and the cookie would be rendered.
      by_contra hnone
      rw [not_or, not_not] at hnone
      obtain ⟨hname, hline⟩ := hnone
      have hwritten := (renderCookie_stateCookie_iff allows_of_mem_cookieBlob).mpr
        ⟨Emitter.cookieName_admits_iff.mpr hname,
          Nat.le_of_not_lt fun hlong => hline ⟨key, _, rfl, rfl, .inr hlong⟩,
          fun ch hch hforbidden => hline ⟨key, _, rfl, rfl, .inl ⟨ch, hch, hforbidden⟩⟩, rfl⟩
      rw [hrender] at hwritten
      cases hwritten

end Codec

end HttpMediation
