import HttpMediation.Proofs.CookieFields
import Mathlib.Data.List.Induction

/-!
# Expiry — making the client forget its cookies

A client may present cookies of one name more than once, and cookies whose names no header can hold.

* `pairwise_idxOf_eraseDups` : what is kept of a list without repetitions keeps its order.
* `Emitter.killAllHeaders_eq_ok_iff` : when there is a header for each name, and what it holds.
* `Emitter.presented_cookies_are_expired_once` : all names are expired, each once, or nothing is written.
-/

namespace HttpMediation

/-- Elements that are kept once stand in the order in which they appeared first. -/
theorem pairwise_idxOf_eraseDups {α : Type} [BEq α] [LawfulBEq α] (l : List α) :
    l.eraseDups.Pairwise fun a b => l.idxOf a < l.idxOf b := by
  induction l using List.reverseRecOn with
  | nil => exact .nil
  | append_singleton l a ih =>
    have hold : ∀ {b}, b ∈ l.eraseDups → (l ++ [a]).idxOf b = l.idxOf b := fun hb =>
      List.idxOf_append_of_mem (List.mem_eraseDups.mp hb)
    have hfront : l.eraseDups.Pairwise fun b c => (l ++ [a]).idxOf b < (l ++ [a]).idxOf c :=
      ih.imp_of_mem fun hb hc hlt => by rwa [hold hb, hold hc]
    rw [List.eraseDups_append]
    by_cases ha : a ∈ l
    · have hnone : [a].removeAll l = [] := by simp [List.removeAll, ha]
      rw [hnone, List.eraseDups_nil, List.append_nil]
      exact hfront
    · have hone : [a].removeAll l = [a] := by simp [List.removeAll, ha]
      have honce : [a].eraseDups = [a] := by rw [List.eraseDups_cons]; rfl
      rw [hone, honce, List.pairwise_append]
      refine ⟨hfront, List.pairwise_singleton _ _, fun b hb c hc => ?_⟩
      obtain rfl := List.mem_singleton.mp hc
      rw [hold hb, List.idxOf_append_of_notMem ha]
      have hlt := List.idxOf_lt_length_iff.mpr (List.mem_eraseDups.mp hb)
      omega

/-- Headers that are added stand behind those that were there, in their order. -/
theorem Response.writeAll_map_add (hs : List Header) (r : Response) :
    writeAll (hs.map .add) r = { r with headers := r.headers ++ hs } := by
  induction hs generalizing r with
  | nil => simp [writeAll]
  | cons h hs ih =>
    show writeAll (hs.map .add) (r.add h) = _
    rw [ih]
    simp [add]

namespace Emitter

variable {e : Emitter} {secure : Bool} {name : String}

/-- Of a cookie that is to expire, only the name can be refused before the whole line is. -/
theorem admitsParts_expired_iff : e.AdmitsParts (.expired name) ↔ e.cookieName.Admits name := by
  refine ⟨fun h => h.name, fun h => ⟨h, ?_, fun _ hdomain => (nomatch hdomain), ?_⟩⟩
  · exact ⟨fun hempty => (nomatch hempty), Nat.zero_le _, fun ch hch => absurd hch List.not_mem_nil⟩
  · rintro _ ⟨⟩
    exact e.cookieAttribute_admits_root

/-- The name and the line that expires the cookie of that name both pass. -/
structure AdmitsExpiry (e : Emitter) (secure : Bool) (name : String) : Prop where
  token : e.cookieName.Admits name
  line : e.cookieHeader.Admits (e.line secure (.expired name))

/-- The header that expires the cookie of that name. -/
def expiringHeader (e : Emitter) (secure : Bool) (name : String) : Header :=
  ⟨"Set-Cookie", e.line secure (.expired name)⟩

theorem renderCookie_expired_eq_ok_iff {h : Header} : e.renderCookie secure (.expired name) = .ok h ↔
    h = e.expiringHeader secure name ∧ e.AdmitsExpiry secure name := by
  rw [renderCookie_eq_ok_iff, admitsParts_expired_iff]
  constructor
  · rintro ⟨hname, hline, rfl⟩
    exact ⟨rfl, hname, hline⟩
  · rintro ⟨rfl, hname, hline⟩
    exact ⟨hname, hline, rfl⟩

/-- There are headers for all names if each name passes and each line does, and then there is one for each of
the names. -/
theorem killAllHeaders_eq_ok_iff {request : Request} {headers : List Header} :
    e.killAllHeaders request = .ok headers ↔
      headers = request.cookieNames.eraseDups.map (e.expiringHeader request.secure) ∧
        ∀ name ∈ request.cookieNames, e.AdmitsExpiry request.secure name := by
  have hcheck : ∀ name text, e.cookieName.check name = .ok text ↔ text = id name ∧ e.cookieName.Admits name :=
    fun _ _ => FieldSanitizer.check_eq_ok_iff
  unfold killAllHeaders
  simp only [bind_eq_ok_iff, mapM_eq_ok_iff_map hcheck, List.map_id]
  constructor
  · rintro ⟨_, ⟨rfl, -⟩, h⟩
    obtain ⟨rfl, hall⟩ := (mapM_eq_ok_iff_map fun _ _ => renderCookie_expired_eq_ok_iff).mp h
    exact ⟨rfl, fun name hname => hall name (List.mem_eraseDups.mpr hname)⟩
  · rintro ⟨rfl, hall⟩
    refine ⟨_, ⟨rfl, fun name hname => (hall name hname).token⟩, ?_⟩
    exact (mapM_eq_ok_iff_map fun _ _ => renderCookie_expired_eq_ok_iff).mpr
      ⟨rfl, fun name hname => hall name (List.mem_eraseDups.mp hname)⟩

/-- The response gets the header of each name, or something is refused and the exchange stays as it is. -/
theorem emit_killAll_cases (e : Emitter) (x : Exchange) :
    ((∀ name ∈ x.request.cookieNames, e.AdmitsExpiry x.request.secure name) ∧
        e.emit .killAll x = (.ok (), { x with
          response := { x.response with
            headers := x.response.headers ++
              x.request.cookieNames.eraseDups.map (e.expiringHeader x.request.secure) } })) ∨
      ((¬ ∀ name ∈ x.request.cookieNames, e.AdmitsExpiry x.request.secure name) ∧
        ∃ err, err.kind = .validation ∧ e.emit .killAll x = (.error err, x)) := by
  cases hall : e.killAllHeaders x.request with
  | ok headers =>
    obtain ⟨rfl, hadmits⟩ := killAllHeaders_eq_ok_iff.mp hall
    refine .inl ⟨hadmits, ?_⟩
    rw [emit, writes, hall]
    show (_, x.mapResponse (Response.writeAll (List.map HeaderWrite.add _))) = _
    rw [Exchange.mapResponse, Response.writeAll_map_add]
  | error err =>
    have hemit : e.emit .killAll x = (.error err, x) := by
      rw [emit, writes, hall]
      rfl
    refine .inr ⟨fun hadmits => ?_, err, e.failsAs_emit .killAll x err (by rw [hemit]), hemit⟩
    rw [killAllHeaders_eq_ok_iff.mpr ⟨rfl, hadmits⟩] at hall
    cases hall

/-- What a client finds in the header that expires a cookie: its name, an empty value, no lifetime left and the
path of the whole site, besides the guards. -/
structure Expires (e : Emitter) (secure : Bool) (name : String) (h : Header) : Prop where
  setsCookie : h.name = "Set-Cookie"
  fields : h.fields = [(name, some ""), ("Max-Age", some "0"), ("Path", some "/")] ++
    (if secure then [("Secure", none)] else []) ++ [("HttpOnly", none), ("SameSite", some e.cookies.sameSite.name)]

theorem AdmitsExpiry.expires (h : e.AdmitsExpiry secure name) :
    e.Expires secure name (e.expiringHeader secure name) := by
  refine ⟨rfl, ?_⟩
  rw [expiringHeader, fields_line (admitsParts_expired_iff.mpr h.token)]
  cases secure <;> rfl

theorem not_admitsExpiry_iff : ¬ e.AdmitsExpiry secure name ↔
    ¬ e.cookieName.Admits name ∨ ¬ e.cookieHeader.Admits (e.line secure (.expired name)) := by
  rw [← not_and_or, not_iff_not]
  exact ⟨fun h => ⟨h.token, h.line⟩, fun h => ⟨h.1, h.2⟩⟩

/-- If every presented name passes, and so does every line that expires one, then the response gets one header
for each of the names, in the order of their first appearance and behind all that was written before, and each
expires its name.  If a name or a line is refused, wherever it stands, then this is an error of validation
and the exchange stays as it is. -/
theorem presented_cookies_are_expired_once (e : Emitter) (x : Exchange) :
    ((∃ err, (e.emit .killAll x).1 = .error err) ↔ ∃ name ∈ x.request.cookieNames,
        ¬ e.cookieName.Admits name ∨ ¬ e.cookieHeader.Admits (e.line x.request.secure (.expired name))) ∧
      ((e.emit .killAll x).1 = .ok () → ∃ order headers,
        (∀ name, name ∈ order ↔ name ∈ x.request.cookieNames) ∧ order.Nodup ∧
        order.Pairwise (fun a b => x.request.cookieNames.idxOf a < x.request.cookieNames.idxOf b) ∧
        List.Forall₂ (e.Expires x.request.secure) order headers ∧
        (e.emit .killAll x).2 =
          { x with response := { x.response with headers := x.response.headers ++ headers } }) ∧
      ∀ err, (e.emit .killAll x).1 = .error err → err.kind = .validation ∧ (e.emit .killAll x).2 = x := by
  simp only [← not_admitsExpiry_iff]
  rcases e.emit_killAll_cases x with ⟨hadmits, hemit⟩ | ⟨hrefused, err, hkind, hemit⟩
  · rw [hemit]
    refine ⟨⟨fun ⟨err, herr⟩ => (nomatch herr), ?_⟩, fun _ => ?_, fun err herr => (nomatch herr)⟩
    · rintro ⟨name, hname, hnot⟩
      exact absurd (hadmits name hname) hnot
    · have horder := pairwise_idxOf_eraseDups x.request.cookieNames
      refine ⟨x.request.cookieNames.eraseDups, _, fun name => List.mem_eraseDups, ?_, horder, ?_, rfl⟩
      · exact horder.imp fun {a b} hlt heq => by rw [heq] at hlt; exact Nat.lt_irrefl _ hlt
      · rw [List.forall₂_map_right_iff, List.forall₂_same]
        exact fun name hname => (hadmits name (List.mem_eraseDups.mp hname)).expires
  · rw [hemit]
    refine ⟨⟨fun _ => ?_, fun _ => ⟨err, rfl⟩⟩, fun hok => (nomatch hok), ?_⟩
    · simpa using hrefused
    · rintro _ ⟨⟩
      exact ⟨hkind, rfl⟩

/-- An exchange whose client presents one of its cookies twice, with a header written already. -/
def presentedTwice : Exchange :=
  { id := ""
    request := { cookies := [("a", "1"), ("b", "2"), ("a", "3")] }
    response := { headers := [⟨"X-A", "1"⟩] } }

/-- Both names are expired, each once, behind the header that was there. -/
theorem repeated_cookie_is_expired_once :
    ∃ e, Emitter.new {} {} = .ok e ∧ ∃ order headers,
      (∀ name, name ∈ order ↔ name ∈ ["a", "b", "a"]) ∧ order.Nodup ∧
        List.Forall₂ (e.Expires false) order headers ∧
        (e.emit .killAll presentedTwice).2.response.headers = ⟨"X-A", "1"⟩ :: headers := by
  refine ⟨⟨{}, {}, by decide, by decide, by decide⟩, rfl, ?_⟩
  obtain ⟨-, hsent, -⟩ :=
    presented_cookies_are_expired_once ⟨{}, {}, by decide, by decide, by decide⟩ presentedTwice
  obtain ⟨order, headers, hnames, honce, -, hexpires, hafter⟩ := hsent (by decide +kernel)
  exact ⟨order, headers, hnames, honce, hexpires, by rw [hafter]; rfl⟩

end Emitter

end HttpMediation
