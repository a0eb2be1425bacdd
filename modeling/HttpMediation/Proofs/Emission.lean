import HttpMediation.Emitter
import HttpMediation.Proofs.Field
import HttpMediation.Proofs.Outcome
import HttpMediation.Proofs.Rotation
import HttpMediation.Sealing.Codec

/-!
# Emission — what a response holds after any operations

* `Header.IsSafe` : a header that cannot be misread as anything else.
* `Emitter.Issues`, `Emitter.Transacts` : the headers that an emitter checks, and operations that write
  such headers or nothing.
* `Emitter.origin_of_writes` : where the headers of an emission come from.
* `Emitter.SetsCookie` : operations that do what the emission of a cookie does, or nothing.
* `Emitter.failsAs_emit` : an emission is refused with an error of validation.
* `World`, `Operation` : an exchange and all that can be done with an emitter in its course.
* `World.response_is_safe` : after any operations every header is safe, and an operation that fails leaves
  the response as it was.
-/

namespace HttpMediation

/-! ## Safe headers -/

/-- The name is a token, and the value prints in one line, without what the settings forbid and within
the larger of the limits. -/
structure Header.IsSafe (headers : HeaderConfig) (cookies : CookieConfig) (h : Header) : Prop where
  named : h.name ≠ ""
  token : ∀ c ∈ h.name.toList, IsTchar c
  printing : ∀ c ∈ h.value.toList, IsPrinting c
  allowed : ∀ c ∈ headers.forbiddenValueChars.toList, c ∉ h.value.toList
  short : h.value.utf8ByteSize ≤ max headers.maxValueLen cookies.maxCookieLen

namespace Emitter

variable {e : Emitter} {secure : Bool} {h : Header}

theorem settings_of_new {headers : HeaderConfig} {cookies : CookieConfig}
    (hnew : Emitter.new headers cookies = .ok e) : e.headers = headers ∧ e.cookies = cookies := by
  unfold new at hnew
  split_ifs at hnew
  obtain rfl := Except.ok.inj hnew
  exact ⟨rfl, rfl⟩

/-- The header is one that the emitter has checked. -/
def Issues (e : Emitter) (secure : Bool) (h : Header) : Prop :=
  (∃ name value, e.verifyHeader name value = .ok h) ∨ ∃ c, e.renderCookie secure c = .ok h

/-- A header is safe if its name is a token and its value passes the rule for values, whichever of the
two limits is applied. -/
theorem isSafe_of_admits {limit : Nat} {hlimit : 0 < limit} {name value : String} (hname : name ≠ "")
    (htoken : ∀ c ∈ name.toList, FieldRule.isTokenChar c = true)
    (hvalue : FieldSanitizer.Admits ⟨.headerValue, limit, hlimit, e.forbidden⟩ value)
    (hle : limit ≤ max e.headers.maxValueLen e.cookies.maxCookieLen) :
    Header.IsSafe e.headers e.cookies ⟨name, value⟩ :=
  { named := hname
    token := fun c hc => FieldRule.isTchar_of_isTokenChar (htoken c hc)
    printing := fun c hc => FieldRule.isPrinting_of_allows (hvalue.allowed c hc).1
    allowed := fun c hc hmem => (hvalue.allowed c hmem).2 hc
    short := Nat.le_trans hvalue.short hle }

/-- A header is let through as it is if its name and its value pass. -/
theorem verifyHeader_eq_ok_iff {name value : String} : e.verifyHeader name value = .ok h ↔
    e.headerName.Admits name ∧ e.headerValue.Admits value ∧ h = ⟨name, value⟩ := by
  rw [verifyHeader]
  simp only [bind_eq_ok_iff, FieldSanitizer.check_eq_ok_iff]
  constructor
  · rintro ⟨_, ⟨rfl, hname⟩, _, ⟨rfl, hvalue⟩, hheader⟩
    exact ⟨hname, hvalue, (Except.ok.inj hheader).symm⟩
  · rintro ⟨hname, hvalue, rfl⟩
    exact ⟨_, ⟨rfl, hname⟩, _, ⟨rfl, hvalue⟩, rfl⟩

theorem isSafe_of_verifyHeader {name value : String} (hv : e.verifyHeader name value = .ok h) :
    h.IsSafe e.headers e.cookies := by
  obtain ⟨hname, hvalue, rfl⟩ := verifyHeader_eq_ok_iff.mp hv
  exact isSafe_of_admits (hname.nonempty rfl) (fun c hc => (hname.allowed c hc).1) hvalue
    (Nat.le_max_left _ _)

theorem isSafe_of_renderCookie {c : Cookie} (hr : e.renderCookie secure c = .ok h) :
    h.IsSafe e.headers e.cookies := by
  obtain ⟨text, -, hr⟩ := bind_ok hr
  obtain ⟨v, hval, hr⟩ := bind_ok hr
  obtain rfl := Except.ok.inj hr
  obtain ⟨rfl, hvalue⟩ := FieldSanitizer.check_eq_ok_iff.mp hval
  have htoken : "Set-Cookie".toList.all FieldRule.isTokenChar = true := by decide
  exact isSafe_of_admits (by decide) (List.all_eq_true.mp htoken) hvalue (Nat.le_max_right _ _)

theorem Issues.isSafe (hi : e.Issues secure h) : h.IsSafe e.headers e.cookies := by
  rcases hi with ⟨name, value, hv⟩ | ⟨c, hr⟩
  · exact isSafe_of_verifyHeader hv
  · exact isSafe_of_renderCookie hr

end Emitter

/-! ## Writes -/

/-- The header that is written. -/
def HeaderWrite.header : HeaderWrite → Header
  | add h => h
  | set h => h

namespace Response

theorem mem_write {r : Response} {w : HeaderWrite} {h : Header} (hh : h ∈ (r.write w).headers) :
    h ∈ r.headers ∨ h = w.header := by
  cases w with
  | add g =>
    rcases List.mem_append.mp hh with hold | hnew
    · exact .inl hold
    · exact .inr (List.mem_singleton.mp hnew)
  | set g =>
    rcases List.mem_append.mp hh with hold | hnew
    · exact .inl (List.mem_filter.mp hold).1
    · exact .inr (List.mem_singleton.mp hnew)

/-- Writing headers touches neither the redirect nor the forward. -/
theorem frame_writeAll (ws : List HeaderWrite) (r : Response) :
    (writeAll ws r).redirect = r.redirect ∧ (writeAll ws r).forward = r.forward := by
  induction ws generalizing r with
  | nil => exact ⟨rfl, rfl⟩
  | cons w ws ih =>
    have hframe : (r.write w).redirect = r.redirect ∧ (r.write w).forward = r.forward := by
      cases w <;> exact ⟨rfl, rfl⟩
    obtain ⟨hredirect, hforward⟩ := ih (r.write w)
    exact ⟨hredirect.trans hframe.1, hforward.trans hframe.2⟩

theorem mem_writeAll {ws : List HeaderWrite} {r : Response} {h : Header}
    (hh : h ∈ (writeAll ws r).headers) : h ∈ r.headers ∨ ∃ w ∈ ws, h = w.header := by
  induction ws generalizing r with
  | nil => exact .inl hh
  | cons w ws ih =>
    rcases ih hh with hfirst | ⟨w', hw', rfl⟩
    · rcases mem_write hfirst with hold | rfl
      · exact .inl hold
      · exact .inr ⟨w, List.mem_cons_self, rfl⟩
    · exact .inr ⟨w', List.mem_cons_of_mem _ hw', rfl⟩

end Response

/-- The header that an emission spells out. -/
def Emission.spelled? : Emission → Option Header
  | .addHeader name value => some ⟨name, value⟩
  | .setHeader name value => some ⟨name, value⟩
  | _ => none

namespace Emitter

variable {e : Emitter}

/-- An operation with a single write makes it with the header that it asked for. -/
theorem exists_of_single {asked : Except Error Header} {put : Header → HeaderWrite}
    {ws : List HeaderWrite} (hws : (asked >>= fun h => pure [put h]) = .ok ws) {w : HeaderWrite}
    (hw : w ∈ ws) : ∃ h, asked = .ok h ∧ w = put h := by
  obtain ⟨h, hasked, hws⟩ := bind_ok hws
  obtain rfl := Except.ok.inj hws
  exact ⟨h, hasked, List.mem_singleton.mp hw⟩

/-- The names under which an emitter writes headers that nobody spells out. -/
def ownNames : List String :=
  ["Cache-Control", "Expires", "Content-Type"]

/-- Where a header comes from that is written for an emission: it is rendered from a cookie, or the
emission spells it out, or it has one of the emitter's own names. -/
inductive Origin (e : Emitter) (secure : Bool) (m : Emission) (h : Header) : Prop
  | rendered (c : Cookie) (hrender : e.renderCookie secure c = .ok h)
  | spelled (hspelled : m.spelled? = some h) (hverify : e.verifyHeader h.name h.value = .ok h)
  | own (hname : h.name ∈ ownNames) (hverify : e.verifyHeader h.name h.value = .ok h)

theorem origin_of_own {secure : Bool} {m : Emission} {h : Header} {name value : String}
    (hown : name ∈ ownNames) (hverify : e.verifyHeader name value = .ok h) : e.Origin secure m h := by
  obtain ⟨-, -, rfl⟩ := verifyHeader_eq_ok_iff.mp hverify
  exact .own hown hverify

theorem origin_of_spelled {secure : Bool} {m : Emission} {h : Header} {name value : String}
    (hspelled : m.spelled? = some ⟨name, value⟩) (hverify : e.verifyHeader name value = .ok h) :
    e.Origin secure m h := by
  obtain ⟨-, -, rfl⟩ := verifyHeader_eq_ok_iff.mp hverify
  exact .spelled hspelled hverify

/-- Each header that is written for an emission has one of the three origins. -/
theorem origin_of_writes {request : Request} {m : Emission} {ws : List HeaderWrite}
    (hws : e.writes request m = .ok ws) {w : HeaderWrite} (hw : w ∈ ws) :
    e.Origin request.secure m w.header := by
  cases m with
  | cookie c =>
    obtain ⟨h, hr, rfl⟩ := exists_of_single hws hw
    exact .rendered c hr
  | addHeader name value =>
    obtain ⟨h, hv, rfl⟩ := exists_of_single hws hw
    exact origin_of_spelled rfl hv
  | setHeader name value =>
    obtain ⟨h, hv, rfl⟩ := exists_of_single hws hw
    exact origin_of_spelled rfl hv
  | noCache =>
    obtain ⟨noStore, hstore, hws⟩ := bind_ok hws
    obtain ⟨noCache, hcache, hws⟩ := bind_ok hws
    obtain ⟨revalidate, hrevalidate, hws⟩ := bind_ok hws
    obtain ⟨expires, hexpires, hws⟩ := bind_ok hws
    obtain rfl := Except.ok.inj hws
    simp only [List.mem_cons, List.not_mem_nil, or_false] at hw
    rcases hw with rfl | rfl | rfl | rfl
    · exact origin_of_own (by decide) hstore
    · exact origin_of_own (by decide) hcache
    · exact origin_of_own (by decide) hrevalidate
    · exact origin_of_own (by decide) hexpires
  | contentType =>
    obtain ⟨h, hv, rfl⟩ := exists_of_single hws hw
    unfold contentTypeHeader at hv
    split_ifs at hv
    exact origin_of_own (by decide) hv
  | killCookie name =>
    obtain ⟨h, hr, rfl⟩ := exists_of_single hws hw
    exact .rendered _ hr
  | killAll =>
    obtain ⟨hs, hall, hws⟩ := bind_ok hws
    obtain rfl := Except.ok.inj hws
    obtain ⟨h, hh, rfl⟩ := List.mem_map.mp hw
    obtain ⟨names, -, hall⟩ := bind_ok hall
    obtain ⟨name, -, hr⟩ := exists_left_of_forall₂ (mapM_eq_ok_iff.mp hall) hh
    exact .rendered _ hr

/-- Whatever an emission asks for, the emitter has checked each header that is written for it. -/
theorem issues_of_writes {request : Request} {m : Emission} {ws : List HeaderWrite}
    (hws : e.writes request m = .ok ws) {w : HeaderWrite} (hw : w ∈ ws) :
    e.Issues request.secure w.header := by
  cases origin_of_writes hws hw with
  | rendered c hrender => exact .inr ⟨c, hrender⟩
  | spelled _ hverify => exact .inl ⟨_, _, hverify⟩
  | own _ hverify => exact .inl ⟨_, _, hverify⟩

/-! ## Refusals -/

theorem failsAs_verifyHeader (e : Emitter) (name value : String) :
    FailsAs .validation (e.verifyHeader name value) :=
  (e.headerName.failsAs_check name).bind fun _ =>
    (e.headerValue.failsAs_check value).bind fun _ => .ok _

theorem failsAs_attributeText (e : Emitter) (label : String) (value : Option String) :
    FailsAs .validation (e.attributeText label value) := by
  cases value with
  | none => exact .ok ""
  | some value => exact (e.cookieAttribute.failsAs_check value).bind fun _ => .ok _

theorem failsAs_renderCookie (e : Emitter) (secure : Bool) (c : Cookie) :
    FailsAs .validation (e.renderCookie secure c) := by
  have htext : FailsAs .validation (e.cookieText secure c) :=
    (e.cookieName.failsAs_check c.name).bind fun _ =>
      (e.cookieValue.failsAs_check c.value).bind fun _ =>
        (e.failsAs_attributeText "Domain" c.domain).bind fun _ =>
          (e.failsAs_attributeText "Path" c.path).bind fun _ => .ok _
  exact htext.bind fun text => (e.cookieHeader.failsAs_check text).bind fun _ => .ok _

/-- Whatever an emission asks for, it is refused with an error of validation. -/
theorem failsAs_writes (e : Emitter) (request : Request) (m : Emission) :
    FailsAs .validation (e.writes request m) := by
  cases m with
  | cookie c => exact (e.failsAs_renderCookie request.secure c).bind fun _ => .ok _
  | addHeader name value => exact (e.failsAs_verifyHeader name value).bind fun _ => .ok _
  | setHeader name value => exact (e.failsAs_verifyHeader name value).bind fun _ => .ok _
  | noCache =>
    exact (e.failsAs_verifyHeader _ _).bind fun _ => (e.failsAs_verifyHeader _ _).bind fun _ =>
      (e.failsAs_verifyHeader _ _).bind fun _ => (e.failsAs_verifyHeader _ _).bind fun _ => .ok _
  | contentType =>
    have hheader : FailsAs .validation e.contentTypeHeader := by
      unfold contentTypeHeader
      split_ifs
      · exact e.failsAs_verifyHeader _ _
      · intro err herr
        obtain rfl := Except.error.inj herr
        rfl
    exact hheader.bind fun _ => .ok _
  | killCookie name => exact (e.failsAs_renderCookie request.secure _).bind fun _ => .ok _
  | killAll =>
    have hall : FailsAs .validation (e.killAllHeaders request) :=
      (FailsAs.mapM e.cookieName.failsAs_check _).bind fun _ =>
        .mapM (fun _ => e.failsAs_renderCookie request.secure _) _
    exact hall.bind fun _ => .ok _

theorem failsAs_emit (e : Emitter) (m : Emission) (x : Exchange) : FailsAs .validation (e.emit m x).1 := by
  intro err herr
  unfold emit Exchange.write at herr
  split at herr
  · cases herr
  · rename_i f hwrites
    obtain rfl := Except.error.inj herr
    exact e.failsAs_writes x.request m f hwrites

/-! ## Operations that write checked headers or nothing -/

/-- From one exchange to a later one the request stays, and so do the redirect and the forward; each
header was there before, or the emitter has checked it. -/
structure Extends (e : Emitter) (x y : Exchange) : Prop where
  request : y.request = x.request
  redirect : y.response.redirect = x.response.redirect
  forward : y.response.forward = x.response.forward
  headers : ∀ h ∈ y.response.headers, h ∈ x.response.headers ∨ e.Issues x.request.secure h

theorem Extends.refl (e : Emitter) (x : Exchange) : e.Extends x x :=
  ⟨rfl, rfl, rfl, fun _ h => .inl h⟩

theorem Extends.trans {x y z : Exchange} (hxy : e.Extends x y) (hyz : e.Extends y z) :
    e.Extends x z := by
  refine ⟨hyz.request.trans hxy.request, hyz.redirect.trans hxy.redirect,
    hyz.forward.trans hxy.forward, fun h hh => ?_⟩
  rcases hyz.headers h hh with hold | hissued
  · exact hxy.headers h hold
  · rw [hxy.request] at hissued
    exact .inr hissued

/-- An operation on an exchange writes only checked headers, and nothing if it fails. -/
structure Transacts {α : Type} (e : Emitter) (x : Exchange) (out : Except Error α × Exchange) :
    Prop where
  grown : e.Extends x out.2
  unchanged : ∀ err, out.1 = .error err → out.2 = x

theorem transacts_error {α : Type} (e : Emitter) (x : Exchange) (err : Error) :
    e.Transacts x ((.error err : Except Error α), x) :=
  ⟨.refl e x, fun _ _ => rfl⟩

theorem transacts_emit (e : Emitter) (m : Emission) (x : Exchange) : e.Transacts x (e.emit m x) := by
  unfold emit Exchange.write
  split
  · rename_i ws hws
    obtain ⟨hredirect, hforward⟩ := Response.frame_writeAll ws x.response
    refine ⟨⟨rfl, hredirect, hforward, fun h hh => ?_⟩, fun err herr => nomatch herr⟩
    rcases Response.mem_writeAll hh with hold | ⟨w, hw, rfl⟩
    · exact .inl hold
    · exact .inr (issues_of_writes hws hw)
  · exact transacts_error e x _

/-- An operation on an exchange fails and does nothing, or it does what the emission of a cookie does. -/
inductive SetsCookie {α : Type} (e : Emitter) (x : Exchange) (out : Except Error α × Exchange) : Prop
  | refused (err : Error) (hout : out = (.error err, x))
  | emitted (c : Cookie) (hresult : (out.1.map fun _ => ()) = (e.emit (.cookie c) x).1)
      (hexchange : out.2 = (e.emit (.cookie c) x).2)

theorem SetsCookie.transacts {α : Type} {x : Exchange} {out : Except Error α × Exchange}
    (h : e.SetsCookie x out) : e.Transacts x out := by
  cases h with
  | refused err hout =>
    rw [hout]
    exact transacts_error e x err
  | emitted c hresult hexchange =>
    have hemit := transacts_emit e (.cookie c) x
    refine ⟨?_, fun err herr => ?_⟩
    · rw [hexchange]
      exact hemit.grown
    · rw [hexchange]
      refine hemit.unchanged err ?_
      rw [← hresult]
      exact map_eq_error_iff.mpr herr

theorem setsCookie_encryptCookie (e : Emitter) (c : Codec) (state : StateMap) (x : Exchange)
    (r : RandomSource) :
    e.SetsCookie x ((c.encryptCookie e state x r).1, (c.encryptCookie e state x r).2.1) := by
  unfold Codec.encryptCookie
  split
  · exact .refused _ rfl
  · rename_i blob r _
    refine .emitted (c.stateCookie blob) ?_ rfl
    exact congrFun Except.map_id _

theorem always_setsCookie_change (e : Emitter) (r : Rotator) (x : Exchange) :
    (r.change e x).Always (e.SetsCookie x) := by
  unfold Rotator.change
  split
  · exact .refused _ rfl
  · refine Rotator.always_rotateThen (fun err => .refused err rfl) (fun s err y hemit => ?_)
      (fun s y hemit => ?_) r _
    · have hunchanged := (transacts_emit e (.cookie (r.sessionCookie s)) x).unchanged err
      rw [hemit] at hunchanged
      exact hunchanged rfl
    · exact .emitted (r.sessionCookie s) (by rw [hemit]; rfl) (by rw [hemit])

theorem transacts_encryptCookie (e : Emitter) (c : Codec) (state : StateMap) (x : Exchange)
    (r : RandomSource) :
    e.Transacts x ((c.encryptCookie e state x r).1, (c.encryptCookie e state x r).2.1) :=
  (e.setsCookie_encryptCookie c state x r).transacts

theorem always_transacts_change (e : Emitter) (r : Rotator) (x : Exchange) :
    (r.change e x).Always (e.Transacts x) :=
  (e.always_setsCookie_change r x).mono fun _ h => h.transacts

end Emitter

/-! ## Runs -/

/-- What the operations in the course of an exchange work on besides their emitter: the exchange, a
store of sessions and a source of random bytes. -/
structure World (σ : Type) where
  exchange : Exchange
  store : σ
  random : RandomSource

/-- What can be done with an emitter in the course of an exchange. -/
inductive Operation
  | emit (m : Emission)
  | stateCookie (codec : Codec) (state : StateMap)
  | changeSession (rotator : Rotator)

namespace World

variable {σ : Type} (answer : StoreCall → σ → StoreAnswer × σ) (e : Emitter)

/-- Carries one operation out. -/
def step (w : World σ) : Operation → Except Error Unit × World σ
  | .emit m =>
    let (out, x) := e.emit m w.exchange
    (out, { w with exchange := x })
  | .stateCookie codec state =>
    let (out, x, r) := codec.encryptCookie e state w.exchange w.random
    (out, { w with exchange := x, random := r })
  | .changeSession rotator =>
    let ((out, x), s, r) := (rotator.change e w.exchange).run answer w.store w.random
    (out.map fun _ => (), ⟨x, s, r⟩)

/-- Carries operations out one after another, whether or not the earlier ones succeed. -/
def run (w : World σ) (ops : List Operation) : World σ :=
  ops.foldl (fun w op => (w.step answer e op).2) w

theorem transacts_step (w : World σ) (op : Operation) :
    e.Transacts w.exchange ((w.step answer e op).1, (w.step answer e op).2.exchange) := by
  cases op with
  | emit m => exact e.transacts_emit m w.exchange
  | stateCookie codec state => exact e.transacts_encryptCookie codec state w.exchange w.random
  | changeSession rotator =>
    have hchange := (e.always_transacts_change rotator w.exchange).run answer w.store w.random
    exact ⟨hchange.grown, fun err herr => hchange.unchanged err (map_eq_error_iff.mp herr)⟩

theorem extends_run (w : World σ) (ops : List Operation) :
    e.Extends w.exchange (w.run answer e ops).exchange := by
  induction ops generalizing w with
  | nil => exact .refl e w.exchange
  | cons op ops ih => exact (w.transacts_step answer e op).grown.trans (ih _)

/-- No operation splits a response or leaves one half written.  From a response whose headers are safe,
such as an empty one, any operations lead to a response whose headers are safe; and an operation that
fails then leaves headers, redirect and forward as they were. -/
theorem response_is_safe {headers : HeaderConfig} {cookies : CookieConfig} {e : Emitter}
    (hnew : Emitter.new headers cookies = .ok e) {w : World σ}
    (hstart : ∀ h ∈ w.exchange.response.headers, h.IsSafe headers cookies) (ops : List Operation) :
    (∀ h ∈ (w.run answer e ops).exchange.response.headers, h.IsSafe headers cookies) ∧
      ∀ op err, ((w.run answer e ops).step answer e op).1 = .error err →
        ((w.run answer e ops).step answer e op).2.exchange.response =
          (w.run answer e ops).exchange.response := by
  obtain ⟨rfl, rfl⟩ := Emitter.settings_of_new hnew
  refine ⟨fun h hh => ?_, fun op err herr => ?_⟩
  · rcases (w.extends_run answer e ops).headers h hh with hold | hissued
    · exact hstart h hold
    · exact hissued.isSafe
  · have hsame := ((w.run answer e ops).transacts_step answer e op).unchanged err herr
    exact congrArg Exchange.response hsame

/-- The start of an exchange on a site without sessions. -/
def fresh : World Sessions :=
  { exchange := { id := "", request := {} }, store := .empty, random := .counting 0 }

/-- Four headers are written, and then one that would split the response is refused. -/
theorem split_is_refused_after_noCache :
    ∃ e, Emitter.new {} {} = .ok e ∧
      (fresh.run Sessions.answer e [.emit .noCache]).exchange.response.headers.length = 4 ∧
      (∀ h ∈ (fresh.run Sessions.answer e [.emit .noCache]).exchange.response.headers,
        h.IsSafe {} {}) ∧
      ∃ err, ((fresh.run Sessions.answer e [.emit .noCache]).step Sessions.answer e
          (.emit (.addHeader "X-Lang" "en\r\nX-Evil: 1"))).1 = .error err ∧
        ((fresh.run Sessions.answer e [.emit .noCache]).step Sessions.answer e
          (.emit (.addHeader "X-Lang" "en\r\nX-Evil: 1"))).2.exchange.response =
            (fresh.run Sessions.answer e [.emit .noCache]).exchange.response := by
  have hnew : Emitter.new {} {} = .ok ⟨{}, {}, by decide, by decide, by decide⟩ := rfl
  have hstart : ∀ h ∈ fresh.exchange.response.headers, h.IsSafe {} {} :=
    fun h hh => absurd hh List.not_mem_nil
  obtain ⟨hsafe, hsame⟩ := response_is_safe Sessions.answer hnew hstart [.emit .noCache]
  exact ⟨_, hnew, by decide +kernel, hsafe, _, rfl, hsame _ _ rfl⟩

end World

end HttpMediation
