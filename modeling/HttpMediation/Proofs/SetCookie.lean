import HttpMediation.Proofs.Emission
import Mathlib.Data.List.TakeWhile

/-!
# SetCookie — the header line of a cookie

* `Emitter.line` : what the line holds, whatever the cookie's parts are.
* `Emitter.renderCookie_eq_ok_iff` : the line is written if its parts and then the line itself pass.
* `Emitter.admits_line_iff` : a line of parts that pass can only be too long or hold what the settings
  forbid.
* `Emitter.takeWhile_line`, `Emitter.splitOn_line` : it is cut at its first `;` behind the cookie's name
  and value, and at the others into the attributes.
-/

namespace HttpMediation

/-- The cookie's name and value. -/
def Cookie.pair (c : Cookie) : List Char :=
  c.name.toList ++ '=' :: c.value.toList

namespace Emitter

variable {e : Emitter} {secure : Bool} {c : Cookie} {text : String}

/-! ## The line -/

/-- An attribute that the cookie may have or not. -/
def optional (label : String) (value : Option String) : List (List Char) :=
  (value.map fun v => label.toList ++ '=' :: v.toList).toList

/-- The attributes in the order of the line. -/
def attributes (e : Emitter) (secure : Bool) (c : Cookie) : List (List Char) :=
  optional "Max-Age" (c.maxAge.map fun seconds => toString (max seconds 0)) ++
    optional "Domain" c.domain ++ optional "Path" c.path ++
    (if secure then ["Secure".toList] else []) ++ ["HttpOnly".toList] ++
    optional "SameSite" (some e.cookies.sameSite.name)

/-- The attributes, each behind a semicolon. -/
def listed (l : List (List Char)) : List Char :=
  l.flatMap fun a => ';' :: ' ' :: a

/-- The line that sets the cookie, whatever its parts are. -/
def line (e : Emitter) (secure : Bool) (c : Cookie) : String :=
  String.ofList (c.pair ++ listed (e.attributes secure c))

theorem listed_append (a b : List (List Char)) : listed (a ++ b) = listed a ++ listed b :=
  List.flatMap_append

/-- Each part of the cookie keeps the rule for it. -/
structure AdmitsParts (e : Emitter) (c : Cookie) : Prop where
  name : e.cookieName.Admits c.name
  value : e.cookieValue.Admits c.value
  domain : ∀ v, c.domain = some v → e.cookieAttribute.Admits v
  path : ∀ v, c.path = some v → e.cookieAttribute.Admits v

/-- The path of the whole site passes under any settings. -/
theorem cookieAttribute_admits_root (e : Emitter) : e.cookieAttribute.Admits "/" := by
  refine ⟨fun _ => by decide, e.maxValueLen_pos, fun ch hch => ?_⟩
  obtain rfl : ch = '/' := List.mem_singleton.mp hch
  exact ⟨rfl, List.not_mem_nil⟩

theorem attributeText_eq_ok_iff {label : String} {value : Option String} :
    e.attributeText label value = .ok text ↔
      (∀ v, value = some v → e.cookieAttribute.Admits v) ∧
        text = String.ofList (listed (optional label value)) := by
  cases value with
  | none => simp [attributeText, optional, listed, eq_comm]
  | some v =>
    have htext : "; " ++ label ++ "=" ++ v = String.ofList (listed (optional label (some v))) := by
      rw [← String.toList_inj]
      simp [optional, listed]
    rw [attributeText, bind_eq_ok_iff]
    constructor
    · rintro ⟨checked, hcheck, hline⟩
      obtain ⟨rfl, hadmits⟩ := FieldSanitizer.check_eq_ok_iff.mp hcheck
      refine ⟨?_, (Except.ok.inj hline).symm.trans htext⟩
      rintro _ ⟨⟩
      exact hadmits
    · rintro ⟨hadmits, rfl⟩
      exact ⟨v, FieldSanitizer.check_eq_ok_iff.mpr ⟨rfl, hadmits v rfl⟩, congrArg Except.ok htext⟩

theorem maxAgeText_eq (maxAge : Option Int) : maxAgeText maxAge =
    String.ofList (listed (optional "Max-Age" (maxAge.map fun seconds => toString (max seconds 0)))) := by
  cases maxAge with
  | none => rfl
  | some seconds =>
    rw [← String.toList_inj]
    simp [maxAgeText, optional, listed]

theorem line_eq (e : Emitter) (secure : Bool) (c : Cookie) : e.line secure c =
    c.name ++ "=" ++ c.value ++ maxAgeText c.maxAge ++ String.ofList (listed (optional "Domain" c.domain)) ++
      String.ofList (listed (optional "Path" c.path)) ++ (if secure then "; Secure" else "") ++
      "; HttpOnly" ++ "; SameSite=" ++ e.cookies.sameSite.name := by
  have hsecure : listed (if secure then ["Secure".toList] else []) =
      (if secure then "; Secure" else "").toList := by
    cases secure <;> rfl
  rw [← String.toList_inj, maxAgeText_eq, line, attributes]
  simp only [listed_append, hsecure, String.toList_append, String.toList_ofList, List.append_assoc]
  simp [Cookie.pair, optional, listed]

theorem cookieText_eq_ok_iff :
    e.cookieText secure c = .ok text ↔ e.AdmitsParts c ∧ text = e.line secure c := by
  rw [line_eq, cookieText]
  simp only [bind_eq_ok_iff, FieldSanitizer.check_eq_ok_iff, attributeText_eq_ok_iff]
  constructor
  · rintro ⟨_, ⟨rfl, hname⟩, _, ⟨rfl, hvalue⟩, _, ⟨hdomain, rfl⟩, _, ⟨hpath, rfl⟩, htext⟩
    exact ⟨⟨hname, hvalue, hdomain, hpath⟩, (Except.ok.inj htext).symm⟩
  · rintro ⟨hparts, rfl⟩
    exact ⟨_, ⟨rfl, hparts.name⟩, _, ⟨rfl, hparts.value⟩, _, ⟨hparts.domain, rfl⟩, _, ⟨hparts.path, rfl⟩,
      rfl⟩

/-- The header is written if every part passes and then the whole line, and it holds that line. -/
theorem renderCookie_eq_ok_iff {h : Header} : e.renderCookie secure c = .ok h ↔
    e.AdmitsParts c ∧ e.cookieHeader.Admits (e.line secure c) ∧ h = ⟨"Set-Cookie", e.line secure c⟩ := by
  rw [renderCookie]
  simp only [bind_eq_ok_iff, cookieText_eq_ok_iff, FieldSanitizer.check_eq_ok_iff]
  constructor
  · rintro ⟨_, ⟨hparts, rfl⟩, _, ⟨rfl, hline⟩, hheader⟩
    exact ⟨hparts, hline, (Except.ok.inj hheader).symm⟩
  · rintro ⟨hparts, hline, rfl⟩
    exact ⟨_, ⟨hparts, rfl⟩, _, ⟨rfl, hline⟩, rfl⟩

example : (⟨{}, {}, by decide, by decide, by decide⟩ : Emitter).renderCookie true
      { name := "a", value := "b", maxAge := some (-5), path := some "/" } =
    .ok ⟨"Set-Cookie", "a=b; Max-Age=0; Path=/; Secure; HttpOnly; SameSite=Lax"⟩ := by
  rfl

/-! ## Characters of the line -/

theorem allows_of_mem_optional {rule : FieldRule} {label : String} {value : Option String}
    (heq : rule.allows '=' = true) (hlabel : ∀ ch ∈ label.toList, rule.allows ch = true)
    (hvalue : ∀ v, value = some v → ∀ ch ∈ v.toList, rule.allows ch = true) {a : List Char}
    (ha : a ∈ optional label value) {ch : Char} (hch : ch ∈ a) : rule.allows ch = true := by
  obtain ⟨v, hv, rfl⟩ := Option.map_eq_some_iff.mp (Option.mem_toList.mp ha)
  rcases List.mem_append.mp hch with hlab | hrest
  · exact hlabel ch hlab
  · rcases List.mem_cons.mp hrest with rfl | hval
    · exact heq
    · exact hvalue v hv ch hval

theorem allows_of_mem_toString {seconds : Int} (h : 0 ≤ seconds) {ch : Char}
    (hch : ch ∈ (toString seconds).toList) : FieldRule.cookieAttribute.allows ch = true := by
  obtain ⟨n, rfl⟩ := Int.eq_ofNat_of_zero_le h
  have hdigits : (toString (n : Int)).toList = Nat.toDigits 10 n := by
    show (toString n).toList = _
    simp [toString, Nat.repr]
  rw [hdigits] at hch
  have hdigit := Nat.isDigit_of_mem_toDigits (by decide) (by decide) hch
  obtain ⟨-, hhigh⟩ := Bool.and_eq_true_iff.mp hdigit
  have hascii : ch.toNat < 128 := Ascii.lt_of_le (of_decide_eq_true hhigh) (by decide)
  revert hdigit
  exact Ascii.forall_of_lt (P := fun d => d.isDigit = true → FieldRule.cookieAttribute.allows d = true)
    (by decide) hascii

/-- Every attribute keeps the rule for attributes: those with a value of the caller by the checks, and the
others hold fixed texts and digits. -/
theorem allows_of_mem_attributes (hparts : e.AdmitsParts c) {a : List Char}
    (ha : a ∈ e.attributes secure c) {ch : Char} (hch : ch ∈ a) :
    FieldRule.cookieAttribute.allows ch = true := by
  have hfixed : ∀ s : String, s ∈ ["Max-Age", "Domain", "Path", "Secure", "HttpOnly", "SameSite"] →
      s.toList.all (FieldRule.cookieAttribute.allows ·) = true := by decide
  have hsite : ∀ site : SameSite, site.name.toList.all (FieldRule.cookieAttribute.allows ·) = true := by
    intro site
    cases site <;> decide
  have hoptional : ∀ label ∈ ["Max-Age", "Domain", "Path", "Secure", "HttpOnly", "SameSite"], ∀ value,
      (∀ v, value = some v → ∀ ch ∈ v.toList, FieldRule.cookieAttribute.allows ch = true) →
        a ∈ optional label value → FieldRule.cookieAttribute.allows ch = true :=
    fun label hlabel value hvalue hmem =>
      allows_of_mem_optional (by decide) (List.all_eq_true.mp (hfixed label hlabel)) hvalue hmem hch
  unfold attributes at ha
  simp only [List.mem_append] at ha
  rcases ha with ((((hage | hdomain) | hpath) | hsecure) | honly) | hsame
  · refine hoptional _ (by decide) _ (fun v hv ch hch => ?_) hage
    obtain ⟨seconds, -, rfl⟩ := Option.map_eq_some_iff.mp hv
    exact allows_of_mem_toString (Int.le_max_right _ _) hch
  · exact hoptional _ (by decide) _ (fun v hv ch hch => ((hparts.domain v hv).allowed ch hch).1) hdomain
  · exact hoptional _ (by decide) _ (fun v hv ch hch => ((hparts.path v hv).allowed ch hch).1) hpath
  · cases secure with
    | false => exact absurd hsecure List.not_mem_nil
    | true =>
      obtain rfl := List.mem_singleton.mp hsecure
      exact List.all_eq_true.mp (hfixed _ (by decide)) ch hch
  · obtain rfl := List.mem_singleton.mp honly
    exact List.all_eq_true.mp (hfixed _ (by decide)) ch hch
  · refine hoptional _ (by decide) _ (fun v hv ch hch => ?_) hsame
    obtain rfl := Option.some.inj hv
    exact List.all_eq_true.mp (hsite _) ch hch

theorem isPrinting_of_mem_line (hparts : e.AdmitsParts c) {ch : Char}
    (hch : ch ∈ (e.line secure c).toList) : IsPrinting ch := by
  rw [line, String.toList_ofList] at hch
  rcases List.mem_append.mp hch with hpair | hlisted
  · rcases List.mem_append.mp hpair with hname | hrest
    · exact FieldRule.isPrinting_of_allows (hparts.name.allowed ch hname).1
    · rcases List.mem_cons.mp hrest with rfl | hvalue
      · exact .inr (by decide)
      · exact FieldRule.isPrinting_of_allows (hparts.value.allowed ch hvalue).1
  · obtain ⟨a, ha, hmem⟩ := List.mem_flatMap.mp hlisted
    rcases List.mem_cons.mp hmem with rfl | hmem
    · exact .inr (by decide)
    · rcases List.mem_cons.mp hmem with rfl | hmem
      · exact .inr (by decide)
      · exact FieldRule.isPrinting_of_allows (allows_of_mem_attributes hparts ha hmem)

/-- Once its parts pass, a line is refused only for its length or for what the settings forbid. -/
theorem admits_line_iff (hparts : e.AdmitsParts c) : e.cookieHeader.Admits (e.line secure c) ↔
    (e.line secure c).utf8ByteSize ≤ e.cookies.maxCookieLen ∧
      ∀ ch ∈ (e.line secure c).toList, ch ∉ e.headers.forbiddenValueChars.toList := by
  constructor
  · intro h
    exact ⟨h.short, fun ch hch => (h.allowed ch hch).2⟩
  · rintro ⟨hshort, hallowed⟩
    refine ⟨fun hempty => (nomatch hempty), hshort, fun ch hch => ⟨?_, hallowed ch hch⟩⟩
    exact FieldRule.allows_headerValue_iff.mpr (isPrinting_of_mem_line hparts hch)

/-! ## Pieces of the line -/

theorem semicolon_not_mem_pair (hparts : e.AdmitsParts c) : ';' ∉ c.pair := by
  rw [Cookie.pair, List.mem_append, List.mem_cons]
  rintro (hname | heq | hvalue)
  · exact hparts.name.not_mem (rfl : FieldRule.cookieName.allows ';' = false) hname
  · cases heq
  · exact hparts.value.not_mem (rfl : FieldRule.cookieValue.allows ';' = false) hvalue

/-- The line is cut at its first `;` into the cookie's name and value and the rest. -/
theorem takeWhile_line (hparts : e.AdmitsParts c) :
    (e.line secure c).toList.takeWhile (· != ';') = c.pair := by
  have hrest : (listed (e.attributes secure c)).takeWhile (· != ';') = [] := by
    cases e.attributes secure c with
    | nil => rfl
    | cons a l => rfl
  rw [line, String.toList_ofList,
    List.takeWhile_append_of_pos (Ascii.bne_of_not_mem (semicolon_not_mem_pair hparts)), hrest,
    List.append_nil]

/-- What stands behind a first piece is that piece and the others with a `;` between each two. -/
theorem append_listed (first : List Char) (l : List (List Char)) :
    first ++ listed l = [';'].intercalate (first :: l.map (' ' :: ·)) := by
  induction l generalizing first with
  | nil => simp [listed]
  | cons a l ih =>
    rw [List.map_cons, List.intercalate_cons_cons, ← ih]
    simp [listed]

/-- The line is cut at its `;` into the cookie's name and value and the attributes, each behind a
blank. -/
theorem splitOn_line (hparts : e.AdmitsParts c) :
    (e.line secure c).toList.splitOn ';' = c.pair :: (e.attributes secure c).map (' ' :: ·) := by
  rw [line, String.toList_ofList, append_listed]
  refine List.splitOn_intercalate ';' (fun piece hpiece hmem => ?_) (List.cons_ne_nil _ _)
  rcases List.mem_cons.mp hpiece with rfl | hattribute
  · exact semicolon_not_mem_pair hparts hmem
  · obtain ⟨a, ha, rfl⟩ := List.mem_map.mp hattribute
    rcases List.mem_cons.mp hmem with hblank | hmem
    · cases hblank
    · exact absurd (allows_of_mem_attributes hparts ha hmem) (by decide)

/-! ## Writing it -/

theorem emit_cookie_of_ok {x : Exchange} {h : Header} (hrender : e.renderCookie x.request.secure c = .ok h) :
    e.emit (.cookie c) x = (.ok (), x.mapResponse (Response.add h)) := by
  rw [emit, writes, hrender]
  rfl

theorem emit_cookie_of_error {x : Exchange} {err : Error}
    (hrender : e.renderCookie x.request.secure c = .error err) : e.emit (.cookie c) x = (.error err, x) := by
  rw [emit, writes, hrender]
  rfl

end Emitter

end HttpMediation
