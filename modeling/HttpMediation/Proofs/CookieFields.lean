import HttpMediation.Proofs.SetCookie
import HttpMediation.Proofs.Visible

/-!
# CookieFields — the line of a cookie, read back

The parts of a cookie are checked one by one and put into one line.  A client takes the line apart at its
semicolons and equals signs.

* `Header.fields` : what a client finds in a line.
* `Cookie.fields` : what the cookie says.
* `Header.field_fieldText` : a field that is written is read back.
* `Emitter.fields_line` : the line of a cookie, read back.
* `Emitter.rendered_fields_are_those_of_cookie` : no cookie puts more or other fields into its line.
-/

namespace HttpMediation

/-! ## Trimming -/

namespace Text

variable {drop : Char → Bool} {s : List Char}

theorem trim_cons {c : Char} (hc : drop c = true) : trim drop (c :: s) = trim drop s := by
  unfold trim
  rw [List.dropWhile_cons_of_pos hc]

theorem trim_of_forall (h : ∀ c ∈ s, drop c = false) : trim drop s = s := by
  have hkeep : ∀ t : List Char, (∀ c ∈ t, drop c = false) → t.dropWhile drop = t := by
    intro t ht
    cases t with
    | nil => rfl
    | cons c t => exact List.dropWhile_cons_of_neg (by simp [ht c List.mem_cons_self])
  unfold trim trimEnd
  rw [hkeep s h, hkeep s.reverse fun c hc => h c (List.mem_reverse.mp hc), List.reverse_reverse]

end Text

/-! ## Fields -/

namespace Header

/-- A piece of a line without the blanks around it, cut at its first `=`, if it has one. -/
def field (piece : List Char) : String × Option String :=
  let (name, rest) := Text.cutAt (· == '=') (Text.trim Text.isBlank piece)
  (String.ofList name, rest.tail?.map String.ofList)

/-- The fields of a line, which stand between its semicolons. -/
def fields (h : Header) : List (String × Option String) :=
  (h.value.toList.splitOn ';').map field

/-- A field as it is written. -/
def fieldText : String × Option String → List Char
  | (name, none) => name.toList
  | (name, some value) => name.toList ++ '=' :: value.toList

theorem field_blank (piece : List Char) : field (' ' :: piece) = field piece := by
  unfold field
  rw [Text.trim_cons (by decide)]

/-- A field that is written is read back, if it holds no blank and its name no `=`. -/
theorem field_fieldText {f : String × Option String} (hname : '=' ∉ f.1.toList)
    (hblank : ∀ c ∈ fieldText f, Text.isBlank c = false) : field (fieldText f) = f := by
  have hkeep : ∀ c ∈ f.1.toList, (c == '=') = false := fun c hc =>
    beq_eq_false_iff_ne.mpr fun heq => hname (heq ▸ hc)
  unfold field
  rw [Text.trim_of_forall hblank]
  match f with
  | (name, none) =>
    have hcut : Text.cutAt (· == '=') name.toList = (name.toList, []) := Text.cutAt_of_forall hkeep
    simp [fieldText, hcut]
  | (name, some value) =>
    have hcut : Text.cutAt (· == '=') (name.toList ++ '=' :: value.toList) =
        (name.toList, '=' :: value.toList) := Text.cutAt_of_head hkeep (by simp)
    simp [fieldText, hcut]

end Header

namespace Cookie

/-- A field that the line has if the cookie says something about it. -/
def given (label : String) (value : Option String) : List (String × Option String) :=
  (value.map fun v => (label, some v)).toList

/-- The fields behind the name and the value. -/
def attributeFields (c : Cookie) (secure : Bool) (site : SameSite) : List (String × Option String) :=
  given "Max-Age" (c.maxAge.map fun seconds => toString (max seconds 0)) ++ given "Domain" c.domain ++
    given "Path" c.path ++ (if secure then [("Secure", none)] else []) ++
    [("HttpOnly", none), ("SameSite", some site.name)]

/-- What a line says that sets the cookie and nothing else: its name and value, its lifetime, domain and path
if it has them, and the guards that it does not choose itself. -/
def fields (c : Cookie) (secure : Bool) (site : SameSite) : List (String × Option String) :=
  (c.name, some c.value) :: c.attributeFields secure site

theorem map_given (label : String) (value : Option String) :
    (given label value).map Header.fieldText = Emitter.optional label value := by
  cases value with
  | none => rfl
  | some v => rfl

/-- The labels of all fields are fixed texts. -/
theorem label_of_mem_attributeFields {c : Cookie} {secure : Bool} {site : SameSite}
    {f : String × Option String} (hf : f ∈ c.attributeFields secure site) :
    f.1 ∈ ["Max-Age", "Domain", "Path", "Secure", "HttpOnly", "SameSite"] := by
  have hgiven : ∀ {label value}, f ∈ given label value → f.1 = label := by
    intro label value hmem
    obtain ⟨v, -, rfl⟩ := Option.map_eq_some_iff.mp (Option.mem_toList.mp hmem)
    rfl
  unfold attributeFields at hf
  simp only [List.mem_append, or_assoc] at hf
  rcases hf with hage | hdomain | hpath | hsecure | hrest
  · rw [hgiven hage]
    decide
  · rw [hgiven hdomain]
    decide
  · rw [hgiven hpath]
    decide
  · cases secure with
    | false => exact absurd hsecure List.not_mem_nil
    | true =>
      obtain rfl := List.mem_singleton.mp hsecure
      decide
  · rcases List.mem_cons.mp hrest with rfl | hsame
    · decide
    · obtain rfl := List.mem_singleton.mp hsame
      simp

end Cookie

/-! ## Lines of cookies -/

namespace FieldRule

/-- Names, values and attributes of cookies consist of visible characters. -/
theorem isVisible_of_allows {rule : FieldRule} {c : Char} (hrule : rule ≠ .headerValue)
    (h : rule.allows c = true) : IsVisible c := by
  have hblank : rule.allows '\t' = false ∧ rule.allows ' ' = false := by
    revert hrule
    cases rule <;> decide
  rcases isPrinting_of_allows h with rfl | ⟨hlow, hhigh⟩
  · rw [hblank.1] at h
    cases h
  · have hspace : c.toNat ≠ 0x20 := by
      intro heq
      obtain rfl : c = ' ' := Char.toNat_inj.mp heq
      rw [hblank.2] at h
      cases h
    exact ⟨by omega, hhigh⟩

end FieldRule

namespace Emitter

variable {e : Emitter} {secure : Bool} {c : Cookie} {h : Header}

theorem map_attributeFields (e : Emitter) (secure : Bool) (c : Cookie) :
    (c.attributeFields secure e.cookies.sameSite).map Header.fieldText = e.attributes secure c := by
  have hsecure : (if secure then [("Secure", none)] else []).map Header.fieldText =
      if secure then ["Secure".toList] else [] := by
    cases secure <;> rfl
  unfold Cookie.attributeFields attributes
  simp only [List.map_append, Cookie.map_given, hsecure, List.append_assoc]
  rfl

theorem visible_pair (hparts : e.AdmitsParts c) : Visible c.pair := by
  intro ch hch
  rcases List.mem_append.mp hch with hname | hrest
  · have hallowed := (hparts.name.allowed ch hname).1
    exact FieldRule.isVisible_of_allows (show FieldRule.cookieName ≠ _ by decide) hallowed
  · rcases List.mem_cons.mp hrest with rfl | hvalue
    · decide
    · have hallowed := (hparts.value.allowed ch hvalue).1
      exact FieldRule.isVisible_of_allows (show FieldRule.cookieValue ≠ _ by decide) hallowed

/-- The line of a cookie whose parts pass is read back field by field. -/
theorem fields_line (hparts : e.AdmitsParts c) (name : String) :
    Header.fields ⟨name, e.line secure c⟩ = c.fields secure e.cookies.sameSite := by
  have hpair : Header.field c.pair = (c.name, some c.value) := by
    refine Header.field_fieldText (f := (c.name, some c.value)) ?_ fun ch hch => ?_
    · exact hparts.name.not_mem (rfl : FieldRule.cookieName.allows '=' = false)
    · exact (visible_pair hparts ch hch).safe.2
  have hattribute : ∀ f ∈ c.attributeFields secure e.cookies.sameSite,
      Header.field (' ' :: Header.fieldText f) = f := by
    intro f hf
    have hlabel : ∀ label ∈ ["Max-Age", "Domain", "Path", "Secure", "HttpOnly", "SameSite"],
        '=' ∉ label.toList := by decide
    have htext : Header.fieldText f ∈ e.attributes secure c := by
      rw [← map_attributeFields]
      exact List.mem_map_of_mem hf
    rw [Header.field_blank]
    refine Header.field_fieldText (hlabel _ (Cookie.label_of_mem_attributeFields hf)) fun ch hch => ?_
    exact (FieldRule.isVisible_of_allows (by decide) (allows_of_mem_attributes hparts htext hch)).safe.2
  unfold Header.fields
  rw [splitOn_line hparts, List.map_cons, hpair, ← map_attributeFields, List.map_map, List.map_map]
  rw [List.map_congr_left (f := _ ∘ _) (g := id) hattribute, List.map_id]
  rfl

/-- Whatever the parts of a cookie are, if they are let through then a client finds in the line the cookie's
name and value, then what the cookie says about its lifetime, its domain and its path, then `Secure` if the
line is for TLS, `HttpOnly` and the configured `SameSite`, and nothing else. -/
theorem rendered_fields_are_those_of_cookie (hrender : e.renderCookie secure c = .ok h) :
    h.name = "Set-Cookie" ∧ h.fields = c.fields secure e.cookies.sameSite := by
  obtain ⟨hparts, -, rfl⟩ := renderCookie_eq_ok_iff.mp hrender
  exact ⟨rfl, fields_line hparts _⟩

/-- A cookie with all its parts, over TLS: a negative lifetime is written as none, and what looks like further
fields stays in the value. -/
theorem fields_of_full_cookie :
    ∃ h, (⟨{}, {}, by decide, by decide, by decide⟩ : Emitter).renderCookie true
        { name := "a", value := "b=c&Secure", maxAge := some (-5), domain := some "x.org", path := some "/=" } =
          .ok h ∧
      h.name = "Set-Cookie" ∧
      h.fields = [("a", some "b=c&Secure"), ("Max-Age", some "0"), ("Domain", some "x.org"), ("Path", some "/="),
        ("Secure", none), ("HttpOnly", none), ("SameSite", some "Lax")] := by
  have hrender : (⟨{}, {}, by decide, by decide, by decide⟩ : Emitter).renderCookie true
      { name := "a", value := "b=c&Secure", maxAge := some (-5), domain := some "x.org", path := some "/=" } =
        .ok ⟨"Set-Cookie", "a=b=c&Secure; Max-Age=0; Domain=x.org; Path=/=; Secure; HttpOnly; SameSite=Lax"⟩ :=
    rfl
  exact ⟨_, hrender, rendered_fields_are_those_of_cookie hrender⟩

end Emitter

end HttpMediation
