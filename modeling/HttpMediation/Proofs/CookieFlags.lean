import HttpMediation.Proofs.SetCookie

/-!
# CookieFlags — cookies that scripts and plain connections do not get

* `Header.carries` : the attributes of a cookie's header line, found as a client finds them.
* `Emitter.isGuarded_of_renderCookie` : every cookie that is rendered is guarded.
* `World.exists_emission_of_step` : an operation changes an exchange as one emission does, or not at all.
* `World.cookies_are_guarded_unless_spelled_out` : after any operations a cookie without its guards is one
  that an operation spelled out as a plain header.
-/

namespace HttpMediation

/-! ## Attributes of a header line -/

namespace Header

/-- The line sets a cookie. -/
def IsCookie (h : Header) : Prop :=
  Text.sameName h.name "Set-Cookie" = true

/-- The names of the line's attributes: each piece behind the first `;` up to its first `=`, without the
blanks around it. -/
def attributeNames (h : Header) : List String :=
  (h.value.toList.splitOn ';').tail.map fun piece =>
    Text.trimBlank (String.ofList (piece.takeWhile (· != '=')))

/-- The line has an attribute of that name, letter case aside. -/
def carries (h : Header) (label : String) : Bool :=
  h.attributeNames.any (Text.sameName label)

/-- Scripts do not get the cookie, and if it was set over TLS then plain connections do not either. -/
structure IsGuarded (tls : Bool) (h : Header) : Prop where
  httpOnly : h.carries "HttpOnly" = true
  secure : tls = true → h.carries "Secure" = true

end Header

/-- Every cookie that the response sets is guarded. -/
def Response.GuardsCookies (tls : Bool) (r : Response) : Prop :=
  ∀ h ∈ r.headers, h.IsCookie → h.IsGuarded tls

namespace Emitter

variable {e : Emitter} {secure : Bool} {c : Cookie} {h : Header}

/-! ## Rendered cookies -/

theorem carries_line (hparts : e.AdmitsParts c) {label : String}
    (hlabel : label.toList ∈ e.attributes secure c)
    (hname : Text.trimBlank (String.ofList ((' ' :: label.toList).takeWhile (· != '='))) = label)
    (name : String) : Header.carries ⟨name, e.line secure c⟩ label = true := by
  unfold Header.carries Header.attributeNames
  rw [splitOn_line hparts, List.tail_cons, List.any_eq_true]
  refine ⟨label, ?_, beq_self_eq_true _⟩
  rw [List.mem_map]
  exact ⟨' ' :: label.toList, List.mem_map_of_mem hlabel, hname⟩

/-- A cookie cannot be rendered without its guards, whatever its parts are. -/
theorem isGuarded_of_renderCookie (hrender : e.renderCookie secure c = .ok h) : h.IsGuarded secure := by
  obtain ⟨hparts, -, rfl⟩ := renderCookie_eq_ok_iff.mp hrender
  have honly : "HttpOnly".toList ∈ e.attributes secure c :=
    List.mem_append_left _ (List.mem_append_right _ (List.mem_singleton_self _))
  refine ⟨carries_line hparts honly (by decide) _, ?_⟩
  rintro rfl
  have hsecure : "Secure".toList ∈ e.attributes true c :=
    List.mem_append_left _ (List.mem_append_left _ (List.mem_append_right _ (List.mem_singleton_self _)))
  exact carries_line hparts hsecure (by decide) _

theorem not_isCookie_of_own (hname : h.name ∈ ownNames) : ¬ h.IsCookie := by
  have hown : ∀ name ∈ ownNames, ¬ Text.sameName name "Set-Cookie" = true := by
    simp only [Ascii.sameName_iff]
    decide
  exact hown h.name hname

/-! ## Emissions -/

/-- What an emission spells out and the emitter lets through stands in the response afterwards. -/
theorem mem_of_spelled {m : Emission} (hspelled : m.spelled? = some h)
    (hverify : e.verifyHeader h.name h.value = .ok h) (x : Exchange) :
    h ∈ (e.emit m x).2.response.headers := by
  unfold emit
  cases m with
  | addHeader name value =>
    obtain rfl := Option.some.inj hspelled
    rw [writes, hverify]
    exact List.mem_append_right _ List.mem_cons_self
  | setHeader name value =>
    obtain rfl := Option.some.inj hspelled
    rw [writes, hverify]
    exact List.mem_append_right _ List.mem_cons_self
  | cookie _ | noCache | contentType | killCookie _ | killAll => cases hspelled

/-- A cookie that stands in the response after an emission stood there before, or it is guarded, or the
emission spelled it out. -/
theorem guarded_of_emit {m : Emission} {x : Exchange} (hh : h ∈ (e.emit m x).2.response.headers)
    (hcookie : h.IsCookie) : h ∈ x.response.headers ∨ h.IsGuarded x.request.secure ∨
      (m.spelled? = some h ∧ e.verifyHeader h.name h.value = .ok h) := by
  unfold emit Exchange.write at hh
  split at hh
  · rename_i ws hws
    rcases Response.mem_writeAll hh with hold | ⟨w, hw, rfl⟩
    · exact .inl hold
    · right
      cases origin_of_writes hws hw with
      | rendered c hrender => exact .inl (isGuarded_of_renderCookie hrender)
      | spelled hspelled hverify => exact .inr ⟨hspelled, hverify⟩
      | own hname _ => exact absurd hcookie (not_isCookie_of_own hname)
  · exact .inl hh

end Emitter

/-! ## Operations -/

/-- The header that an operation spells out. -/
def Operation.spelled? : Operation → Option Header
  | .emit m => m.spelled?
  | _ => none

/-- The operation spells the header out, and the emitter lets it through. -/
def Emitter.Spells (e : Emitter) (op : Operation) (h : Header) : Prop :=
  op.spelled? = some h ∧ e.verifyHeader h.name h.value = .ok h

namespace World

variable {σ : Type} (answer : StoreCall → σ → StoreAnswer × σ) (e : Emitter)

/-- One operation changes the exchange as an emission does that spells out the same, or not at all. -/
theorem exists_emission_of_step (w : World σ) (op : Operation) :
    (w.step answer e op).2.exchange = w.exchange ∨
      ∃ m, m.spelled? = op.spelled? ∧ (w.step answer e op).2.exchange = (e.emit m w.exchange).2 := by
  cases op with
  | emit m => exact .inr ⟨m, rfl, rfl⟩
  | stateCookie codec state =>
    cases e.setsCookie_encryptCookie codec state w.exchange w.random with
    | refused err hout => exact .inl (congrArg Prod.snd hout)
    | emitted c _ hexchange => exact .inr ⟨.cookie c, rfl, hexchange⟩
  | changeSession rotator =>
    cases (e.always_setsCookie_change rotator w.exchange).run answer w.store w.random with
    | refused err hout => exact .inl (congrArg Prod.snd hout)
    | emitted c _ hexchange => exact .inr ⟨.cookie c, rfl, hexchange⟩

theorem guarded_of_step {w : World σ} {op : Operation} {h : Header}
    (hh : h ∈ (w.step answer e op).2.exchange.response.headers) (hcookie : h.IsCookie) :
    h ∈ w.exchange.response.headers ∨ h.IsGuarded w.exchange.request.secure ∨ e.Spells op h := by
  rcases w.exists_emission_of_step answer e op with hsame | ⟨m, hspelled, hemit⟩
  · rw [hsame] at hh
    exact .inl hh
  · rw [hemit] at hh
    unfold Emitter.Spells
    rw [← hspelled]
    exact Emitter.guarded_of_emit hh hcookie

theorem mem_of_spells (w : World σ) {op : Operation} {h : Header} (hspells : e.Spells op h) :
    h ∈ (w.step answer e op).2.exchange.response.headers := by
  obtain ⟨hspelled, hverify⟩ := hspells
  cases op with
  | emit m => exact Emitter.mem_of_spelled hspelled hverify w.exchange
  | stateCookie _ _ | changeSession _ => cases hspelled

theorem secure_step (w : World σ) (op : Operation) :
    (w.step answer e op).2.exchange.request.secure = w.exchange.request.secure := by
  rw [(w.transacts_step answer e op).grown.request]

/-! ## Runs -/

theorem run_append (w : World σ) (first rest : List Operation) :
    w.run answer e (first ++ rest) = (w.run answer e first).run answer e rest :=
  List.foldl_append

/-- A cookie that stands in the response after some operations stood there before, or it is guarded, or
one of the operations spelled it out. -/
theorem guarded_of_run {w : World σ} {ops : List Operation} {h : Header}
    (hh : h ∈ (w.run answer e ops).exchange.response.headers) (hcookie : h.IsCookie) :
    h ∈ w.exchange.response.headers ∨ h.IsGuarded w.exchange.request.secure ∨
      ∃ op ∈ ops, e.Spells op h := by
  induction ops generalizing w with
  | nil => exact .inl hh
  | cons op ops ih =>
    rcases ih hh with hstep | hguarded | ⟨later, hlater, hspells⟩
    · rcases w.guarded_of_step answer e hstep hcookie with hold | hguarded | hspells
      · exact .inl hold
      · exact .inr (.inl hguarded)
      · exact .inr (.inr ⟨op, List.mem_cons_self, hspells⟩)
    · rw [secure_step] at hguarded
      exact .inr (.inl hguarded)
    · exact .inr (.inr ⟨later, List.mem_cons_of_mem _ hlater, hspells⟩)

/-- From a response whose cookies are guarded, any operations lead to one where each cookie is guarded or
was spelled out as a plain header, which the emitter lets through like any other.  So the cookies are
guarded after every operation exactly if no operation spells out one that is not. -/
theorem cookies_are_guarded_unless_spelled_out {w : World σ}
    (hstart : w.exchange.response.GuardsCookies w.exchange.request.secure) (ops : List Operation) :
    (∀ h ∈ (w.run answer e ops).exchange.response.headers, h.IsCookie →
      h.IsGuarded w.exchange.request.secure ∨ ∃ op ∈ ops, e.Spells op h) ∧
      ((∀ done, done <+: ops →
          (w.run answer e done).exchange.response.GuardsCookies w.exchange.request.secure) ↔
        ∀ op ∈ ops, ∀ h, e.Spells op h → h.IsCookie → h.IsGuarded w.exchange.request.secure) := by
  have hrun : ∀ done h, h ∈ (w.run answer e done).exchange.response.headers → h.IsCookie →
      h.IsGuarded w.exchange.request.secure ∨ ∃ op ∈ done, e.Spells op h := by
    intro done h hh hcookie
    rcases w.guarded_of_run answer e hh hcookie with hold | hguarded | hspells
    · exact .inl (hstart h hold hcookie)
    · exact .inl hguarded
    · exact .inr hspells
  refine ⟨hrun ops, ?_, ?_⟩
  · -- the header stands in the response right after the operation that spells it out
    intro hguards op hop h hspells hcookie
    obtain ⟨before, after, rfl⟩ := List.append_of_mem hop
    have hdone : before ++ [op] <+: before ++ op :: after := ⟨after, by simp⟩
    refine hguards _ hdone h ?_ hcookie
    rw [run_append]
    exact mem_of_spells answer e _ hspells
  · intro hspelled done hdone h hh hcookie
    rcases hrun done h hh hcookie with hguarded | ⟨op, hop, hspells⟩
    · exact hguarded
    · exact hspelled op (hdone.subset hop) h hspells hcookie

/-- The start of an exchange over TLS. -/
def freshSecure : World Sessions :=
  { exchange := { id := "", request := { secure := true } }, store := .empty, random := .counting 0 }

/-- A cookie is set and a header written, and both guards are there. -/
theorem cookie_is_guarded_beside_header :
    ∃ e, Emitter.new {} {} = .ok e ∧
      let ops : List Operation := [.emit (.cookie { name := "a", value := "b" }), .emit (.setHeader "X-A" "1")]
      (freshSecure.run Sessions.answer e ops).exchange.response.headers.length = 2 ∧
        (freshSecure.run Sessions.answer e ops).exchange.response.GuardsCookies true := by
  refine ⟨⟨{}, {}, by decide, by decide, by decide⟩, rfl, ?_⟩
  intro ops
  have hstart : freshSecure.exchange.response.GuardsCookies true := fun h hh => absurd hh List.not_mem_nil
  have hspelled : ∀ op ∈ ops, ∀ h, op.spelled? = some h → ¬ h.IsCookie := by
    intro op hop h hspelled
    rcases List.mem_cons.mp hop with rfl | hop
    · cases hspelled
    · obtain rfl := List.mem_singleton.mp hop
      obtain rfl := Option.some.inj hspelled
      unfold Header.IsCookie
      rw [Ascii.sameName_iff]
      decide
  have hrun := cookies_are_guarded_unless_spelled_out Sessions.answer
    ⟨{}, {}, by decide, by decide, by decide⟩ hstart ops
  refine ⟨by decide +kernel, hrun.2.mpr (fun op hop h hspells hcookie => ?_) ops (List.prefix_refl _)⟩
  exact absurd hcookie (hspelled op hop h hspells.1)

/-- A session's cookie is written as a plain header, in other letters, and has neither guard. -/
theorem spelled_cookie_is_unguarded :
    ∃ e, Emitter.new {} {} = .ok e ∧
      ∃ h ∈ (freshSecure.run Sessions.answer e
          [.emit (.addHeader "set-cookie" "SESSIONID=1; Path=/")]).exchange.response.headers,
        h.IsCookie ∧ h.carries "HttpOnly" = false ∧ h.carries "Secure" = false := by
  have hcookie : Text.sameName "set-cookie" "Set-Cookie" = true := Ascii.sameName_iff.mpr (by decide)
  refine ⟨⟨{}, {}, by decide, by decide, by decide⟩, rfl, ⟨"set-cookie", "SESSIONID=1; Path=/"⟩, ?_, hcookie, ?_⟩
  · exact List.mem_singleton_self _
  · decide +kernel

end World

end HttpMediation
