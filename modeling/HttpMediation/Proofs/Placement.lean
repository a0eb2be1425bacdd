import HttpMediation.Proofs.Destination
import HttpMediation.Proofs.Embedding
import HttpMediation.RequestLog

/-!
# Placement — where the parts of a URL text are

A URL text has a path, a query behind its first `?` and a fragment behind its first `#`; a `?` in the fragment
begins no query.  Tokens, log lines and redirects go by these parts.  The parameters of a request go by the
first `?` wherever it is, so that they can come from the fragment.

* `UrlParts` : the parts of a text, which are determined by it (`UrlParts.isCut_iff`).
* `UrlParts.toList_embed`, `UrlParts.exists_of_resolve` : tokens and locations by parts.
* `Request.queryOf_text` : what is read as the query.
* `Request.query_is_read_in_its_place_unless_in_fragment` : all readers of a URL text compared.
-/

namespace HttpMediation

/-- The parts of a URL text.  What is missing is not the same as what is empty. -/
structure UrlParts where
  path : List Char
  query : Option (List Char)
  fragment : Option (List Char)
  deriving DecidableEq

namespace UrlParts

/-- A part that may be missing, with the mark in front of it. -/
def marked (mark : Char) : Option (List Char) → List Char
  | none => []
  | some part => mark :: part

/-- What stands behind the path. -/
def tail (p : UrlParts) : List Char :=
  marked '?' p.query ++ marked '#' p.fragment

/-- The text that has these parts. -/
def text (p : UrlParts) : List Char :=
  p.path ++ p.tail

/-- No part holds a mark that would end it. -/
structure IsCut (p : UrlParts) : Prop where
  path : ∀ c ∈ p.path, c ≠ '?' ∧ c ≠ '#'
  query : ∀ q ∈ p.query, '#' ∉ q

/-- What stands behind the first mark of a text. -/
def behind (mark : Char) (s : List Char) : Option (List Char) :=
  match s.dropWhile (· != mark) with
  | [] => none
  | _ :: rest => some rest

/-- The parts of a text: it is cut at its first `#`, and what is before that at its first `?`. -/
def of (url : List Char) : UrlParts :=
  let front := url.takeWhile (· != '#')
  ⟨front.takeWhile (· != '?'), behind '?' front, behind '#' url⟩

/-- The parameters that stand in the query. -/
def parameters (p : UrlParts) : List (String × String) :=
  (p.query.map Form.decode).getD []

/-- The parts with one more piece behind the query. -/
def withPiece (p : UrlParts) (piece : List Char) : UrlParts :=
  let query := p.query.getD []
  { p with query := some (query ++ TokenManager.joint query ++ piece) }

/-! ## Texts and their parts -/

theorem takeWhile_append_marked (mark : Char) (s : List Char) :
    s.takeWhile (· != mark) ++ marked mark (behind mark s) = s := by
  have hcut : s.takeWhile (· != mark) ++ s.dropWhile (· != mark) = s := List.takeWhile_append_dropWhile
  unfold behind
  split
  · rename_i hnone
    rwa [hnone] at hcut
  · rename_i c rest hrest
    have hhead := List.head?_dropWhile_not (· != mark) s
    rw [hrest] at hhead hcut
    obtain rfl : c = mark := by simpa using hhead
    exact hcut

theorem isCut_of (url : List Char) : (of url).IsCut := by
  have hfront : ∀ c ∈ url.takeWhile (· != '#'), c ≠ '#' := fun c hc => by
    simpa using List.mem_takeWhile_imp hc
  have hsplit := takeWhile_append_marked '?' (url.takeWhile (· != '#'))
  refine ⟨fun c hc => ⟨by simpa using List.mem_takeWhile_imp hc, ?_⟩, fun q hq hmem => ?_⟩
  · exact hfront c ((List.takeWhile_prefix _).subset hc)
  · rw [show behind '?' (url.takeWhile (· != '#')) = some q from hq] at hsplit
    refine hfront '#' ?_ rfl
    rw [← hsplit]
    exact List.mem_append_right _ (List.mem_cons_of_mem _ hmem)

theorem text_of (url : List Char) : (of url).text = url := by
  unfold text tail of
  dsimp only
  rw [← List.append_assoc, takeWhile_append_marked, takeWhile_append_marked]

section Marks

variable {mark : Char} {s : List Char}

/-- What is read up to a mark ends where the mark stands. -/
theorem takeWhile_marked (h : mark ∉ s) (part : Option (List Char)) :
    (s ++ marked mark part).takeWhile (· != mark) = s := by
  rw [List.takeWhile_append_of_pos (Ascii.bne_of_not_mem h)]
  cases part <;> simp [marked]

theorem dropWhile_marked (h : mark ∉ s) (part : Option (List Char)) :
    (s ++ marked mark part).dropWhile (· != mark) = marked mark part := by
  rw [List.dropWhile_append_of_pos (Ascii.bne_of_not_mem h)]
  cases part <;> simp [marked]

theorem behind_marked (h : mark ∉ s) (part : Option (List Char)) :
    behind mark (s ++ marked mark part) = part := by
  unfold behind
  rw [dropWhile_marked h]
  cases part <;> rfl

end Marks

variable {p : UrlParts}

namespace IsCut

variable (h : p.IsCut)
include h

theorem mark_not_mem_path : '?' ∉ p.path := fun hmem => (h.path _ hmem).1 rfl

/-- In front of the fragment there is no `#`. -/
theorem hash_not_mem_front : '#' ∉ p.path ++ marked '?' p.query := by
  rw [List.mem_append, not_or]
  refine ⟨fun hmem => (h.path _ hmem).2 rfl, ?_⟩
  cases hq : p.query with
  | none => exact List.not_mem_nil
  | some q => exact List.not_mem_cons_of_ne_of_not_mem (by decide) (h.query q hq)

theorem takeWhile_text : p.text.takeWhile (· != '#') = p.path ++ marked '?' p.query := by
  rw [text, tail, ← List.append_assoc]
  exact takeWhile_marked h.hash_not_mem_front p.fragment

theorem dropWhile_text : p.text.dropWhile (· != '#') = marked '#' p.fragment := by
  rw [text, tail, ← List.append_assoc]
  exact dropWhile_marked h.hash_not_mem_front p.fragment

/-- A text has only these parts. -/
theorem eq_of_text : of p.text = p := by
  unfold of
  dsimp only
  rw [h.takeWhile_text, takeWhile_marked h.mark_not_mem_path, behind_marked h.mark_not_mem_path]
  rw [text, tail, ← List.append_assoc, behind_marked h.hash_not_mem_front]

end IsCut

/-- The parts of a text are determined by the text. -/
theorem isCut_iff {url : List Char} : p.IsCut ∧ p.text = url ↔ p = of url := by
  constructor
  · rintro ⟨hcut, rfl⟩
    exact hcut.eq_of_text.symm
  · rintro rfl
    exact ⟨isCut_of url, text_of url⟩

/-! ## Paths, tokens and locations -/

theorem head?_tail {c : Char} (hc : c ∈ p.tail.head?) : c = '?' ∨ c = '#' := by
  unfold tail at hc
  cases hq : p.query with
  | some q =>
    rw [hq] at hc
    exact .inl (Option.some.inj hc).symm
  | none =>
    rw [hq] at hc
    cases hf : p.fragment with
    | some f =>
      rw [hf] at hc
      exact .inr (Option.some.inj hc).symm
    | none =>
      rw [hf] at hc
      cases hc

theorem IsCut.cutAt_text (h : p.IsCut) :
    Text.cutAt (fun c => c == '?' || c == '#') p.text = (p.path, p.tail) := by
  refine Text.cutAt_of_head (fun c hc => ?_) fun c hc => ?_
  · simpa using h.path c hc
  · simpa using head?_tail hc

theorem IsCut.pathOf_text (h : p.IsCut) : Request.pathOf p.text = p.path :=
  Request.pathOf_append h.path fun _ hc => head?_tail hc

/-- A token comes behind the query, or makes one if there is none, and in front of the fragment. -/
theorem IsCut.toList_embed (h : p.IsCut) {url : String} (htext : p.text = url.toList) (m : TokenManager)
    (token : Token) : (m.embed url token).toList = (p.withPiece (m.piece token)).text := by
  rw [TokenManager.embed_eq, ← htext, h.takeWhile_text, h.dropWhile_text]
  unfold withPiece text tail
  cases hq : p.query with
  | none =>
    rw [marked, List.append_nil, TokenManager.separator_of_not_mem h.mark_not_mem_path]
    simp [marked, TokenManager.joint]
  | some q =>
    rw [marked, TokenManager.separator_of_query]
    simp [marked]

/-- A location that begins with a slash is compared by its path, and the rest is carried along. -/
theorem IsCut.exists_of_resolve (h : p.IsCut) {location : String} (htext : p.text = location.toList)
    {t : Target} (hslash : location.toList.head? = some '/') (ht : Target.resolve? location = some t) :
    ∃ decoded q, Path.decodeFully p.path = some decoded ∧ Path.normalize decoded = some q ∧
      t = .relative q p.tail := by
  obtain ⟨-, -, ⟨-, ht⟩ | ⟨hne, -⟩⟩ := Target.resolve?_eq_some_iff.mp ht
  · obtain ⟨decoded, q, hdecoded, -, -, hq, rfl⟩ := Target.resolveRelative?_eq_some_iff.mp ht
    rw [← htext, h.cutAt_text] at hdecoded
    refine ⟨decoded, q, hdecoded, hq, ?_⟩
    rw [← htext, h.cutAt_text]
  · exact absurd hslash hne

end UrlParts

/-! ## Parameters -/

namespace Request

variable {p : UrlParts}

/-- What is read as the query of a text without a query is looked for in the fragment. -/
theorem queryOf_text (h : p.IsCut) :
    queryOf p.text = p.query.getD (queryOf (p.fragment.getD [])) := by
  unfold UrlParts.text UrlParts.tail
  have hfragment : (UrlParts.marked '#' p.fragment).takeWhile (· != '#') = [] := by
    cases p.fragment <;> simp [UrlParts.marked]
  cases hq : p.query with
  | some q =>
    rw [← List.append_assoc]
    exact queryOf_split h.mark_not_mem_path (h.query q hq) hfragment
  | none =>
    show queryOf (p.path ++ UrlParts.marked '#' p.fragment) = queryOf (p.fragment.getD [])
    unfold queryOf
    rw [List.dropWhile_append_of_pos (Ascii.bne_of_not_mem h.mark_not_mem_path)]
    cases p.fragment with
    | none => rfl
    | some f =>
      show (((('#' :: f).dropWhile _).drop 1).takeWhile _) = _
      rw [List.dropWhile_cons_of_pos (by decide)]
      rfl

theorem parameters_eq (r : Request) : r.parameters =
    Form.decode ((UrlParts.of r.url.toList).query.getD
      (queryOf ((UrlParts.of r.url.toList).fragment.getD []))) ++ r.form := by
  obtain ⟨hcut, htext⟩ := UrlParts.isCut_iff.mpr (Eq.refl (UrlParts.of r.url.toList))
  rw [parameters, ← queryOf_text hcut, htext]

/-- The parameters of the URL are those of its query, unless they come from its fragment. -/
theorem parameters_eq_iff (r : Request) :
    r.parameters = (UrlParts.of r.url.toList).parameters ++ r.form ↔
      (UrlParts.of r.url.toList).query.isSome = true ∨
        ∀ c ∈ queryOf ((UrlParts.of r.url.toList).fragment.getD []), c = '&' := by
  rw [parameters_eq, List.append_cancel_right_eq, UrlParts.parameters]
  cases (UrlParts.of r.url.toList).query with
  | some q => exact iff_of_true rfl (.inl rfl)
  | none =>
    rw [Option.getD_none, Option.map_none, Option.getD_none, Form.decode_eq_nil_iff, or_iff_right]
    exact Bool.false_ne_true

/-- A URL text has one path, one query and one fragment, if any: no `?` or `#` is in the path and no `#` in the
query.  Embedding a token puts it behind the query and in front of the fragment, a log line shows the path and
nothing behind it, and a redirect is compared by the path and carries the rest along.  The parameters of a
request are read from the query if the text has one.  If it has none, what the fragment has between its first
`?` and its next `#` is read instead: so they are the parameters of the query exactly if there is a query or
nothing but `&` there. -/
theorem query_is_read_in_its_place_unless_in_fragment (r : Request) :
    let p := UrlParts.of r.url.toList
    (∀ q : UrlParts, q.IsCut ∧ q.text = r.url.toList ↔ q = p) ∧
      (∀ (m : TokenManager) (token : Token),
        (m.embed r.url token).toList = (p.withPiece (m.piece token)).text) ∧
      (∀ (l : RequestLogger) (policy : ParameterPolicy) (x : Exchange), x.request = r →
        l.line policy x = neutralize l.maxValueLen r.remoteAddr ++ " " ++ r.method.name ++ " " ++
          neutralize l.maxValueLen (String.ofList p.path) ++ " [" ++
          ", ".intercalate ((RequestLogger.byName r.parameters).map (l.entry policy)) ++ "]") ∧
      (∀ t, r.url.toList.head? = some '/' → Target.resolve? r.url = some t →
        ∃ decoded q, Path.decodeFully p.path = some decoded ∧ Path.normalize decoded = some q ∧
          t = .relative q p.tail) ∧
      (r.parameters = p.parameters ++ r.form ↔
        p.query.isSome = true ∨ ∀ c ∈ queryOf (p.fragment.getD []), c = '&') := by
  intro p
  obtain ⟨hcut, htext⟩ := UrlParts.isCut_iff.mpr (Eq.refl p)
  refine ⟨fun q => UrlParts.isCut_iff, fun m token => hcut.toList_embed htext m token, ?_,
    fun t hslash ht => hcut.exists_of_resolve htext hslash ht, parameters_eq_iff r⟩
  rintro l policy x rfl
  have hpath : pathOf x.request.url.toList = p.path := by rw [← htext, hcut.pathOf_text]
  rw [RequestLogger.line, hpath]

/-- A URL with all parts; the `?` in its query and the one in its fragment begin nothing. -/
theorem query_is_read_of_search :
    let r : Request := { url := "/search?q=a?b&q=c#top?q=d", form := [("q", "e")] }
    UrlParts.of r.url.toList = ⟨"/search".toList, some "q=a?b&q=c".toList, some "top?q=d".toList⟩ ∧
      (Target.resolve? r.url).isSome = true ∧
      r.parameters = (UrlParts.of r.url.toList).parameters ++ r.form ∧
      r.parameters = [("q", "a?b"), ("q", "c"), ("q", "e")] := by
  intro r
  obtain ⟨-, -, -, -, hread⟩ := query_is_read_in_its_place_unless_in_fragment r
  have hquery : (UrlParts.of r.url.toList).query.isSome = true := by decide +kernel
  exact ⟨by decide +kernel, by decide +kernel, hread.mpr (.inl hquery), by decide +kernel⟩

/-- A URL without a query whose fragment holds a `?`: a parameter is read from the fragment. -/
theorem parameter_is_read_from_fragment :
    let r : Request := { url := "/a#f?x=1" }
    UrlParts.of r.url.toList = ⟨"/a".toList, none, some "f?x=1".toList⟩ ∧
      (UrlParts.of r.url.toList).parameters = [] ∧ r.parameters = [("x", "1")] := by
  intro r
  exact ⟨by decide +kernel, by decide +kernel, by decide +kernel⟩

end Request

end HttpMediation
