import HttpMediation.Csrf
import HttpMediation.Proofs.Base64Url
import HttpMediation.Proofs.Form
import HttpMediation.Proofs.Validation
import HttpMediation.Request
import Mathlib.Data.List.TakeWhile

/-!
# Embedding — the token of a link is one more parameter

* `Config.keeps_parameterName` : the parameter's name is written as it is.
* `Request.queryOf_split` : where the query is in a URL that is put together.
* `TokenManager.decode_query_piece`, `TokenManager.exists_of_mark` : what a query says once the token is
  behind it.
* `TokenManager.token_is_last_parameter_unless_mark` : the same for whole URLs.
-/

namespace HttpMediation

/-! ## Names and tokens -/

/-- In settings without problems the parameter has a plain name, which a form keeps. -/
theorem Config.keeps_parameterName {config : Config} (h : config.validate = .ok ()) :
    ∀ ch ∈ config.csrf.parameterName.toList, Form.keeps ch = true := by
  have hplain := (validate_eq_ok_iff.mp h).parameterName
  have hname : ∀ ch, Text.isNameChar ch = true → Form.keeps ch = true := by
    intro ch hch
    unfold Text.isNameChar at hch
    unfold Form.keeps
    simp only [Bool.or_eq_true] at hch ⊢
    tauto
  exact fun ch hch => hname ch (List.all_eq_true.mp (Bool.and_eq_true_iff.mp hplain).2 ch hch)

/-- The token is a text of the letters that tokens are issued in. -/
def Token.IsIssuable (token : Token) : Prop :=
  ∀ ch ∈ token.text.toList, ∃ n < 64, ch = Base64Url.letter n

theorem TokenManager.isIssuable_ofBytes (bytes : List UInt8) : (TokenManager.ofBytes bytes).IsIssuable := by
  intro ch hch
  rw [TokenManager.ofBytes, Base64Url.encodeText, String.toList_ofList] at hch
  exact Base64Url.mem_encode hch

theorem Token.IsIssuable.keeps {token : Token} (h : token.IsIssuable) :
    ∀ ch ∈ token.text.toList, Form.keeps ch = true := by
  have hletters : ∀ n < 64, Form.keeps (Base64Url.letter n) = true := by decide
  intro ch hch
  obtain ⟨n, hn, rfl⟩ := h ch hch
  exact hletters n hn

/-! ## The query of a URL -/

namespace Request

theorem queryOf_of_not_mem {url : List Char} (h : '?' ∉ url) : queryOf url = [] := by
  rw [queryOf, List.dropWhile_eq_nil_iff.mpr (Ascii.bne_of_not_mem h)]
  rfl

/-- The query is what stands between the first `?` and what begins with `#`. -/
theorem queryOf_split {path query fragment : List Char} (hpath : '?' ∉ path) (hquery : '#' ∉ query)
    (hfragment : fragment.takeWhile (· != '#') = []) :
    queryOf (path ++ '?' :: query ++ fragment) = query := by
  rw [queryOf, List.append_assoc, List.dropWhile_append_of_pos (Ascii.bne_of_not_mem hpath),
    List.cons_append, List.dropWhile_cons_of_neg (by decide), List.drop_succ_cons, List.drop_zero,
    List.takeWhile_append_of_pos (Ascii.bne_of_not_mem hquery), hfragment, List.append_nil]

theorem parameters_of_url (method : Method) (url : String) :
    ({ method := method, url := url } : Request).parameters = Form.decode (queryOf url.toList) :=
  List.append_nil _

end Request

/-! ## The token behind a query -/

namespace TokenManager

variable {m : TokenManager} {token : Token}

/-- What is embedded: the parameter with the token. -/
def piece (m : TokenManager) (token : Token) : List Char :=
  m.parameterName.toList ++ '=' :: token.text.toList

/-- Name and token are letters that a form keeps. -/
def IsWritable (m : TokenManager) (token : Token) : Prop :=
  ∀ ch ∈ m.parameterName.toList ++ token.text.toList, Form.keeps ch = true

theorem piece_eq_encodePair (h : m.IsWritable token) :
    m.piece token = Form.encodePair (m.parameterName, token.text) := by
  rw [piece, Form.encodePair, Form.encodePart_of_keeps fun ch hch => h ch (List.mem_append_left _ hch),
    Form.encodePart_of_keeps fun ch hch => h ch (List.mem_append_right _ hch)]

theorem decode_piece (h : m.IsWritable token) :
    Form.decode (m.piece token) = [(m.parameterName, token.text)] := by
  have hform : m.piece token = Form.encode [(m.parameterName, token.text)] := by
    rw [piece_eq_encodePair h, Form.encode, List.map_singleton, List.intercalate_singleton]
  rw [hform, Form.decode_encode]

theorem not_mem_piece (h : m.IsWritable token) {ch : Char} (hkeep : Form.keeps ch = false) (hne : ch ≠ '=') :
    ch ∉ m.piece token := by
  intro hmem
  rcases List.mem_append.mp hmem with hname | hrest
  · rw [h ch (List.mem_append_left _ hname)] at hkeep
    cases hkeep
  · rcases List.mem_cons.mp hrest with heq | htext
    · exact hne heq
    · rw [h ch (List.mem_append_right _ htext)] at hkeep
      cases hkeep

/-- What stands between a query and one more parameter. -/
def joint (query : List Char) : List Char :=
  if query = [] ∨ query.getLast? = some '?' ∨ query.getLast? = some '&' then [] else ['&']

theorem separator_of_not_mem {path : List Char} (h : '?' ∉ path) : separator path = ['?'] := by
  rw [separator, if_pos]
  rw [Bool.not_eq_true', ← Bool.not_eq_true, List.contains_iff_mem]
  exact h

theorem separator_of_query (path query : List Char) : separator (path ++ '?' :: query) = joint query := by
  have hmark : (!(path ++ '?' :: query).contains '?') = false := by
    rw [Bool.not_eq_false', List.contains_iff_mem]
    exact List.mem_append_right _ List.mem_cons_self
  unfold separator joint
  rw [if_neg (by rw [hmark]; exact Bool.false_ne_true)]
  rcases List.eq_nil_or_concat query with rfl | ⟨front, last, rfl⟩
  · rw [if_pos (.inl List.getLast?_concat), if_pos (.inl rfl)]
  · rw [List.concat_eq_append]
    have hwhole : path ++ '?' :: (front ++ [last]) = path ++ '?' :: front ++ [last] := by
      rw [List.append_assoc, List.cons_append]
    have hne : front ++ [last] ≠ [] := List.append_ne_nil_of_right_ne_nil front (by simp)
    rw [hwhole, List.getLast?_concat, List.getLast?_concat]
    simp only [hne, false_or]

/-- Behind a query that does not end in `?` the token is one more parameter. -/
theorem decode_query_piece (h : m.IsWritable token) {query : List Char} (hmark : query.getLast? ≠ some '?') :
    Form.decode (query ++ joint query ++ m.piece token) =
      Form.decode query ++ [(m.parameterName, token.text)] := by
  rw [← decode_piece h]
  by_cases hnil : query = []
  · subst hnil
    rfl
  -- The piece behind a `&` at the end is empty, and empty pieces do not count.
  by_cases hampersand : query.getLast? = some '&'
  · obtain ⟨front, rfl⟩ := List.getLast?_eq_some_iff.mp hampersand
    have hdropped : Form.decode (front ++ ['&']) = Form.decode front := by
      rw [Form.decode_append_ampersand]
      exact List.append_nil _
    rw [joint, if_pos (.inr (.inr hampersand)), List.append_nil, hdropped, List.append_assoc,
      List.singleton_append, Form.decode_append_ampersand]
  · have hjoint : joint query = ['&'] := by
      rw [joint, if_neg]
      rintro (h | h | h)
      · exact hnil h
      · exact hmark h
      · exact hampersand h
    rw [hjoint, List.append_assoc, List.singleton_append, Form.decode_append_ampersand]

/-- Behind a query that ends in `?` the token becomes part of the last parameter. -/
theorem exists_of_mark (h : m.IsWritable token) {query : List Char} (hmark : query.getLast? = some '?') :
    ∃ front last glued, Form.decode query = front ++ [last] ∧
      Form.decode (query ++ joint query ++ m.piece token) = front ++ [glued] := by
  have hjoint : joint query = [] := if_pos (.inr (.inl hmark))
  have hne : query ≠ [] := by
    rintro rfl
    cases hmark
  have hlast : query.getLast? ≠ some '&' := by
    rw [hmark]
    decide
  have hpiece : '&' ∉ m.piece token := not_mem_piece h (by decide) (by decide)
  obtain ⟨front, piece, hbefore, hafter⟩ := Form.exists_of_decode_append hne hlast hpiece
  rw [hjoint, List.append_nil]
  exact ⟨front, _, _, hbefore, hafter⟩

/-! ## Whole URLs -/

theorem embed_eq (m : TokenManager) (url : String) (token : Token) : (m.embed url token).toList =
    url.toList.takeWhile (· != '#') ++ separator (url.toList.takeWhile (· != '#')) ++ m.piece token ++
      url.toList.dropWhile (· != '#') := by
  rw [embed, String.toList_ofList, piece]
  simp only [List.append_assoc]

/-- The query of a URL with the token in it. -/
theorem queryOf_embed (h : m.IsWritable token) {url : String}
    (horder : '?' ∈ url.toList → '?' ∈ url.toList.takeWhile (· != '#')) :
    Request.queryOf (m.embed url token).toList =
      Request.queryOf url.toList ++ joint (Request.queryOf url.toList) ++ m.piece token := by
  have hhash : '#' ∉ url.toList.takeWhile (· != '#') := by
    intro hmem
    have himp := List.mem_takeWhile_imp hmem
    exact absurd himp (by decide)
  have hpiece : '#' ∉ m.piece token := not_mem_piece h (by decide) (by decide)
  have hfragment : (url.toList.dropWhile (· != '#')).takeWhile (· != '#') = [] := by
    cases hdrop : url.toList.dropWhile (· != '#') with
    | nil => rfl
    | cons ch rest =>
      have hhead := List.head?_dropWhile_not (· != '#') url.toList
      rw [hdrop] at hhead
      exact List.takeWhile_cons_of_neg (by simpa using hhead)
  have hurl : url.toList = url.toList.takeWhile (· != '#') ++ url.toList.dropWhile (· != '#') :=
    List.takeWhile_append_dropWhile.symm
  rw [embed_eq]
  -- A `?` behind the `#` is excluded by `horder`: it would make the fragment the query of the plain URL.
  by_cases hmark : '?' ∈ url.toList
  · obtain ⟨path, query, hbase, hpath⟩ := List.eq_append_cons_of_mem (horder hmark)
    rw [hbase] at hurl hhash ⊢
    have hquery : '#' ∉ query := fun hmem =>
      hhash (List.mem_append_right _ (List.mem_cons_of_mem _ hmem))
    have hbefore : Request.queryOf url.toList = query := by
      rw [hurl]
      exact Request.queryOf_split hpath hquery hfragment
    have hjoint : '#' ∉ joint query := by
      unfold joint
      split_ifs <;> decide
    have hafter : '#' ∉ query ++ joint query ++ m.piece token := by
      rw [List.mem_append, List.mem_append, not_or, not_or]
      exact ⟨⟨hquery, hjoint⟩, hpiece⟩
    have hwhole : path ++ '?' :: query ++ joint query ++ m.piece token =
        path ++ '?' :: (query ++ joint query ++ m.piece token) := by
      simp only [List.append_assoc, List.cons_append]
    rw [hbefore, separator_of_query, hwhole]
    exact Request.queryOf_split hpath hafter hfragment
  · have hpath : '?' ∉ url.toList.takeWhile (· != '#') := fun hmem =>
      hmark ((List.takeWhile_prefix _).subset hmem)
    rw [separator_of_not_mem hpath, Request.queryOf_of_not_mem hmark, List.append_assoc _ ['?'],
      List.singleton_append]
    exact Request.queryOf_split hpath hpiece hfragment

/-- A token that is embedded in a URL is read as one more parameter behind the others, unless the query of
the URL ends in `?`.  In that case the last parameter takes the token in, and the others are as before.
The fragment stays at the end in any case. -/
theorem token_is_last_parameter_unless_mark {config : Config} (hvalid : config.validate = .ok ())
    {token : Token} (htoken : token.IsIssuable) (method : Method) {url : String}
    (horder : '?' ∈ url.toList → '?' ∈ url.toList.takeWhile (· != '#')) :
    let embedded : Request := { method := method, url := (TokenManager.new config.csrf).embed url token }
    let plain : Request := { method := method, url := url }
    (embedded.parameters = plain.parameters ++ [(config.csrf.parameterName, token.text)] ↔
      (Request.queryOf url.toList).getLast? ≠ some '?') ∧
    ((Request.queryOf url.toList).getLast? = some '?' → ∃ front last glued,
      plain.parameters = front ++ [last] ∧ embedded.parameters = front ++ [glued]) ∧
    url.toList.dropWhile (· != '#') <:+ embedded.url.toList := by
  intro embedded plain
  have hwritable : (TokenManager.new config.csrf).IsWritable token := by
    intro ch hch
    rcases List.mem_append.mp hch with hname | htext
    · exact config.keeps_parameterName hvalid ch hname
    · exact htoken.keeps ch htext
  have hplain : plain.parameters = Form.decode (Request.queryOf url.toList) :=
    Request.parameters_of_url method url
  have hembedded : embedded.parameters = Form.decode (Request.queryOf url.toList ++
      joint (Request.queryOf url.toList) ++ (TokenManager.new config.csrf).piece token) := by
    rw [Request.parameters_of_url, queryOf_embed hwritable horder]
  have hglued : (Request.queryOf url.toList).getLast? = some '?' → ∃ front last glued,
      plain.parameters = front ++ [last] ∧ embedded.parameters = front ++ [glued] := by
    intro hmark
    rw [hplain, hembedded]
    exact exists_of_mark hwritable hmark
  refine ⟨⟨fun hone hmark => ?_, fun hmark => ?_⟩, hglued, ?_⟩
  · obtain ⟨front, last, glued, hbefore, hafter⟩ := hglued hmark
    have hlength := congrArg List.length hone
    rw [hbefore, hafter] at hlength
    simp at hlength
  · rw [hplain, hembedded]
    exact decode_query_piece hwritable hmark
  · show _ <:+ ((TokenManager.new config.csrf).embed url token).toList
    rw [embed_eq]
    exact List.suffix_append _ _

/-- A link with a parameter and a fragment. -/
theorem token_is_last_parameter_of_link :
    ({ url := (TokenManager.new {}).embed "/a?x=1#top" ⟨"Kj-_"⟩ } : Request).parameters =
      [("x", "1"), ("csrf_token", "Kj-_")] := by
  have hvalid : ({} : Config).validate = .ok () := by decide +kernel
  have htext : (⟨"Kj-_"⟩ : Token) = ofBytes [0x2a, 0x3f, 0xbf] := by decide +kernel
  have htoken : Token.IsIssuable ⟨"Kj-_"⟩ := htext ▸ isIssuable_ofBytes _
  have hmark : (Request.queryOf "/a?x=1#top".toList).getLast? ≠ some '?' := by decide
  have hplain : ({ url := "/a?x=1#top" } : Request).parameters = [("x", "1")] := by decide +kernel
  have hone := (@token_is_last_parameter_unless_mark {} hvalid ⟨"Kj-_"⟩ htoken .get "/a?x=1#top"
    (by decide)).1.mpr hmark
  dsimp only at hone
  rw [hplain] at hone
  exact hone

/-- A link whose query ends in `?`: the token is read as part of the value before it. -/
theorem token_is_lost_behind_mark :
    ({} : Config).validate = .ok () ∧ Token.IsIssuable ⟨"Kj-_"⟩ ∧
      ('?' ∈ "/a?x=1?".toList → '?' ∈ "/a?x=1?".toList.takeWhile (· != '#')) ∧
      ({ url := "/a?x=1?" } : Request).parameters = [("x", "1?")] ∧
      ({ url := (TokenManager.new {}).embed "/a?x=1?" ⟨"Kj-_"⟩ } : Request).parameters =
        [("x", "1?csrf_token=Kj-_")] ∧
      ({ url := (TokenManager.new {}).embed "/a?x=1?" ⟨"Kj-_"⟩ } : Request).parameters ≠
        ({ url := "/a?x=1?" } : Request).parameters ++ [("csrf_token", "Kj-_")] := by
  have hvalid : ({} : Config).validate = .ok () := by decide +kernel
  have htext : (⟨"Kj-_"⟩ : Token) = ofBytes [0x2a, 0x3f, 0xbf] := by decide +kernel
  have htoken : Token.IsIssuable ⟨"Kj-_"⟩ := htext ▸ isIssuable_ofBytes _
  have hplain : ({ url := "/a?x=1?" } : Request).parameters = [("x", "1?")] := by decide +kernel
  have hglued : ({ url := (TokenManager.new {}).embed "/a?x=1?" ⟨"Kj-_"⟩ } : Request).parameters =
      [("x", "1?csrf_token=Kj-_")] := by decide +kernel
  refine ⟨hvalid, htoken, by decide, hplain, hglued, ?_⟩
  rw [hplain, hglued]
  decide

end TokenManager

end HttpMediation
