import HttpMediation.Proofs.Embedding
import HttpMediation.Proofs.State

/-!
# SealedQuery — a query says the same, sealed or in the open

A request reads the parameters of its URL into a list, in their order and with repetitions.  A query that is
sealed and opened again gives a map.  Both read the same text.

* `StateMap.Carries` : a map has the names of a list, and for each name the last value that the list has.
* `Codec.encryptQuery_seals`, `Codec.decryptQuery_of_seals` : what is sealed for a query and what it opens to.
* `Codec.sealed_query_has_parameters` : a sealed query carries the parameters of a URL with that query.
-/

namespace HttpMediation

/-! ## Lists and maps -/

namespace StateMap

/-- The names of the map are those of the list, and each has the last value that the list has for it. -/
structure Carries (m : StateMap) (parameters : List (String × String)) : Prop where
  names : ∀ name, name ∈ m.keys ↔ name ∈ parameters.map (·.1)
  last : ∀ name value, m.get? name = some value ↔
    ∃ before after, parameters = before ++ (name, value) :: after ∧ name ∉ after.map (·.1)

theorem carries_ofForm (form : List Char) : Carries (ofForm form) (Form.decode form) where
  names _ := Dict.mem_keys_ofList
  last _ _ := Dict.get?_ofList_eq_some_iff

end StateMap

/-! ## Queries -/

namespace Request

/-- Behind a `?` a query without `#` is read to its end. -/
theorem parameters_of_query {query : String} (hhash : '#' ∉ query.toList) (method : Method) :
    ({ method := method, url := "/p?" ++ query } : Request).parameters = Form.decode query.toList := by
  have hurl : ("/p?" ++ query).toList = "/p".toList ++ '?' :: query.toList ++ [] := by
    rw [String.toList_append, List.append_nil]
    rfl
  rw [parameters_of_url, hurl, queryOf_split (by decide) hhash rfl]

end Request

namespace Codec

variable {c : Codec} {query blob : String} {text : List Char}

theorem bareQuery_of_head (h : query.toList.head? ≠ some '?') : bareQuery query.toList = query.toList := by
  unfold bareQuery
  split
  · rename_i heq
    rw [heq] at h
    exact absurd rfl h
  · rfl

theorem bareQuery_mark (query : String) : bareQuery ("?" ++ query).toList = query.toList := by
  rw [String.toList_append]
  rfl

/-- What is written for a query is sealed from the query without the mark in front of it. -/
theorem encryptQuery_seals (key : Aes.Key) (writer : String) (query : String) (r : RandomSource) :
    ∃ blob, (encryptQuery ⟨.held key, writer⟩ query r).1 = .ok blob ∧
      Seals ⟨.held key, writer⟩ .queryString (bareQuery query.toList) blob :=
  ⟨_, rfl, r, rfl⟩

/-- Who seals and who opens need the same key only. -/
theorem seals_of_key {key : Aes.Key} {writer reader : String} {purpose : Purpose}
    (h : Seals ⟨.held key, writer⟩ purpose text blob) : Seals ⟨.held key, reader⟩ purpose text blob :=
  seals_iff.mpr (seals_iff.mp h)

theorem decryptQuery_of_seals (h : c.Seals .queryString text blob) :
    c.decryptQuery ⟨blob⟩ = .ok (StateMap.ofForm text) :=
  map_eq_ok_iff.mpr ⟨text, decrypt_eq_ok_iff.mpr h, rfl⟩

/-- Sealing a query and opening the blob is reading the query, whatever is drawn. -/
theorem exists_of_encryptQuery (key : Aes.Key) (writer reader : String) (query : String) (r : RandomSource) :
    ∃ blob, (encryptQuery ⟨.held key, writer⟩ query r).1 = .ok blob ∧
      decryptQuery ⟨.held key, reader⟩ ⟨blob⟩ = .ok (StateMap.ofForm (bareQuery query.toList)) := by
  obtain ⟨blob, hblob, hseals⟩ := encryptQuery_seals key writer query r
  exact ⟨blob, hblob, decryptQuery_of_seals (seals_of_key hseals)⟩

/-- A query carries the same parameters sealed and in the open.  For a query without `#` that does not begin
with `?` there is one map, whatever is drawn, that every codec with the key opens: from the blob that is
written for the query and from the one that is written for the query with a `?` in front.  The map has the names
of the parameters of a URL with that query, and for each name the last value among them.  Every nonce is the one
of some draw. -/
theorem sealed_query_has_parameters (key : Aes.Key) (writer reader : String) (method : Method)
    {query : String} (hhash : '#' ∉ query.toList) (hmark : query.toList.head? ≠ some '?') :
    (∃ m : StateMap,
      m.Carries ({ method := method, url := "/p?" ++ query } : Request).parameters ∧
      ∀ written ∈ [query, "?" ++ query], ∀ r, ∃ blob,
        (encryptQuery ⟨.held key, writer⟩ written r).1 = .ok blob ∧
          decryptQuery ⟨.held key, reader⟩ ⟨blob⟩ = .ok m) ∧
      ∀ nonce : Vector UInt8 Gcm.nonceSize, ∃ r, (encryptQuery ⟨.held key, writer⟩ query r).1 =
        .ok (String.ofList (Blob.write key .queryString nonce.toList query.toList)) := by
  have hbare := bareQuery_of_head hmark
  refine ⟨⟨StateMap.ofForm query.toList, ?_, ?_⟩, fun nonce => ?_⟩
  · rw [Request.parameters_of_query hhash]
    exact StateMap.carries_ofForm query.toList
  · intro written hwritten r
    obtain ⟨blob, hblob, hopened⟩ := exists_of_encryptQuery key writer reader written r
    refine ⟨blob, hblob, ?_⟩
    rcases List.mem_pair.mp hwritten with rfl | rfl
    · rwa [hbare] at hopened
    · rwa [bareQuery_mark] at hopened
  · have hseals : Seals ⟨.held key, writer⟩ .queryString query.toList
        (String.ofList (Blob.write key .queryString nonce.toList query.toList)) :=
      seals_iff.mpr ⟨key, rfl, nonce.toList, nonce.length_toList, rfl⟩
    unfold encryptQuery
    rw [hbare]
    exact hseals

/-- A query with an empty piece, a name without a value, a name without letters, an escape that is none and one
that is no text; of the repeated name the second value is found. -/
theorem sealed_query_keeps_second_value :
    let query := "a=1&&b&a=x+y%2&%ff=%41&=z"
    let c : Codec := { keys := .held (Vector.replicate 32 7) }
    ∃ m : StateMap,
      (∀ r, ∃ blob, (c.encryptQuery query r).1 = .ok blob ∧ c.decryptQuery ⟨blob⟩ = .ok m) ∧
      m.get? "a" = some "x y%2" ∧ m.get? "b" = some "" ∧ m.get? "\ufffd" = some "A" ∧
      m.get? "" = some "z" ∧ "1" ∉ m.keys := by
  intro query c
  have hparameters : ({ url := "/p?" ++ query } : Request).parameters =
      [("a", "1"), ("b", ""), ("a", "x y%2"), ("\ufffd", "A"), ("", "z")] := by decide +kernel
  obtain ⟨⟨m, hcarries, hopened⟩, -⟩ := @sealed_query_has_parameters (Vector.replicate 32 7) "state" "state" .get
    query (by decide) (by decide)
  rw [hparameters] at hcarries
  refine ⟨m, hopened query List.mem_cons_self, ?_, ?_, ?_, ?_, ?_⟩
  · exact (hcarries.last _ _).mpr ⟨[("a", "1"), ("b", "")], [("\ufffd", "A"), ("", "z")], rfl, by decide⟩
  · exact (hcarries.last _ _).mpr
      ⟨[("a", "1")], [("a", "x y%2"), ("\ufffd", "A"), ("", "z")], rfl, by decide⟩
  · exact (hcarries.last _ _).mpr
      ⟨[("a", "1"), ("b", ""), ("a", "x y%2")], [("", "z")], rfl, by decide⟩
  · exact (hcarries.last _ _).mpr
      ⟨[("a", "1"), ("b", ""), ("a", "x y%2"), ("\ufffd", "A")], [], rfl, by decide⟩
  · rw [hcarries.names]
    decide

end Codec

end HttpMediation
