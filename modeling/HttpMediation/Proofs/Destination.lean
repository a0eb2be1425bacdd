import HttpMediation.Proofs.Redirect

/-!
# Destination — where a written location leads

A location goes through decoding, dot removal, comparison and escaping before it is written.

* `RedirectGuard.leads_home_or_to_allowed_origin` : a written location stays on this site, however a
  browser reads its first characters, or has the origin of an allowed place of its context.
* `RedirectGuard.relative_target_is_confined` : a written path leads into an allowed directory after any
  number of decodings, and a forward besides into the directory of forwards.
-/

namespace HttpMediation

/-! ## Written paths -/

/-- A URL text is cut where its first mark is. -/
theorem Request.pathOf_append {front rest : List Char} (hfront : ∀ c ∈ front, c ≠ '?' ∧ c ≠ '#')
    (hrest : ∀ c ∈ rest.head?, c = '?' ∨ c = '#') : Request.pathOf (front ++ rest) = front := by
  unfold Request.pathOf
  rw [List.takeWhile_append_of_pos]
  · cases rest with
    | nil => simp
    | cons c rest =>
      have hc := hrest c rfl
      rw [List.takeWhile_cons_of_neg, List.append_nil]
      simpa [or_iff_not_imp_left] using hc
  · intro c hc
    simpa using hfront c hc

namespace Path

theorem not_mark_of_mem_write {p : List Char} {c : Char} (h : c ∈ write p) : c ≠ '?' ∧ c ≠ '#' := by
  have hdigit : ∀ n < 16, Hex.upperDigit n ≠ '?' ∧ Hex.upperDigit n ≠ '#' := by decide
  rcases Percent.mem_encode h with ⟨-, -, hkeep⟩ | rfl | ⟨n, hn, rfl⟩
  · constructor
    · rintro rfl
      exact absurd hkeep (by decide)
    · rintro rfl
      exact absurd hkeep (by decide)
  · decide
  · exact hdigit n hn

/-- The path of a written location is the written path. -/
theorem pathOf_write_append {p rest : List Char} (h : ∀ c ∈ rest.head?, c = '?' ∨ c = '#') :
    Request.pathOf (write p ++ rest) = write p :=
  Request.pathOf_append (fun _ hc => not_mark_of_mem_write hc) h

theorem write_slash (p : List Char) : write ('/' :: p) = '/' :: write p := by
  unfold write
  rw [Percent.encode_cons, Percent.encode_singleton_of_kept (by decide) (by decide)]
  rfl

/-- The second character of a written path is that of the path, or begins an escape. -/
theorem second_of_write {p : List Char} {c : Char} (h : (write ('/' :: p))[1]? = some c) :
    p.head? = some c ∨ c = '%' := by
  rw [write_slash, List.getElem?_cons_succ, ← List.head?_eq_getElem?] at h
  cases p with
  | nil => simp [write, Percent.encode, Percent.encodeBytes] at h
  | cons d p =>
    rcases Percent.head?_encode_cons keeps d p with hd | hd
    · rw [write, hd] at h
      exact .inl h
    · rw [write, hd] at h
      exact .inr (Option.some.inj h).symm

end Path

/-! ## Settings -/

namespace AllowEntry

theorem of_parse?_path {e : String} {dir : List Char} (h : parse? e = some (.path dir)) :
    isSitePath e.toList = true ∧ Path.normalize e.toList = some dir := by
  unfold parse? at h
  dsimp only at h
  split_ifs at h with hsite
  · obtain ⟨d, hd, hpath⟩ := Option.map_eq_some_iff.mp h
    rw [AllowEntry.path.inj hpath] at hd
    exact ⟨hsite, hd⟩
  · obtain ⟨u, -, h⟩ := Option.bind_eq_some_iff.mp h
    split_ifs at h
    · simp at h
    · obtain ⟨d, -, h⟩ := Option.bind_eq_some_iff.mp h
      simp at h

theorem exists_of_parse?_origin {e : String} {o : Origin} {dir : List Char}
    (h : parse? e = some (.origin o dir)) :
    isSitePath e.toList = false ∧
      ∃ u, Url.parse? e.toList = some u ∧ u.origin = o ∧ Path.normalize u.pathText = some dir := by
  unfold parse? at h
  dsimp only at h
  split_ifs at h with hsite
  · obtain ⟨d, -, hpath⟩ := Option.map_eq_some_iff.mp h
    cases hpath
  · obtain ⟨u, hu, h⟩ := Option.bind_eq_some_iff.mp h
    split_ifs at h
    · simp at h
    · obtain ⟨d, hd, h⟩ := Option.bind_eq_some_iff.mp h
      obtain ⟨ho, rfl⟩ := AllowEntry.origin.inj (Option.some.inj h)
      exact ⟨by simpa using hsite, u, hu, ho, hd⟩

theorem of_parse?_origin {e : String} {o : Origin} {dir : List Char}
    (h : parse? e = some (.origin o dir)) :
    isSitePath e.toList = false ∧ ∃ u, Url.parse? e.toList = some u ∧ u.origin = o := by
  obtain ⟨hsite, u, hu, ho, -⟩ := exists_of_parse?_origin h
  exact ⟨hsite, u, hu, ho⟩

theorem exists_of_admits_relative {place : AllowEntry} {p rest : List Char}
    (h : place.admits (.relative p rest) = true) :
    ∃ dir, place = .path dir ∧ Path.within p dir = true := by
  cases place with
  | path dir => exact ⟨dir, rfl, h⟩
  | origin o dir => cases h

theorem exists_of_admits_absolute {place : AllowEntry} {u : Url} {p : List Char}
    (h : place.admits (.absolute u p) = true) : ∃ dir, place = .origin u.origin dir := by
  cases place with
  | path dir => cases h
  | origin o dir =>
    obtain ⟨ho, -⟩ := Bool.and_eq_true_iff.mp h
    exact ⟨dir, by rw [beq_iff_eq.mp ho]⟩

end AllowEntry

/-! ## No way to a foreign host -/

/-- The text leads to this site, whichever of its first characters are read as slashes. -/
structure LeadsHome (text : String) : Prop where
  rooted : text.toList[0]? = some '/'
  no_host : ∀ c, text.toList[1]? = some c → c ≠ '/' ∧ c ≠ '\x5c'

/-- The text is a web address without user name and password that has the origin. -/
structure LeadsTo (origin : Origin) (text : String) : Prop where
  address : ∃ u, Url.parse? text.toList = some u ∧ u.username = [] ∧ u.password = none ∧
    u.scheme = origin.scheme ∧ u.host = origin.host ∧
    u.port.getD u.scheme.defaultPort = origin.port

namespace Target

theorem leadsHome_of_isRelative {p rest : List Char} (h : IsRelative p rest) :
    LeadsHome (Target.relative p rest).text := by
  obtain ⟨decoded, -, hslash, hp⟩ := h.normal
  obtain ⟨q, rfl⟩ := List.head?_eq_some_iff.mp (Path.isNormal_of_normalize hp).rooted
  have htext : (Target.relative ('/' :: q) rest).text.toList = Path.write ('/' :: q) ++ rest :=
    String.toList_ofList
  refine ⟨?_, fun c hc => ?_⟩
  · rw [htext, Path.write_slash]
    rfl
  · rw [htext] at hc
    by_cases hlen : 1 < (Path.write ('/' :: q)).length
    · rw [List.getElem?_append_left hlen] at hc
      rcases Path.second_of_write hc with hq | rfl
      · obtain ⟨r, rfl⟩ := List.head?_eq_some_iff.mp hq
        obtain ⟨hne, hmem⟩ := Path.second_of_normalize hp rfl
        exact ⟨hne, fun he => hslash (he ▸ hmem)⟩
      · decide
    · -- the path is a single slash, and a mark or nothing stands behind it
      have hnil : Path.write q = [] := by
        rw [Path.write_slash, List.length_cons] at hlen
        exact List.eq_nil_of_length_eq_zero (by omega)
      have hwrite : Path.write ('/' :: q) = ['/'] := by
        rw [Path.write_slash, hnil]
      rw [hwrite, List.singleton_append, List.getElem?_cons_succ, ← List.head?_eq_getElem?] at hc
      rcases h.marked c hc with rfl | rfl <;> decide

end Target

/-- A site with one directory, open to forwards as well, and one address of another site. -/
def RedirectConfig.twoPlaces : RedirectConfig :=
  { contexts := .ofList [("app", ["/app/", "http://[::1]:8080/cb/"])]
    forwardNamespace := "/app/" }

namespace RedirectGuard

/-- No open redirect.  What is written for a location begins with one slash, and the context has a path
of this site among its places, or it is a web address that shares scheme, host and port with an address
among the places of the context.  About addresses it is used that one in its one spelling reads as the
same address. -/
theorem leads_home_or_to_allowed_origin {config : RedirectConfig} {g : RedirectGuard}
    (hg : RedirectGuard.new config = .ok g) {context : String} {location : Tainted String}
    {text : String} (hw : g.Writes context location text)
    (hurl : ∀ u, Url.parse? location.inner.toList = some u → Url.parse? u.text = some u) :
    ∃ entries, config.contexts.get? context = some entries ∧
      ((LeadsHome text ∧ ∃ e ∈ entries, isSitePath e.toList = true) ∨
        ∃ e ∈ entries, isSitePath e.toList = false ∧
          ∃ u, Url.parse? e.toList = some u ∧ LeadsTo u.origin text) := by
  obtain ⟨t, ⟨hresolved, places, hplaces, place, hplace, hadmits⟩, rfl⟩ := exists_of_writes hw
  obtain ⟨entries, hentries, hparse⟩ := parse?_of_new hg hplaces
  obtain ⟨e, he, hpe⟩ := hparse place hplace
  refine ⟨entries, hentries, ?_⟩
  rcases Target.of_resolve hresolved with ⟨p, rest, rfl, hrel⟩ | ⟨-, u, p, rfl, hu, huser, hpass⟩
  · obtain ⟨dir, rfl, -⟩ := AllowEntry.exists_of_admits_relative hadmits
    exact .inl ⟨Target.leadsHome_of_isRelative hrel, e, he, (AllowEntry.of_parse?_path hpe).1⟩
  · obtain ⟨dir, rfl⟩ := AllowEntry.exists_of_admits_absolute hadmits
    obtain ⟨hsite, v, hv, horigin⟩ := AllowEntry.of_parse?_origin hpe
    refine .inr ⟨e, he, hsite, v, hv, u, ?_, huser, hpass, ?_⟩
    · rw [Target.text, String.toList_ofList]
      exact hurl u hu
    · rw [horigin]
      exact ⟨rfl, rfl, rfl⟩

/-- The host of the location is spelled differently from that of the allowed address. -/
theorem leads_to_respelled_host :
    ∃ entries, RedirectConfig.twoPlaces.contexts.get? "app" = some entries ∧
      ((LeadsHome "http://[::1]:8080/cb/%41?x" ∧ ∃ e ∈ entries, isSitePath e.toList = true) ∨
        ∃ e ∈ entries, isSitePath e.toList = false ∧
          ∃ u, Url.parse? e.toList = some u ∧ LeadsTo u.origin "http://[::1]:8080/cb/%41?x") := by
  have hrun : (RedirectGuard.new .twoPlaces >>= fun g =>
      g.check "app" ⟨"http://[0::1]:8080/cb/%41?x"⟩) = .ok ⟨"http://[::1]:8080/cb/%41?x"⟩ := by
    decide +kernel
  obtain ⟨g, hg, hcheck⟩ := bind_ok hrun
  refine leads_home_or_to_allowed_origin hg (.inl hcheck) fun u hu => ?_
  have hsame : (Url.parse? "http://[0::1]:8080/cb/%41?x".toList).all
      (fun u => Url.parse? u.text == some u) = true := by decide +kernel
  rw [show Url.parse? _ = some u from hu] at hsame
  simpa using hsame

/-! ## No way out of the allowed directories -/

/-- Whoever decodes the path of a written location of this site, once or more often, reads the same path.
It is in normal form, and it begins with the names of an allowed directory of the context; for a forward
it begins with the names of the directory of forwards as well. -/
theorem relative_target_is_confined {config : RedirectConfig} {g : RedirectGuard}
    (hg : RedirectGuard.new config = .ok g) {context : String} {location : Tainted String}
    {text : String} (hlocation : location.inner.toList.head? = some '/')
    (hw : g.Writes context location text) :
    ∃ p, (∀ k, 0 < k → Percent.decodeTimes k (Request.pathOf text.toList) = some p) ∧
      Path.IsNormal p ∧
      (∃ entries, config.contexts.get? context = some entries ∧
        ∃ e ∈ entries, isSitePath e.toList = true ∧
          ∃ dir, Path.normalize e.toList = some dir ∧ Path.names dir <+: Path.names p) ∧
      (g.Forwards context location text →
        ∃ dir, Path.normalize config.forwardNamespace.toList = some dir ∧
          Path.names dir <+: Path.names p) := by
  obtain ⟨t, ⟨hresolved, places, hplaces, place, hplace, hadmits⟩, rfl⟩ := exists_of_writes hw
  obtain ⟨entries, hentries, hparse⟩ := parse?_of_new hg hplaces
  obtain ⟨e, he, hpe⟩ := hparse place hplace
  rcases Target.of_resolve hresolved with ⟨p, rest, rfl, hrel⟩ | ⟨habsolute, -⟩
  · obtain ⟨decoded, hplain, -, hp⟩ := hrel.normal
    obtain ⟨dir, rfl, hwithin⟩ := AllowEntry.exists_of_admits_relative hadmits
    obtain ⟨hsite, hdir⟩ := AllowEntry.of_parse?_path hpe
    have hpath : Request.pathOf (Target.relative p rest).text.toList = Path.write p := by
      rw [Target.text, String.toList_ofList, Path.pathOf_write_append hrel.marked]
    refine ⟨p, fun k hk => ?_, Path.isNormal_of_normalize hp,
      ⟨entries, hentries, e, he, hsite, dir, hdir, Path.names_prefix_of_within hwithin⟩,
      fun hforward => ?_⟩
    · obtain ⟨n, rfl⟩ := Nat.exists_eq_succ_of_ne_zero (Nat.ne_of_gt hk)
      rw [hpath]
      exact Path.decodeTimes_write (Path.plain_of_normalize hp hplain) n
    · obtain ⟨t, haccepts, hnamespace, -⟩ := exists_of_forwards hforward
      have ht : t = .relative p rest := by
        have := haccepts.resolved
        rw [hresolved] at this
        exact (Option.some.inj this).symm
      rw [ht] at hnamespace
      exact ⟨g.forwardNamespace, normalize_of_new hg, Path.names_prefix_of_within hnamespace⟩
  · exact absurd hlocation habsolute

/-- A forward whose path was escaped three times over, and climbs and comes back on its way. -/
theorem forward_is_confined_in_app :
    ∃ g, RedirectGuard.new .twoPlaces = .ok g ∧ g.Forwards "app" ⟨"/x/%2e./app/a%252541?y"⟩ "/app/aA?y" ∧
      ∃ p, (∀ k, 0 < k → Percent.decodeTimes k (Request.pathOf "/app/aA?y".toList) = some p) ∧
        Path.IsNormal p ∧
        (∃ entries, RedirectConfig.twoPlaces.contexts.get? "app" = some entries ∧
          ∃ e ∈ entries, isSitePath e.toList = true ∧
            ∃ dir, Path.normalize e.toList = some dir ∧ Path.names dir <+: Path.names p) ∧
        (g.Forwards "app" ⟨"/x/%2e./app/a%252541?y"⟩ "/app/aA?y" →
          ∃ dir, Path.normalize RedirectConfig.twoPlaces.forwardNamespace.toList = some dir ∧
            Path.names dir <+: Path.names p) := by
  have hrun : (RedirectGuard.new .twoPlaces >>= fun g =>
      g.checkForward "app" ⟨"/x/%2e./app/a%252541?y"⟩) = .ok ⟨"/app/aA?y"⟩ := by decide +kernel
  obtain ⟨g, hg, hcheck⟩ := bind_ok hrun
  have hforwards : g.Forwards "app" ⟨"/x/%2e./app/a%252541?y"⟩ "/app/aA?y" :=
    ⟨{ id := "", request := {} }, by rw [forward, hcheck]; rfl, by rw [forward, hcheck]; rfl⟩
  exact ⟨g, hg, hforwards, relative_target_is_confined hg (by decide) (.inr (.inr hforwards))⟩

end RedirectGuard

end HttpMediation
