import HttpMediation.Proofs.Destination
import HttpMediation.Proofs.ParsedUrl

/-!
# SentPath — the path of an address that is sent

A location of another site is compared by its path as decoded in the end and in normal form, but it is
written with the path that it came with.

* `Url.sentSegments?` : what a server reads that decodes each segment of the path once.
* `Path.IsSettled` : segments that leave nothing to decode and nothing to remove.
* `RedirectGuard.sent_path_is_confined_when_settled` : the path that is written leads into an allowed
  directory for all who read it to the end, and for those who decode it once if that settles it.
-/

namespace HttpMediation

/-! ## Settled paths -/

namespace Path

/-- The segments hold no escape and no slash, none stands for a directory, and only the last one may be
empty. -/
structure IsSettled (segments : List (List Char)) : Prop where
  plain : ∀ s ∈ segments, Percent.Plain s
  no_slash : ∀ s ∈ segments, '/' ∉ s
  no_dots : ∀ s ∈ segments, s ≠ ['.'] ∧ s ≠ ['.', '.']
  no_gap : ∀ s ∈ segments.dropLast, s ≠ []

variable {segments : List (List Char)} {s p : List Char}

/-- The names of a settled path are its segments. -/
theorem names_of_normalize_settled (h : IsSettled segments)
    (hp : normalize ('/' :: ['/'].intercalate segments) = some p) :
    names p = segments.filter fun s => !s.isEmpty := by
  by_cases hnil : segments = []
  · subst hnil
    obtain rfl := Option.some.inj hp
    rfl
  · have hsplit : Path.segments (['/'].intercalate segments) = segments :=
      List.splitOn_intercalate '/' h.no_slash hnil
    rw [normalize, hsplit, follow_of_no_dots h.no_dots] at hp
    obtain rfl := Option.some.inj hp
    refine names_join _ fun n hn => ?_
    obtain ⟨hmem, hfull⟩ := List.mem_filter.mp hn
    exact ⟨by simpa using hfull, (h.no_dots n hmem).1, (h.no_dots n hmem).2, h.no_slash n hmem⟩

theorem IsSettled.filter_prefix (h : IsSettled segments) :
    (segments.filter fun s => !s.isEmpty) <+: segments := by
  by_cases hnil : segments = []
  · subst hnil
    exact List.nil_prefix
  · have hfront : (segments.dropLast.filter fun s => !s.isEmpty) = segments.dropLast :=
      List.filter_eq_self.mpr fun s hs => by simpa using h.no_gap s hs
    have hlast : ([segments.getLast hnil].filter fun s => !s.isEmpty) <+: [segments.getLast hnil] := by
      cases hempty : (segments.getLast hnil).isEmpty <;> simp [hempty]
    rw [← List.dropLast_append_getLast hnil, List.filter_append, hfront]
    exact (List.prefix_append_right_inj _).mpr hlast

end Path

/-! ## What a server reads -/

namespace Url

/-- The segments of the path, each of them decoded once. -/
def sentSegments? (u : Url) : Option (List (List Char)) :=
  ((u.pathText.splitOn '/').drop 1).mapM Percent.decodeText?

/-- The path begins with the names of an address among the entries that has the origin of the URL. -/
def BeginsAllowed (u : Url) (entries : List String) (segments : List (List Char)) : Prop :=
  ∃ e ∈ entries, isSitePath e.toList = false ∧ ∃ v dir, Url.parse? e.toList = some v ∧
    v.origin = u.origin ∧ Path.normalize v.pathText = some dir ∧ Path.names dir <+: segments

theorem sentSegments?_of_decoded {u : Url} {body t : List Char} (hpath : u.pathText = '/' :: body)
    (h : Percent.decodeText? u.pathText = some t) :
    ∃ segments, u.sentSegments? = some segments ∧ t = '/' :: ['/'].intercalate segments := by
  rw [hpath] at h
  obtain ⟨a, b, ha, hb, rfl⟩ := Percent.exists_of_decodeText?_append_slash (s := []) h
  obtain rfl := Option.some.inj (Percent.plain_nil.decodeText?.symm.trans ha)
  have hbody : ['/'].intercalate (body.splitOn '/') = body := List.intercalate_splitOn '/'
  rw [← hbody] at hb
  obtain ⟨segments, hsegments, rfl⟩ :=
    Percent.exists_of_decodeText?_intercalate (List.splitOn_ne_nil '/' body) hb
  refine ⟨segments, ?_, rfl⟩
  have hsplit : ('/' :: body).splitOn '/' = [] :: body.splitOn '/' := by
    rw [List.splitOn_cons_eq_if_modifyHead, if_pos (beq_self_eq_true _)]
  rw [sentSegments?, hpath, hsplit]
  exact hsegments

end Url

/-! ## Addresses that are sent -/

namespace Target.IsAddress

variable {s p : List Char} {u : Url}

theorem exists_body (h : IsAddress s u p) : ∃ body, u.pathText = '/' :: body :=
  List.head?_eq_some_iff.mp (Url.head?_pathText h.parsed)

/-- If decoding each segment once settles the path, what a server reads is what was compared. -/
theorem exists_segments (h : IsAddress s u p) : ∃ segments, u.sentSegments? = some segments ∧
    (Path.IsSettled segments → Path.names p <+: segments) := by
  obtain ⟨body, hbody⟩ := h.exists_body
  obtain ⟨d, hd, hp⟩ := h.normal
  obtain ⟨hplain, k, -, hk⟩ := Path.exists_of_settle hd
  obtain ⟨t, ht, hsame⟩ := Percent.exists_of_decodeTimes hk hplain
  obtain ⟨segments, hsegments, rfl⟩ := Url.sentSegments?_of_decoded hbody ht
  refine ⟨segments, hsegments, fun hsettled => ?_⟩
  have hjoined : Percent.Plain ('/' :: ['/'].intercalate segments) :=
    Percent.plain_append_slash_iff.mpr ⟨Percent.plain_nil, Percent.plain_intercalate_iff.mpr hsettled.plain⟩
  rw [← hsame hjoined] at hp
  rw [Path.names_of_normalize_settled hsettled hp]
  exact hsettled.filter_prefix

end Target.IsAddress

namespace RedirectGuard

/-- The path of an address that is written.  Decoded until it holds no escapes, which takes three rounds at
most, and in normal form it begins with the names of an address of the context that has the same scheme,
host and port.  Its segments decoded only once do so too if that leaves nothing to decode and nothing to
remove. -/
theorem sent_path_is_confined_when_settled {config : RedirectConfig} {g : RedirectGuard}
    (hg : RedirectGuard.new config = .ok g) {context : String} {location : Tainted String} {text : String}
    (hlocation : location.inner.toList.head? ≠ some '/') (hw : g.Writes context location text) :
    ∃ u entries segments, Url.parse? location.inner.toList = some u ∧ text.toList = u.text ∧
      config.contexts.get? context = some entries ∧ u.sentSegments? = some segments ∧
      (∃ k ≤ 3, ∃ decoded p, Percent.decodeTimes k u.pathText = some decoded ∧ Percent.Plain decoded ∧
        Path.normalize decoded = some p ∧ u.BeginsAllowed entries (Path.names p)) ∧
      (Path.IsSettled segments → u.BeginsAllowed entries segments) := by
  obtain ⟨t, ⟨hresolved, places, hplaces, place, hplace, hadmits⟩, rfl⟩ := exists_of_writes hw
  obtain ⟨entries, hentries, hparse⟩ := parse?_of_new hg hplaces
  obtain ⟨e, he, hpe⟩ := hparse place hplace
  obtain ⟨u, p, rfl, haddress⟩ := Target.isAddress_of_resolve hresolved hlocation
  obtain ⟨dir, rfl⟩ := AllowEntry.exists_of_admits_absolute hadmits
  obtain ⟨hsite, v, hv, horigin, hdir⟩ := AllowEntry.exists_of_parse?_origin hpe
  have hwithin : Path.within p dir = true := (Bool.and_eq_true_iff.mp hadmits).2
  have hprefix : Path.names dir <+: Path.names p := Path.names_prefix_of_within hwithin
  obtain ⟨segments, hsegments, hsettled⟩ := haddress.exists_segments
  obtain ⟨d, hd, hp⟩ := haddress.normal
  obtain ⟨hplain, k, hk, hdecoded⟩ := Path.exists_of_settle hd
  refine ⟨u, entries, segments, haddress.parsed, String.toList_ofList, hentries, hsegments,
    ⟨k, Nat.le_of_lt_succ hk, d, p, hdecoded, hplain, hp, e, he, hsite, v, dir, hv, horigin, hdir, hprefix⟩,
    fun h => ⟨e, he, hsite, v, dir, hv, horigin, hdir, hprefix.trans (hsettled h)⟩⟩

/-- One round of decoding settles the path, and its first name is that of the allowed directory. -/
theorem sent_path_is_confined_in_cb :
    ∃ u entries, Url.parse? "http://[::1]:8080/cb/%41?x".toList = some u ∧
      RedirectConfig.twoPlaces.contexts.get? "app" = some entries ∧
      u.sentSegments? = some ["cb".toList, "A".toList] ∧
      u.BeginsAllowed entries ["cb".toList, "A".toList] := by
  have hrun : (RedirectGuard.new .twoPlaces >>= fun g =>
      g.check "app" ⟨"http://[::1]:8080/cb/%41?x"⟩) = .ok ⟨"http://[::1]:8080/cb/%41?x"⟩ := by
    decide +kernel
  obtain ⟨g, hg, hcheck⟩ := bind_ok hrun
  obtain ⟨u, entries, segments, hu, -, hentries, hsegments, -, hsettled⟩ :=
    sent_path_is_confined_when_settled hg (by decide) (.inl hcheck)
  have hread : (Url.parse? "http://[::1]:8080/cb/%41?x".toList).bind Url.sentSegments? =
      some ["cb".toList, "A".toList] := by decide +kernel
  rw [show Url.parse? _ = some u from hu, Option.bind_some] at hread
  obtain rfl := Option.some.inj (hsegments.symm.trans hread)
  have hplain : ∀ s ∈ ["cb".toList, "A".toList], Percent.decode (Utf8.encode s) = Utf8.encode s := by
    decide +kernel
  exact ⟨u, entries, hu, hentries, hsegments,
    hsettled ⟨hplain, by decide +kernel, by decide +kernel, by decide +kernel⟩⟩

/-- An escaped escape hides a step up from the server: the path is compared as `/cb/` and sent with `admin`
as its first name. -/
theorem sent_path_leaves_cb :
    ∃ g, RedirectGuard.new .twoPlaces = .ok g ∧
      g.check "app" ⟨"http://[::1]:8080/admin/%252e%252e/cb/"⟩ =
        .ok ⟨"http://[::1]:8080/admin/%252e%252e/cb/"⟩ ∧
      ∃ u entries segments, Url.parse? "http://[::1]:8080/admin/%252e%252e/cb/".toList = some u ∧
        u.text = "http://[::1]:8080/admin/%252e%252e/cb/".toList ∧
        RedirectConfig.twoPlaces.contexts.get? "app" = some entries ∧
        u.sentSegments? = some segments ∧ ¬u.BeginsAllowed entries segments := by
  have hrun : (RedirectGuard.new .twoPlaces >>= fun g =>
      g.check "app" ⟨"http://[::1]:8080/admin/%252e%252e/cb/"⟩) =
        .ok ⟨"http://[::1]:8080/admin/%252e%252e/cb/"⟩ := by decide +kernel
  obtain ⟨g, hg, hcheck⟩ := bind_ok hrun
  have hwritten : (Url.parse? "http://[::1]:8080/admin/%252e%252e/cb/".toList).map Url.text =
      some "http://[::1]:8080/admin/%252e%252e/cb/".toList := by decide +kernel
  have hread : (Url.parse? "http://[::1]:8080/admin/%252e%252e/cb/".toList).bind Url.sentSegments? =
      some ["admin".toList, "%2e%2e".toList, "cb".toList, []] := by decide +kernel
  obtain ⟨u, hu, htext⟩ := Option.map_eq_some_iff.mp hwritten
  rw [hu, Option.bind_some] at hread
  have hplace : (Url.parse? "http://[::1]:8080/cb/".toList).bind (Path.normalize ·.pathText) =
      some "/cb/".toList := by decide +kernel
  refine ⟨g, hg, hcheck, u, _, _, hu, htext, rfl, hread, ?_⟩
  rintro ⟨e, he, hsite, v, dir, hv, -, hdir, hprefix⟩
  rcases List.mem_cons.mp he with rfl | he
  · exact absurd hsite (by decide)
  · obtain rfl := List.mem_singleton.mp he
    rw [hv, Option.bind_some, hdir] at hplace
    obtain rfl := Option.some.inj hplace
    exact absurd hprefix (by decide +kernel)

end RedirectGuard

end HttpMediation
