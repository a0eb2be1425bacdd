import HttpMediation.Proofs.NormalLocation

/-!
# Admission — what an entry says about itself

A location is decoded to the end before it is compared.  An entry is not: its path is compared as it was
written, or as the URL parser escaped it.

* `AllowEntry.exists_of_resolve` : the two ways from an entry to a path.
* `AllowEntry.admits_eq_false_of_escape` : a place whose path holds an escape admits nothing.
* `RedirectGuard.entry_admits_itself_unless_escaped` : which entries admit themselves.
-/

namespace HttpMediation

/-! ## Places and their paths -/

/-- Two slashes at the start would still be there when all is decoded. -/
theorem isSitePath_of_decodeFully {s decoded : List Char} (hs : s.head? = some '/')
    (h : Path.decodeFully s = some decoded) (hhost : ['/', '/'].isPrefixOf decoded = false) :
    isSitePath s = true := by
  obtain ⟨r, rfl⟩ := List.head?_eq_some_iff.mp hs
  cases r with
  | nil => rfl
  | cons c r =>
    have hc : c ≠ '/' := by
      rintro rfl
      rw [Path.decodeFully, Path.settle_slash, Path.settle_slash, Option.map_map] at h
      obtain ⟨d, -, rfl⟩ := Option.map_eq_some_iff.mp h
      cases hhost
    simp [isSitePath, List.isPrefixOf, hc.symm]

namespace AllowEntry

variable {e : String} {place : AllowEntry} {t : Target}

/-- The directory or file of a place. -/
def dir : AllowEntry → List Char
  | path dir => dir
  | origin _ dir => dir

/-- The path that an entry names: the entry itself, or the path of the address as the parser writes it. -/
def pathText? (e : String) : Option (List Char) :=
  if isSitePath e.toList then some e.toList else (Url.parse? e.toList).map Url.pathText

theorem pathText?_of_site (h : isSitePath e.toList = true) : pathText? e = some e.toList :=
  if_pos h

theorem pathText?_of_address {u : Url} (h : isSitePath e.toList = false) (hu : Url.parse? e.toList = some u) :
    pathText? e = some u.pathText := by
  rw [pathText?, h, if_neg Bool.false_ne_true, hu]
  rfl

/-- A place holds the normal form of the path that its entry names. -/
theorem exists_of_parse? (h : parse? e = some place) :
    ∃ raw, pathText? e = some raw ∧ Path.normalize raw = some place.dir := by
  cases place with
  | path dir =>
    obtain ⟨hsite, hdir⟩ := of_parse?_path h
    exact ⟨e.toList, pathText?_of_site hsite, hdir⟩
  | origin o dir =>
    obtain ⟨hsite, u, hu, -, hdir⟩ := exists_of_parse?_origin h
    exact ⟨u.pathText, pathText?_of_address hsite hu, hdir⟩

/-- What a place admits lies in its directory. -/
theorem within_of_admits (h : place.admits t = true) : Path.within t.path place.dir = true := by
  cases place with
  | path dir =>
    cases t with
    | relative p rest => exact h
    | absolute u p => cases h
  | origin o dir =>
    cases t with
    | relative p rest => cases h
    | absolute u p => exact (Bool.and_eq_true_iff.mp h).2

/-- The paths of targets hold no escapes, so a place whose path holds one admits nothing. -/
theorem admits_eq_false_of_escape (h : parse? e = some place) (hescape : ¬ Percent.Plain place.dir)
    {location : String} (ht : Target.resolve? location = some t) : place.admits t = false := by
  obtain ⟨raw, -, hdir⟩ := exists_of_parse? h
  refine Bool.eq_false_iff.mpr fun hadmits => hescape ?_
  have hnames := Path.names_prefix_of_within (within_of_admits hadmits)
  refine Path.plain_of_names hdir fun n hn => ?_
  exact Path.plain_of_mem_splitOn (Target.isFinal_path ht).plain (List.mem_filter.mp (hnames.subset hn)).1

/-- An entry and the same text as a location name one path, and the location goes on to decode it.  The
place admits the target if the path that comes out lies in the one that was written. -/
theorem exists_of_resolve (h : parse? e = some place) (ht : Target.resolve? e = some t)
    (hquery : '?' ∉ e.toList) (hfragment : '#' ∉ e.toList) :
    ∃ raw decoded, pathText? e = some raw ∧ Path.normalize raw = some place.dir ∧
      Path.decodeFully raw = some decoded ∧ Path.normalize decoded = some t.path ∧
      place.admits t = Path.within t.path place.dir := by
  have hcut : Text.cutAt (fun c => c == '?' || c == '#') e.toList = (e.toList, []) := by
    have hmark : ∀ c ∈ e.toList, (c == '?' || c == '#') = false := by
      intro c hc
      rw [Bool.or_eq_false_iff, beq_eq_false_iff_ne, beq_eq_false_iff_ne]
      exact ⟨fun heq => hquery (heq ▸ hc), fun heq => hfragment (heq ▸ hc)⟩
    exact Text.cutAt_of_forall hmark
  obtain ⟨-, -, ⟨hslash, ht⟩ | ⟨hslash, -, ht⟩⟩ := Target.resolve?_eq_some_iff.mp ht
  · obtain ⟨decoded, p, hdecoded, hhost, -, hp, rfl⟩ := Target.resolveRelative?_eq_some_iff.mp ht
    rw [hcut] at hdecoded
    have hsite : isSitePath e.toList = true := isSitePath_of_decodeFully hslash hdecoded hhost
    cases place with
    | path dir =>
      exact ⟨e.toList, decoded, pathText?_of_site hsite, (of_parse?_path h).2, hdecoded, hp, rfl⟩
    | origin o dir =>
      rw [(exists_of_parse?_origin h).1] at hsite
      cases hsite
  · obtain ⟨u, decoded, p, hu, -, -, hdecoded, -, hp, rfl⟩ := Target.resolveAbsolute?_eq_some_iff.mp ht
    cases place with
    | path dir => exact absurd (head?_of_isSitePath (of_parse?_path h).1) hslash
    | origin o dir =>
      obtain ⟨hsite, v, hv, ho, hdir⟩ := exists_of_parse?_origin h
      obtain rfl := Option.some.inj (hu.symm.trans hv)
      refine ⟨u.pathText, decoded, pathText?_of_address hsite hu, hdir, hdecoded, hp, ?_⟩
      show (u.origin == o && _) = _
      rw [ho, beq_self_eq_true, Bool.true_and]
      rfl

end AllowEntry

/-! ## Entries as locations -/

/-- A site with a name with a space, one with a letter that URLs escape, and one with that letter that is no URL. -/
def RedirectConfig.threeNames : RedirectConfig :=
  { contexts := .ofList [("app", ["/a%20b", "http://[::1]:8080/caf\u00e9", "/caf\u00e9/./menu/"])] }

namespace RedirectGuard

/-- The place that an entry of a context stands for admits the entry, read as a location, exactly if the path
that it is decoded to begins with the names of the path that it was written with.  The two are the same if
there is nothing to decode in the path, and then the entry is let out.  But what is written into the place is
not decoded, and all that is compared with it is: if an escape is left in the place, it admits no location. -/
theorem entry_admits_itself_unless_escaped {config : RedirectConfig} {g : RedirectGuard}
    (hg : RedirectGuard.new config = .ok g) {context : String} {entries : List String}
    (hentries : config.contexts.get? context = some entries) {e : String} (he : e ∈ entries)
    (hquery : '?' ∉ e.toList) (hfragment : '#' ∉ e.toList) {t : Target}
    (ht : Target.resolve? e = some t) :
    ∃ place raw, AllowEntry.parse? e = some place ∧ AllowEntry.pathText? e = some raw ∧
      Path.normalize raw = some place.dir ∧
      (place.admits t = true ↔ Path.names place.dir <+: Path.names t.path) ∧
      (place.admits t = true → g.check context ⟨e⟩ = .ok ⟨t.text⟩) ∧
      (Percent.Plain raw → place.dir = t.path ∧ g.check context ⟨e⟩ = .ok ⟨t.text⟩) ∧
      (¬ Percent.Plain place.dir →
        ∀ location target, Target.resolve? location = some target → place.admits target = false) := by
  obtain ⟨places, hplaces, hall⟩ := exists_places_of_new hg hentries
  obtain ⟨place, hplace, hparse⟩ := exists_right_of_forall₂ hall he
  obtain ⟨raw, decoded, hraw, hdir, hdecoded, hp, hadmits⟩ :=
    AllowEntry.exists_of_resolve hparse ht hquery hfragment
  have hcheck : place.admits t = true → g.check context ⟨e⟩ = .ok ⟨t.text⟩ := fun h =>
    check_eq_ok_iff.mpr ⟨t, ⟨ht, places, hplaces, place, hplace, h⟩, rfl⟩
  refine ⟨place, raw, hparse, hraw, hdir, ?_, hcheck, fun hplain => ?_, fun hescape location target htarget =>
    AllowEntry.admits_eq_false_of_escape hparse hescape htarget⟩
  · rw [hadmits]
    exact Path.within_iff hp hdir
  · obtain rfl := Path.eq_of_settle_plain hplain hdecoded
    have hsame : place.dir = t.path := Option.some.inj (hdir.symm.trans hp)
    refine ⟨hsame, hcheck ?_⟩
    rw [hadmits, hsame]
    exact Path.within_self hp

/-- The entry without escapes admits itself, once its `.` is gone. -/
theorem plain_entry_admits_itself :
    ∃ g t place, RedirectGuard.new .threeNames = .ok g ∧
      Target.resolve? "/caf\u00e9/./menu/" = some t ∧ t.text = "/caf%C3%A9/menu/" ∧
      AllowEntry.parse? "/caf\u00e9/./menu/" = some place ∧ place.dir = t.path ∧
      g.check "app" ⟨"/caf\u00e9/./menu/"⟩ = .ok ⟨"/caf%C3%A9/menu/"⟩ := by
  have hsite : isSitePath "/caf\u00e9/./menu/".toList = true := by decide +kernel
  have hplain : Percent.Plain "/caf\u00e9/./menu/".toList := by
    show Percent.decode _ = _
    decide +kernel
  have hnew : (RedirectGuard.new .threeNames).map (fun _ => ()) = .ok () := by decide +kernel
  have hentries : RedirectConfig.threeNames.contexts.get? "app" =
      some ["/a%20b", "http://[::1]:8080/caf\u00e9", "/caf\u00e9/./menu/"] := rfl
  have hresolve : (Target.resolve? "/caf\u00e9/./menu/").map Target.text = some "/caf%C3%A9/menu/" := by
    decide +kernel
  obtain ⟨g, hg, -⟩ := map_eq_ok_iff.mp hnew
  obtain ⟨t, ht, htext⟩ := Option.map_eq_some_iff.mp hresolve
  obtain ⟨place, raw, hparse, hraw, -, -, -, hadmitted, -⟩ :=
    entry_admits_itself_unless_escaped hg hentries (by decide) (by decide) (by decide) ht
  obtain rfl := Option.some.inj ((AllowEntry.pathText?_of_site hsite).symm.trans hraw)
  obtain ⟨hdir, hcheck⟩ := hadmitted hplain
  rw [htext] at hcheck
  exact ⟨g, t, place, hg, ht, htext, hparse, hdir, hcheck⟩

/-- The others mean something as locations, and the context that lists them refuses them. -/
theorem escaped_entries_refuse_themselves :
    ∃ g, RedirectGuard.new .threeNames = .ok g ∧
      ∀ e ∈ ["/a%20b", "http://[::1]:8080/caf\u00e9"],
        (∃ entries, RedirectConfig.threeNames.contexts.get? "app" = some entries ∧ e ∈ entries) ∧
          '?' ∉ e.toList ∧ '#' ∉ e.toList ∧ (Target.resolve? e).isSome = true ∧
          g.check "app" ⟨e⟩ = .error (.accessControl "redirect destination not allowed") := by
  have hrun : (RedirectGuard.new .threeNames).map (fun g =>
      (g.check "app" ⟨"/a%20b"⟩, g.check "app" ⟨"http://[::1]:8080/caf\u00e9"⟩)) =
        .ok (.error (.accessControl "redirect destination not allowed"),
          .error (.accessControl "redirect destination not allowed")) := by decide +kernel
  obtain ⟨g, hg, hchecks⟩ := map_eq_ok_iff.mp hrun
  obtain ⟨hname, haddress⟩ := Prod.mk.inj hchecks
  refine ⟨g, hg, List.forall_mem_cons.mpr ⟨?_, List.forall_mem_singleton.mpr ?_⟩⟩
  · exact ⟨⟨_, rfl, by decide⟩, by decide, by decide, by decide +kernel, hname⟩
  · exact ⟨⟨_, rfl, by decide⟩, by decide, by decide, by decide +kernel, haddress⟩

end RedirectGuard

end HttpMediation
