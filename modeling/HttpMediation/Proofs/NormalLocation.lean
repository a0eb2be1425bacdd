import HttpMediation.Proofs.Namespace
import HttpMediation.Proofs.SentText

/-!
# NormalLocation — one way to write every target

A location that is let out is written anew, from the path that was compared or from the URL that was read.
Whoever hands the written text in again gets the same text.

* `Path.IsFinal`, `Target.isFinal_path` : the path of a target is one that nobody reads in another way.
* `Target.resolve?_text` : the text of a target resolves to the target.
* `RedirectGuard.sent_text_is_let_out_as_it_is` : letting the text out again changes nothing.
-/

namespace HttpMediation

/-! ## Paths that are written -/

namespace Path

variable {s t p : List Char} {rounds : Nat}

/-- The characters of a normal form are characters of the path. -/
theorem mem_of_mem_normalize (h : normalize s = some p) {c : Char} (hc : c ∈ p) : c ∈ s := by
  have hslash : '/' ∈ s := by
    unfold normalize at h
    split at h
    · exact List.mem_cons_self
    · cases h
  obtain ⟨dir, isDirectory, rfl, hdir⟩ := exists_of_normalize h
  rw [join_eq_flatMap] at hc
  rcases List.mem_append.mp hc with hname | hend
  · obtain ⟨n, hn, hmem⟩ := List.mem_flatMap.mp hname
    rcases List.mem_cons.mp hmem with rfl | hmem
    · exact hslash
    · exact (of_mem_splitOn (hdir n hn).2 hmem).1
  · split_ifs at hend
    · rwa [List.mem_singleton.mp hend]
    · exact absurd hend List.not_mem_nil

/-- A path in normal form that holds no escape, no control character and no backslash. -/
structure IsFinal (p : List Char) : Prop where
  normal : normalize p = some p
  plain : Percent.Plain p
  clean : ∀ c ∈ p, Text.isControl c = false
  no_backslash : '\x5c' ∉ p

theorem isFinal_of_normalize (hs : settle rounds t = some s) (hslash : '\x5c' ∉ s)
    (hp : normalize s = some p) : IsFinal p where
  normal := normalize_of_normalize hp
  plain := plain_of_normalize hp (of_settle hs).1
  clean := fun c hc => (of_settle hs).2 c (mem_of_mem_normalize hp hc)
  no_backslash := fun hmem => hslash (mem_of_mem_normalize hp hmem)

end Path

/-! ## Addresses without backslashes -/

namespace Url

/-- A path is cut at backslashes as at slashes, so no segment holds one. -/
theorem backslash_not_mem_readPath (path : List Char) : ∀ s ∈ readPath path, '\x5c' ∉ s := by
  refine forall_mem_readPath (Q := fun s => '\x5c' ∉ s) List.not_mem_nil fun segment hsegment _ => ?_
  refine Percent.not_mem_encode (by decide) fun hmem => ?_
  exact absurd (Path.of_mem_splitOnP hsegment hmem).2 (by decide)

/-- The spelling of an address that names no user holds a backslash only if the text does that it was read
from. -/
theorem backslash_not_mem_text {s : List Char} {u : Url} (h : parse? s = some u) (hname : u.username = [])
    (hword : u.password = none) (hs : '\x5c' ∉ s) : '\x5c' ∉ u.text := by
  obtain ⟨user, host, path, query, fragment, -, hhost, hpath, hquery, hquerySub, hfragment, hfragmentSub⟩ :=
    exists_of_parse? h
  have hmark : ∀ marks : List Char, '\x5c' ∉ marks → ∀ c ∈ marks, c ≠ '\x5c' := by
    rintro marks hmarks c hc rfl
    exact hmarks hc
  have htext : ∀ c ∈ u.text, c ≠ '\x5c' := by
    refine forall_mem_text (by decide) (hmark _ (by decide)) ?_ ?_ ?_ ?_ ?_ ?_
    · rw [hname]
      exact hmark _ List.not_mem_nil
    · rw [hword]
      exact fun word hnone => nomatch hnone
    · refine Host.forall_mem_text (by decide) (hmark _ (by decide)) (fun hascii => ?_) hhost
      rintro c hc rfl
      exact absurd ((DomainName.exists_of_toAscii? hascii).1 _ hc) (by decide)
    · rw [hpath]
      exact fun s hs => hmark s (backslash_not_mem_readPath path s hs)
    · intro q hq
      rw [hquery q hq]
      exact hmark _ (Percent.not_mem_encode (by decide) fun hmem => hs (hquerySub hmem))
    · intro f hf
      rw [hfragment f hf]
      exact hmark _ (Percent.not_mem_encode (by decide) fun hmem => hs (hfragmentSub hmem))
  exact fun hmem => htext _ hmem rfl

end Url

/-! ## Texts of targets -/

namespace Target

variable {location : String} {p rest : List Char} {u : Url}

theorem isUnsafe_of_isVisible {c : Char} (hc : IsVisible c) (hslash : c ≠ '\x5c') : isUnsafe c = false := by
  obtain ⟨hcontrol, hblank⟩ := hc.safe
  unfold isUnsafe
  rw [hcontrol, hblank, beq_eq_false_iff_ne.mpr hslash]
  rfl

/-- The path of a target, as it is compared. -/
def path : Target → List Char
  | relative path _ => path
  | absolute _ path => path

/-- The path of a target is final, since it is the normal form of a text that was decoded to the end. -/
theorem isFinal_path {t : Target} (h : resolve? location = some t) : Path.IsFinal t.path := by
  obtain ⟨-, -, ⟨-, h⟩ | ⟨-, -, h⟩⟩ := resolve?_eq_some_iff.mp h
  · obtain ⟨decoded, q, hdecoded, -, hslash, hq, rfl⟩ := resolveRelative?_eq_some_iff.mp h
    exact Path.isFinal_of_normalize hdecoded hslash hq
  · obtain ⟨u, decoded, q, -, -, -, hdecoded, hslash, hq, rfl⟩ := resolveAbsolute?_eq_some_iff.mp h
    exact Path.isFinal_of_normalize hdecoded hslash hq

/-- A final path, written, and a tail that a mark stands in front of resolve to that path and that tail. -/
theorem resolve?_text_of_relative (hp : Path.IsFinal p) (hmarked : ∀ c ∈ rest.head?, c = '?' ∨ c = '#')
    (hsafe : ∀ c ∈ rest, isUnsafe c = false) :
    resolve? (Target.relative p rest).text = some (.relative p rest) := by
  obtain ⟨q, rfl⟩ := List.head?_eq_some_iff.mp (Path.isNormal_of_normalize hp.normal).rooted
  have hcut : Text.cutAt (fun c => c == '?' || c == '#') (Path.write ('/' :: q) ++ rest) =
      (Path.write ('/' :: q), rest) := by
    refine Text.cutAt_of_head (fun c hc => ?_) fun c hc => ?_
    · simpa using Path.not_mark_of_mem_write hc
    · simpa using hmarked c hc
  have hhost : ['/', '/'].isPrefixOf ('/' :: q) = false := by
    cases q with
    | nil => rfl
    | cons c r =>
      have hc := (Path.second_of_normalize hp.normal rfl).1
      simpa [List.isPrefixOf] using hc.symm
  rw [resolve?_eq_some_iff, toList_text_relative, Path.write_slash, List.cons_append]
  refine ⟨List.cons_ne_nil _ _, fun c hc => ?_, .inl ⟨rfl, ?_⟩⟩
  · rw [← List.cons_append, ← Path.write_slash] at hc
    rcases List.mem_append.mp hc with hpath | hrest
    · refine isUnsafe_of_isVisible (Path.visible_write _ c hpath) ?_
      rintro rfl
      exact Percent.not_mem_encode (by decide) hp.no_backslash hpath
    · exact hsafe c hrest
  · rw [← List.cons_append, ← Path.write_slash, resolveRelative?_eq_some_iff, hcut]
    exact ⟨_, _, Path.settle_write hp.plain hp.clean, hhost, hp.no_backslash, hp.normal, rfl⟩

/-- The spelling of an address starts with its scheme, so it is no path and is taken for an address. -/
theorem text_head (u : Url) : ∃ rest, u.text = 'h' :: rest ∧ isAbsolute u.text = true := by
  unfold Url.text isAbsolute
  cases u.scheme with
  | http => exact ⟨_, rfl, by simp [Scheme.name, List.isPrefixOf]⟩
  | https => exact ⟨_, rfl, by simp [Scheme.name, List.isPrefixOf]⟩

/-- An address in its one spelling resolves to itself, if it reads as itself. -/
theorem resolve?_text_of_absolute (h : resolve? location = some (.absolute u p))
    (hurl : Url.parse? u.text = some u) :
    resolve? (Target.absolute u p).text = some (.absolute u p) := by
  obtain ⟨-, hsafe, ⟨-, h⟩ | ⟨-, -, h⟩⟩ := resolve?_eq_some_iff.mp h
  · obtain ⟨_, _, -, -, -, -, ht⟩ := resolveRelative?_eq_some_iff.mp h
    cases ht
  obtain ⟨v, decoded, q, hv, hname, hword, hdecoded, hslash, hq, ht⟩ := resolveAbsolute?_eq_some_iff.mp h
  obtain ⟨rfl, rfl⟩ := Target.absolute.inj ht
  obtain ⟨r, hr, habsolute⟩ := Target.text_head u
  have hbackslash : '\x5c' ∉ u.text := by
    refine Url.backslash_not_mem_text hv hname hword fun hmem => ?_
    exact absurd (hsafe _ hmem) (by decide)
  rw [resolve?_eq_some_iff, text, String.toList_ofList]
  refine ⟨by rw [hr]; exact List.cons_ne_nil _ _, fun c hc => ?_, .inr ⟨by rw [hr]; simp, habsolute, ?_⟩⟩
  · refine isUnsafe_of_isVisible ((Url.isWritten_of_parse? hv).visible_text c hc) ?_
    rintro rfl
    exact hbackslash hc
  · exact resolveAbsolute?_eq_some_iff.mpr ⟨u, decoded, p, hurl, hname, hword, hdecoded, hslash, hq, rfl⟩

/-- The text of a target resolves to the target. -/
theorem resolve?_text {t : Target} (h : resolve? location = some t)
    (hurl : ∀ u, Url.parse? location.toList = some u → Url.parse? u.text = some u) :
    resolve? t.text = some t := by
  rcases cases_of_resolve h with ⟨-, p, rfl, hrelative⟩ | ⟨-, u, p, rfl, haddress⟩
  · exact resolve?_text_of_relative (isFinal_path h) hrelative.marked fun c hc =>
      not_isUnsafe_of_resolve h (mem_of_mem_tailOf hc)
  · exact resolve?_text_of_absolute h (hurl u haddress.parsed)

end Target

namespace RedirectGuard

variable {context : String} {location other : Tainted String}

/-- A guard goes by what a location resolves to. -/
theorem check_congr (g : RedirectGuard) (h : Target.resolve? location.inner = Target.resolve? other.inner) :
    g.check context location = g.check context other ∧
      g.checkForward context location = g.checkForward context other := by
  unfold check checkForward
  rw [h]
  exact ⟨rfl, rfl⟩

/-- What a guard lets out is in normal form: let out again, in the same context, it stays as it is.  To every
guard and in every context, for redirects and for forwards, the location and what was let out for it are the
same.  About addresses it is used that one in its one spelling reads as the same address. -/
theorem sent_text_is_let_out_as_it_is {g : RedirectGuard} {text : String}
    (hcheck : g.check context location = .ok ⟨text⟩)
    (hurl : ∀ u, Url.parse? location.inner.toList = some u → Url.parse? u.text = some u) :
    g.check context ⟨text⟩ = .ok ⟨text⟩ ∧
      ∀ (other : RedirectGuard) (elsewhere : String),
        other.check elsewhere ⟨text⟩ = other.check elsewhere location ∧
          other.checkForward elsewhere ⟨text⟩ = other.checkForward elsewhere location := by
  obtain ⟨t, haccepts, rfl⟩ := check_eq_ok_iff.mp hcheck
  have hsame : Target.resolve? t.text = Target.resolve? location.inner := by
    rw [Target.resolve?_text haccepts.resolved hurl, haccepts.resolved]
  exact ⟨(g.check_congr hsame).1.trans hcheck, fun other elsewhere => other.check_congr hsame⟩

/-- An address whose path was escaped twice and holds a percent sign that escapes nothing: what is let out is
not what came in, and it is let out as it is. -/
theorem respelled_host_is_let_out_as_it_is :
    ∃ g, RedirectGuard.new .twoPlaces = .ok g ∧
      g.check "app" ⟨"http://[0::1]:8080/cb/%2541/%zz?%41"⟩ =
        .ok ⟨"http://[::1]:8080/cb/%2541/%zz?%41"⟩ ∧
      g.check "app" ⟨"http://[::1]:8080/cb/%2541/%zz?%41"⟩ =
        .ok ⟨"http://[::1]:8080/cb/%2541/%zz?%41"⟩ := by
  have hrun : (RedirectGuard.new .twoPlaces >>= fun g =>
      g.check "app" ⟨"http://[0::1]:8080/cb/%2541/%zz?%41"⟩) =
        .ok ⟨"http://[::1]:8080/cb/%2541/%zz?%41"⟩ := by decide +kernel
  obtain ⟨g, hg, hcheck⟩ := bind_ok hrun
  refine ⟨g, hg, hcheck, (sent_text_is_let_out_as_it_is hcheck fun u hu => ?_).1⟩
  have hsame : (Url.parse? "http://[0::1]:8080/cb/%2541/%zz?%41".toList).all
      (fun u => Url.parse? u.text == some u) = true := by decide +kernel
  rw [show Url.parse? _ = some u from hu] at hsame
  simpa using hsame

end RedirectGuard

end HttpMediation
