import HttpMediation.Proofs.Decoding
import HttpMediation.Proofs.Dict
import HttpMediation.Proofs.NormalPath
import HttpMediation.Proofs.Outcome
import HttpMediation.Redirect.Guard

/-!
# Redirect — what a guard lets out

* `RedirectGuard.rel_of_new` : the places of a guard are what its settings mean.
* `Target.resolve?_eq_some_iff` : when a location resolves.
* `Target.IsRelative`, `Target.IsAddress`, `Target.cases_of_resolve` : what locations resolve to.
* `RedirectGuard.Accepts`, `RedirectGuard.Writes` : the targets that a guard lets pass, and the texts that
  any of its operations writes for a location.
* `RedirectGuard.exists_of_writes` : what is written is the text of such a target.
-/

namespace HttpMediation

/-! ## Guards and their settings -/

theorem head?_of_isSitePath {s : List Char} (h : isSitePath s = true) : s.head? = some '/' := by
  unfold isSitePath at h
  exact Ascii.isPrefixOf_singleton_iff.mp (Bool.and_eq_true_iff.mp h).1

namespace RedirectGuard

theorem readContext_eq_ok_iff {context : String} {entries : List String} {places : List AllowEntry} :
    readContext context entries = .ok places ↔
      List.Forall₂ (fun e place => AllowEntry.parse? e = some place) entries places := by
  rw [← mapM_eq_some_iff]
  unfold readContext
  split
  · rename_i found hfound
    rw [hfound, Except.ok.injEq, Option.some.injEq]
  · rename_i hnone
    rw [hnone]
    exact ⟨fun h => (nomatch h), fun h => (nomatch h)⟩

/-- Reading keeps the names of the contexts, and under each name there is what was read there. -/
theorem of_readContexts {l : List (String × List String)} {out : List (String × List AllowEntry)}
    (h : (l.mapM fun e => do return (e.1, ← readContext e.1 e.2)) = .ok out) :
    out.map (·.1) = l.map (·.1) ∧ ∀ context, Option.Rel
      (List.Forall₂ fun e place => AllowEntry.parse? e = some place) (l.lookup context) (out.lookup context) := by
  induction mapM_eq_ok_iff.mp h with
  | nil => exact ⟨rfl, fun _ => .none⟩
  | @cons e b l out hfirst hrest ih =>
    obtain ⟨places, hplaces, hfirst⟩ := bind_ok hfirst
    obtain rfl := Except.ok.inj hfirst
    obtain ⟨hkeys, hlookup⟩ := ih (mapM_eq_ok_iff.mpr hrest)
    refine ⟨by rw [List.map_cons, List.map_cons, hkeys], fun context => ?_⟩
    rw [List.lookup_cons, List.lookup_cons]
    by_cases he : context = e.1
    · subst he
      rw [beq_self_eq_true]
      exact .some (readContext_eq_ok_iff.mp hplaces)
    · rw [beq_eq_false_iff_ne.mpr he]
      exact hlookup context

theorem normalize_of_new {config : RedirectConfig} {g : RedirectGuard}
    (h : RedirectGuard.new config = .ok g) :
    Path.normalize config.forwardNamespace.toList = some g.forwardNamespace := by
  obtain ⟨contexts, -, h⟩ := bind_ok h
  split at h
  · rename_i dir hdir
    obtain rfl := Except.ok.inj h
    exact hdir
  · cases h

/-- The contexts of a guard are those of its settings, and the places of a context are what its entries mean,
one by one. -/
theorem rel_of_new {config : RedirectConfig} {g : RedirectGuard} (h : RedirectGuard.new config = .ok g)
    (context : String) : Option.Rel (List.Forall₂ fun e place => AllowEntry.parse? e = some place)
      (config.contexts.get? context) (g.contexts.get? context) := by
  obtain ⟨contexts, hcontexts, h⟩ := bind_ok h
  obtain ⟨hkeys, hlookup⟩ := of_readContexts hcontexts
  have hnodup : (contexts.map (·.1)).Nodup := by
    rw [hkeys]
    exact config.contexts.nodup_keys
  split at h
  · obtain rfl := Except.ok.inj h
    rw [Dict.get?_ofList hnodup]
    exact hlookup context
  · cases h

theorem exists_places_of_new {config : RedirectConfig} {g : RedirectGuard}
    (h : RedirectGuard.new config = .ok g) {context : String} {entries : List String}
    (hentries : config.contexts.get? context = some entries) :
    ∃ places, g.contexts.get? context = some places ∧
      List.Forall₂ (fun e place => AllowEntry.parse? e = some place) entries places := by
  have hrel := rel_of_new h context
  rw [hentries] at hrel
  generalize g.contexts.get? context = found at hrel ⊢
  cases hrel with
  | some hall => exact ⟨_, rfl, hall⟩

theorem parse?_of_new {config : RedirectConfig} {g : RedirectGuard}
    (h : RedirectGuard.new config = .ok g) {context : String} {places : List AllowEntry}
    (hp : g.contexts.get? context = some places) :
    ∃ entries, config.contexts.get? context = some entries ∧
      ∀ place ∈ places, ∃ e ∈ entries, AllowEntry.parse? e = some place := by
  have hrel := rel_of_new h context
  rw [hp] at hrel
  generalize config.contexts.get? context = found at hrel ⊢
  cases hrel with
  | some hall => exact ⟨_, rfl, fun place hplace => exists_left_of_forall₂ hall hplace⟩

end RedirectGuard

/-! ## What a location resolves to -/

namespace Target

/-- A target of this site: its path is the normal form of a text without escapes and backslashes, and
a mark stands in front of what is left. -/
structure IsRelative (p rest : List Char) : Prop where
  normal : ∃ decoded, Percent.Plain decoded ∧ '\x5c' ∉ decoded ∧ Path.normalize decoded = some p
  marked : ∀ c ∈ rest.head?, c = '?' ∨ c = '#'

/-- The location from its first `?` or `#` on. -/
def tailOf (location : String) : List Char :=
  (Text.cutAt (fun c => c == '?' || c == '#') location.toList).2

/-- A place of this site is read from what stands in front of the first `?` or `#`. -/
theorem resolveRelative?_eq_some_iff {s : List Char} {t : Target} : resolveRelative? s = some t ↔
    ∃ decoded p, Path.decodeFully (Text.cutAt (fun c => c == '?' || c == '#') s).1 = some decoded ∧
      ['/', '/'].isPrefixOf decoded = false ∧ '\x5c' ∉ decoded ∧ Path.normalize decoded = some p ∧
      t = .relative p (Text.cutAt (fun c => c == '?' || c == '#') s).2 := by
  unfold resolveRelative?
  constructor
  · intro h
    obtain ⟨decoded, hdecoded, h⟩ := Option.bind_eq_some_iff.mp h
    dsimp only at h
    split_ifs at h with hhost
    · cases h
    obtain ⟨p, hp, h⟩ := Option.bind_eq_some_iff.mp h
    rw [Bool.or_eq_true, not_or, Bool.not_eq_true, List.contains_iff_mem] at hhost
    exact ⟨decoded, p, hdecoded, hhost.1, hhost.2, hp, (Option.some.inj h).symm⟩
  · rintro ⟨decoded, p, hdecoded, hhost, hslash, hp, rfl⟩
    dsimp only
    have hrefused : ¬ (['/', '/'].isPrefixOf decoded || decoded.contains '\x5c') = true := by
      rw [hhost, Bool.false_or, List.contains_iff_mem]
      exact hslash
    rw [hdecoded, Option.bind_eq_bind, Option.bind_some, if_neg hrefused, hp]
    rfl

theorem isRelative_of_resolveRelative {location : String} {t : Target}
    (h : resolveRelative? location.toList = some t) :
    ∃ p, t = .relative p (tailOf location) ∧ IsRelative p (tailOf location) := by
  obtain ⟨decoded, p, hdecoded, -, hslash, hp, rfl⟩ := resolveRelative?_eq_some_iff.mp h
  refine ⟨p, rfl, ⟨decoded, (Path.of_settle hdecoded).1, hslash, hp⟩, fun c hc => ?_⟩
  have hstop := List.head?_dropWhile_not (fun c => !(c == '?' || c == '#')) location.toList
  rw [show List.head? (List.dropWhile _ _) = some c from hc] at hstop
  simpa [or_iff_not_imp_left] using hstop

/-- A target of any site: the URL, and the normal form of its decoded path. -/
structure IsAddress (s : List Char) (u : Url) (p : List Char) : Prop where
  parsed : Url.parse? s = some u
  username : u.username = []
  password : u.password = none
  normal : ∃ decoded, Path.decodeFully u.pathText = some decoded ∧ Path.normalize decoded = some p

theorem resolveAbsolute?_eq_some_iff {s : List Char} {t : Target} : resolveAbsolute? s = some t ↔
    ∃ u decoded p, Url.parse? s = some u ∧ u.username = [] ∧ u.password = none ∧
      Path.decodeFully u.pathText = some decoded ∧ '\x5c' ∉ decoded ∧ Path.normalize decoded = some p ∧
      t = .absolute u p := by
  unfold resolveAbsolute?
  constructor
  · intro h
    obtain ⟨u, hu, h⟩ := Option.bind_eq_some_iff.mp h
    split_ifs at h with huser
    · cases h
    obtain ⟨decoded, hdecoded, h⟩ := Option.bind_eq_some_iff.mp h
    dsimp only at h
    split_ifs at h with hslash
    · cases h
    obtain ⟨p, hp, h⟩ := Option.bind_eq_some_iff.mp h
    rw [Bool.or_eq_true, not_or] at huser
    exact ⟨u, decoded, p, hu, by simpa using huser.1, by simpa using huser.2, hdecoded,
      by simpa using hslash, hp, (Option.some.inj h).symm⟩
  · rintro ⟨u, decoded, p, hu, hname, hword, hdecoded, hslash, hp, rfl⟩
    have huser : ¬ (!u.username.isEmpty || u.password.isSome) = true := by simp [hname, hword]
    have hrefused : ¬ decoded.contains '\x5c' = true := by simpa using hslash
    rw [hu, Option.bind_eq_bind, Option.bind_some, if_neg huser, hdecoded]
    simp only [Option.bind_eq_bind, Option.bind_some, if_neg hrefused, hp]
    rfl

theorem isAddress_of_resolveAbsolute {s : List Char} {t : Target} (h : resolveAbsolute? s = some t) :
    ∃ u p, t = .absolute u p ∧ IsAddress s u p := by
  obtain ⟨u, decoded, p, hu, hname, hword, hdecoded, -, hp, rfl⟩ := resolveAbsolute?_eq_some_iff.mp h
  exact ⟨u, p, rfl, hu, hname, hword, decoded, hdecoded, hp⟩

/-- A location without characters that are read in several ways resolves to a place of this site if it begins
with a slash, and if it names a web scheme to a place of any site. -/
theorem resolve?_eq_some_iff {location : String} {t : Target} : resolve? location = some t ↔
    location.toList ≠ [] ∧ (∀ c ∈ location.toList, isUnsafe c = false) ∧
      (location.toList.head? = some '/' ∧ resolveRelative? location.toList = some t ∨
        location.toList.head? ≠ some '/' ∧ isAbsolute location.toList = true ∧
          resolveAbsolute? location.toList = some t) := by
  have hsafe : ¬ (location.toList.isEmpty || location.toList.any isUnsafe) = true ↔
      location.toList ≠ [] ∧ ∀ c ∈ location.toList, isUnsafe c = false := by simp
  rw [← and_assoc, ← hsafe, ne_eq, ← Ascii.isPrefixOf_singleton_iff]
  unfold resolve?
  dsimp only
  split_ifs with hrefused hslash habsolute
  · exact ⟨fun h => (nomatch h), fun h => absurd hrefused h.1⟩
  · refine ⟨fun h => ⟨hrefused, .inl ⟨hslash, h⟩⟩, ?_⟩
    rintro ⟨-, ⟨-, h⟩ | ⟨hne, -⟩⟩
    · exact h
    · exact absurd hslash hne
  · refine ⟨fun h => ⟨hrefused, .inr ⟨hslash, habsolute, h⟩⟩, ?_⟩
    rintro ⟨-, ⟨heq, -⟩ | ⟨-, -, h⟩⟩
    · exact absurd heq hslash
    · exact h
  · refine ⟨fun h => (nomatch h), ?_⟩
    rintro ⟨-, ⟨heq, -⟩ | ⟨-, hnamed, -⟩⟩
    · exact absurd heq hslash
    · exact absurd hnamed habsolute

/-- A location that begins with a slash is a place of this site, and its tail is carried along; any other
is an address. -/
theorem cases_of_resolve {location : String} {t : Target} (h : resolve? location = some t) :
    (location.toList.head? = some '/' ∧
        ∃ p, t = .relative p (tailOf location) ∧ IsRelative p (tailOf location)) ∨
      (location.toList.head? ≠ some '/' ∧ ∃ u p, t = .absolute u p ∧ IsAddress location.toList u p) := by
  obtain ⟨-, -, ⟨hslash, h⟩ | ⟨hslash, -, h⟩⟩ := resolve?_eq_some_iff.mp h
  · exact .inl ⟨hslash, isRelative_of_resolveRelative h⟩
  · exact .inr ⟨hslash, isAddress_of_resolveAbsolute h⟩

/-- What does not begin with a slash can only resolve to an address. -/
theorem isAddress_of_resolve {location : String} {t : Target} (h : resolve? location = some t)
    (hslash : location.toList.head? ≠ some '/') :
    ∃ u p, t = .absolute u p ∧ IsAddress location.toList u p := by
  rcases cases_of_resolve h with ⟨hrooted, -⟩ | ⟨-, haddress⟩
  · exact absurd hrooted hslash
  · exact haddress

/-- What a location resolves to: a place of this site, or a web address without user and password. -/
theorem of_resolve {location : String} {t : Target} (h : resolve? location = some t) :
    (∃ p rest, t = .relative p rest ∧ IsRelative p rest) ∨
      (location.toList.head? ≠ some '/' ∧ ∃ u p, t = .absolute u p ∧
        Url.parse? location.toList = some u ∧ u.username = [] ∧ u.password = none) := by
  rcases cases_of_resolve h with ⟨-, p, ht, hrelative⟩ | ⟨hslash, u, p, ht, haddress⟩
  · exact .inl ⟨p, _, ht, hrelative⟩
  · exact .inr ⟨hslash, u, p, ht, haddress.parsed, haddress.username, haddress.password⟩

/-- What resolves holds no control character, no blank and no backslash. -/
theorem not_isUnsafe_of_resolve {location : String} {t : Target} (h : resolve? location = some t) {c : Char}
    (hc : c ∈ location.toList) : isUnsafe c = false :=
  (resolve?_eq_some_iff.mp h).2.1 c hc

end Target

/-! ## What is written -/

namespace RedirectGuard

/-- The context has a place that admits the target, and this is what the location resolves to. -/
structure Accepts (g : RedirectGuard) (context : String) (location : Tainted String)
    (t : Target) : Prop where
  resolved : Target.resolve? location.inner = some t
  admitted : ∃ places, g.contexts.get? context = some places ∧ ∃ place ∈ places, place.admits t = true

/-- The client is sent to the text. -/
def Redirects (g : RedirectGuard) (context : String) (location : Tainted String) (text : String) :
    Prop :=
  ∃ x, (g.redirect context location x).1 = .ok () ∧
    (g.redirect context location x).2.response.redirect = some text

/-- The request is handed on to the text. -/
def Forwards (g : RedirectGuard) (context : String) (location : Tainted String) (text : String) :
    Prop :=
  ∃ x, (g.forward context location x).1 = .ok () ∧
    (g.forward context location x).2.response.forward = some text

/-- What the guard lets out for a location, by any of its operations. -/
def Writes (g : RedirectGuard) (context : String) (location : Tainted String) (text : String) : Prop :=
  g.check context location = .ok ⟨text⟩ ∨ g.Redirects context location text ∨
    g.Forwards context location text

theorem get?_of_places {g : RedirectGuard} {context : String} {places : List AllowEntry}
    (h : g.places context = .ok places) : g.contexts.get? context = some places := by
  unfold RedirectGuard.places at h
  split at h
  · rename_i found hfound
    rw [hfound, Except.ok.inj h]
  · cases h

theorem exists_of_check {g : RedirectGuard} {context : String} {location : Tainted String}
    {text : Verified String} (h : g.check context location = .ok text) :
    ∃ t, g.Accepts context location t ∧ text.inner = t.text := by
  obtain ⟨places, hplaces, h⟩ := bind_ok h
  split at h
  · rename_i t ht
    split_ifs at h with hadmits
    obtain rfl := Except.ok.inj h
    obtain ⟨place, hplace, hadmit⟩ := List.any_eq_true.mp hadmits
    exact ⟨t, ⟨ht, places, get?_of_places hplaces, place, hplace, hadmit⟩, rfl⟩
  · cases h

theorem exists_of_checkForward {g : RedirectGuard} {context : String} {location : Tainted String}
    {text : Verified String} (h : g.checkForward context location = .ok text) :
    ∃ t, g.Accepts context location t ∧ t.isWithin g.forwardNamespace = true ∧ text.inner = t.text := by
  obtain ⟨places, hplaces, h⟩ := bind_ok h
  split at h
  · rename_i t ht
    split_ifs at h with hadmits
    obtain rfl := Except.ok.inj h
    rw [Bool.and_eq_true] at hadmits
    obtain ⟨place, hplace, hadmit⟩ := List.any_eq_true.mp hadmits.2
    exact ⟨t, ⟨ht, places, get?_of_places hplaces, place, hplace, hadmit⟩, hadmits.1, rfl⟩
  · cases h

theorem exists_of_send {checked : Except Error (Verified String)}
    {put : String → Response → Response} {x : Exchange} (h : (send checked put x).1 = .ok ()) :
    ∃ text, checked = .ok text ∧ (send checked put x).2.response = put text.inner x.response := by
  unfold send at h ⊢
  split at h
  · exact ⟨_, rfl, rfl⟩
  · cases h

theorem exists_of_forwards {g : RedirectGuard} {context : String} {location : Tainted String}
    {text : String} (h : g.Forwards context location text) :
    ∃ t, g.Accepts context location t ∧ t.isWithin g.forwardNamespace = true ∧ text = t.text := by
  obtain ⟨x, hok, htext⟩ := h
  obtain ⟨checked, hchecked, hresponse⟩ := exists_of_send hok
  obtain ⟨t, haccepts, hwithin, hinner⟩ := exists_of_checkForward hchecked
  refine ⟨t, haccepts, hwithin, ?_⟩
  unfold forward at htext
  rw [hresponse] at htext
  rw [← hinner]
  exact (Option.some.inj htext).symm

theorem exists_of_writes {g : RedirectGuard} {context : String} {location : Tainted String}
    {text : String} (h : g.Writes context location text) :
    ∃ t, g.Accepts context location t ∧ text = t.text := by
  rcases h with h | ⟨x, hok, htext⟩ | h
  · exact exists_of_check h
  · obtain ⟨checked, hchecked, hresponse⟩ := exists_of_send hok
    obtain ⟨t, haccepts, hinner⟩ := exists_of_check hchecked
    refine ⟨t, haccepts, ?_⟩
    unfold redirect at htext
    rw [hresponse] at htext
    rw [← hinner]
    exact (Option.some.inj htext).symm
  · obtain ⟨t, haccepts, -, ht⟩ := exists_of_forwards h
    exact ⟨t, haccepts, ht⟩

end RedirectGuard

end HttpMediation
