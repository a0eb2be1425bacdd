import HttpMediation.Mediator
import HttpMediation.Proofs.ParsedUrl
import HttpMediation.Proofs.Redirect
import HttpMediation.Proofs.Validation

/-!
# Building — which settings make a mediator

Validation looks at how the text of an allowed place begins and at both ends of the directory of forwards.  The
guard reads these texts to the end: a web address may have no host, and a path may lead above the root.  Such
settings pass validation, and no mediator is built from them.

* `AllowEntry.IsReadable`, `RedirectConfig.IsReadable` : the texts that a guard can read.
* `RedirectGuard.exists_new_iff`, `RedirectGuard.cases_of_new_eq_error` : when a guard is built, and why not.
* `Mediator.validated_settings_build_iff_readable` : when a mediator is built from validated settings.
-/

namespace HttpMediation

/-! ## Texts that can be read -/

/-- A path of this site that does not lead above the root, or a web address without a user name. -/
def AllowEntry.IsReadable (entry : String) : Prop :=
  if isSitePath entry.toList then ¬ Path.Climbs (entry.toList.splitOn '/')
  else ∃ u, Url.parse? entry.toList = some u ∧ u.username = []

/-- All places can be read, and the directory of forwards starts at the root and does not lead above it. -/
structure RedirectConfig.IsReadable (c : RedirectConfig) : Prop where
  entries : ∀ e ∈ c.contexts.entries, ∀ entry ∈ e.2, AllowEntry.IsReadable entry
  rooted : c.forwardNamespace.toList.head? = some '/'
  level : ¬ Path.Climbs (c.forwardNamespace.toList.splitOn '/')

theorem AllowEntry.exists_parse?_iff {entry : String} :
    (∃ place, parse? entry = some place) ↔ IsReadable entry := by
  unfold parse? IsReadable
  by_cases hsite : isSitePath entry.toList = true
  · have hnormal := Path.exists_normalize_iff (s := entry.toList)
    simp only [head?_of_isSitePath hsite, true_and] at hnormal
    simp only [hsite, if_true, Option.map_eq_some_iff, ← hnormal]
    constructor
    · rintro ⟨place, p, hp, -⟩
      exact ⟨p, hp⟩
    · rintro ⟨p, hp⟩
      exact ⟨.path p, p, hp, rfl⟩
  · dsimp only
    rw [if_neg hsite, if_neg hsite]
    constructor
    · rintro ⟨place, h⟩
      obtain ⟨u, hu, h⟩ := Option.bind_eq_some_iff.mp h
      split_ifs at h with huser
      · cases h
      · exact ⟨u, hu, by simpa using huser⟩
    · rintro ⟨u, hu, huser⟩
      obtain ⟨p, hp⟩ := Url.exists_normalize_pathText hu
      refine ⟨.origin u.origin p, ?_⟩
      rw [hu, Option.bind_eq_bind, Option.bind_some, huser]
      simp [hp]

namespace RedirectGuard

variable {context : String} {entries : List String} {config : RedirectConfig} {e : Error}

theorem exists_readContext_iff :
    (∃ places, readContext context entries = .ok places) ↔ ∀ entry ∈ entries, AllowEntry.IsReadable entry := by
  simp only [readContext_eq_ok_iff, exists_forall₂_iff, AllowEntry.exists_parse?_iff]

/-- A context that cannot be read has a place that cannot be, and the error names the context. -/
theorem of_readContext_eq_error (h : readContext context entries = .error e) :
    (∃ entry ∈ entries, ¬ AllowEntry.IsReadable entry) ∧
      e = .validation ("invalid allow-list entry in context " ++ context) := by
  constructor
  · by_contra hnone
    obtain ⟨places, hplaces⟩ := exists_readContext_iff.mpr fun entry hentry =>
      Classical.byContradiction fun hbad => hnone ⟨entry, hentry, hbad⟩
    rw [hplaces] at h
    cases h
  · unfold readContext at h
    split at h
    · cases h
    · exact (Except.error.inj h).symm

/-- A guard is built exactly from settings that can be read. -/
theorem exists_new_iff : (∃ g, new config = .ok g) ↔ config.IsReadable := by
  have hcontexts : (∃ contexts, (config.contexts.entries.mapM fun e => do
      return (e.1, ← readContext e.1 e.2)) = .ok contexts) ↔
        ∀ e ∈ config.contexts.entries, ∀ entry ∈ e.2, AllowEntry.IsReadable entry := by
    rw [exists_mapM_eq_ok_iff]
    refine forall₂_congr fun e _ => ?_
    rw [← exists_readContext_iff]
    constructor
    · rintro ⟨pair, h⟩
      obtain ⟨places, hplaces, -⟩ := bind_ok h
      exact ⟨places, hplaces⟩
    · rintro ⟨places, hplaces⟩
      exact ⟨(e.1, places), by rw [hplaces]; rfl⟩
  constructor
  · rintro ⟨g, h⟩
    obtain ⟨hrooted, hlevel⟩ := Path.exists_normalize_iff.mp ⟨_, normalize_of_new h⟩
    obtain ⟨contexts, hread, -⟩ := bind_ok h
    exact ⟨hcontexts.mp ⟨contexts, hread⟩, hrooted, hlevel⟩
  · intro h
    obtain ⟨contexts, hread⟩ := hcontexts.mpr h.entries
    obtain ⟨dir, hdir⟩ := Path.exists_normalize_iff.mpr ⟨h.rooted, h.level⟩
    refine ⟨⟨.ofList contexts, dir⟩, ?_⟩
    rw [new, hread, hdir]
    rfl

/-- If no guard is built, some context has a place that cannot be read, or else the directory of forwards
cannot be. -/
theorem cases_of_new_eq_error (h : new config = .error e) :
    (∃ c ∈ config.contexts.entries, (∃ entry ∈ c.2, ¬ AllowEntry.IsReadable entry) ∧
        e = .validation ("invalid allow-list entry in context " ++ c.1)) ∨
      (¬ (config.forwardNamespace.toList.head? = some '/' ∧
          ¬ Path.Climbs (config.forwardNamespace.toList.splitOn '/')) ∧
        e = .validation "invalid forward namespace") := by
  rcases bind_eq_error_iff.mp h with hread | ⟨contexts, -, h⟩
  · left
    obtain ⟨c, hc, hfails⟩ := exists_of_mapM_eq_error hread
    rcases bind_eq_error_iff.mp hfails with hcontext | ⟨places, -, hpair⟩
    · exact ⟨c, hc, of_readContext_eq_error hcontext⟩
    · cases hpair
  · right
    split at h
    · cases h
    · rename_i hnone
      refine ⟨?_, (Except.error.inj h).symm⟩
      rw [← Path.exists_normalize_iff, hnone]
      simp

end RedirectGuard

/-! ## Mediators -/

theorem Emitter.exists_new_of_validate {config : Config} (h : config.validate = .ok ()) :
    ∃ emitter, Emitter.new config.headers config.cookies = .ok emitter := by
  have hvalid := Config.validate_eq_ok_iff.mp h
  unfold Emitter.new
  rw [dif_pos ⟨hvalid.maxNameLen, hvalid.maxValueLen, hvalid.maxCookieLen⟩]
  exact ⟨_, rfl⟩

namespace Mediator

variable {config : Config}

/-- From validated settings a mediator is built if a guard is, and else the guard's error is the mediator's. -/
theorem new_of_validate (hvalid : config.validate = .ok ()) (keys : KeySource) :
    ((∃ m, Mediator.new config (some keys) = .ok m) ↔ ∃ g, RedirectGuard.new config.redirects = .ok g) ∧
      ∀ e, Mediator.new config (some keys) = .error e ↔ RedirectGuard.new config.redirects = .error e := by
  obtain ⟨emitter, hemitter⟩ := Emitter.exists_new_of_validate hvalid
  have hnew : Mediator.new config (some keys) = (RedirectGuard.new config.redirects).map fun g =>
      ⟨config, { keys := keys, cookieName := config.cookies.stateCookieName }, emitter, g⟩ := by
    unfold Mediator.new
    rw [hvalid, hemitter]
    cases RedirectGuard.new config.redirects with
    | error e => rfl
    | ok g => rfl
  rw [hnew]
  constructor
  · simp only [map_eq_ok_iff]
    constructor
    · rintro ⟨m, g, hg, -⟩
      exact ⟨g, hg⟩
    · rintro ⟨g, hg⟩
      exact ⟨_, g, hg, rfl⟩
  · intro e
    exact map_eq_error_iff

/-- Settings that pass validation do not always make a mediator.  The limits are ones that every sanitizer takes,
so the emitter is built; the mediator is built, whatever the key, exactly if every allowed place is a path that
does not lead above the root or a web address without a user name, and the directory of forwards does not lead
above the root.  If not, the error names a context with a place that cannot be read, or the directory. -/
theorem validated_settings_build_iff_readable (hvalid : config.validate = .ok ()) (keys : KeySource) :
    (∀ limit ∈ [config.headers.maxNameLen, config.headers.maxValueLen, config.cookies.maxCookieLen],
      ∀ rule forbidden, ∃ s, FieldSanitizer.ofLimit? rule limit forbidden = some s) ∧
    (∃ emitter, Emitter.new config.headers config.cookies = .ok emitter) ∧
    ((∃ m, Mediator.new config (some keys) = .ok m) ↔
      (∀ c ∈ config.redirects.contexts.entries, ∀ entry ∈ c.2, AllowEntry.IsReadable entry) ∧
        ¬ Path.Climbs (config.redirects.forwardNamespace.toList.splitOn '/')) ∧
    ∀ e, Mediator.new config (some keys) = .error e →
      (∃ c ∈ config.redirects.contexts.entries, (∃ entry ∈ c.2, ¬ AllowEntry.IsReadable entry) ∧
          e = .validation ("invalid allow-list entry in context " ++ c.1)) ∨
        (Path.Climbs (config.redirects.forwardNamespace.toList.splitOn '/') ∧
          e = .validation "invalid forward namespace") := by
  have hsettings := Config.validate_eq_ok_iff.mp hvalid
  obtain ⟨hrooted, -⟩ := Config.slashes_of_validate hvalid
  obtain ⟨hbuilt, hfails⟩ := new_of_validate hvalid keys
  refine ⟨?_, Emitter.exists_new_of_validate hvalid, ?_, fun e he => ?_⟩
  · have hlimits : ∀ limit ∈ [config.headers.maxNameLen, config.headers.maxValueLen, config.cookies.maxCookieLen],
        0 < limit := by
      simp [hsettings.maxNameLen, hsettings.maxValueLen, hsettings.maxCookieLen]
    intro limit hlimit rule forbidden
    unfold FieldSanitizer.ofLimit?
    rw [dif_pos (hlimits limit hlimit)]
    exact ⟨_, rfl⟩
  · rw [hbuilt, RedirectGuard.exists_new_iff]
    constructor
    · intro h
      exact ⟨h.entries, h.level⟩
    · rintro ⟨hentries, hlevel⟩
      exact ⟨hentries, hrooted, hlevel⟩
  · rcases RedirectGuard.cases_of_new_eq_error ((hfails e).mp he) with hcontext | ⟨hnamespace, he⟩
    · exact .inl hcontext
    · right
      exact ⟨Classical.not_not.mp fun hlevel => hnamespace ⟨hrooted, hlevel⟩, he⟩

end Mediator

/-- Settings with one context and one allowed place. -/
def Config.onePlace (entry forwardNamespace : String) : Config :=
  { redirects := { contexts := .ofList [("app", [entry])], forwardNamespace := forwardNamespace } }

namespace Mediator

/-- An address whose path leads up from its root, and a directory whose text leads up as far as down. -/
theorem built_from_detours :
    let config := Config.onePlace "http://[::1]:8080/../cb/" "/a/../"
    let keys := KeySource.held (Vector.replicate 32 7)
    config.validate = .ok () ∧ ∃ m, Mediator.new config (some keys) = .ok m := by
  intro config keys
  have hvalid : config.validate = .ok () := by decide +kernel
  have hurl : (Url.parse? "http://[::1]:8080/../cb/".toList).map Url.username = some [] := by decide +kernel
  obtain ⟨-, -, hbuilt, -⟩ := validated_settings_build_iff_readable hvalid keys
  refine ⟨hvalid, hbuilt.mpr ⟨?_, by decide +kernel⟩⟩
  intro c hc entry hentry
  rw [List.mem_singleton.mp hc, List.mem_singleton] at hentry
  rw [hentry]
  exact Option.map_eq_some_iff.mp hurl

/-- An address without a host, a path that leads above the root, and a directory that does. -/
theorem unreadable_places_pass_validation :
    let keys := KeySource.held (Vector.replicate 32 7)
    (∀ entry ∈ ["https://", "/.."],
      (Config.onePlace entry "/WEB-INF/").validate = .ok () ∧
        Mediator.new (Config.onePlace entry "/WEB-INF/") (some keys) =
          .error (.validation "invalid allow-list entry in context app")) ∧
      (Config.onePlace "/" "/../").validate = .ok () ∧
        Mediator.new (Config.onePlace "/" "/../") (some keys) =
          .error (.validation "invalid forward namespace") := by
  intro keys
  have hfails : ∀ {config : Config} {e : Error}, config.validate = .ok () →
      (RedirectGuard.new config.redirects).map (·.forwardNamespace) = .error e →
        config.validate = .ok () ∧ Mediator.new config (some keys) = .error e :=
    fun hvalid hguard => ⟨hvalid, ((new_of_validate hvalid keys).2 _).mpr (map_eq_error_iff.mp hguard)⟩
  refine ⟨fun entry hentry => ?_, hfails (by decide +kernel) (by decide +kernel)⟩
  rcases List.mem_pair.mp hentry with rfl | rfl
  · exact hfails (by decide +kernel) (by decide +kernel)
  · exact hfails (by decide +kernel) (by decide +kernel)

end Mediator

end HttpMediation
