import HttpMediation.Proofs.Destination
import HttpMediation.Proofs.DotSegments
import HttpMediation.Proofs.Validation

/-!
# Namespace — the directory that forwards stay in

Settings are asked for a directory other than the root by the text of the directory, and the guard goes by its
normal form.  A text with as many steps up as names passes for a directory, and its normal form is the root,
which holds every path.

* `Path.length_names_of_normalize` : how deep a normal form leads.
* `RedirectGuard.forwards_iff`, `RedirectGuard.check_eq_ok_iff` : what is handed on, and what is let out.
* `RedirectGuard.forwards_are_restricted_unless_namespace_cancels` : where the forwards of a guard can lead.
-/

namespace HttpMediation

/-! ## The depth of a path -/

namespace Path

variable {s p : List Char}

/-- A normal form leads as deep as the names of the text outnumber its steps up. -/
theorem length_names_of_normalize (h : normalize s = some p) :
    (names p).length + (s.splitOn '/').count ['.', '.'] =
      (s.splitOn '/').countP fun s => !isDirectoryMark s := by
  have hlength := length_remaining (s.splitOn '/')
  rw [not_climbs_iff.mp (not_climbs_of_normalize h), ← (eq_join_of_normalize h).2] at hlength
  exact hlength

/-- A text that ends with a slash has a normal form that does. -/
theorem getLast?_of_normalize (h : normalize s = some p) (hs : s.getLast? = some '/') :
    p.getLast? = some '/' := by
  obtain ⟨hjoin, -⟩ := eq_join_of_normalize h
  obtain ⟨front, rfl⟩ := List.getLast?_eq_some_iff.mp hs
  have hlast : ((front ++ ['/']).splitOn '/').getLast? = some [] := by
    rw [List.splitOn_append_cons_self, List.splitOn_nil, List.getLast?_concat]
  rw [hjoin, hlast, join_eq_flatMap]
  simp [isDirectoryMark]

end Path

/-! ## What is handed on -/

/-- Whoever decodes the path of a place of this site reads one path in normal form. -/
theorem Target.decodeTimes_pathOf {p rest : List Char} (h : IsRelative p rest) :
    (∀ k, 0 < k → Percent.decodeTimes k (Request.pathOf (Target.relative p rest).text.toList) = some p) ∧
      Path.IsNormal p := by
  obtain ⟨decoded, hplain, -, hp⟩ := h.normal
  refine ⟨fun k hk => ?_, Path.isNormal_of_normalize hp⟩
  obtain ⟨n, rfl⟩ := Nat.exists_eq_succ_of_ne_zero (Nat.ne_of_gt hk)
  rw [Target.text, String.toList_ofList, Path.pathOf_write_append h.marked]
  exact Path.decodeTimes_write (Path.plain_of_normalize hp hplain) n

namespace RedirectGuard

variable {g : RedirectGuard} {context : String} {location : Tainted String} {text : String}

theorem places_of_get? {places : List AllowEntry} (h : g.contexts.get? context = some places) :
    g.places context = .ok places := by
  unfold RedirectGuard.places
  rw [h]

/-- A location is let out as the text of what it resolves to, if its context has a place for it. -/
theorem check_eq_ok_iff :
    g.check context location = .ok ⟨text⟩ ↔ ∃ t, g.Accepts context location t ∧ text = t.text := by
  refine ⟨exists_of_check, ?_⟩
  rintro ⟨t, ⟨hresolved, places, hplaces, place, hplace, hadmits⟩, rfl⟩
  unfold check
  rw [places_of_get? hplaces, hresolved]
  show (if places.any (·.admits t) = true then _ else _) = _
  rw [if_pos (List.any_eq_true.mpr ⟨place, hplace, hadmits⟩)]

/-- A location is handed on if it is let out and lies in the directory of forwards. -/
theorem forwards_iff : g.Forwards context location text ↔
    ∃ t, g.Accepts context location t ∧ t.isWithin g.forwardNamespace = true ∧ text = t.text := by
  refine ⟨exists_of_forwards, ?_⟩
  rintro ⟨t, ⟨hresolved, places, hplaces, place, hplace, hadmits⟩, hwithin, rfl⟩
  have hcheck : g.checkForward context location = .ok ⟨t.text⟩ := by
    unfold checkForward
    rw [places_of_get? hplaces, hresolved]
    show (if (t.isWithin g.forwardNamespace && places.any (·.admits t)) = true then _ else _) = _
    rw [if_pos (Bool.and_eq_true_iff.mpr ⟨hwithin, List.any_eq_true.mpr ⟨place, hplace, hadmits⟩⟩)]
  exact ⟨{ id := "", request := {} }, by rw [forward, hcheck]; rfl, by rw [forward, hcheck]; rfl⟩

/-- In the root all places of this site are handed on, and no others. -/
theorem forwards_iff_of_root (hroot : g.forwardNamespace = ['/']) : g.Forwards context location text ↔
    location.inner.toList.head? = some '/' ∧ g.check context location = .ok ⟨text⟩ := by
  rw [forwards_iff, check_eq_ok_iff, hroot]
  constructor
  · rintro ⟨t, haccepts, hwithin, rfl⟩
    rcases Target.cases_of_resolve haccepts.resolved with ⟨hslash, -⟩ | ⟨-, u, p, rfl, -⟩
    · exact ⟨hslash, t, haccepts, rfl⟩
    · cases hwithin
  · rintro ⟨hslash, t, haccepts, rfl⟩
    rcases Target.cases_of_resolve haccepts.resolved with ⟨-, p, rfl, -⟩ | ⟨hne, -⟩
    · exact ⟨_, haccepts, Path.within_root p, rfl⟩
    · exact absurd hslash hne

/-- What is handed on leads into the directory of forwards, for whoever decodes it. -/
theorem confined_of_forwards (h : g.Forwards context location text) :
    ∃ p, (∀ k, 0 < k → Percent.decodeTimes k (Request.pathOf text.toList) = some p) ∧ Path.IsNormal p ∧
      Path.names g.forwardNamespace <+: Path.names p := by
  obtain ⟨t, haccepts, hwithin, rfl⟩ := exists_of_forwards h
  rcases Target.of_resolve haccepts.resolved with ⟨p, rest, rfl, hrelative⟩ | ⟨-, u, p, rfl, -⟩
  · obtain ⟨hdecoded, hnormal⟩ := Target.decodeTimes_pathOf hrelative
    exact ⟨p, hdecoded, hnormal, Path.names_prefix_of_within hwithin⟩
  · cases hwithin

/-- For settings without problems, the directory that the guard holds forwards in is as deep as the names in
its text outnumber the steps up.  If there are more names, it has a first one, and every path that is handed on
lies in it for whoever decodes it.  If there are as many steps up, it is the root: whatever place of this site
the context lets out is handed on too. -/
theorem forwards_are_restricted_unless_namespace_cancels {config : Config} {g : RedirectGuard}
    (hvalid : config.validate = .ok ()) (hg : RedirectGuard.new config.redirects = .ok g) :
    let segments := config.redirects.forwardNamespace.toList.splitOn '/'
    let names := segments.countP fun s => !Path.isDirectoryMark s
    let climbs := segments.count ['.', '.']
    (Path.names g.forwardNamespace).length + climbs = names ∧ g.forwardNamespace.getLast? = some '/' ∧
      (climbs < names → ∃ top below, Path.names g.forwardNamespace = top :: below ∧
        ∀ context location text, g.Forwards context location text →
          ∃ p, (∀ k, 0 < k → Percent.decodeTimes k (Request.pathOf text.toList) = some p) ∧
            Path.IsNormal p ∧ top :: below <+: Path.names p) ∧
      (climbs = names → g.forwardNamespace = ['/'] ∧
        ∀ context location text, g.Forwards context location text ↔
          location.inner.toList.head? = some '/' ∧ g.check context location = .ok ⟨text⟩) := by
  intro segments names climbs
  have hnormal := normalize_of_new hg
  have hdepth : (Path.names g.forwardNamespace).length + climbs = names :=
    Path.length_names_of_normalize hnormal
  refine ⟨hdepth, Path.getLast?_of_normalize hnormal (Config.slashes_of_validate hvalid).2, ?_, ?_⟩
  · intro hmore
    have hne : Path.names g.forwardNamespace ≠ [] := List.ne_nil_of_length_pos (by omega)
    obtain ⟨top, below, hnames⟩ := List.exists_cons_of_ne_nil hne
    refine ⟨top, below, hnames, fun context location text hforwards => ?_⟩
    rw [← hnames]
    exact confined_of_forwards hforwards
  · intro hsame
    have hnil : Path.names g.forwardNamespace = [] := List.eq_nil_of_length_eq_zero (by omega)
    have hroot := Path.eq_root_of_names_eq_nil hnormal hnil
    exact ⟨hroot, fun context location text => forwards_iff_of_root hroot⟩

end RedirectGuard

/-- Settings that leave the whole site open to a context, with the directory of forwards. -/
def Config.openSite (forwardNamespace : String) : Config :=
  { redirects := { contexts := .ofList [("app", ["/"])], forwardNamespace := forwardNamespace } }

namespace RedirectGuard

/-- A directory whose text has two names and one step up. -/
theorem forwards_are_restricted_in_pages :
    ∃ g, (Config.openSite "/a/../pages/./").validate = .ok () ∧
      RedirectGuard.new (Config.openSite "/a/../pages/./").redirects = .ok g ∧
      g.Forwards "app" ⟨"/pages/%61?x"⟩ "/pages/a?x" ∧
      Path.names g.forwardNamespace = ["pages".toList] ∧
      ∃ p, (∀ k, 0 < k → Percent.decodeTimes k (Request.pathOf "/pages/a?x".toList) = some p) ∧
        Path.IsNormal p ∧ ["pages".toList] <+: Path.names p := by
  have hvalid : (Config.openSite "/a/../pages/./").validate = .ok () := by decide +kernel
  have hrun : (RedirectGuard.new (Config.openSite "/a/../pages/./").redirects >>= fun g =>
      g.checkForward "app" ⟨"/pages/%61?x"⟩) = .ok ⟨"/pages/a?x"⟩ := by decide +kernel
  obtain ⟨g, hg, hcheck⟩ := bind_ok hrun
  have hforwards : g.Forwards "app" ⟨"/pages/%61?x"⟩ "/pages/a?x" :=
    ⟨{ id := "", request := {} }, by rw [forward, hcheck]; rfl, by rw [forward, hcheck]; rfl⟩
  have hnames : Path.names g.forwardNamespace = ["pages".toList] := by
    have hnormal := normalize_of_new hg
    have hdir : Path.normalize "/a/../pages/./".toList = some "/pages/".toList := by decide +kernel
    rw [← Option.some.inj (hdir.symm.trans hnormal)]
    decide +kernel
  obtain ⟨-, -, hmore, -⟩ := forwards_are_restricted_unless_namespace_cancels hvalid hg
  obtain ⟨top, below, htop, hconfined⟩ := hmore (by decide +kernel)
  rw [hnames] at htop
  rw [← htop] at hconfined
  exact ⟨g, hvalid, hg, hforwards, hnames, hconfined _ _ _ hforwards⟩

/-- A text of two slashes passes for a directory other than the root, and the whole site is handed on. -/
theorem forwards_leave_doubleSlash :
    ∃ g, (Config.openSite "//").validate = .ok () ∧
      RedirectGuard.new (Config.openSite "//").redirects = .ok g ∧ Path.names g.forwardNamespace = [] ∧
      g.Forwards "app" ⟨"/"⟩ "/" ∧ g.Forwards "app" ⟨"/secret"⟩ "/secret" := by
  have hvalid : (Config.openSite "//").validate = .ok () := by decide +kernel
  have hrun : (RedirectGuard.new (Config.openSite "//").redirects >>= fun g => do
      return (g.forwardNamespace, ← g.checkForward "app" ⟨"/"⟩, ← g.checkForward "app" ⟨"/secret"⟩)) =
        .ok (['/'], ⟨"/"⟩, ⟨"/secret"⟩) := by decide +kernel
  obtain ⟨g, hg, hrun⟩ := bind_ok hrun
  obtain ⟨home, hhome, hrun⟩ := bind_ok hrun
  obtain ⟨secret, hsecret, hrun⟩ := bind_ok hrun
  obtain ⟨hroot, hrun⟩ := Prod.mk.inj (Except.ok.inj hrun)
  obtain ⟨rfl, rfl⟩ := Prod.mk.inj hrun
  refine ⟨g, hvalid, hg, by rw [hroot]; rfl, ⟨{ id := "", request := {} }, ?_⟩,
    ⟨{ id := "", request := {} }, ?_⟩⟩
  · rw [forward, hhome]
    exact ⟨rfl, rfl⟩
  · rw [forward, hsecret]
    exact ⟨rfl, rfl⟩

end RedirectGuard

end HttpMediation
