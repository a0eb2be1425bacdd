import HttpMediation.Proofs.NormalPath

/-!
# Containment — a directory holds what begins with its names

`Path.within` compares characters: a directory without the slashes at its end, a prefix, one more slash.  Between
normal forms this is a comparison of names.

* `Path.IsNormalForm` : what `Path.normalize` can give.
* `Path.within_trans` : what lies in a directory lies in all that hold the directory.
* `Path.within_append_eq_false` : characters that go on within a name do not count.
* `Path.within_is_prefix_of_names` : containment as a relation on lists of names.
-/

namespace HttpMediation.Path

/-- Some path has it as its normal form. -/
def IsNormalForm (p : List Char) : Prop :=
  ∃ s, normalize s = some p

namespace IsNormalForm

variable {path dir top : List Char}

theorem within_iff (hpath : IsNormalForm path) (hdir : IsNormalForm dir) :
    within path dir = true ↔ names dir <+: names path := by
  obtain ⟨s, hs⟩ := hpath
  obtain ⟨t, ht⟩ := hdir
  exact Path.within_iff hs ht

theorem within_trans (hpath : IsNormalForm path) (hdir : IsNormalForm dir) (htop : IsNormalForm top)
    (hlower : within path dir = true) (hupper : within dir top = true) : within path top = true := by
  rw [hpath.within_iff htop]
  exact ((hdir.within_iff htop).mp hupper).trans ((hpath.within_iff hdir).mp hlower)

/-- Only the root is nothing but slashes. -/
theorem trimEnd_ne_nil (hdir : IsNormalForm dir) (hroot : dir ≠ ['/']) : Text.trimEnd (· == '/') dir ≠ [] := by
  intro hnil
  obtain ⟨t, ht⟩ := hdir
  apply hroot
  apply eq_root_of_names_eq_nil ht
  rw [← names_trimEnd, hnil]
  rfl

end IsNormalForm

/-- A path that begins with the characters of a directory and goes on within a name does not lie in the
directory. -/
theorem within_append_eq_false {dir rest : List Char} {c : Char} (hdir : Text.trimEnd (· == '/') dir ≠ [])
    (hc : c ≠ '/') : within (Text.trimEnd (· == '/') dir ++ c :: rest) dir = false := by
  unfold within
  generalize Text.trimEnd (· == '/') dir = front at hdir ⊢
  simp only [Bool.or_eq_false_iff, List.isEmpty_eq_false_iff, beq_eq_false_iff_ne]
  refine ⟨⟨hdir, by simp⟩, Bool.eq_false_iff.mpr fun h => ?_⟩
  rw [List.isPrefixOf_iff_prefix, List.prefix_append_right_inj, List.cons_prefix_cons] at h
  exact hc h.1.symm

/-- Containment of normal forms.  One lies in the other exactly if the names of the other are the first of its
own.  So each lies in itself, and what lies in a directory lies in all that hold the directory; the root holds
every path.  A directory other than the root holds no path that begins with its characters and goes on within a
name: `/app` holds the paths with `app` as their first name, and none that begins with `/app` and another
character than a slash. -/
theorem within_is_prefix_of_names :
    (∀ path dir, IsNormalForm path → IsNormalForm dir →
      (within path dir = true ↔ names dir <+: names path)) ∧
    (∀ path, IsNormalForm path → within path path = true) ∧
    (∀ path dir top, IsNormalForm path → IsNormalForm dir → IsNormalForm top →
      within path dir = true → within dir top = true → within path top = true) ∧
    (∀ path, within path ['/'] = true) ∧
    (∀ dir, IsNormalForm dir → dir ≠ ['/'] → ∀ c rest, c ≠ '/' →
      within (Text.trimEnd (· == '/') dir ++ c :: rest) dir = false) ∧
    (∀ path, IsNormalForm path →
      (within path "/app".toList = true ↔ (names path).head? = some "app".toList)) ∧
    ∀ c rest, c ≠ '/' → within ("/app".toList ++ c :: rest) "/app".toList = false := by
  have happ : IsNormalForm "/app".toList := ⟨"/app".toList, by decide +kernel⟩
  refine ⟨fun path dir hpath hdir => hpath.within_iff hdir, fun path hpath => ?_,
    fun path dir top hpath hdir htop => hpath.within_trans hdir htop, within_root,
    fun dir hdir hroot c rest hc => within_append_eq_false (hdir.trimEnd_ne_nil hroot) hc,
    fun path hpath => ?_, fun c rest hc => ?_⟩
  · apply (hpath.within_iff hpath).mpr
    exact List.prefix_refl _
  · have hnames : names "/app".toList = ["app".toList] := by decide +kernel
    rw [hpath.within_iff happ, hnames, List.head?_eq_some_iff]
    constructor
    · rintro ⟨below, hbelow⟩
      exact ⟨below, hbelow.symm⟩
    · rintro ⟨below, hbelow⟩
      exact ⟨below, hbelow.symm⟩
  · exact within_append_eq_false (happ.trimEnd_ne_nil (by decide)) hc

/-- `/app/pages/` lies in `/app/`, which lies in `/app`; `/application` lies in none of them. -/
theorem pages_lie_in_app :
    within "/app/pages/".toList "/app/".toList = true ∧ within "/app/".toList "/app".toList = true ∧
      within "/app/pages/".toList "/app".toList = true ∧
      within "/application".toList "/app".toList = false ∧
      within "/application".toList "/app/".toList = false := by
  obtain ⟨hiff, -, htrans, -, hshared, -, happlication⟩ := within_is_prefix_of_names
  have hpages : IsNormalForm "/app/pages/".toList := ⟨"/app/x/../pages/.".toList, by decide +kernel⟩
  have hslash : IsNormalForm "/app/".toList := ⟨"/app//".toList, by decide +kernel⟩
  have happ : IsNormalForm "/app".toList := ⟨"/app".toList, by decide +kernel⟩
  have hlower : within "/app/pages/".toList "/app/".toList = true :=
    (hiff _ _ hpages hslash).mpr ⟨["pages".toList], by decide +kernel⟩
  have hupper : within "/app/".toList "/app".toList = true :=
    (hiff _ _ hslash happ).mpr ⟨[], by decide +kernel⟩
  exact ⟨hlower, hupper, htrans _ _ _ hpages hslash happ hlower hupper,
    happlication 'l' "ication".toList (by decide),
    hshared _ hslash (by decide) 'l' "ication".toList (by decide)⟩

end HttpMediation.Path
