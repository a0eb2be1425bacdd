import HttpMediation.Proofs.Destination
import HttpMediation.Proofs.Visible

/-!
# SentText — the characters of redirects and forwards

* `Target.visible_text_of_absolute`, `Target.visible_text_of_relative_iff` : which targets are written in
  visible characters.
* `RedirectGuard.sent_text_is_visible_unless_tail_is_not` : what is written for a location is visible, but for
  the query and the fragment of a place of this site.
-/

namespace HttpMediation

namespace Target

variable {location : String} {t : Target}

theorem mem_of_mem_tailOf {c : Char} (hc : c ∈ tailOf location) : c ∈ location.toList :=
  (List.dropWhile_sublist _).mem hc

/-- What a location may hold is either visible or not ASCII. -/
theorem isVisible_of_ascii {c : Char} (hascii : c.toNat < 0x80) (hsafe : isUnsafe c = false) :
    IsVisible c := by
  revert hsafe
  exact Ascii.forall_of_lt (P := fun c => isUnsafe c = false → IsVisible c) (by decide) hascii

theorem safe_of_not_isUnsafe {c : Char} (hsafe : isUnsafe c = false) :
    Text.isControl c = false ∧ Text.isBlank c = false := by
  unfold isUnsafe at hsafe
  rw [Bool.or_eq_false_iff, Bool.or_eq_false_iff] at hsafe
  exact hsafe.1

theorem toList_text_relative (p rest : List Char) :
    (Target.relative p rest).text.toList = Path.write p ++ rest := by
  rw [text, String.toList_ofList]

theorem visible_text_of_absolute {s p : List Char} {u : Url} (h : IsAddress s u p) :
    Visible (Target.absolute u p).text.toList := by
  rw [text, String.toList_ofList]
  exact (Url.isWritten_of_parse? h.parsed).visible_text

/-- The path is visible in any case, so a place of this site is if its tail is. -/
theorem visible_text_of_relative_iff {p rest : List Char} (hsafe : ∀ c ∈ rest, isUnsafe c = false) :
    Visible (Target.relative p rest).text.toList ↔ ∀ c ∈ rest, c.toNat < 0x80 := by
  rw [toList_text_relative, Visible.append_iff]
  constructor
  · rintro ⟨-, htail⟩ c hc
    exact (htail c hc).ascii
  · intro hascii
    exact ⟨Path.visible_write p, fun c hc => isVisible_of_ascii (hascii c hc) (hsafe c hc)⟩

end Target

namespace RedirectGuard

/-- What is written for a location holds no control character and no blank.  For a web address it is
visible.  For a location of this site it is a visible path and then the location's query and fragment as
they came, so that it is visible exactly if these are ASCII: nothing escapes their characters. -/
theorem sent_text_is_visible_unless_tail_is_not {g : RedirectGuard} {context : String}
    {location : Tainted String} {text : String} (hw : g.Writes context location text) :
    (∀ c ∈ text.toList, Text.isControl c = false ∧ Text.isBlank c = false) ∧
      (location.inner.toList.head? ≠ some '/' → Visible text.toList) ∧
      (location.inner.toList.head? = some '/' →
        (∃ path, Visible path ∧ text.toList = path ++ Target.tailOf location.inner) ∧
          (Visible text.toList ↔ ∀ c ∈ Target.tailOf location.inner, c.toNat < 0x80)) := by
  obtain ⟨t, haccepts, rfl⟩ := exists_of_writes hw
  rcases Target.cases_of_resolve haccepts.resolved with ⟨hslash, p, rfl, -⟩ | ⟨hslash, u, p, rfl, haddress⟩
  · have hsafe : ∀ c ∈ Target.tailOf location.inner, Target.isUnsafe c = false :=
      fun c hc => Target.not_isUnsafe_of_resolve haccepts.resolved (Target.mem_of_mem_tailOf hc)
    have htext := Target.toList_text_relative p (Target.tailOf location.inner)
    refine ⟨fun c hc => ?_, fun hne => absurd hslash hne, fun _ =>
      ⟨⟨Path.write p, Path.visible_write p, htext⟩, Target.visible_text_of_relative_iff hsafe⟩⟩
    rw [htext] at hc
    rcases List.mem_append.mp hc with hpath | htail
    · exact (Path.visible_write p c hpath).safe
    · exact Target.safe_of_not_isUnsafe (hsafe c htail)
  · have hvisible := Target.visible_text_of_absolute haddress
    exact ⟨fun c hc => (hvisible c hc).safe, fun _ => hvisible, fun heq => absurd heq hslash⟩

/-- The path is escaped where it has to be, and the query is ASCII. -/
theorem sent_text_is_visible_of_ascii_query :
    ∃ g, RedirectGuard.new .twoPlaces = .ok g ∧ g.Writes "app" ⟨"/app/\u010d?x=1"⟩ "/app/%C4%8D?x=1" ∧
      Visible "/app/%C4%8D?x=1".toList := by
  have hrun : (RedirectGuard.new .twoPlaces >>= fun g => g.check "app" ⟨"/app/\u010d?x=1"⟩) =
      .ok ⟨"/app/%C4%8D?x=1"⟩ := by decide +kernel
  obtain ⟨g, hg, hcheck⟩ := bind_ok hrun
  have hw : g.Writes "app" ⟨"/app/\u010d?x=1"⟩ "/app/%C4%8D?x=1" := .inl hcheck
  have htail : Visible (Target.tailOf "/app/\u010d?x=1") := by decide
  obtain ⟨-, -, hsite⟩ := sent_text_is_visible_unless_tail_is_not hw
  exact ⟨g, hg, hw, (hsite rfl).2.mpr fun c hc => (htail c hc).ascii⟩

/-- Two letters of a query whose low bytes are a carriage return and a line feed are sent as they came. -/
theorem sent_text_narrows_to_lineBreak :
    ∃ g, RedirectGuard.new .twoPlaces = .ok g ∧
      g.Redirects "app" ⟨"/app/x?q=\u010d\u010aSet-Cookie:a=1"⟩ "/app/x?q=\u010d\u010aSet-Cookie:a=1" ∧
      ¬ Visible "/app/x?q=\u010d\u010aSet-Cookie:a=1".toList ∧
      ("/app/x?q=\u010d\u010aSet-Cookie:a=1".toList.map fun c => Char.ofNat (c.toNat % 256)) =
        "/app/x?q=\r\nSet-Cookie:a=1".toList := by
  have hrun : (RedirectGuard.new .twoPlaces >>= fun g =>
      g.check "app" ⟨"/app/x?q=\u010d\u010aSet-Cookie:a=1"⟩) =
        .ok ⟨"/app/x?q=\u010d\u010aSet-Cookie:a=1"⟩ := by decide +kernel
  obtain ⟨g, hg, hcheck⟩ := bind_ok hrun
  refine ⟨g, hg, ⟨{ id := "", request := {} }, ?_⟩, by decide, by decide⟩
  unfold redirect send
  rw [hcheck]
  exact ⟨rfl, rfl⟩

end RedirectGuard

end HttpMediation
