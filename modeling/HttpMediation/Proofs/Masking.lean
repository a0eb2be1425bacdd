import HttpMediation.RequestLog
import Mathlib.Data.List.Forall2

/-!
# Masking — what a log line cannot tell

A masked value could still show in a line by its length, by the place of its entry, or through the query of
the URL.  It does not: a line goes by the names of the parameters and by the values that are not hidden.

* `RequestLogger.Hides` : the names whose values no line may show.
* `RequestLogger.Alike` : requests that look the same to a reader who may not see these values.
* `RequestLogger.forall₂_byName` : the order of the entries goes by the names alone.
* `RequestLogger.hidden_values_leave_no_trace` : requests that look the same have the same line.
-/

namespace HttpMediation.RequestLogger

variable {l : RequestLogger} {policy : ParameterPolicy}

/-! ## What a reader may see -/

/-- Values under the name are hidden: it is the name of the anti-forgery token, which is hidden under every
policy, or the policy names it. -/
def Hides (l : RequestLogger) (policy : ParameterPolicy) (name : String) : Prop :=
  name = l.csrfParameter ∨ ∃ names, policy = .obfuscate names ∧ names.contains name = true

/-- Two parameters have one name, and one value unless it is hidden. -/
def AlikeParameters (l : RequestLogger) (policy : ParameterPolicy) (p q : String × String) : Prop :=
  p.1 = q.1 ∧ (¬ l.Hides policy p.1 → p.2 = q.2)

/-- Two requests come from one address, with one method and one path; their parameters have the same names
one by one, and the same values where these are not hidden.  Their queries, fragments, headers and cookies
need not agree. -/
structure Alike (l : RequestLogger) (policy : ParameterPolicy) (r s : Request) : Prop where
  remoteAddr : r.remoteAddr = s.remoteAddr
  method : r.method = s.method
  path : Request.pathOf r.url.toList = Request.pathOf s.url.toList
  parameters : List.Forall₂ (l.AlikeParameters policy) r.parameters s.parameters

theorem isMasked_iff {name : String} : l.isMasked policy name = true ↔ l.Hides policy name := by
  unfold isMasked Hides
  cases policy with
  | logAll => simp
  | obfuscate names => simp

instance (name : String) : Decidable (l.Hides policy name) :=
  decidable_of_iff _ isMasked_iff

instance (p q : String × String) : Decidable (l.AlikeParameters policy p q) :=
  inferInstanceAs (Decidable (_ ∧ _))

/-! ## Entries and their order -/

theorem entry_eq_of_alike {p q : String × String} (h : l.AlikeParameters policy p q) :
    l.entry policy p = l.entry policy q := by
  obtain ⟨hname, hvalue⟩ := h
  unfold entry
  rw [← hname]
  by_cases hmasked : l.isMasked policy p.1 = true
  · rw [if_pos hmasked, if_pos hmasked]
  · have hvisible : ¬ l.Hides policy p.1 := fun h => hmasked (isMasked_iff.mpr h)
    rw [if_neg hmasked, if_neg hmasked, hvalue hvisible]

/-- Parameters that agree in their names one by one are put in the same order, repeated names included:
each stays beside the one that it stood beside. -/
theorem forall₂_byName {R : String × String → String × String → Prop}
    (hnames : ∀ p q, R p q → p.1 = q.1) {params others : List (String × String)}
    (h : List.Forall₂ R params others) : List.Forall₂ R (byName params) (byName others) := by
  obtain ⟨hlength, hmem⟩ := List.forall₂_iff_zip.mp h
  -- Both lists are read off one list of pairs, which is sorted only once.
  have hfst : (params.zip others).map Prod.fst = params := List.map_fst_zip (by omega)
  have hsnd : (params.zip others).map Prod.snd = others := List.map_snd_zip (by omega)
  have hleft : ((params.zip others).mergeSort fun a b => a.1.1 ≤ b.1.1).map Prod.fst = byName params := by
    conv_rhs => rw [byName, ← hfst]
    exact List.map_mergeSort fun _ _ _ _ => rfl
  have hright : ((params.zip others).mergeSort fun a b => a.1.1 ≤ b.1.1).map Prod.snd = byName others := by
    conv_rhs => rw [byName, ← hsnd]
    refine List.map_mergeSort fun a ha b hb => ?_
    rw [hnames _ _ (hmem ha), hnames _ _ (hmem hb)]
  rw [← hleft, ← hright, List.forall₂_map_left_iff, List.forall₂_map_right_iff, List.forall₂_same]
  intro a ha
  exact hmem (List.mem_mergeSort.mp ha)

/-! ## Lines -/

/-- Hidden values leave no trace in a log.  Under every policy two requests have the same line if they
differ only in values that are hidden, whatever becomes of lengths, order and the text of the URL. -/
theorem hidden_values_leave_no_trace (l : RequestLogger) (policy : ParameterPolicy) {x y : Exchange}
    (h : l.Alike policy x.request y.request) : l.line policy x = l.line policy y := by
  have horder : List.Forall₂ (l.AlikeParameters policy) (byName x.request.parameters)
      (byName y.request.parameters) := forall₂_byName (fun _ _ hpq => hpq.1) h.parameters
  have hentries : (byName x.request.parameters).map (l.entry policy) =
      (byName y.request.parameters).map (l.entry policy) := by
    rw [← List.forall₂_eq_eq_eq, List.forall₂_map_left_iff, List.forall₂_map_right_iff]
    exact horder.imp fun _ _ hpq => entry_eq_of_alike hpq
  unfold line
  rw [h.remoteAddr, h.method, h.path, hentries]

/-- Two attempts to log in with different passwords, of which one is asked for twice, and with different
tokens; the parts of the URLs behind the path have nothing in common but the user. -/
theorem passwords_leave_no_trace :
    ∃ x y : Exchange,
      x.request.parameters = [("password", "hunter2"), ("user", "al"), ("csrf_token", "Kj-_"), ("password", "")] ∧
      y.request.parameters = [("password", "x"), ("user", "al"), ("csrf_token", "Zz"), ("password", "hunter2")] ∧
      (RequestLogger.new {} {}).Alike (.obfuscate (.ofList ["password"])) x.request y.request ∧
      (RequestLogger.new {} {}).line (.obfuscate (.ofList ["password"])) x =
        (RequestLogger.new {} {}).line (.obfuscate (.ofList ["password"])) y := by
  have halike : (RequestLogger.new {} {}).Alike (.obfuscate (.ofList ["password"]))
      { url := "/login?password=hunter2&user=al&csrf_token=Kj-_#top", form := [("password", "")] }
      { url := "/login?password=x&user=a%6C&csrf_token=Zz", form := [("password", "hunter2")] } :=
    ⟨rfl, rfl, by decide +kernel, by decide +kernel⟩
  exact ⟨{ id := "req-1", request := _ }, { id := "req-2", request := _ }, by decide +kernel,
    by decide +kernel, halike, hidden_values_leave_no_trace _ _ halike⟩

end HttpMediation.RequestLogger
