import HttpMediation.Proofs.ByteOrder
import HttpMediation.Proofs.Destination
import HttpMediation.Proofs.Masking
import HttpMediation.Proofs.Visible
import Mathlib.Data.List.TakeWhile

/-!
# LogLine — a log says what a request was, in one line

Everything in a line but the method and the mask is text that the client chose.  Nothing of it can end the
line or change what stands beside it, and nothing of the request is left out.

* `Neutralizes` : the short and harmless form of a text.
* `IsByName` : parameters in the order of the bytes of their names; there is only one such order
  (`RequestLogger.isByName_iff`).
* `RequestLogger.IsLine` : what a line says of a request, which determines it (`RequestLogger.isLine_iff`).
* `RequestLogger.IsLine.clean` : such a line has no control characters.
* `RequestLogger.log_writes_one_clean_line` : a request makes one such line.
-/

namespace HttpMediation

/-! ## Texts in a line -/

/-- There are no control characters in the text. -/
def Clean (s : List Char) : Prop :=
  ∀ c ∈ s, Text.isControl c = false

/-- The second text is the first one cut to `n` characters, with `_` in place of each control character. -/
structure Neutralizes (n : Nat) (s t : String) : Prop where
  length : t.toList.length = min n s.toList.length
  char : ∀ (i : Nat) (hs : i < s.toList.length) (ht : i < t.toList.length),
    t.toList[i] = if Text.isControl s.toList[i] = true then '_' else s.toList[i]

variable {n : Nat} {s t : String} {params sorted : List (String × String)}

instance (s : List Char) : Decidable (Clean s) :=
  List.decidableBAll (fun c => Text.isControl c = false) s

theorem Clean.append {s t : List Char} (hs : Clean s) (ht : Clean t) : Clean (s ++ t) :=
  List.forall_mem_append.mpr ⟨hs, ht⟩

theorem neutralizes_neutralize (n : Nat) (s : String) : Neutralizes n s (neutralize n s) := by
  unfold neutralize
  refine ⟨?_, fun i hs ht => ?_⟩
  · rw [String.toList_ofList, List.length_map, List.length_take]
  · simp only [String.toList_ofList, List.getElem_map, List.getElem_take]

theorem Neutralizes.length_le (h : Neutralizes n s t) : t.toList.length ≤ s.toList.length := by
  rw [h.length]
  exact Nat.min_le_right _ _

theorem neutralizes_iff : Neutralizes n s t ↔ t = neutralize n s := by
  have hshort := neutralizes_neutralize n s
  refine ⟨fun h => ?_, fun h => h ▸ hshort⟩
  apply String.toList_inj.mp
  refine List.ext_getElem (h.length.trans hshort.length.symm) fun i ht hn => ?_
  have hs : i < s.toList.length := Nat.lt_of_lt_of_le ht h.length_le
  rw [h.char i hs ht, hshort.char i hs hn]

theorem Neutralizes.clean (h : Neutralizes n s t) : Clean t.toList := by
  intro c hc
  obtain ⟨i, ht, rfl⟩ := List.getElem_of_mem hc
  rw [h.char i (Nat.lt_of_lt_of_le ht h.length_le) ht]
  split_ifs with hcontrol
  · decide
  · exact eq_false_of_ne_true hcontrol

/-! ## Parameters in order -/

/-- The second list has the same parameters as the first, ordered by the bytes of their names; parameters of
one name have kept their order. -/
structure IsByName (params sorted : List (String × String)) : Prop where
  perm : sorted.Perm params
  ordered : sorted.Pairwise fun p q => Utf8.encode p.1.toList ≤ Utf8.encode q.1.toList
  stable : ∀ name, sorted.filter (·.1 == name) = params.filter (·.1 == name)

theorem stable_of_mem (hperm : sorted.Perm params)
    (h : ∀ p ∈ params, sorted.filter (·.1 == p.1) = params.filter (·.1 == p.1)) (name : String) :
    sorted.filter (·.1 == name) = params.filter (·.1 == name) := by
  by_cases hname : ∃ p ∈ params, p.1 = name
  · obtain ⟨p, hp, rfl⟩ := hname
    exact h p hp
  · have hnone : params.filter (·.1 == name) = [] :=
      List.filter_eq_nil_iff.mpr fun p hp hpname => hname ⟨p, hp, beq_iff_eq.mp hpname⟩
    rw [hnone]
    exact List.perm_nil.mp (hnone ▸ hperm.filter _)

theorem mem_iff_mem_of_filter {others : List (String × String)}
    (h : ∀ name, params.filter (·.1 == name) = others.filter (·.1 == name)) (p : String × String) :
    p ∈ params ↔ p ∈ others := by
  have hmem : ∀ l : List (String × String), p ∈ l.filter (·.1 == p.1) ↔ p ∈ l := by simp
  rw [← hmem params, h, hmem]

theorem first_le_of_mem {p q : String × String} (h : (p :: params).Pairwise fun p q => p.1 ≤ q.1)
    (hq : q ∈ p :: params) : p.1 ≤ q.1 := by
  rcases List.mem_cons.mp hq with rfl | hq
  · exact String.le_refl _
  · exact List.rel_of_pairwise_cons h hq

/-- Parameters in order are the same if they are the same under each name. -/
theorem eq_of_ordered {others : List (String × String)}
    (hparams : params.Pairwise fun p q => p.1 ≤ q.1) (hothers : others.Pairwise fun p q => p.1 ≤ q.1)
    (h : ∀ name, params.filter (·.1 == name) = others.filter (·.1 == name)) : params = others := by
  induction params generalizing others with
  | nil =>
    refine (List.eq_nil_iff_forall_not_mem.mpr fun p hp => ?_).symm
    exact List.not_mem_nil ((mem_iff_mem_of_filter h p).mpr hp)
  | cons p params ih =>
    cases others with
    | nil => exact absurd ((mem_iff_mem_of_filter h p).mp List.mem_cons_self) List.not_mem_nil
    | cons q others =>
      -- Each of the two names in front is also a name of the other list, so that neither is the smaller one.
      have hle : p.1 ≤ q.1 := first_le_of_mem hparams ((mem_iff_mem_of_filter h q).mpr List.mem_cons_self)
      have hge : q.1 ≤ p.1 := first_le_of_mem hothers ((mem_iff_mem_of_filter h p).mp List.mem_cons_self)
      have hname : q.1 = p.1 := String.le_antisymm hge hle
      have hfront := h p.1
      simp only [List.filter_cons, hname, beq_self_eq_true, if_true] at hfront
      obtain ⟨rfl, -⟩ := List.cons.inj hfront
      congr 1
      refine ih hparams.of_cons hothers.of_cons fun name => ?_
      have hrest := h name
      simp only [List.filter_cons] at hrest
      split_ifs at hrest
      · exact (List.cons.inj hrest).2
      · exact hrest

/-- It is enough to look at the names that there are. -/
instance : Decidable (IsByName params sorted) :=
  decidable_of_iff
    (sorted.Perm params ∧ (sorted.Pairwise fun p q => Utf8.encode p.1.toList ≤ Utf8.encode q.1.toList) ∧
      ∀ p ∈ params, sorted.filter (·.1 == p.1) = params.filter (·.1 == p.1))
    ⟨fun h => ⟨h.1, h.2.1, stable_of_mem h.1 h.2.2⟩, fun h => ⟨h.perm, h.ordered, fun p _ => h.stable p.1⟩⟩

theorem RequestLogger.isByName_byName (params : List (String × String)) :
    IsByName params (byName params) := by
  have htrans : ∀ p q r : String × String,
      decide (p.1 ≤ q.1) = true → decide (q.1 ≤ r.1) = true → decide (p.1 ≤ r.1) = true := by
    intro p q r hpq hqr
    exact decide_eq_true (String.le_trans (of_decide_eq_true hpq) (of_decide_eq_true hqr))
  have htotal : ∀ p q : String × String, (decide (p.1 ≤ q.1) || decide (q.1 ≤ p.1)) = true := by
    intro p q
    rw [Bool.or_eq_true, decide_eq_true_eq, decide_eq_true_eq]
    exact String.le_total _ _
  have hperm : (byName params).Perm params := List.mergeSort_perm _ _
  refine ⟨hperm, ?_, fun name => ?_⟩
  · refine (List.pairwise_mergeSort htrans htotal params).imp fun hpq => ?_
    exact Utf8.le_iff_encode_le.mp (of_decide_eq_true hpq)
  · -- The parameters of one name are in order as they come, so that sorting keeps them as they are.
    have hequal : (params.filter (·.1 == name)).Pairwise fun p q => decide (p.1 ≤ q.1) = true := by
      refine List.pairwise_of_forall_mem_list fun p hp q hq => decide_eq_true ?_
      have hname : p.1 = q.1 :=
        (beq_iff_eq.mp (List.mem_filter.mp hp).2).trans (beq_iff_eq.mp (List.mem_filter.mp hq).2).symm
      exact hname ▸ String.le_refl _
    have hsub := (List.sublist_mergeSort htrans htotal hequal List.filter_sublist).filter (·.1 == name)
    rw [List.filter_eq_self.mpr fun p hp => (List.mem_filter.mp hp).2] at hsub
    exact (hsub.eq_of_length (hperm.filter _).length_eq.symm).symm

theorem RequestLogger.isByName_iff : IsByName params sorted ↔ sorted = byName params := by
  have hbyName := isByName_byName params
  refine ⟨fun h => ?_, fun h => h ▸ hbyName⟩
  refine eq_of_ordered (h.ordered.imp Utf8.le_iff_encode_le.mpr)
    (hbyName.ordered.imp Utf8.le_iff_encode_le.mpr) fun name => ?_
  rw [h.stable, hbyName.stable]

/-! ## Lines -/

namespace RequestLogger

variable {l : RequestLogger} {policy : ParameterPolicy} {entries : List String}

/-- What the line says of a parameter: its name and, unless it is hidden, its value. -/
def Shows (l : RequestLogger) (policy : ParameterPolicy) (p : String × String) (entry : String) : Prop :=
  ∃ name value, entry = name ++ "=" ++ value ∧ Neutralizes l.maxValueLen p.1 name ∧
    if l.Hides policy p.1 then value = l.mask else Neutralizes l.maxValueLen p.2 value

/-- What the line says of a request: the address of the client, the method, the URL up to its first `?` or
`#`, and all parameters. -/
def IsLine (l : RequestLogger) (policy : ParameterPolicy) (r : Request) (line : String) : Prop :=
  ∃ remote front rest path sorted entries,
    line = remote ++ " " ++ r.method.name ++ " " ++ path ++ " [" ++ ", ".intercalate entries ++ "]" ∧
      Neutralizes l.maxValueLen r.remoteAddr remote ∧
      r.url.toList = front ++ rest ∧
      (∀ c ∈ front, c ≠ '?' ∧ c ≠ '#') ∧
      (∀ c ∈ rest.head?, c = '?' ∨ c = '#') ∧
      Neutralizes l.maxValueLen (String.ofList front) path ∧
      IsByName r.parameters sorted ∧
      List.Forall₂ (l.Shows policy) sorted entries

theorem shows_iff {p : String × String} {entry : String} :
    l.Shows policy p entry ↔ entry = l.entry policy p := by
  unfold Shows RequestLogger.entry
  simp only [neutralizes_iff, isMasked_iff]
  constructor
  · rintro ⟨name, value, rfl, rfl, hvalue⟩
    split_ifs at hvalue ⊢ with hhides
    all_goals rw [hvalue]
  · rintro rfl
    refine ⟨_, _, rfl, rfl, ?_⟩
    split_ifs with hhides
    all_goals rfl

theorem forall₂_shows_iff :
    List.Forall₂ (l.Shows policy) sorted entries ↔ entries = sorted.map (l.entry policy) := by
  have hshows : l.Shows policy = fun p entry => entry = l.entry policy p := by
    funext p entry
    exact propext shows_iff
  rw [hshows]
  constructor
  · intro h
    induction h with
    | nil => rfl
    | cons hentry _ ih => rw [hentry, ih, List.map_cons]
  · rintro rfl
    rw [List.forall₂_map_right_iff, List.forall₂_same]
    exact fun _ _ => rfl

/-- Nothing is left open in what a line says. -/
theorem isLine_iff {x : Exchange} {line : String} :
    l.IsLine policy x.request line ↔ line = l.line policy x := by
  unfold IsLine RequestLogger.line
  simp only [neutralizes_iff, forall₂_shows_iff]
  constructor
  · rintro ⟨_, front, rest, _, sorted, _, rfl, rfl, hurl, hfront, hrest, rfl, hsorted, rfl⟩
    rw [hurl, Request.pathOf_append hfront hrest, isByName_iff.mp hsorted]
  · rintro rfl
    refine ⟨_, Request.pathOf x.request.url.toList,
      x.request.url.toList.dropWhile fun c => c != '?' && c != '#', _, byName x.request.parameters, _,
      rfl, rfl, ?_, fun c hc => ?_, fun c hc => ?_, rfl, isByName_byName _, rfl⟩
    · exact List.takeWhile_append_dropWhile.symm
    · simpa using List.mem_takeWhile_imp hc
    · have hhead := List.head?_dropWhile_not (fun c : Char => c != '?' && c != '#') x.request.url.toList
      rw [hc] at hhead
      simpa [Classical.or_iff_not_imp_left] using hhead

/-! ## Control characters -/

theorem Shows.clean {p : String × String} {entry : String} (h : l.Shows policy p entry)
    (hmask : Clean l.mask.toList) : Clean entry.toList := by
  obtain ⟨name, value, rfl, hname, hvalue⟩ := h
  have hshown : Clean value.toList := by
    split_ifs at hvalue with hhides
    · rwa [hvalue]
    · exact hvalue.clean
  rw [String.toList_append, String.toList_append]
  exact (hname.clean.append (by decide)).append hshown

theorem clean_of_shows (h : List.Forall₂ (l.Shows policy) sorted entries) (hmask : Clean l.mask.toList) :
    ∀ entry ∈ entries, Clean entry.toList := by
  induction h with
  | nil => exact List.forall_mem_nil _
  | cons hshows _ ih => exact List.forall_mem_cons.mpr ⟨hshows.clean hmask, ih⟩

/-- A line has no control characters: whatever the client chose is neutralised, and the rest is the method,
the mask and punctuation. -/
theorem IsLine.clean {r : Request} {line : String} (h : l.IsLine policy r line)
    (hmask : Clean l.mask.toList) : Clean line.toList := by
  obtain ⟨remote, front, rest, path, sorted, entries, rfl, hremote, -, -, -, hpath, -, hentries⟩ := h
  have hmethod : Clean r.method.name.toList := by
    cases r.method <;> decide
  have hlist : Clean (", ".intercalate entries).toList := by
    have hcomma : Clean ", ".toList := by decide
    rw [String.toList_intercalate]
    refine forall_mem_intercalate hcomma fun text htext => ?_
    obtain ⟨entry, hentry, rfl⟩ := List.mem_map.mp htext
    exact clean_of_shows hentries hmask entry hentry
  simp only [String.toList_append]
  refine Clean.append (.append (.append (.append (.append (.append (.append hremote.clean ?_) hmethod) ?_)
    hpath.clean) ?_) hlist) ?_
  all_goals decide

/-- A request makes one record, behind those that the sink holds.  Its line is the only text that says of the
request what a line says, and it cannot be taken for more than one line: no control character gets into it,
unless the mask has one. -/
theorem log_writes_one_clean_line (l : RequestLogger) (policy : ParameterPolicy) (x : Exchange)
    (sink : List LogRecord) (hmask : Clean l.mask.toList) :
    ∃ line : String, l.log policy x sink = sink ++ [⟨x.id, ⟨line⟩⟩] ∧ Clean line.toList ∧
      ∀ text, l.IsLine policy x.request text ↔ text = line := by
  have hline : l.IsLine policy x.request (l.line policy x) := isLine_iff.mpr rfl
  exact ⟨l.line policy x, rfl, hline.clean hmask, fun _ => isLine_iff⟩

/-- A path, an address and a value with line breaks make one line.  The parameters come in the order of their
names, and the two of one name as they came. -/
theorem line_breaks_make_no_lines :
    ∃ x : Exchange, x.request.remoteAddr = "10.0.0.1\n" ∧
      x.request.url = "/a\r?z=1&b=%0AGET+/&token=x&z=0" ∧
      Clean (RequestLogger.new {} {}).mask.toList ∧
      (RequestLogger.new {} {}).log (.obfuscate (.ofList ["token"])) x [] =
        [⟨x.id, ⟨"10.0.0.1_ GET /a_ [b=_GET /, token=********, z=1, z=0]"⟩⟩] := by
  obtain ⟨x, hx⟩ : ∃ x : Exchange, x =
    { id := "req-1", request := { url := "/a\r?z=1&b=%0AGET+/&token=x&z=0", remoteAddr := "10.0.0.1\n" } } :=
    ⟨_, rfl⟩
  have hmask : Clean (RequestLogger.new {} {}).mask.toList := by decide
  refine ⟨x, by rw [hx], by rw [hx], hmask, ?_⟩
  obtain ⟨line, hlog, -, hline⟩ :=
    log_writes_one_clean_line (RequestLogger.new {} {}) (.obfuscate (.ofList ["token"])) x [] hmask
  have horder : IsByName x.request.parameters [("b", "\nGET /"), ("token", "x"), ("z", "1"), ("z", "0")] := by
    rw [hx]
    decide +kernel
  have hshown : (RequestLogger.new {} {}).IsLine (.obfuscate (.ofList ["token"])) x.request
      "10.0.0.1_ GET /a_ [b=_GET /, token=********, z=1, z=0]" := by
    refine ⟨_, "/a\r".toList, "?z=1&b=%0AGET+/&token=x&z=0".toList, _, _, _, ?_,
      neutralizes_neutralize _ _, ?_, by simp, by simp, neutralizes_neutralize _ _, horder,
      forall₂_shows_iff.mpr rfl⟩
    all_goals rw [hx]
    all_goals decide +kernel
  rw [hlog, ← (hline _).mp hshown]
  rfl

end RequestLogger

end HttpMediation
