import HttpMediation.Proofs.Field
import HttpMediation.Proofs.ParsedUrl

/-!
# Visible — texts that any header can hold

A visible text consists of the characters `!` to `~`.  Every part of a URL is brought into such a text when
the URL is read, whatever characters it was read from.

* `Visible` : texts of visible characters.
* `Percent.visible_encode` : what is escaped by a set of visible characters is visible.
* `DomainName.exists_of_toAscii?`, `DomainName.visible_of_toAscii?` : a host name in ASCII is visible.
* `Host.forall_mem_text`, `Url.forall_mem_text` : what the characters of a host and of a URL are, part by part.
* `Url.isWritten_of_parse?`, `Url.IsWritten.visible_text` : the spelling of such a URL is visible.
-/

namespace HttpMediation

/-- What holds in a separator and in each piece holds in the pieces put together. -/
theorem forall_mem_intercalate {α : Type} {P : α → Prop} {s : List α} {l : List (List α)}
    (hs : ∀ c ∈ s, P c) (hl : ∀ t ∈ l, ∀ c ∈ t, P c) : ∀ c ∈ s.intercalate l, P c := by
  induction l with
  | nil => simp
  | cons t l ih =>
    obtain ⟨ht, hl⟩ := List.forall_mem_cons.mp hl
    cases l with
    | nil => simpa using ht
    | cons u l =>
      rw [List.intercalate_cons_cons]
      exact List.forall_mem_append.mpr ⟨List.forall_mem_append.mpr ⟨ht, hs⟩, ih hl⟩

/-! ## Visible texts -/

theorem IsVisible.ascii {c : Char} (h : IsVisible c) : c.toNat < 0x80 :=
  Nat.lt_of_le_of_lt h.2 (by decide)

theorem IsVisible.safe {c : Char} (h : IsVisible c) : Text.isControl c = false ∧ Text.isBlank c = false := by
  have hascii := h.ascii
  revert h
  exact Ascii.forall_of_lt
    (P := fun c => IsVisible c → Text.isControl c = false ∧ Text.isBlank c = false) (by decide) hascii

/-- The text has only visible characters. -/
def Visible (s : List Char) : Prop :=
  ∀ c ∈ s, IsVisible c

instance (s : List Char) : Decidable (Visible s) :=
  List.decidableBAll IsVisible s

namespace Visible

variable {s t : List Char}

theorem nil : Visible [] :=
  fun _ h => absurd h List.not_mem_nil

theorem append_iff : Visible (s ++ t) ↔ Visible s ∧ Visible t :=
  List.forall_mem_append

end Visible

/-! ## Digits -/

section Digits

variable {P : Char → Prop} (hdigit : ∀ n < 16, P n.digitChar)
include hdigit

/-- What holds of the digits holds in a number. -/
theorem forall_mem_toDigits {base : Nat} (hbase : 1 < base) (hle : base ≤ 16) (n : Nat) :
    ∀ c ∈ Nat.toDigits base n, P c := by
  induction n using Nat.strongRecOn with
  | ind n ih =>
    rw [Nat.toDigits_eq_if hbase]
    split_ifs with hn
    · exact List.forall_mem_singleton.mpr (hdigit n (by omega))
    · have hlast := Nat.mod_lt n (y := base) (by omega)
      exact List.forall_mem_append.mpr ⟨ih _ (Nat.div_lt_self (by omega) hbase),
        List.forall_mem_singleton.mpr (hdigit _ (by omega))⟩

theorem forall_mem_toString (n : Nat) : ∀ c ∈ (toString n).toList, P c := by
  have hdigits : (toString n).toList = Nat.toDigits 10 n := by simp [toString, Nat.repr]
  rw [hdigits]
  exact forall_mem_toDigits hdigit (by decide) (by decide) n

end Digits

theorem visible_digit : ∀ n < 16, IsVisible (Nat.digitChar n) := by
  decide

/-! ## Escaped texts -/

theorem Percent.visible_encode {keep : Char → Bool}
    (hkeep : ∀ c, c.toNat < 0x80 → keep c = true → IsVisible c) (s : List Char) :
    Visible (Percent.encode keep s) := by
  intro c hc
  rcases Percent.mem_encode hc with ⟨-, hascii, hkept⟩ | rfl | ⟨n, hn, rfl⟩
  · exact hkeep c hascii hkept
  · decide
  · have hdigit : ∀ n < 16, IsVisible (Hex.upperDigit n) := by decide
    exact hdigit n hn

theorem Path.visible_write (path : List Char) : Visible (Path.write path) := by
  refine Percent.visible_encode (fun c _ hkept => ?_) path
  unfold keeps at hkept
  simp only [Bool.and_eq_true, decide_eq_true_eq] at hkept
  unfold IsVisible
  omega

/-! ## Punycode -/

namespace Punycode

theorem digit_lt {n : Nat} (hn : n < 36) : (digit n).toNat < 0x80 := by
  have hdigit : ∀ n < 36, (digit n).toNat < 0x80 := by decide
  exact hdigit n hn

theorem threshold_le (bias k : Nat) : threshold bias k ≤ 26 := by
  unfold threshold
  split_ifs <;> omega

theorem lt_of_mem_encodeNumber {bias k q : Nat} {c : Char} (hc : c ∈ encodeNumber bias k q) :
    c.toNat < 0x80 := by
  induction k, q using encodeNumber.induct bias with
  | case1 k q t hlt =>
    have hle := threshold_le bias k
    unfold encodeNumber at hc
    rw [if_pos hlt, List.mem_singleton] at hc
    rw [hc]
    exact digit_lt (by omega)
  | case2 k q t hge ih =>
    have hle := threshold_le bias k
    have hmod := Nat.mod_lt (q - threshold bias k) (y := 36 - threshold bias k) (by omega)
    unfold encodeNumber at hc
    rw [if_neg hge] at hc
    rcases List.mem_cons.mp hc with rfl | hc
    · exact digit_lt (by omega)
    · exact ih hc

/-- What has been written so far is ASCII. -/
def Encoder.IsAscii (e : Encoder) : Prop :=
  ∀ c ∈ e.output, c.toNat < 0x80

theorem Encoder.IsAscii.pass {e : Encoder} (he : e.IsAscii) (basic m : Nat) (label : List Char) :
    (e.pass basic m label).IsAscii := by
  unfold Encoder.pass
  refine List.foldlRecOn (motive := Encoder.IsAscii) label _ he fun e he c _ => ?_
  split_ifs with hbefore hsame
  · exact he
  · intro d hd
    rcases List.mem_append.mp hd with hold | hnew
    · exact he d hold
    · exact lt_of_mem_encodeNumber hnew
  · exact he

/-- Punycode is ASCII: the characters that were, a hyphen and digits. -/
theorem lt_of_mem_encode {label : List Char} {c : Char} (hc : c ∈ encode label) : c.toNat < 0x80 := by
  have hbasic : ∀ d ∈ label.filter (·.toNat < 0x80), d.toNat < 0x80 :=
    fun d hd => of_decide_eq_true (List.mem_filter.mp hd).2
  unfold encode at hc
  dsimp only at hc
  revert c
  show Encoder.IsAscii _
  refine List.foldlRecOn (motive := fun s : Nat × Encoder => s.2.IsAscii) _ _ ?_ fun s hs m _ => ?_
  · intro d hd
    dsimp only at hd
    split_ifs at hd
    · exact absurd hd List.not_mem_nil
    · rcases List.mem_append.mp hd with hd | hd
      · exact hbasic d hd
      · rw [List.mem_singleton.mp hd]
        decide
  · have hnext : Encoder.IsAscii { s.2 with delta := s.2.delta + (m - s.1) * (s.2.handled + 1) } := hs
    exact hnext.pass _ m label

end Punycode

/-! ## Hosts -/

namespace DomainName

theorem lt_of_readLabel? {label : List Char} {l : Label} (h : readLabel? label = some l) {c : Char}
    (hc : c ∈ l.ascii) : c.toNat < 0x80 := by
  have hall : ∀ {s : List Char}, s.all isAscii = true → ∀ c ∈ s, c.toNat < 0x80 :=
    fun h c hc => of_decide_eq_true (List.all_eq_true.mp h c hc)
  unfold readLabel? at h
  split_ifs at h with hace hascii hlong
  · unfold readAce? at h
    dsimp only at h
    split_ifs at h with hrefused
    · simp at h
    obtain ⟨unicode, -, h⟩ := Option.bind_eq_some_iff.mp h
    split_ifs at h
    · simp at h
    obtain rfl := Option.some.inj h
    simp only [Bool.or_eq_true, not_or, Bool.not_eq_true', Bool.not_eq_false] at hrefused
    exact hall hrefused.1 c hc
  · obtain rfl := Option.some.inj h
    exact hall hascii c hc
  · obtain rfl := Option.some.inj h
    rcases List.mem_append.mp hc with hmark | hpunycode
    · have hmarks : Visible aceMark := by decide
      exact (hmarks c hmark).ascii
    · exact Punycode.lt_of_mem_encode hpunycode

/-- A name in ASCII consists of labels that were read, and nothing that is forbidden is left in it. -/
theorem exists_of_toAscii? {name ascii : List Char} (h : toAscii? name = some ascii) :
    (∀ c ∈ ascii, isForbidden c = false) ∧
      ∃ labels : List Label, (∀ l ∈ labels, ∃ label, readLabel? label = some l) ∧
        ascii = ['.'].intercalate (labels.map (·.ascii)) := by
  unfold toAscii? at h
  obtain ⟨mapped, -, h⟩ := Option.bind_eq_some_iff.mp h
  obtain ⟨labels, hlabels, h⟩ := Option.bind_eq_some_iff.mp h
  dsimp only at h
  split_ifs at h with hrules hforbidden hforbidden
  · simp at h
  · simp at h
  · simp at h
  obtain rfl := Option.some.inj h
  refine ⟨fun c hc => ?_, labels, fun l hl => ?_, rfl⟩
  · rw [← Bool.not_eq_true]
    exact fun hbad => hforbidden (List.any_eq_true.mpr ⟨c, hc, hbad⟩)
  · obtain ⟨label, -, hread⟩ := exists_left_of_forall₂ (mapM_eq_some_iff.mp hlabels) hl
    exact ⟨label, hread⟩

theorem lt_of_toAscii? {name ascii : List Char} (h : toAscii? name = some ascii) {c : Char}
    (hc : c ∈ ascii) : c.toNat < 0x80 := by
  obtain ⟨-, labels, hlabels, rfl⟩ := exists_of_toAscii? h
  refine forall_mem_intercalate (P := fun c => c.toNat < 0x80) ?_ (fun t ht => ?_) c hc
  · exact List.forall_mem_singleton.mpr (by decide)
  · obtain ⟨l, hl, rfl⟩ := List.mem_map.mp ht
    obtain ⟨label, hread⟩ := hlabels l hl
    exact fun d hd => lt_of_readLabel? hread hd

/-- A name in ASCII is visible: its labels are ASCII, and what else is not visible is forbidden. -/
theorem visible_of_toAscii? {name ascii : List Char} (h : toAscii? name = some ascii) : Visible ascii := by
  intro c hc
  have hascii := lt_of_toAscii? h hc
  have hallowed := (exists_of_toAscii? h).1 c hc
  unfold isForbidden at hallowed
  simp only [Bool.or_eq_false_iff, decide_eq_false_iff_not, beq_eq_false_iff_ne] at hallowed
  unfold IsVisible
  omega

end DomainName

namespace Host

section Characters

variable {P : Char → Prop} (hdigit : ∀ n < 16, P n.digitChar)
include hdigit

theorem forall_mem_ipv4Text (hdot : P '.') (address : Nat) : ∀ c ∈ ipv4Text address, P c := by
  refine forall_mem_intercalate (List.forall_mem_singleton.mpr hdot) fun t ht => ?_
  obtain ⟨unit, -, rfl⟩ := List.mem_map.mp ht
  exact forall_mem_toString hdigit _

theorem forall_mem_piecesText (hcolon : P ':') (pieces : List Nat) : ∀ c ∈ piecesText pieces, P c := by
  refine forall_mem_intercalate (List.forall_mem_singleton.mpr hcolon) fun t ht => ?_
  obtain ⟨p, -, rfl⟩ := List.mem_map.mp ht
  rw [Hex.number, String.toList_ofList]
  exact forall_mem_toDigits hdigit (by decide) (by decide) p

theorem forall_mem_ipv6Text (hcolon : P ':') (pieces : List Nat) : ∀ c ∈ ipv6Text pieces, P c := by
  have hgap : ∀ c ∈ "::".toList, P c :=
    List.forall_mem_cons.mpr ⟨hcolon, List.forall_mem_singleton.mpr hcolon⟩
  unfold ipv6Text
  dsimp only
  split_ifs
  · exact forall_mem_piecesText hdigit hcolon pieces
  · exact List.forall_mem_append.mpr ⟨List.forall_mem_append.mpr
      ⟨forall_mem_piecesText hdigit hcolon _, hgap⟩, forall_mem_piecesText hdigit hcolon _⟩

/-- What holds of the digits, of the marks of addresses and of names in ASCII holds in every host that is
read. -/
theorem forall_mem_text (hmarks : ∀ c ∈ ['.', ':', '[', ']'], P c)
    (hname : ∀ {name ascii}, DomainName.toAscii? name = some ascii → ∀ c ∈ ascii, P c)
    {s : List Char} {host : Host} (h : parse? s = some host) : ∀ c ∈ host.text, P c := by
  have hofName : ∀ {name : List Char}, ofName? name = some host → ∀ c ∈ host.text, P c := by
    intro name h
    obtain ⟨decoded, -, h⟩ := Option.bind_eq_some_iff.mp h
    obtain ⟨ascii, hascii, h⟩ := Option.bind_eq_some_iff.mp h
    split_ifs at h with hempty hnumber
    · obtain ⟨address, -, h⟩ := Option.bind_eq_some_iff.mp h
      obtain rfl := Option.some.inj h
      exact forall_mem_ipv4Text hdigit (hmarks '.' (by simp)) address
    · obtain rfl := Option.some.inj h
      exact hname hascii
  unfold parse? at h
  split at h
  · split_ifs at h
    obtain ⟨pieces, -, rfl⟩ := Option.map_eq_some_iff.mp h
    exact List.forall_mem_append.mpr ⟨List.forall_mem_cons.mpr ⟨hmarks '[' (by simp),
      forall_mem_ipv6Text hdigit (hmarks ':' (by simp)) pieces⟩,
      List.forall_mem_singleton.mpr (hmarks ']' (by simp))⟩
  · exact hofName h

end Characters

/-- Every host that is read is spelled with visible characters. -/
theorem visible_text {s : List Char} {host : Host} (h : parse? s = some host) : Visible host.text := by
  have hmarks : Visible ['.', ':', '[', ']'] := by decide
  exact forall_mem_text visible_digit hmarks DomainName.visible_of_toAscii? h

end Host

/-! ## URLs -/

namespace Url

theorem isVisible_of_keepsAllBut {marks : String} (hspace : ' ' ∈ marks.toList) {c : Char}
    (h : keepsAllBut marks c = true) : IsVisible c := by
  unfold keepsAllBut isAlwaysEscaped at h
  simp only [Bool.and_eq_true, Bool.not_eq_true', Bool.or_eq_false_iff, decide_eq_false_iff_not,
    List.contains_eq_mem] at h
  have hne : c.toNat ≠ 0x20 := by
    intro heq
    have hc : c = ' ' := Char.toNat_inj.mp heq
    exact h.2 (hc ▸ hspace)
  unfold IsVisible
  omega

theorem visible_encode {marks : String} (hspace : ' ' ∈ marks.toList) (s : List Char) :
    Visible (Percent.encode (keepsAllBut marks) s) :=
  Percent.visible_encode (fun _ _ hkept => isVisible_of_keepsAllBut hspace hkept) s

/-- Every part of the URL is in visible characters. -/
structure IsWritten (u : Url) : Prop where
  username : Visible u.username
  password : ∀ word, u.password = some word → Visible word
  host : Visible u.host.text
  path : ∀ s ∈ u.path, Visible s
  query : ∀ q, u.query = some q → Visible q
  fragment : ∀ f, u.fragment = some f → Visible f

theorem isWritten_of_parse? {s : List Char} {u : Url} (h : parse? s = some u) : u.IsWritten := by
  obtain ⟨user, host, path, query, fragment, huser, hhost, hpath, hquery, -, hfragment, -⟩ :=
    exists_of_parse? h
  obtain ⟨hname, hpassword⟩ := Prod.mk.inj huser
  refine ⟨?_, fun word hword => ?_, Host.visible_text hhost, ?_, fun q hq => ?_, fun f hf => ?_⟩
  · rw [hname]
    exact visible_encode (by decide) _
  · rw [hpassword] at hword
    split_ifs at hword
    obtain rfl := Option.some.inj hword
    exact visible_encode (by decide) _
  · rw [hpath]
    exact forall_mem_readPath .nil fun segment _ _ => visible_encode (by decide) segment
  · rw [hquery q hq]
    exact visible_encode (by decide) _
  · rw [hfragment f hf]
    exact visible_encode (by decide) _

/-- What holds of the digits, of the marks of URLs and in every part holds in the spelling of a URL. -/
theorem forall_mem_text {P : Char → Prop} {u : Url} (hdigit : ∀ n < 16, P n.digitChar)
    (hmarks : ∀ c ∈ "https://@?#".toList, P c) (husername : ∀ c ∈ u.username, P c)
    (hpassword : ∀ word, u.password = some word → ∀ c ∈ word, P c) (hhost : ∀ c ∈ u.host.text, P c)
    (hpath : ∀ s ∈ u.path, ∀ c ∈ s, P c) (hquery : ∀ q, u.query = some q → ∀ c ∈ q, P c)
    (hfragment : ∀ f, u.fragment = some f → ∀ c ∈ f, P c) : ∀ c ∈ u.text, P c := by
  have hmark : ∀ part : List Char, part ⊆ "https://@?#".toList → ∀ c ∈ part, P c :=
    fun part hpart c hc => hmarks c (hpart hc)
  have hbehind : ∀ {mark : Char} {part : Option (List Char)}, P mark →
      (∀ s, part = some s → ∀ c ∈ s, P c) → ∀ c ∈ behind mark part, P c := by
    intro mark part hmark hpart
    cases part with
    | none => exact fun c hc => absurd hc List.not_mem_nil
    | some s => exact List.forall_mem_cons.mpr ⟨hmark, hpart s rfl⟩
  have hscheme : ∀ c ∈ u.scheme.name.toList ++ "://".toList, P c := by
    cases u.scheme <;> exact hmark _ (by decide)
  have huser : ∀ c ∈ u.userText, P c := by
    unfold userText
    split
    · exact fun c hc => absurd hc List.not_mem_nil
    · exact List.forall_mem_append.mpr ⟨husername, hmark _ (by decide)⟩
    · rename_i word hword
      exact List.forall_mem_append.mpr ⟨List.forall_mem_append.mpr ⟨husername,
        List.forall_mem_cons.mpr ⟨hmarks ':' (by decide), hpassword word hword⟩⟩, hmark _ (by decide)⟩
  have hport : ∀ c ∈ u.portText, P c := by
    unfold portText
    cases u.port with
    | none => exact fun c hc => absurd hc List.not_mem_nil
    | some port => exact List.forall_mem_cons.mpr ⟨hmarks ':' (by decide), forall_mem_toString hdigit port⟩
  have hsegments : ∀ c ∈ u.pathText, P c := by
    intro c hc
    obtain ⟨s, hs, hmem⟩ := List.mem_flatMap.mp hc
    rcases List.mem_cons.mp hmem with rfl | hmem
    · exact hmarks '/' (by decide)
    · exact hpath s hs c hmem
  unfold text
  simp only [List.forall_mem_append] at hscheme ⊢
  exact ⟨⟨⟨⟨⟨⟨hscheme, huser⟩, hhost⟩, hport⟩, hsegments⟩, hbehind (hmarks '?' (by decide)) hquery⟩,
    hbehind (hmarks '#' (by decide)) hfragment⟩

theorem IsWritten.visible_text {u : Url} (h : u.IsWritten) : Visible u.text := by
  have hmarks : Visible "https://@?#".toList := by decide
  exact forall_mem_text visible_digit hmarks h.username h.password h.host h.path h.query h.fragment

end Url

end HttpMediation
