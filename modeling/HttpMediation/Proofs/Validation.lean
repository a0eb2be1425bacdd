import HttpMediation.Config.Validation
import HttpMediation.Proofs.Ascii
import Mathlib.Tactic.SplitIfs

/-!
# Validation — what settings without problems are like

* `Config.IsValid` : the conditions on settings, section after section.
* `Config.validate_eq_ok_iff` : settings pass validation if they meet all of them.
* `Config.slashes_of_validate` : where a directory of forwards that passes begins and ends.
-/

namespace HttpMediation

/-- What is asked of settings: names are plain, limits are positive, and the text of a place begins as a path
or a web address does. -/
structure Config.IsValid (c : Config) : Prop where
  tokenBytes : 16 ≤ c.csrf.tokenBytes
  parameterName : isPlainName c.csrf.parameterName = true
  stateCookieName : isPlainName c.cookies.stateCookieName = true
  sessionCookieName : isPlainName c.cookies.sessionCookieName = true
  maxCookieLen : 0 < c.cookies.maxCookieLen
  maxNameLen : 0 < c.headers.maxNameLen
  maxValueLen : 0 < c.headers.maxValueLen
  contentType : namesCharset c.headers.contentType = true
  forwardNamespace : isProperDirectory c.redirects.forwardNamespace = true
  contexts : ∀ e ∈ c.redirects.contexts.entries, e.2 ≠ [] ∧ ∀ entry ∈ e.2, looksLikePlace entry = true
  maxFileSize : 0 < c.uploads.maxFileSize
  maxFiles : 0 < c.uploads.maxFiles
  maxFilenameLen : 0 < c.uploads.maxFilenameLen ∧ c.uploads.maxFilenameLen ≤ 255
  mask : c.logging.mask.toList ≠ []

namespace ConfigProblem

variable {good : Bool} {p : ConfigProblem}

theorem ifNot_eq_nil_iff : ifNot good p = [] ↔ good = true := by
  unfold ifNot
  cases good <;> simp

end ConfigProblem

open ConfigProblem (ifNot_eq_nil_iff)

/-! ## The sections -/

theorem CsrfConfig.problems_eq_nil_iff {c : CsrfConfig} :
    c.problems = [] ↔ 16 ≤ c.tokenBytes ∧ isPlainName c.parameterName = true := by
  simp only [problems, List.append_eq_nil_iff, ifNot_eq_nil_iff, decide_eq_true_eq]

theorem CookieConfig.problems_eq_nil_iff {c : CookieConfig} : c.problems = [] ↔
    (isPlainName c.stateCookieName = true ∧ isPlainName c.sessionCookieName = true) ∧ 0 < c.maxCookieLen := by
  simp only [problems, List.append_eq_nil_iff, ifNot_eq_nil_iff, decide_eq_true_eq]

theorem HeaderConfig.problems_eq_nil_iff {c : HeaderConfig} : c.problems = [] ↔
    (0 < c.maxNameLen ∧ 0 < c.maxValueLen) ∧ namesCharset c.contentType = true := by
  simp only [problems, List.append_eq_nil_iff, ifNot_eq_nil_iff, Bool.and_eq_true, decide_eq_true_eq]

theorem contextProblems_eq_nil_iff {context : String} {entries : List String} :
    contextProblems context entries = [] ↔ entries ≠ [] ∧ ∀ entry ∈ entries, looksLikePlace entry = true := by
  simp only [contextProblems, List.append_eq_nil_iff, List.flatMap_eq_nil_iff, ifNot_eq_nil_iff,
    Bool.not_eq_true', List.isEmpty_eq_false_iff, ne_eq]

theorem RedirectConfig.problems_eq_nil_iff {c : RedirectConfig} : c.problems = [] ↔
    isProperDirectory c.forwardNamespace = true ∧
      ∀ e ∈ c.contexts.entries, e.2 ≠ [] ∧ ∀ entry ∈ e.2, looksLikePlace entry = true := by
  simp only [problems, List.append_eq_nil_iff, List.flatMap_eq_nil_iff, ifNot_eq_nil_iff,
    contextProblems_eq_nil_iff]

theorem UploadConfig.problems_eq_nil_iff {c : UploadConfig} : c.problems = [] ↔
    (0 < c.maxFileSize ∧ 0 < c.maxFiles) ∧ 0 < c.maxFilenameLen ∧ c.maxFilenameLen ≤ 255 := by
  simp only [problems, List.append_eq_nil_iff, ifNot_eq_nil_iff, Bool.and_eq_true, decide_eq_true_eq]

theorem LoggingConfig.problems_eq_nil_iff {c : LoggingConfig} : c.problems = [] ↔ c.mask.toList ≠ [] := by
  simp only [problems, ifNot_eq_nil_iff, Bool.not_eq_true', List.isEmpty_eq_false_iff, ne_eq]

/-! ## All settings -/

namespace Config

variable {config : Config}

theorem validate_eq_ok_iff_problems : config.validate = .ok () ↔ config.problems = [] := by
  unfold validate
  split_ifs with hempty
  · exact iff_of_true rfl (List.isEmpty_iff.mp hempty)
  · exact iff_of_false (fun h => nomatch h) fun h => hempty (List.isEmpty_iff.mpr h)

/-- Settings pass validation exactly if every condition is met. -/
theorem validate_eq_ok_iff : config.validate = .ok () ↔ config.IsValid := by
  simp only [validate_eq_ok_iff_problems, problems, List.append_eq_nil_iff, CsrfConfig.problems_eq_nil_iff,
    CookieConfig.problems_eq_nil_iff, HeaderConfig.problems_eq_nil_iff, RedirectConfig.problems_eq_nil_iff,
    UploadConfig.problems_eq_nil_iff, LoggingConfig.problems_eq_nil_iff]
  constructor
  · rintro ⟨⟨⟨⟨⟨⟨htoken, hparameter⟩, ⟨hstate, hsession⟩, hcookie⟩, ⟨hname, hvalue⟩, hcharset⟩, hnamespace,
      hcontexts⟩, ⟨hsize, hfiles⟩, hfilename⟩, hmask⟩
    exact ⟨htoken, hparameter, hstate, hsession, hcookie, hname, hvalue, hcharset, hnamespace, hcontexts, hsize,
      hfiles, hfilename, hmask⟩
  · intro h
    exact ⟨⟨⟨⟨⟨⟨h.tokenBytes, h.parameterName⟩, ⟨h.stateCookieName, h.sessionCookieName⟩, h.maxCookieLen⟩,
      ⟨h.maxNameLen, h.maxValueLen⟩, h.contentType⟩, h.forwardNamespace, h.contexts⟩,
      ⟨h.maxFileSize, h.maxFiles⟩, h.maxFilenameLen⟩, h.mask⟩

/-- The directory of forwards begins and ends with a slash. -/
theorem slashes_of_validate (h : config.validate = .ok ()) :
    config.redirects.forwardNamespace.toList.head? = some '/' ∧
      config.redirects.forwardNamespace.toList.getLast? = some '/' := by
  have hproper := (validate_eq_ok_iff.mp h).forwardNamespace
  unfold isProperDirectory Text.endsWith at hproper
  simp only [Bool.and_eq_true, Option.any_eq_true, beq_iff_eq, Ascii.isPrefixOf_singleton_iff] at hproper
  obtain ⟨⟨hfirst, last, hlast, rfl⟩, -⟩ := hproper
  exact ⟨hfirst, hlast⟩

end Config

end HttpMediation
