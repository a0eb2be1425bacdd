import HttpMediation.Diagnostic.Basic
import HttpMediation.Mediator

/-!
# Records — outlines of the values of this library

Secrets, tokens, keys and session identifiers appear as the one word of all secrets.  Of a session's
attributes only the names appear, and of a request nothing that the client sent but its method.
-/

namespace HttpMediation

open Diagnostic

/-! ## Values -/

instance {α : Type} [Diagnosable α] : Diagnosable (Tainted α) :=
  ⟨fun t => record "Tainted" [("inner", outline t.inner)] true⟩

instance {α : Type} [Diagnosable α] : Diagnosable (Verified α) :=
  ⟨fun v => record "Verified" [("inner", outline v.inner)] true⟩

instance : Diagnosable Secret := ⟨fun s => word s.text⟩

instance : Diagnosable ErrorKind := ⟨fun k => word k.name⟩

instance : Diagnosable Error where
  outline e := record "Error" [("kind", outline e.kind), ("message", outline e.message)] true

instance : Diagnosable Method := ⟨fun m => word (Text.lower m.name).capitalize⟩

instance : Diagnosable SameSite := ⟨fun s => word s.name⟩

instance : Diagnosable TextSet := ⟨fun s => set (s.toList.map quoted)⟩

instance : Diagnosable Token := ⟨fun t => wrapped "CsrfToken" (outline t.secret)⟩

instance : Diagnosable Cookie where
  outline c := record "Cookie" [("name", outline c.name), ("value", outline c.value),
    ("max_age", outline c.maxAge), ("domain", outline c.domain), ("path", outline c.path)] true

instance : Diagnosable StateMap where
  outline m := record "StateMap" [("entries", map (m.entries.map fun e => (e.1, outline e.2)))] true

instance : Diagnosable Session where
  outline s := record "SessionContext" [("id", quoted (Secret.mk s.id.toUTF8.data.toList).text),
    ("attributes", outline s.attributes.keys), ("token", outline s.token)] true

instance : Diagnosable Exchange where
  outline x := record "Ctx" [("request_id", outline x.id), ("method", outline x.request.method)]
    false

/-! ## Settings -/

instance : Diagnosable CsrfConfig where
  outline c := record "CsrfConfig" [("parameter_name", outline c.parameterName),
    ("token_bytes", outline c.tokenBytes)] true

instance : Diagnosable CookieConfig where
  outline c := record "CookieConfig" [("state_cookie_name", outline c.stateCookieName),
    ("session_cookie_name", outline c.sessionCookieName), ("same_site", outline c.sameSite),
    ("max_cookie_len", outline c.maxCookieLen)] true

instance : Diagnosable HeaderConfig where
  outline c := record "HeaderConfig" [("max_name_len", outline c.maxNameLen),
    ("max_value_len", outline c.maxValueLen),
    ("forbidden_value_chars", outline c.forbiddenValueChars),
    ("content_type", outline c.contentType)] true

instance : Diagnosable RedirectConfig where
  outline c := record "RedirectConfig"
    [("contexts", map (c.contexts.entries.map fun e => (e.1, outline e.2))),
      ("forward_namespace", outline c.forwardNamespace)] true

instance : Diagnosable UploadConfig where
  outline c := record "UploadConfig" [("max_file_size", outline c.maxFileSize),
    ("max_files", outline c.maxFiles), ("allowed_content_types", outline c.allowedContentTypes),
    ("allowed_extensions", outline c.allowedExtensions),
    ("max_filename_len", outline c.maxFilenameLen)] true

instance : Diagnosable LoggingConfig where
  outline c := record "LoggingConfig" [("mask", outline c.mask),
    ("sensitive_parameters", outline c.sensitiveParameters),
    ("max_value_len", outline c.maxValueLen)] true

instance : Diagnosable Config where
  outline c := record "SecurityConfig" [("csrf", outline c.csrf), ("cookies", outline c.cookies),
    ("headers", outline c.headers), ("redirects", outline c.redirects),
    ("uploads", outline c.uploads), ("logging", outline c.logging)] true

/-! ## Components -/

instance : Diagnosable TokenManager where
  outline m := record "TokenManager" [("parameter_name", outline m.parameterName),
    ("token_bytes", outline m.tokenBytes)] false

instance : Diagnosable Rotator where
  outline r := record "SessionRotator" [("cookie_name", outline r.cookieName),
    ("tokens", outline r.tokens)] false

instance : Diagnosable KeySource where
  outline
    | .held key => record "StaticKeyProvider" [("key", outline (Secret.mk key.toList))] true
    | .unavailable => word "UnavailableKeyProvider"

instance : Diagnosable Codec where
  outline c := record "StateCodec" [("state_cookie_name", outline c.cookieName)] false

instance : Diagnosable AllowEntry where
  outline
    | .path p => wrapped "Path" (outline p)
    | .origin o p => record "Origin" [("scheme", outline o.scheme.name),
        ("host", outline o.host.text), ("port", outline (some o.port)), ("path", outline p)] true

instance : Diagnosable RedirectGuard where
  outline g := record "RedirectGuard"
    [("contexts", map (g.contexts.entries.map fun e => (e.1, outline e.2))),
      ("forward_namespace", outline g.forwardNamespace)] true

instance : Diagnosable FileNameRule where
  outline r := record "FilenameSanitizer" [("allowed_extensions", outline r.allowedExtensions),
    ("max_len", outline r.maxLen)] true

instance : Diagnosable UploadSanitizer where
  outline u := record "UploadSanitizer" [("names", outline u.names),
    ("allowed_content_types", outline u.contentTypes), ("max_file_size", outline u.maxFileSize),
    ("max_files", outline u.maxFiles)] false

instance : Diagnosable Mediator where
  outline m := record "HttpGuard" [("codec", outline m.codec), ("tokens", outline m.tokens),
    ("redirects", outline m.redirects)] false

end HttpMediation
