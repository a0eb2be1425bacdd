/-!
# Error — what a refusal says

Every operation of the library that can refuse answers with an `Error`: one of six kinds and a
message.  Messages are fixed texts; what a client sent never becomes part of one, a configured
name excepted.
-/

namespace HttpMediation

/-- What went wrong, as far as a caller has to tell cases apart. -/
inductive ErrorKind
  | validation
  | encryption
  | accessControl
  | intrusion
  | authentication
  | io
  deriving DecidableEq, Repr

namespace ErrorKind

/-- The kind in words. -/
def text : ErrorKind → String
  | validation => "validation error"
  | encryption => "encryption error"
  | accessControl => "access control error"
  | intrusion => "intrusion detected"
  | authentication => "authentication error"
  | io => "i/o error"

/-- The kind as diagnostic texts name it. -/
def name : ErrorKind → String
  | validation => "Validation"
  | encryption => "Encryption"
  | accessControl => "AccessControl"
  | intrusion => "Intrusion"
  | authentication => "Authentication"
  | io => "Io"

/-- Every kind, in the order of the type. -/
def all : List ErrorKind :=
  [validation, encryption, accessControl, intrusion, authentication, io]

/-- The kind of that name. -/
def ofName? (s : String) : Option ErrorKind :=
  all.find? (·.name == s)

end ErrorKind

/-- A refusal. -/
structure Error where
  kind : ErrorKind
  message : String
  deriving DecidableEq, Repr

/-- What the operating system reports about a failed file or stream operation. -/
inductive IoKind
  | notFound
  | permissionDenied
  | alreadyExists
  | isADirectory
  | invalidData
  | invalidFilename
  | fileTooLarge
  | storageFull
  | unexpectedEof
  | connectionReset
  | timedOut
  | interrupted
  | other
  deriving DecidableEq, Repr

namespace IoKind

/-- The name of the failure, the only part of it that an error repeats. -/
def name : IoKind → String
  | notFound => "NotFound"
  | permissionDenied => "PermissionDenied"
  | alreadyExists => "AlreadyExists"
  | isADirectory => "IsADirectory"
  | invalidData => "InvalidData"
  | invalidFilename => "InvalidFilename"
  | fileTooLarge => "FileTooLarge"
  | storageFull => "StorageFull"
  | unexpectedEof => "UnexpectedEof"
  | connectionReset => "ConnectionReset"
  | timedOut => "TimedOut"
  | interrupted => "Interrupted"
  | other => "Other"

/-- The failures that a stream reports by name. -/
def reported : List IoKind :=
  [notFound, permissionDenied, alreadyExists, invalidData, storageFull, unexpectedEof,
    connectionReset, timedOut, interrupted]

/-- The reported failure of that name; every other name stands for `other`. -/
def ofName (s : String) : IoKind :=
  (reported.find? (·.name == s)).getD other

end IoKind

namespace Error

/-- A value breaks a rule. -/
def validation (message : String) : Error := ⟨.validation, message⟩

/-- A protected value cannot be sealed or opened. -/
def encryption (message : String) : Error := ⟨.encryption, message⟩

/-- The request may not do this. -/
def accessControl (message : String) : Error := ⟨.accessControl, message⟩

/-- The request looks like an attack. -/
def intrusion (message : String) : Error := ⟨.intrusion, message⟩

/-- There is no session. -/
def authentication (message : String) : Error := ⟨.authentication, message⟩

/-- A failed file or stream operation: only its name, because its text can hold file paths. -/
def ofIo (k : IoKind) : Error := ⟨.io, "i/o failure (" ++ k.name ++ ")"⟩

/-- The error in words, kind first. -/
def text (e : Error) : String := e.kind.text ++ ": " ++ e.message

/-- Only an intrusion is worth an alarm. -/
def isSecurityEvent (e : Error) : Bool := e.kind == .intrusion

end Error

end HttpMediation
