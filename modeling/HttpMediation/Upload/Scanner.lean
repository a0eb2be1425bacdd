import HttpMediation.Error
import HttpMediation.Text.Basic

/-!
# Scanner — what inspects staged files

* `Scanner` : inspects staged files and may refuse the upload.
* `TrialScanner` : a scanner that refuses on demand and keeps a record.
-/

namespace HttpMediation

/-- What a scanner does about a file. -/
structure ScanOutcome where
  verdict : Except Error Unit
  /-- Whether it has taken the file away. -/
  removesFile : Bool := false

/-- A scanner with a state of its own.  By its contract it inspects files: it sees the type and the content of
each, and may refuse it or take it away as a virus scanner does, but it writes neither to the file nor anywhere
else in the directories of the upload. -/
structure Scanner (σ : Type) where
  scan : (contentType : String) → (content : List UInt8) → σ → ScanOutcome × σ

/-- The scanner that accepts every file. -/
def Scanner.none : Scanner Unit :=
  ⟨fun _ _ s => ({ verdict := .ok () }, s)⟩

/-- What a trial scanner looks for. -/
structure TrialScanner where
  refusedType : Option String := Option.none
  refusedContent : List UInt8 := []
  removedType : Option String := Option.none
  error : Error

namespace TrialScanner

/-- Whether the file is to be refused. -/
def refuses (t : TrialScanner) (contentType : String) (content : List UInt8) : Bool :=
  t.refusedType == some contentType ||
    (!t.refusedContent.isEmpty && Text.occurs t.refusedContent content)

/-- The scanner; its record holds the type and the size of every file. -/
def scanner (t : TrialScanner) : Scanner (List (String × Nat)) :=
  ⟨fun contentType content record =>
    ({ verdict := if t.refuses contentType content then .error t.error else .ok ()
       removesFile := t.removedType == some contentType },
      record ++ [(contentType, content.length)])⟩

end TrialScanner

end HttpMediation
