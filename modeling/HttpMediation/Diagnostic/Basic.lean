import HttpMediation.Unicode.Escaped

/-!
# Diagnostic — values as texts for the eyes of a developer

A value is first turned into a `Diagnostic`, the outline of what may be shown of it, and then into
one line of text.  What must not be seen never becomes part of the outline.

* `Diagnostic.text` : the line.
* `Diagnostic.quote` : a text between quotation marks, with every character visible.
* `Diagnosable` : the types whose values have an outline.
-/

namespace HttpMediation

/-- The outline of a value. -/
inductive Diagnostic
  /-- Shown as it is: a number or a name. -/
  | word (text : String)
  | quoted (text : String)
  | list (items : List Diagnostic)
  | set (items : List Diagnostic)
  | map (entries : List (String × Diagnostic))
  | wrapped (name : String) (item : Diagnostic)
  /-- An incomplete record says that there is more than it shows. -/
  | record (name : String) (fields : List (String × Diagnostic)) (complete : Bool)

namespace Diagnostic

/-! ## Quoted texts -/

/-- The number in small hexadecimal digits. -/
def hex (n : Nat) : List Char := Nat.toDigits 16 n

/-- Whether a character has no form of its own inside a quoted text. -/
def isHidden (c : Char) : Bool :=
  c.val < 0x20 || c.val == 0x7f || (0x80 ≤ c.val && Unicode.escaped.contains c)

/-- The spelling of a character inside a quoted text. -/
def spell (c : Char) : List Char :=
  if c == '\x00' then ['\x5c', '0']
  else if c == '\t' then ['\x5c', 't']
  else if c == '\n' then ['\x5c', 'n']
  else if c == '\r' then ['\x5c', 'r']
  else if c == '\x22' || c == '\x5c' then ['\x5c', c]
  else if isHidden c then ['\x5c', 'u', '\x7b'] ++ hex c.toNat ++ ['\x7d']
  else [c]

/-- A text between quotation marks. -/
def quote (s : String) : String :=
  String.ofList ('\x22' :: s.toList.flatMap spell ++ ['\x22'])

/-! ## Lines -/

/-- Items between a mark on the left and one on the right. -/
def between (left right : String) (items : List String) : String :=
  left ++ ", ".intercalate items ++ right

/-- The fields of a record, with two dots for what is left out. -/
def fieldList (fields : List String) (complete : Bool) : List String :=
  if complete then fields else fields ++ [".."]

mutual

/-- The line of an outline. -/
def text : Diagnostic → String
  | word s => s
  | quoted s => quote s
  | list items => between "[" "]" (texts items)
  | set items => between "\x7b" "\x7d" (texts items)
  | map entries => between "\x7b" "\x7d" (entryTexts quote entries)
  | wrapped name item => name ++ "(" ++ item.text ++ ")"
  | record name fields complete =>
    between (name ++ " \x7b ") " \x7d" (fieldList (entryTexts id fields) complete)

/-- The lines of the items. -/
def texts : List Diagnostic → List String
  | [] => []
  | item :: r => item.text :: texts r

/-- The lines of the entries, with their names in the given spelling. -/
def entryTexts (spelling : String → String) : List (String × Diagnostic) → List String
  | [] => []
  | (name, item) :: r => (spelling name ++ ": " ++ item.text) :: entryTexts spelling r

end

end Diagnostic

/-! ## Types with outlines -/

/-- The types whose values have an outline. -/
class Diagnosable (α : Type) where
  outline : α → Diagnostic

export Diagnosable (outline)

/-- What a developer sees of a value. -/
def diagnose {α : Type} [Diagnosable α] (a : α) : String := (outline a).text

instance : Diagnosable String := ⟨.quoted⟩

instance : Diagnosable (List Char) := ⟨fun s => .quoted (String.ofList s)⟩

instance : Diagnosable Nat := ⟨fun n => .word (toString n)⟩

instance : Diagnosable Int := ⟨fun n => .word (toString n)⟩

instance : Diagnosable UInt64 := ⟨fun n => .word (toString n)⟩

instance {α : Type} [Diagnosable α] : Diagnosable (List α) := ⟨fun l => .list (l.map outline)⟩

instance {α : Type} [Diagnosable α] : Diagnosable (Option α) where
  outline
    | some a => .wrapped "Some" (outline a)
    | none => .word "None"

end HttpMediation
