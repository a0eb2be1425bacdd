/-!
# Value — what a TOML document consists of

A document is a table.  A table remembers how it came to be, because that decides who may add to it:
a table is defined once, by a header, by dotted keys or between braces.

* `Toml.Value` : the values.
* `Toml.assign` : gives a dotted key a value.
* `Toml.openTable`, `Toml.openElement` : what the headers `[a.b]` and `[[a.b]]` do to the document.
-/

namespace HttpMediation.Toml

/-- How a table came to be. -/
inductive TableForm
  /-- A header names it. -/
  | header
  /-- A longer header names it on the way. -/
  | implied
  /-- A dotted key names it on the way. -/
  | dotted
  /-- It is written between braces; nothing can be added to it. -/
  | inline
  deriving DecidableEq, Repr

/-- A value.  Numbers with a fraction and dates are kept as they are written. -/
inductive Value
  | text (s : String)
  | integer (n : Int)
  | real (written : String)
  | date (written : String)
  | boolean (b : Bool)
  | array (items : List Value)
  | table (form : TableForm) (entries : List (String × Value))
  /-- The tables that headers in double brackets have added. -/
  | tables (items : List Value)

/-- The named values of a table. -/
abbrev Entries := List (String × Value)

/-- A dotted key. -/
abbrev Key := List String

/-! ## Entries -/

/-- Changes the value of the key, or adds the key when it has none; `none` refuses. -/
def alter (k : String) (f : Option Value → Option Value) : Entries → Option Entries
  | [] => (f none).map fun v => [(k, v)]
  | (j, v) :: r =>
    if j = k then (f (some v)).map fun v => (k, v) :: r
    else (alter k f r).map ((j, v) :: ·)

/-- Changes the table that was added last. -/
def alterLast (f : Entries → Option Entries) (items : List Value) : Option Value :=
  match items.getLast? with
  | some (.table form entries) =>
    (f entries).map fun entries => .tables (items.dropLast ++ [.table form entries])
  | _ => none

/-- Gives a key a value for the first time. -/
def define (k : String) (v : Value) : Entries → Option Entries :=
  alter k fun
    | none => some v
    | some _ => none

/-- Gives a dotted key a value.  The tables on the way must not have been closed, and the last of
them is one that dotted keys have made. -/
def assign (v : Value) : Key → Entries → Option Entries
  | [] => fun _ => none
  | [k] => define k v
  | k :: rest => alter k fun
    | none => (assign v rest []).map (.table .dotted)
    | some (.table .dotted entries) => (assign v rest entries).map (.table .dotted)
    | some (.table .implied entries) =>
      if rest.length = 1 then none else (assign v rest entries).map (.table .implied)
    | some (.tables items) =>
      if rest.length = 1 then none else alterLast (assign v rest) items
    | some _ => none

/-! ## Headers -/

/-- Works on the table that the key names, from the document on.  What is not there yet becomes an
implied table; an array of tables stands for its last table. -/
def within (f : Entries → Option Entries) : Key → Entries → Option Entries
  | [] => f
  | k :: rest => alter k fun
    | none => (within f rest []).map (.table .implied)
    | some (.table .inline _) => none
    | some (.table form entries) => (within f rest entries).map (.table form)
    | some (.tables items) => alterLast (within f rest) items
    | some _ => none

/-- Opens the table of a header.  A table that was only implied so far becomes a defined one. -/
def openTable (key : Key) : Entries → Option Entries :=
  match key.getLast? with
  | none => fun _ => none
  | some k => within (alter k fun
    | none => some (.table .header [])
    | some (.table .implied entries) => some (.table .header entries)
    | some _ => none) key.dropLast

/-- Adds a table to an array of tables. -/
def openElement (key : Key) : Entries → Option Entries :=
  match key.getLast? with
  | none => fun _ => none
  | some k => within (alter k fun
    | none => some (.tables [.table .header []])
    | some (.tables items) => some (.tables (items ++ [.table .header []]))
    | some _ => none) key.dropLast

end HttpMediation.Toml
