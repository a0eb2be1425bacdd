import HttpMediation.Dict
import HttpMediation.Encoding.Form

/-!
# StateMap — state that a client carries

Names and values that travel with the client.  In writing they are a form; of a name that is written
twice the last value counts.
-/

namespace HttpMediation

/-- The names and values of client-held state. -/
abbrev StateMap := Dict String

namespace StateMap

/-- The state as a form. -/
def toForm (m : StateMap) : List Char :=
  Form.encode m.entries

/-- The state that a form carries. -/
def ofForm (form : List Char) : StateMap :=
  Dict.ofList (Form.decode form)

end StateMap

end HttpMediation
