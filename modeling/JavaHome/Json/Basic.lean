/-!
# JSON values

The values of which reports are made: texts, truth values, absence, and objects of such values with
their members in the order in which they are written.
-/

namespace JavaHome

/-- A value of a report. -/
inductive Json where
  | null
  | bool (b : Bool)
  | string (s : String)
  | object (members : List (String × Json))

namespace Json

/-- A text, or null for its absence. -/
def ofOption : Option String → Json
  | some s => string s
  | none => null

/-- The value of the first member with a name. -/
def get? (name : String) : Json → Option Json
  | object members => members.lookup name
  | _ => none

end Json

end JavaHome
