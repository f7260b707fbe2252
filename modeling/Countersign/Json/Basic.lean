import Countersign.Json.Number

/-!
# JSON values

An object is its list of members in the order in which they are written.
-/

namespace Countersign

inductive Json where
  | null
  | bool (value : Bool)
  | number (value : Json.Number)
  | string (value : String)
  | array (items : List Json)
  | object (members : List (String × Json))
  deriving Repr, Inhabited

namespace Json

def int (i : Int) : Json := .number (.int i)

def string? : Json → Option String
  | .string s => some s
  | _ => none

def int? : Json → Option Int
  | .number (.int i) => some i
  | _ => none

/-- The first member of this name. -/
def get? (v : Json) (name : String) : Option Json :=
  match v with
  | .object members => members.lookup name
  | _ => none

end Json

end Countersign
