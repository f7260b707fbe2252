import Countersign.Error
import Countersign.Table

/-!
# Stores of JSON values

A store has to be created before it is used, and creating it once more leaves it alone.
-/

namespace Countersign

abbrev Stores := Table (Table Json)

namespace Stores

def store (s : Stores) (name : String) : Result (Table Json) :=
  match s.get? name with
  | some entries => .ok entries
  | none => .error (.storage (.unknownStore name))

def initial (name : String) : Json → Result (Table Json)
  | .object members => .ok (Table.ofList members)
  | .null => .ok Table.empty
  | other => .error (.storage (.badInitial name other))

def create (s : Stores) (name : String) (init : Json) : Result (Stores × Bool) := do
  -- A value that no store can start with is an error over an existing store as well.
  let entries ← initial name init
  if s.contains name then return (s, false) else return (s.insert name entries, true)

def delete (s : Stores) (name : String) : Stores × Bool :=
  (s.erase name, s.contains name)

def get (s : Stores) (name key : String) : Result (Option Json) := do
  return (← s.store name).get? key

def set (s : Stores) (name key : String) (value : Json) : Result Stores := do
  return s.insert name ((← s.store name).insert key value)

def keys (s : Stores) (name : String) : Result (List String) := do
  return (← s.store name).keys

def dropKey (s : Stores) (name key : String) : Result (Stores × Bool) := do
  let entries ← s.store name
  return (s.insert name (entries.erase key), entries.contains key)

end Stores

end Countersign
