import Countersign.Error
import Countersign.Key.Record

/-!
# Choosing a key by its role

Of the usable keys of a role in a fleet, either the most recent or the oldest one is chosen.
-/

namespace Countersign

inductive Selection where
  | mostRecent
  | firstFound
  deriving DecidableEq, Repr, Inhabited

namespace Selection

def byName : Option String → Selection
  | some "firstFound" => .firstFound
  | _ => .mostRecent

def name : Selection → String
  | .mostRecent => "MostRecent"
  | .firstFound => "FirstFound"

end Selection

namespace Key

def matchesRole (k : Key) (role : Role) (fleetId : String) : Bool :=
  k.fleetId == fleetId && k.role == role

def usable (k : Key) (signing : Bool) : Bool :=
  !k.isInvalid && (!signing || k.hasFlag .canSign)

end Key

/-- Without a usable key the error tells whether an invalid one was there. -/
def selectKey (keys : List Key) (role : Role) (fleetId : String) (selection : Selection)
    (signing : Bool) : Result Key :=
  let matching := keys.filter (·.matchesRole role fleetId)
  let inOrder :=
    match selection with
    | .mostRecent => matching.reverse
    | .firstFound => matching
  match inOrder.find? (·.usable signing) with
  | some k => .ok k
  | none =>
      if matching.any (·.isInvalid) then .error (.keyInvalid (.role role fleetId))
      else .error (.keyNotFound (.role role fleetId))

end Countersign
