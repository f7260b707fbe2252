import Countersign.Key.Use
import Countersign.Keystore.Selection
import Countersign.Stores

/-!
# Keystores

Records stand oldest first.  Storing a key drops the record of the same id, so the new one is the
most recent; a change of flags leaves a record in its place.
-/

namespace Countersign

structure Keystore where
  store : String
  selection : Selection
  /-- The id of this node's own key, if it is pinned. -/
  selfKid : Option String
  keys : List Key
  deriving Repr, Inhabited

namespace Keystore

def keysEntry : String := "keys"

def new (store : String) (selection : Selection) (selfKid : Option String) : Keystore :=
  ⟨store, selection, selfKid, []⟩

def key? (s : Keystore) (kid : String) : Option Key := s.keys.find? (·.kid == kid)

/-- This node's own key: the pinned one, or the latest valid one that is marked as its own. -/
def selfKey? (s : Keystore) : Option Key :=
  match s.selfKid with
  | some kid => s.key? kid
  | none => s.keys.reverse.find? fun k => k.hasFlag .ourOwn && !k.isInvalid

def keyByRole (s : Keystore) (role : Role) (fleetId : String) : Result Key :=
  selectKey s.keys role fleetId s.selection true

def put (s : Keystore) (k : Key) : Keystore :=
  { s with keys := s.keys.filter (fun old => !(old.kid == k.kid)) ++ [k] }

def generated (suite : Crypto.Suite) (seed : Block 32) (flags : KeyFlags) (kid fleetId : String) :
    Key where
  kid := kid
  fleetId := fleetId
  secret := seed.val
  material := some (suite.material seed)
  flags := (flags ||| .ourOwn).orOrigin .generated

def generate (s : Keystore) (suite : Crypto.Suite) (seed : Block 32) (flags : KeyFlags)
    (kid fleetId : String) : Keystore × Key :=
  let k := generated suite seed flags kid fleetId
  (s.put k, k)

def adopt (s : Keystore) (k : Key) (flags : KeyFlags) (fleetId : String) : Keystore × Key :=
  let k := { k with flags := flags.orOrigin .external, fleetId := fleetId }
  (s.put k, k)

def provision (s : Keystore) (text : String) : Result (Keystore × Key) := do
  let k ← (Key.parse text).mapError fun e => Error.format (.json e)
  if k.kid.isEmpty then
    throw (.format .emptyKid)
  let k := { k with flags := k.flags.orOrigin .pki }
  return (s.put k, k)

def changeFirst (p : Key → Bool) (change : Key → Key) : List Key → List Key
  | [] => []
  | k :: rest => if p k then change k :: rest else k :: changeFirst p change rest

def setFlag (s : Keystore) (kid : String) (flag : KeyFlags) (on : Bool) :
    Result (Keystore × Key) :=
  match s.key? kid with
  | none => .error (.keyNotFound (.kid kid))
  | some k =>
      -- A loaded list may hold the id once more, and those records stay as they are.
      .ok ({ s with keys := changeFirst (·.kid == kid) (·.setFlag flag on) s.keys },
        k.setFlag flag on)

def forget (s : Keystore) (kid : String) : Keystore × Bool :=
  ({ s with keys := s.keys.filter fun k => !(k.kid == kid) }, (s.key? kid).isSome)

def save (s : Keystore) (stores : Stores) : Result Stores :=
  stores.set s.store keysEntry (.array (s.keys.map Key.storedJson))

def readSaved (store : String) (stores : Stores) : Result (List Key) := do
  match ← stores.get store keysEntry with
  | none => return []
  | some v => (Key.listOfJson v).mapError fun e => Error.format (.json e)

/-- Replaces the keys by the saved ones.  The store is created where it is missing, and stays
created whatever comes of the keys. -/
def load (s : Keystore) (stores : Stores) : Stores × Result Keystore :=
  match stores.create s.store (.object [(keysEntry, .array [])]) with
  | .error e => (stores, .error e)
  | .ok (stores, _) => (stores, do return { s with keys := ← readSaved s.store stores })

end Keystore

end Countersign
