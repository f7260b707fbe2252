import Countersign.Json.Reader
import Countersign.Json.Render
import Countersign.Key.Flags

/-!
# Key records

A key's identity, its material and its flags.  Either half of the material may be absent, and only
the cryptography looks into it.
-/

namespace Countersign

structure Key where
  kid : String
  fleetId : String
  /-- The private half, empty where it is not held. -/
  secret : Bytes
  material : Option Bytes
  flags : KeyFlags
  deriving DecidableEq, Repr, Inhabited

namespace Key

def hasFlag (k : Key) (flag : KeyFlags) : Bool := k.flags.contains flag

def setFlag (k : Key) (flag : KeyFlags) (on : Bool) : Key :=
  { k with flags := k.flags.set flag on }

def role (k : Key) : Role := k.flags.role

def setRole (k : Key) (r : Role) : Key := { k with flags := k.flags.withRole r }

def origin (k : Key) : Origin := k.flags.origin

def setOrigin (k : Key) (o : Origin) : Key := { k with flags := k.flags.withOrigin o }

def isInvalid (k : Key) : Bool := k.hasFlag .invalid

def canSign (k : Key) : Bool := k.hasFlag .canSign && !k.isInvalid

def exported (k : Key) : Key := k.setFlag .canSign false

def withoutSecret (k : Key) : Key := { k with secret := [] }

def json (k : Key) : Json :=
  .object <|
    [("kid", .string k.kid), ("fleetId", .string k.fleetId),
      ("keyData", .string (Base64Url.encode k.secret))] ++
    (k.material.map fun m => ("publicKey", .string (Base64Url.encode m))).toList ++
    [("flags", .int k.flags.bits.toNat)]

def text (k : Key) : String := k.json.render

/-- The record as a value in a store, where members are in ascending order. -/
def storedJson (k : Key) : Json :=
  .object <|
    [("fleetId", .string k.fleetId), ("flags", .int k.flags.bits.toNat),
      ("keyData", .string (Base64Url.encode k.secret)), ("kid", .string k.kid)] ++
    (k.material.map fun m => ("publicKey", .string (Base64Url.encode m))).toList

structure Parts where
  kid : Option String
  fleetId : Option String
  secret : Option Bytes
  material : Option (Option Bytes)
  flags : Option KeyFlags

def Parts.none : Parts := ⟨.none, .none, .none, .none, .none⟩

open Json in
def fields : List (RecordField Parts) :=
  [⟨"kid", true, (·.kid.isSome), fun p d => do return { p with kid := ← readText d }⟩,
    ⟨"fleetId", true, (·.fleetId.isSome), fun p d => do return { p with fleetId := ← readText d }⟩,
    ⟨"keyData", false, (·.secret.isSome), fun p d => do return { p with secret := ← readBytes d }⟩,
    ⟨"publicKey", false, (·.material.isSome),
      fun p d => do return { p with material := some (← optional readBytes d) }⟩,
    ⟨"flags", true, (·.flags.isSome),
      fun p d => do return { p with flags := some ⟨← readWord32 d⟩ }⟩]

def ofParts (p : Parts) : Key :=
  ⟨p.kid.getD "", p.fleetId.getD "", p.secret.getD [], p.material.getD .none, p.flags.getD .none⟩

/-- Reads a record; `surplus` is what items beyond its fields mean in the array form. -/
def read (surplus : Json.ReadError) : Json.Reader Key := fun d =>
  ofParts <$> Json.record fields surplus .none d

def parse (text : String) : Except Json.ReadError Key :=
  Json.readDocument (read .malformed) (utf8 text)

def listOfJson (v : Json) : Except Json.ReadError (List Key) :=
  Json.readList (read .wrongLength) v.draft

end Key

end Countersign
