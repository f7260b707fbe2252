import Countersign.Error

/-!
# Protected headers

A header names the signer of a layer, any part of which may be absent.  It travels as the base64url
of its JSON text.
-/

namespace Countersign

structure Header where
  kid : Option String
  fleetId : Option String
  alg : Option String
  roleNumber : Option Int64
  timestamp : Option Int64
  deriving DecidableEq, Repr, Inhabited

namespace Header

def empty : Header := ⟨none, none, none, none, none⟩

def signed (kid fleetId alg : String) (role : Role) (now : Int64) : Header :=
  ⟨some kid, some fleetId, some alg, some (Int64.ofNat role.number), some now⟩

def role? (h : Header) : Option Role := h.roleNumber.map fun n => Role.byNumber n.toInt

def role (h : Header) : Role := h.role?.getD .unassigned

def json (h : Header) : Json :=
  let text (name : String) (value : Option String) :=
    (value.map fun s => (name, Json.string s)).toList
  let number (name : String) (value : Option Int64) :=
    (value.map fun n => (name, Json.int n.toInt)).toList
  .object <|
    text "kid" h.kid ++ text "fleetId" h.fleetId ++ text "alg" h.alg ++
      number "role" h.roleNumber ++ number "timestamp" h.timestamp

def encode (h : Header) : String := Base64Url.encode (utf8 h.json.render)

/-- The fields read so far; a field may have been read as absent. -/
structure Parts where
  kid : Option (Option String)
  fleetId : Option (Option String)
  alg : Option (Option String)
  roleNumber : Option (Option Int64)
  timestamp : Option (Option Int64)

open Json in
def fields : List (RecordField Parts) :=
  [⟨"kid", false, (·.kid.isSome),
      fun p d => do return { p with kid := some (← optional readText d) }⟩,
    ⟨"fleetId", false, (·.fleetId.isSome),
      fun p d => do return { p with fleetId := some (← optional readText d) }⟩,
    ⟨"alg", false, (·.alg.isSome),
      fun p d => do return { p with alg := some (← optional readText d) }⟩,
    ⟨"role", false, (·.roleNumber.isSome),
      fun p d => do return { p with roleNumber := some (← optional readInt64 d) }⟩,
    ⟨"timestamp", false, (·.timestamp.isSome),
      fun p d => do return { p with timestamp := some (← optional readInt64 d) }⟩]

def ofParts (p : Parts) : Header :=
  ⟨p.kid.join, p.fleetId.join, p.alg.join, p.roleNumber.join, p.timestamp.join⟩

def read : Json.Reader Header := fun d =>
  ofParts <$> Json.record fields .malformed ⟨none, none, none, none, none⟩ d

def decode (text : String) : Result Header := do
  let bytes ← decodeText text
  (Json.readDocument read bytes).mapError fun e => .format (.header e)

end Header

end Countersign
