import Countersign.Error
import Countersign.Keystore.Selection
import Countersign.Table

/-!
# Configuration

Only the fleet is required; settings that are absent or of the wrong type have defaults, save for
the list of plugins, which must be well-formed.
-/

namespace Countersign

structure Config where
  values : Table Json

namespace Config

def requiredKeys : List String := ["fleetId"]

def parse (text : String) : Result Config := do
  match ← (Json.parse text).mapError fun e => Error.format (.json e) with
  | .object members => return ⟨Table.ofList members⟩
  | other => throw (.format (.configuration other))

def check (c : Config) (required : List String) : Result Unit :=
  match required.filter fun key => !c.values.contains key with
  | [] => .ok ()
  | absent => .error (.missingKeys absent)

def text? (c : Config) (key : String) : Option String := (c.values.get? key).bind Json.string?

def fleetId (c : Config) : Result String :=
  match c.text? "fleetId" with
  | some fleetId => .ok fleetId
  | none => .error (.missingKeys ["fleetId"])

def keystoreName (c : Config) : String := (c.text? "keystore").getD "keystore"

def selfKid (c : Config) : Option String := c.text? "selfKeyId"

def selection (c : Config) : Selection := .byName (c.text? "keySelection")

/-- The limit on bring-up in milliseconds. -/
def initTimeout (c : Config) : Nat :=
  match (c.values.get? "initTimeoutMs").bind Json.int? with
  | some (.ofNat ms) => ms
  | _ => 5000

def pluginName : Json → Result String
  | .string name => .ok name
  | other => .error (.format (.pluginReference other))

def plugins (c : Config) : Result (List String) :=
  match c.values.get? "plugins" with
  | none => .ok []
  | some (.array items) => items.mapM pluginName
  | some other => .error (.format (.plugins other))

end Config

end Countersign
