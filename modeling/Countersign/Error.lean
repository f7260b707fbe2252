import Countersign.Json.Reader
import Countersign.Json.Render
import Countersign.Key.Flags

/-!
# Errors

An error is its cause, and `message` puts every cause into words.  The causes `other` are for errors
that extensions raise themselves.
-/

namespace Countersign

open Json (ReadError)

def code (s : String) : String := "`" ++ s ++ "`"

/-- The class of a fault in a JSON text, without its place. -/
def Json.ReadError.message : ReadError → String
  | .malformed => "<json syntax>"
  | .wrongType => "<json invalid type>"
  | .wrongValue => "<json invalid value>"
  | .wrongLength => "<json invalid length>"
  | .missing field => "<json missing field " ++ code field ++ ">"
  | .duplicate field => "<json duplicate field " ++ code field ++ ">"
  | .bytes cause => "<json Format error: invalid base64url: " ++ cause.message ++ ">"

/-! ## Malformed documents -/

inductive FormatError where
  | base64 (cause : Base64Url.DecodeError)
  | envelope (cause : ReadError)
  | header (cause : ReadError)
  | json (cause : ReadError)
  | noPayload
  | payloadSigned (layers : Nat)
  | noPriorLayer (position : Nat)
  | noKid (layer : Nat)
  | sealAfterSigning (step : String)
  | emptyKid
  | configuration (value : Json)
  | plugins (value : Json)
  | pluginReference (value : Json)
  | other (text : String)
  deriving Repr

def FormatError.message : FormatError → String
  | .base64 cause => "invalid base64url: " ++ cause.message
  | .envelope cause => "invalid envelope: " ++ cause.message
  | .header cause => "invalid protected header: " ++ cause.message
  | .json cause => cause.message
  | .noPayload => "envelope has no payload"
  | .payloadSigned layers =>
      "cannot replace the payload of an envelope with " ++ Decimal.text layers ++
        " signature layers"
  | .noPriorLayer position =>
      "layer " ++ Decimal.text position ++ " has no prior layer to bind to"
  | .noKid layer => "layer " ++ Decimal.text layer ++ " header has no kid"
  | .sealAfterSigning step =>
      "step " ++ code step ++ " cannot encrypt a payload that is already signed"
  | .emptyKid => "provisioned key has an empty kid"
  | .configuration value => "configuration must be a JSON object, got " ++ value.render
  | .plugins value => code "plugins" ++ " must be an array, got " ++ value.render
  | .pluginReference value => "plugin reference must be a string, got " ++ value.render
  | .other text => text

/-! ## Keys -/

inductive KeyQuery where
  | kid (kid : String)
  | role (role : Role) (fleetId : String)
  | other (text : String)
  deriving DecidableEq, Repr

def KeyQuery.describe : KeyQuery → String
  | .kid id => "kid " ++ code id
  | .role r fleetId => r.name ++ " in fleet " ++ code fleetId
  | .other text => text

/-! ## Cryptography -/

inductive CryptoError where
  | keyLength (expected actual : Nat)
  | signatureLength (expected actual : Nat)
  | signatureMismatch
  | signingNotPermitted (kid : String)
  | noSecret (kid : String)
  | sealing (reason : String)
  | opening
  | publicKey
  | secretKey
  deriving DecidableEq, Repr

def CryptoError.message : CryptoError → String
  | .keyLength expected actual =>
      "Key material is " ++ Decimal.text actual ++ " bytes, expected " ++ Decimal.text expected
  | .signatureLength expected actual =>
      "Signature is " ++ Decimal.text actual ++ " bytes, expected " ++ Decimal.text expected
  | .signatureMismatch => "Signature does not match"
  | .signingNotPermitted kid => "Key " ++ code kid ++ " may not sign"
  | .noSecret kid => "Key " ++ code kid ++ " carries no private key material"
  | .sealing reason => "Sealing failed: " ++ reason
  | .opening => "Sealed payload could not be opened"
  | .publicKey => "Public key does not decode"
  | .secretKey => "Private key does not decode"

def CryptoError.kind : CryptoError → String
  | .keyLength _ _ => "InvalidKeyLength"
  | .signatureLength _ _ => "InvalidSignatureLength"
  | .signatureMismatch => "SignatureVerificationFailed"
  | .signingNotPermitted _ => "SigningNotPermitted"
  | .noSecret _ => "MissingKeyMaterial"
  | .sealing _ => "EncryptionFailed"
  | .opening => "DecryptionFailed"
  | .publicKey => "InvalidPublicKey"
  | .secretKey => "InvalidSecretKey"

/-! ## Flows -/

inductive FlowDefect where
  | unnamed
  | noSteps
  | nothingBeforeFirst (step : String)
  | needsLayer (step : String)
  | mustAppend (step : String)
  | cannotBind (step : String)
  | other (text : String)
  deriving DecidableEq, Repr

def FlowDefect.message : FlowDefect → String
  | .unnamed => "flow name is empty"
  | .noSteps => "flow has no steps"
  | .nothingBeforeFirst step => "step " ++ code step ++ " binds layer 0 to a prior layer"
  | .needsLayer step => "verify step " ++ code step ++ " needs a layer index"
  | .mustAppend step => "step " ++ code step ++ " must append, not consume a layer"
  | .cannotBind step => "step " ++ code step ++ " cannot bind to a prior layer"
  | .other text => text

/-! ## Plugins and stores -/

inductive ConstructionError where
  | emptyName
  | noName
  | noImplementation (name : String)
  | noWrapper (name : String)
  | noFactory (name : String)
  | other (text : String)
  deriving DecidableEq, Repr

def ConstructionError.message : ConstructionError → String
  | .emptyName => "plugin name is empty"
  | .noName => "plugin name is missing"
  | .noImplementation name => "plugin " ++ code name ++ " has no implementation"
  | .noWrapper name => "plugin " ++ code name ++ " has no wrapper"
  | .noFactory name => "no factory named " ++ code name
  | .other text => text

inductive StorageError where
  | unknownStore (store : String)
  | badInitial (store : String) (value : Json)
  | other (text : String)
  deriving Repr

def StorageError.message : StorageError → String
  | .unknownStore store => "unknown store " ++ code store
  | .badInitial store value =>
      "store " ++ code store ++ " must be initialized from an object, got " ++ value.render
  | .other text => text

/-! ## All errors -/

inductive Error where
  | missingKeys (names : List String)
  | format (cause : FormatError)
  | layerIndex (index count : Nat)
  | keyNotFound (query : KeyQuery)
  | keyInvalid (query : KeyQuery)
  | crypto (cause : CryptoError)
  | invalidFlow (flow : String) (defect : FlowDefect)
  | construction (cause : ConstructionError)
  | pluginInit (name : String)
  | timeout (limit : Nat)
  | unknownApi (name : String)
  | storage (cause : StorageError)
  deriving Repr

/-- A time span: milliseconds below one second, and from there on seconds with as many decimals as
it needs. -/
def durationText (ms : Nat) : String :=
  if ms = 0 then "0ns"
  else if ms < 1000 then Decimal.text ms ++ "ms"
  else
    let fraction := ms % 1000
    let decimals :=
      if fraction = 0 then ""
      else if fraction % 100 = 0 then "." ++ Decimal.text (fraction / 100)
      else if fraction % 10 = 0 then "." ++ Decimal.padded 2 (fraction / 10)
      else "." ++ Decimal.padded 3 fraction
    Decimal.text (ms / 1000) ++ decimals ++ "s"

namespace Error

/-- A fixed word for each kind of error, by which callers tell errors apart. -/
def kind : Error → String
  | .missingKeys _ => "Config"
  | .format _ => "Format"
  | .layerIndex _ _ => "Index"
  | .keyNotFound _ => "KeyNotFound"
  | .keyInvalid _ => "KeyInvalid"
  | .crypto cause => "Crypto." ++ cause.kind
  | .invalidFlow _ _ => "InvalidFlow"
  | .construction _ => "PluginConstruction"
  | .pluginInit _ => "PluginInit"
  | .timeout _ => "InitTimeout"
  | .unknownApi _ => "ApiNotFound"
  | .storage _ => "Storage"

def message : Error → String
  | .missingKeys names => "Missing configuration keys: " ++ ", ".intercalate names
  | .format cause => "Format error: " ++ cause.message
  | .layerIndex index count =>
      "Layer index " ++ Decimal.text index ++ " out of range (envelope has " ++
        Decimal.text count ++ " layers)"
  | .keyNotFound query => "No key found for " ++ query.describe
  | .keyInvalid query => "Key is invalid: " ++ query.describe
  | .crypto cause => "Crypto facet error: " ++ cause.message
  | .invalidFlow flow defect => "Invalid flow " ++ code flow ++ ": " ++ defect.message
  | .construction cause => "Plugin construction failed: " ++ cause.message
  | .pluginInit name => "Plugin " ++ code name ++ " failed to initialize"
  | .timeout limit => "Initialization timed out after " ++ durationText limit
  | .unknownApi name => "No API registered as " ++ code name
  | .storage cause => "Storage error: " ++ cause.message

end Error

abbrev Result := Except Error

/-- The outcome of a change: a change that fails leaves the old state. -/
def keepOnError {σ α : Type} (old : σ) : Result (σ × α) → σ × Result α
  | .ok (new, a) => (new, .ok a)
  | .error e => (old, .error e)

def decodeText (text : String) : Result Bytes :=
  (Base64Url.decode text).mapError fun e => .format (.base64 e)

end Countersign
