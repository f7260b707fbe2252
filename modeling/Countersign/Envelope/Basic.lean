import Countersign.Envelope.Header

/-!
# Envelopes

Every part is kept as the base64url text in which it travels, so that what was signed is never
written anew.  A layer is signed over its own header and the payload; one that vouches for the layer
beneath is signed over that layer's signature as well.
-/

namespace Countersign

/-- What the signature of a layer covers besides its header and the payload. -/
inductive Coverage where
  | payload
  | priorLayer
  deriving DecidableEq, Repr, Inhabited

structure Layer where
  headerText : String
  signature : String
  deriving DecidableEq, Repr, Inhabited

namespace Layer

def header (l : Layer) : Result Header := Header.decode l.headerText

def signatureBytes (l : Layer) : Result Bytes := decodeText l.signature

end Layer

structure PendingLayer where
  headerText : String
  signingInput : Bytes
  deriving DecidableEq, Repr

structure Envelope where
  payload : Option String
  layers : List Layer
  deriving DecidableEq, Repr, Inhabited

namespace Envelope

def new (payload : Bytes) : Envelope := ⟨some (Base64Url.encode payload), []⟩

def requirePayload (e : Envelope) : Result String :=
  match e.payload with
  | some text => .ok text
  | none => .error (.format .noPayload)

def payloadBytes (e : Envelope) : Result Bytes := do decodeText (← e.requirePayload)

def layerAt (e : Envelope) (index : Nat) : Result Layer :=
  match e.layers[index]? with
  | some layer => .ok layer
  | none => .error (.layerIndex index e.layers.length)

def replacePayload (e : Envelope) (payload : Bytes) : Result Envelope :=
  match e.layers with
  | [] => .ok { e with payload := some (Base64Url.encode payload) }
  | layers => .error (.format (.payloadSigned layers.length))

def signingInput (e : Envelope) (header : String) (position : Nat) (coverage : Coverage) :
    Result Bytes := do
  let payload ← e.requirePayload
  match coverage with
  | .payload => return utf8 (header ++ "." ++ payload)
  | .priorLayer =>
      match position with
      | 0 => throw (.format (.noPriorLayer 0))
      | below + 1 =>
          match e.layers[below]? with
          | some prior => return utf8 (header ++ "." ++ payload ++ "." ++ prior.signature)
          | none => throw (.format (.noPriorLayer position))

def signingInputAt (e : Envelope) (index : Nat) (coverage : Coverage) : Result Bytes := do
  let layer ← e.layerAt index
  e.signingInput layer.headerText index coverage

def addLayer (e : Envelope) (header : String) (signature : Bytes) : Result (Envelope × Nat) := do
  let _ ← e.requirePayload
  let layer : Layer := ⟨header, Base64Url.encode signature⟩
  return ({ e with layers := e.layers ++ [layer] }, e.layers.length)

def append (e : Envelope) (header : Header) (signature : Bytes) : Result (Envelope × Nat) :=
  e.addLayer header.encode signature

def prepare (e : Envelope) (header : Header) (coverage : Coverage) : Result PendingLayer := do
  let text := header.encode
  return ⟨text, ← e.signingInput text e.layers.length coverage⟩

def push (e : Envelope) (pending : PendingLayer) (signature : Bytes) :
    Result (Envelope × Nat) :=
  e.addLayer pending.headerText signature

end Envelope

end Countersign
