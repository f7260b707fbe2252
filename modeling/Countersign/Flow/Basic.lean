import Countersign.Envelope.Basic

/-!
# Flows

Each step signs, checks, seals or opens with the key of a role.  To cosign is to vouch for the layer
beneath, as a fleet signer does for a device.
-/

namespace Countersign

inductive Operation where
  | sign
  | verify
  | encrypt
  | decrypt
  deriving DecidableEq, Repr, Inhabited

inductive Slot where
  | append
  | layer (index : Nat)
  deriving DecidableEq, Repr, Inhabited

structure Step where
  name : String
  role : Role
  operation : Operation
  slot : Slot
  coverage : Coverage
  deriving DecidableEq, Repr, Inhabited

namespace Step

def sign (name : String) (role : Role) : Step := ⟨name, role, .sign, .append, .payload⟩

def cosign (name : String) (role : Role) : Step := ⟨name, role, .sign, .append, .priorLayer⟩

def verify (name : String) (role : Role) (index : Nat) : Step :=
  ⟨name, role, .verify, .layer index, .payload⟩

def verifyCosign (name : String) (role : Role) (index : Nat) : Step :=
  ⟨name, role, .verify, .layer index, .priorLayer⟩

def encrypt (name : String) (role : Role) : Step := ⟨name, role, .encrypt, .append, .payload⟩

def decrypt (name : String) (role : Role) : Step := ⟨name, role, .decrypt, .append, .payload⟩

end Step

structure Flow where
  name : String
  steps : List Step
  deriving DecidableEq, Repr, Inhabited

namespace Flow

def verifies (f : Flow) : Bool := f.steps.any (·.operation == .verify)

def signing : Flow := ⟨"SignFlow", [.sign "device-sign" .unassigned]⟩

def cosigning : Flow := ⟨"CosignFlow", [.cosign "gateway-cosign" .fleetSigning]⟩

def verifying : Flow :=
  ⟨"VerifyFlow",
    [.verify "device-layer" .unassigned 0, .verifyCosign "gateway-layer" .fleetSigning 1]⟩

def fromFleet : Flow := ⟨"FromFleetFlow", [.verify "fleet-layer" .fleetSigning 0]⟩

def defaults : List (String × Flow) :=
  [("sign", signing), ("cosign", cosigning), ("verify", verifying), ("fromFleet", fromFleet)]

end Flow

end Countersign
