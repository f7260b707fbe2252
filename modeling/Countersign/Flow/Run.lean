import Countersign.Flow.Compile
import Countersign.Keystore.Basic

/-!
# Running flows

The first error ends a run; a check that fails does not, and makes the verdict negative.  Every step
has a moment of its own, with a reading of the clock and the random values it may draw.
-/

namespace Countersign

structure Moment where
  now : Int64
  throwaway : Block 32
  nonce : Block 12

structure Surroundings where
  suite : Crypto.Suite
  keystore : Keystore
  moment : (step : Nat) → Moment

def Surroundings.later (around : Surroundings) (steps : Nat) : Surroundings :=
  { around with moment := fun step => around.moment (steps + step) }

structure Outcome where
  envelope : Envelope
  verdict : Option Bool
  deriving DecidableEq, Repr

def Outcome.verified (o : Outcome) : Bool := o.verdict == some true

def liftCrypto {α : Type} (r : Except CryptoError α) : Result α := r.mapError .crypto

namespace CompiledFlow

variable (c : CompiledFlow) (around : Surroundings)

def sign (step : Step) (e : Envelope) : Result Envelope := do
  let key ← around.keystore.keyByRole step.role c.fleetId
  let header :=
    Header.signed key.kid key.fleetId around.suite.algorithm key.role (around.moment 0).now
  let pending ← e.prepare header step.coverage
  let signature ← liftCrypto (key.sign around.suite pending.signingInput)
  let (e, _) ← e.push pending signature
  return e

def verify (step : Step) (index : Nat) (e : Envelope) : Result Bool := do
  let layer ← e.layerAt index
  let header ← layer.header
  -- A layer of another role is refused whether or not its key is known.
  if header.role? ≠ some step.role then
    return false
  let some kid := header.kid
    | throw (.format (.noKid index))
  let some key := around.keystore.key? kid
    | throw (.keyNotFound (.kid kid))
  if key.isInvalid then
    throw (.keyInvalid (.kid kid))
  if key.role ≠ step.role ∨ header.fleetId ≠ some key.fleetId then
    return false
  if key.fleetId ≠ c.fleetId then
    return false
  let input ← e.signingInputAt index step.coverage
  let signature ← layer.signatureBytes
  liftCrypto (key.verify around.suite input signature)

def encrypt (step : Step) (e : Envelope) : Result Envelope := do
  if !e.layers.isEmpty then
    throw (.format (.sealAfterSigning step.name))
  let key ← selectKey around.keystore.keys step.role c.fleetId c.selection false
  let plain ← e.payloadBytes
  let moment := around.moment 0
  let sealed ← liftCrypto (key.sealTo around.suite moment.throwaway moment.nonce plain)
  e.replacePayload sealed

/-- The layers signed the sealed payload, so they go with it. -/
def decrypt (step : Step) (e : Envelope) : Result Envelope := do
  let key ← around.keystore.keyByRole step.role c.fleetId
  let sealed ← e.payloadBytes
  let plain ← liftCrypto (key.openSealed around.suite sealed)
  return Envelope.new plain

/-- Runs one step; the second part of the result is false where a check failed. -/
def runStep (step : Step) (e : Envelope) : Result (Envelope × Bool) :=
  match step.operation, step.slot with
  | .sign, _ => return (← c.sign around step e, true)
  | .verify, .layer index => return (e, ← c.verify around step index e)
  | .verify, .append => throw (.invalidFlow c.flow.name (.needsLayer step.name))
  | .encrypt, _ => return (← c.encrypt around step e, true)
  | .decrypt, _ => return (← c.decrypt around step e, true)

def runSteps (c : CompiledFlow) : Surroundings → List Step → Envelope → Result (Envelope × Bool)
  | _, [], e => .ok (e, true)
  | around, step :: rest, e => do
      let (e, passed) ← c.runStep around step e
      let (e, others) ← runSteps c (around.later 1) rest e
      return (e, passed && others)

/-- The steps that a run completes, each with its surroundings and the envelope it leaves. -/
def trail (c : CompiledFlow) :
    Surroundings → List Step → Envelope → List (Surroundings × Step × Envelope)
  | _, [], _ => []
  | around, step :: rest, e =>
      match c.runStep around step e with
      | .ok (e, _) => (around, step, e) :: trail c (around.later 1) rest e
      | .error _ => []

def run (e : Envelope) : Result Outcome := do
  let (e, passed) ← c.runSteps around c.flow.steps e
  return ⟨e, if c.flow.verifies then some passed else none⟩

end CompiledFlow

end Countersign
