import Countersign.Proofs.Flow.Verdict

/-!
# Honest signatures are accepted

An envelope goes from node to node, and each of them signs it.  A verifier that knows the signers'
keys accepts every layer they put on, in whatever order it looks at them and whatever came on top of
a layer later.
-/

namespace Countersign

/-! ## Relays -/

/-- A run that signs, on any node; the envelope may be sent on afterwards. -/
structure Hop where
  flow : CompiledFlow
  step : Step
  single : flow.flow.steps = [step]
  signs : step.operation = .sign
  around : Surroundings
  sent : Bool

def Hop.run (hop : Hop) (e : Envelope) : Result Envelope := do
  let out ← hop.flow.run hop.around e
  if hop.sent then Envelope.parse out.envelope.text else return out.envelope

def relay (hops : List Hop) (e : Envelope) : Result Envelope :=
  hops.foldlM (fun e hop => hop.run e) e

@[simp] theorem relay_nil (e : Envelope) : relay [] e = .ok e := rfl

@[simp] theorem relay_cons (hop : Hop) (hops : List Hop) (e : Envelope) :
    relay (hop :: hops) e = hop.run e >>= relay hops := rfl

theorem Hop.run_eq_sign {hop : Hop} {e : Envelope} (wellFormed : e.WellFormed) :
    hop.run e = hop.flow.sign hop.around hop.step e := by
  cases signs : hop.flow.sign hop.around hop.step e with
  | error error =>
      simp [Hop.run, CompiledFlow.run, hop.single, CompiledFlow.runSteps, CompiledFlow.runStep,
        hop.signs, signs]
  | ok signed =>
      have readBack := Envelope.parse_text (CompiledFlow.sign_eq_ok wellFormed signs).1
      simp [Hop.run, CompiledFlow.run, hop.single, CompiledFlow.runSteps, CompiledFlow.runStep,
        hop.signs, signs, readBack]

/-- Wherever the envelope is sent on, the relay comes to the same. -/
theorem relay_resent {hops : List Hop} {e : Envelope} (wellFormed : e.WellFormed)
    (sent : Nat → Bool) :
    relay (hops.mapIdx fun i hop => { hop with sent := sent i }) e = relay hops e := by
  induction hops generalizing e sent with
  | nil => rfl
  | cons hop hops ih =>
      have resent : Hop.run { hop with sent := sent 0 } e =
          hop.flow.sign hop.around hop.step e := Hop.run_eq_sign wellFormed
      rw [List.mapIdx_cons, relay_cons, relay_cons, resent, Hop.run_eq_sign wellFormed]
      cases signs : hop.flow.sign hop.around hop.step e with
      | error error => rfl
      | ok next => exact ih (CompiledFlow.sign_eq_ok wellFormed signs).1 fun i => sent (i + 1)

theorem relay_eq_ok {hops : List Hop} {e e' : Envelope} (wellFormed : e.WellFormed)
    (ran : relay hops e = .ok e') :
    e'.WellFormed ∧ e.Extends e' ∧ e'.layers.length = e.layers.length + hops.length ∧
      ∀ i hop, hops[i]? = some hop →
        ∃ signer, hop.around.keystore.keyByRole hop.step.role hop.flow.fleetId = .ok signer ∧
          SignedAt hop.around.suite signer hop.step (e.layers.length + i) e' := by
  induction hops generalizing e with
  | nil =>
      cases ran
      exact ⟨wellFormed, Envelope.Extends.refl _, rfl, by simp⟩
  | cons hop hops ih =>
      obtain ⟨next, first, others⟩ := bind_eq_ok.1 ran
      obtain ⟨nextWellFormed, grown, longer, signer, chosen, signed⟩ :=
        CompiledFlow.sign_eq_ok wellFormed ((Hop.run_eq_sign wellFormed).symm.trans first)
      obtain ⟨lastWellFormed, grownOn, length, signedOn⟩ := ih nextWellFormed others
      refine ⟨lastWellFormed, grown.trans grownOn, by simp [length, longer]; omega, ?_⟩
      intro i other there
      cases i with
      | zero =>
          -- The first layer was found when it was new; the later ones only lie on top of it.
          cases there
          exact ⟨signer, chosen, signed.mono grownOn⟩
      | succ i =>
          obtain ⟨otherSigner, otherChosen, otherSigned⟩ := signedOn i other there
          refine ⟨otherSigner, otherChosen, ?_⟩
          rw [longer, Nat.add_right_comm] at otherSigned
          exact otherSigned

/-! ## Checking a relay -/

def rechecks (names : Nat → String) (first : Nat) (hops : List Hop) : List Step :=
  hops.mapIdx fun i hop =>
    ⟨names i, hop.step.role, .verify, .layer (first + i), hop.step.coverage⟩

theorem mem_rechecks {names : Nat → String} {first : Nat} {hops : List Hop} {step : Step} :
    step ∈ rechecks names first hops ↔ ∃ i hop, hops[i]? = some hop ∧
      step = ⟨names i, hop.step.role, .verify, .layer (first + i), hop.step.coverage⟩ := by
  rw [rechecks, List.mem_mapIdx]
  constructor
  · rintro ⟨i, inside, rfl⟩
    exact ⟨i, hops[i], List.getElem?_eq_getElem inside, rfl⟩
  · rintro ⟨i, hop, there, rfl⟩
    obtain ⟨inside, rfl⟩ := List.getElem?_eq_some_iff.1 there
    exact ⟨i, inside, rfl⟩

/-- A verifier that has records of the signers' keys accepts all layers of a relay, in any order and
wherever the envelope was sent on. -/
theorem relay_accepted {suite : Crypto.Suite} (honest : suite.Honest) {fleetId : String}
    {hops : List Hop} (filled : hops ≠ [])
    (uniform : ∀ hop ∈ hops, hop.around.suite = suite ∧ hop.flow.fleetId = fleetId)
    {e e' : Envelope} (reachable : e.Reachable) (ran : relay hops e = .ok e')
    {verifier : Surroundings} (sameSuite : verifier.suite = suite)
    (known : ∀ hop ∈ hops, ∀ signer,
      hop.around.keystore.keyByRole hop.step.role fleetId = .ok signer →
        ∃ record, verifier.keystore.key? signer.kid = some record ∧ record.ChecksFor suite signer)
    {f : Flow} (named : f.name ≠ "") {names : Nat → String}
    (order : f.steps.Perm (rechecks names e.layers.length hops)) (selection : Selection) :
    (∀ sent : Nat → Bool,
      relay (hops.mapIdx fun i hop => { hop with sent := sent i }) e = .ok e') ∧
    ∃ v, f.compile fleetId selection = .ok v ∧ v.run verifier e' = .ok ⟨e', some true⟩ := by
  refine ⟨fun sent => (relay_resent reachable.wellFormed sent).trans ran, ?_⟩
  obtain ⟨-, -, -, signedAt⟩ := relay_eq_ok reachable.wellFormed ran
  have signed (i : Nat) (hop : Hop) (there : hops[i]? = some hop) :
      ∃ signer record, verifier.keystore.key? signer.kid = some record ∧
        record.ChecksFor suite signer ∧ signer.fleetId = fleetId ∧
        SignedAt suite signer hop.step (e.layers.length + i) e' := by
    have member := List.mem_of_getElem? there
    obtain ⟨hopSuite, hopFleet⟩ := uniform hop member
    obtain ⟨signer, chosen, signed⟩ := signedAt i hop there
    rw [hopFleet] at chosen
    rw [hopSuite] at signed
    obtain ⟨record, found, checks⟩ := known hop member signer chosen
    exact ⟨signer, record, found, checks, (keyByRole_eq_ok chosen).2, signed⟩
  have stepOf {step : Step} (member : step ∈ f.steps) := mem_rechecks.1 (order.mem_iff.1 member)
  have filledSteps : f.steps ≠ [] := by
    intro empty
    rw [empty] at order
    have none := order.symm.eq_nil
    simp [rechecks, filled] at none
  have sound : f.defect? = none := by
    refine Flow.defect?_eq_none named filledSteps ?_
    intro step member
    obtain ⟨i, hop, there, rfl⟩ := stepOf member
    obtain ⟨signer, record, -, -, -, signedHop⟩ := signed i hop there
    exact signedHop.defect? (names i)
  refine ⟨_, Flow.compile_eq_ok sound fleetId selection, ?_⟩
  apply CompiledFlow.run_passed
  · intro step member
    obtain ⟨i, hop, there, rfl⟩ := stepOf member
    rfl
  · intro step member
    obtain ⟨i, hop, there, rfl⟩ := stepOf member
    obtain ⟨signer, record, found, checks, fleet, signedHop⟩ := signed i hop there
    exact ⟨_, rfl, CompiledFlow.verify_eq_true.2
      (signedHop.evidence honest sameSuite found checks fleet rfl rfl)⟩

/-! ## A device and its gateway -/

noncomputable def deviceHop : Hop :=
  ⟨deviceSigns, .sign "device-sign" .unassigned, rfl, rfl, deviceAndGateway, true⟩

noncomputable def gatewayHop : Hop :=
  ⟨gatewayVouches, .cosign "gateway-cosign" .fleetSigning, rfl, rfl, deviceAndGateway, true⟩

def checkBoth : Flow :=
  ⟨"CheckBoth", [.verifyCosign "gateway" .fleetSigning 1, .verify "device" .unassigned 0]⟩

theorem deviceThenGateway_ran :
    ∃ e', relay [deviceHop, gatewayHop] (Envelope.new [104, 105]) = .ok e' := by
  obtain ⟨e, e', signed⟩ := deviceThenGateway_signs
  refine ⟨e', ?_⟩
  rw [relay_cons, Hop.run_eq_sign (Envelope.wellFormed_new _)]
  have first : deviceHop.flow.sign deviceHop.around deviceHop.step (Envelope.new [104, 105]) =
      .ok e := signed.device
  have second : gatewayHop.flow.sign gatewayHop.around gatewayHop.step e = .ok e' := signed.gateway
  rw [first, ok_bind, relay_cons, Hop.run_eq_sign signed.wellFormed, second, ok_bind, relay_nil]

/-- The device signs and the gateway vouches for it; the upper layer is checked first. -/
theorem deviceThenGateway_accepted :
    ∃ e', relay [deviceHop, gatewayHop] (Envelope.new [104, 105]) = .ok e' ∧
      ∃ v, checkBoth.compile "fleet" .mostRecent = .ok v ∧
        v.run deviceAndGateway e' = .ok ⟨e', some true⟩ := by
  obtain ⟨e', ran⟩ := deviceThenGateway_ran
  have known : ∀ hop ∈ [deviceHop, gatewayHop], ∀ signer,
      hop.around.keystore.keyByRole hop.step.role "fleet" = .ok signer →
        ∃ record, deviceAndGateway.keystore.key? signer.kid = some record ∧
          record.ChecksFor Crypto.Suite.curve25519.idealized signer := by
    intro hop member signer chosen
    simp only [List.mem_cons, List.not_mem_nil, or_false] at member
    rcases member with rfl | rfl
    · cases deviceChosen.symm.trans chosen
      exact ⟨deviceKey, rfl, deviceChecks⟩
    · cases gatewayChosen.symm.trans chosen
      exact ⟨gatewayKey, rfl, gatewayChecks⟩
  have uniform : ∀ hop ∈ [deviceHop, gatewayHop],
      hop.around.suite = Crypto.Suite.curve25519.idealized ∧ hop.flow.fleetId = "fleet" := by
    intro hop member
    simp only [List.mem_cons, List.not_mem_nil, or_false] at member
    rcases member with rfl | rfl <;> exact ⟨rfl, rfl⟩
  have named : checkBoth.name ≠ "" := by decide
  have order : checkBoth.steps.Perm
      (rechecks (fun i => if i = 0 then "device" else "gateway") 0 [deviceHop, gatewayHop]) :=
    List.Perm.swap _ _ []
  obtain ⟨-, accepted⟩ := relay_accepted Crypto.Suite.curve25519.honest_idealized
    (List.cons_ne_nil _ _) uniform (.new [104, 105]) ran rfl known named order .mostRecent
  exact ⟨e', ran, accepted⟩

end Countersign
