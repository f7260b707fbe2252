import Countersign.Proofs.Flow.Signing

/-!
# What a step can do to an envelope

A check leaves the envelope as it is, a signing step puts one layer on top, and the other two give
an envelope without layers: sealing demands one, opening makes one.  `Effect` says this once, and
whatever every step of a run keeps is kept by the run.
-/

namespace Countersign

theorem Surroundings.later_zero (around : Surroundings) : around.later 0 = around := by
  simp [later]

theorem Surroundings.later_later (around : Surroundings) (m n : Nat) :
    (around.later m).later n = around.later (m + n) := by
  simp only [later, Nat.add_assoc]

namespace CompiledFlow

variable {c : CompiledFlow} {around : Surroundings} {step : Step} {steps : List Step}
  {e e' : Envelope} {passed : Bool}

/-! ## One step -/

theorem runStep_sign (operation : step.operation = .sign) :
    c.runStep around step e = (·, true) <$> c.sign around step e := by
  simp only [runStep, operation]
  cases c.sign around step e <;> rfl

theorem runStep_encrypt (operation : step.operation = .encrypt) :
    c.runStep around step e = (·, true) <$> c.encrypt around step e := by
  simp only [runStep, operation]
  cases c.encrypt around step e <;> rfl

theorem runStep_decrypt (operation : step.operation = .decrypt) :
    c.runStep around step e = (·, true) <$> c.decrypt around step e := by
  simp only [runStep, operation]
  cases c.decrypt around step e <;> rfl

theorem encrypt_eq_ok :
    c.encrypt around step e = .ok e' ↔
      e.layers = [] ∧ ∃ k plain hidden,
        selectKey around.keystore.keys step.role c.fleetId c.selection false = .ok k ∧
        e.payloadBytes = .ok plain ∧
        k.sealTo around.suite (around.moment 0).throwaway (around.moment 0).nonce plain =
          .ok hidden ∧
        e' = Envelope.new hidden := by
  obtain ⟨payload, layers⟩ := e
  cases layers with
  | cons layer layers => simp [encrypt]
  | nil =>
      simp only [encrypt, List.isEmpty_nil, Bool.not_true, Bool.false_eq_true, if_false, true_and,
        bind_eq_ok, liftCrypto_eq_ok]
      constructor
      · rintro ⟨k, chosen, plain, held, hidden, seals, replaced⟩
        cases replaced
        exact ⟨k, plain, hidden, chosen, held, seals, rfl⟩
      · rintro ⟨k, plain, hidden, chosen, held, seals, rfl⟩
        exact ⟨k, chosen, plain, held, hidden, seals, rfl⟩

theorem decrypt_eq_ok :
    c.decrypt around step e = .ok e' ↔ ∃ k hidden plain,
      around.keystore.keyByRole step.role c.fleetId = .ok k ∧ e.payloadBytes = .ok hidden ∧
        k.openSealed around.suite hidden = .ok plain ∧ e' = Envelope.new plain := by
  simp only [decrypt, bind_eq_ok, liftCrypto_eq_ok]
  constructor
  · rintro ⟨k, chosen, hidden, held, plain, opens, made⟩
    cases made
    exact ⟨k, hidden, plain, chosen, held, opens, rfl⟩
  · rintro ⟨k, hidden, plain, chosen, held, opens, rfl⟩
    exact ⟨k, chosen, hidden, held, plain, opens, rfl⟩

inductive Effect (c : CompiledFlow) (around : Surroundings) (step : Step) (e : Envelope) :
    Envelope → Bool → Prop where
  | checked {index : Nat} {passed : Bool} :
      step.operation = .verify → step.slot = .layer index →
        c.verify around step index e = .ok passed → Effect c around step e e passed
  | signed {signer : Key} {layer : Layer} :
      step.operation = .sign → around.keystore.keyByRole step.role c.fleetId = .ok signer →
        layer.header = .ok (Header.signed signer.kid c.fleetId around.suite.algorithm step.role
          (around.moment 0).now) →
        SignedAt around.suite signer step e.layers.length ⟨e.payload, e.layers ++ [layer]⟩ →
          Effect c around step e ⟨e.payload, e.layers ++ [layer]⟩ true
  | hidden {k : Key} {plain hidden : Bytes} :
      step.operation = .encrypt → e.layers = [] →
        selectKey around.keystore.keys step.role c.fleetId c.selection false = .ok k →
        e.payloadBytes = .ok plain →
        k.sealTo around.suite (around.moment 0).throwaway (around.moment 0).nonce plain =
          .ok hidden →
          Effect c around step e (Envelope.new hidden) true
  | opened {k : Key} {hidden plain : Bytes} :
      step.operation = .decrypt → around.keystore.keyByRole step.role c.fleetId = .ok k →
        e.payloadBytes = .ok hidden → k.openSealed around.suite hidden = .ok plain →
          Effect c around step e (Envelope.new plain) true

theorem runStep_effect (ran : c.runStep around step e = .ok (e', passed)) :
    c.Effect around step e e' passed := by
  cases operation : step.operation with
  | sign =>
      rw [runStep_sign operation] at ran
      obtain ⟨_, signs, made⟩ := map_eq_ok.1 ran
      cases made
      obtain ⟨signer, layer, chosen, rfl, -, header, signed⟩ := sign_adds signs
      exact .signed operation chosen header signed
  | verify =>
      cases slot : step.slot with
      | append => simp [runStep, operation, slot] at ran
      | layer index =>
          simp only [runStep, operation, slot] at ran
          obtain ⟨_, checks, ran⟩ := bind_eq_ok.1 ran
          cases ran
          exact .checked operation slot checks
  | encrypt =>
      rw [runStep_encrypt operation] at ran
      obtain ⟨_, encrypts, made⟩ := map_eq_ok.1 ran
      cases made
      obtain ⟨unsigned, k, plain, hidden, chosen, held, seals, rfl⟩ := encrypt_eq_ok.1 encrypts
      exact .hidden operation unsigned chosen held seals
  | decrypt =>
      rw [runStep_decrypt operation] at ran
      obtain ⟨_, decrypts, made⟩ := map_eq_ok.1 ran
      cases made
      obtain ⟨k, hidden, plain, chosen, held, opens, rfl⟩ := decrypt_eq_ok.1 decrypts
      exact .opened operation chosen held opens

/-- A step that does not open keeps the layers, and the payload as well once there are layers. -/
theorem Effect.keeps (effect : c.Effect around step e e' passed)
    (closed : step.operation ≠ .decrypt) :
    e.layers <+: e'.layers ∧ (e.layers ≠ [] → e'.payload = e.payload) := by
  cases effect with
  | checked => exact ⟨List.prefix_rfl, fun _ => rfl⟩
  | signed => exact ⟨List.prefix_append _ _, fun _ => rfl⟩
  | hidden _ unsigned =>
      refine ⟨?_, fun layered => absurd unsigned layered⟩
      rw [unsigned]
      exact List.nil_prefix
  | opened opens => exact absurd opens closed

theorem Effect.payload (effect : c.Effect around step e e' passed)
    (leaves : step.operation ≠ .encrypt ∧ step.operation ≠ .decrypt) :
    e'.payload = e.payload := by
  cases effect with
  | checked => rfl
  | signed => rfl
  | hidden seals => exact absurd seals leaves.1
  | opened opens => exact absurd opens leaves.2

/-! ## Runs -/

theorem runSteps_cons_eq_ok {rest : List Step} :
    c.runSteps around (step :: rest) e = .ok (e', passed) ↔ ∃ between first others,
      c.runStep around step e = .ok (between, first) ∧
        c.runSteps (around.later 1) rest between = .ok (e', others) ∧
          passed = (first && others) := by
  simp only [runSteps, bind_eq_ok, Prod.exists, pure_eq_ok, Except.ok.injEq, Prod.mk.injEq]
  constructor
  · rintro ⟨between, first, ran, after, others, ranOthers, rfl, rfl⟩
    exact ⟨between, first, others, ran, ranOthers, rfl⟩
  · rintro ⟨between, first, others, ran, ranOthers, rfl⟩
    exact ⟨between, first, ran, e', others, ranOthers, rfl, rfl⟩

theorem runSteps_append (before after : List Step) :
    c.runSteps around (before ++ after) e = do
      let (between, first) ← c.runSteps around before e
      let (e', others) ← c.runSteps (around.later before.length) after between
      return (e', first && others) := by
  induction before generalizing around e with
  | nil =>
      rw [List.nil_append, List.length_nil, Surroundings.later_zero]
      simp only [runSteps, ok_bind, Bool.true_and]
      cases c.runSteps around after e <;> rfl
  | cons step before ih =>
      have moved : (around.later 1).later before.length =
          around.later (step :: before).length := by
        rw [Surroundings.later_later, List.length_cons, Nat.add_comm]
      cases ran : c.runStep around step e with
      | error error => simp [runSteps, ran]
      | ok next =>
          simp only [List.cons_append, runSteps, ran, ok_bind, ih, moved]
          cases c.runSteps (around.later 1) before next.1 with
          | error error => rfl
          | ok between =>
              simp only [ok_bind, pure_eq_ok, Bool.and_assoc]
              cases c.runSteps (around.later (step :: before).length) after between.1 <;> rfl

theorem runSteps_append_eq_ok {before after : List Step} :
    c.runSteps around (before ++ after) e = .ok (e', passed) ↔ ∃ between first others,
      c.runSteps around before e = .ok (between, first) ∧
        c.runSteps (around.later before.length) after between = .ok (e', others) ∧
          passed = (first && others) := by
  simp only [runSteps_append, bind_eq_ok, Prod.exists, pure_eq_ok, Except.ok.injEq, Prod.mk.injEq]
  constructor
  · rintro ⟨between, first, ran, last, others, ranOthers, rfl, rfl⟩
    exact ⟨between, first, others, ran, ranOthers, rfl⟩
  · rintro ⟨between, first, others, ran, ranOthers, rfl⟩
    exact ⟨between, first, ran, e', others, ranOthers, rfl, rfl⟩

theorem runSteps_eq_error {error : Error} :
    c.runSteps around steps e = .error error ↔ ∃ before step after between passed,
      steps = before ++ step :: after ∧ c.runSteps around before e = .ok (between, passed) ∧
        c.runStep (around.later before.length) step between = .error error := by
  constructor
  · intro failed
    induction steps generalizing around e with
    | nil => cases failed
    | cons step rest ih =>
        rw [runSteps] at failed
        rcases bind_eq_error.1 failed with here | ⟨⟨next, first⟩, ran, further⟩
        · exact ⟨[], step, rest, e, true, rfl, rfl, by
            rwa [List.length_nil, Surroundings.later_zero]⟩
        · rcases bind_eq_error.1 further with further | ⟨_, -, impossible⟩
          · obtain ⟨before, s, after, between, others, rfl, ranBefore, failedAt⟩ := ih further
            refine ⟨step :: before, s, after, between, first && others, rfl,
              runSteps_cons_eq_ok.2 ⟨next, first, others, ran, ranBefore, rfl⟩, ?_⟩
            rwa [Surroundings.later_later, Nat.add_comm] at failedAt
          · cases impossible
  · rintro ⟨before, step, after, between, passed, rfl, ranBefore, failedAt⟩
    simp [runSteps_append, ranBefore, runSteps, failedAt]

theorem runSteps_kept (kept : Envelope → Prop)
    (keeps : ∀ step ∈ steps, ∀ around e e' passed,
      c.Effect around step e e' passed → kept e → kept e')
    (start : kept e) (ran : c.runSteps around steps e = .ok (e', passed)) : kept e' := by
  induction steps generalizing around e passed with
  | nil =>
      cases ran
      exact start
  | cons step rest ih =>
      obtain ⟨between, first, others, ranFirst, ranOthers, -⟩ := runSteps_cons_eq_ok.1 ran
      have next := keeps step List.mem_cons_self around e between first (runStep_effect ranFirst)
        start
      exact ih (fun s member => keeps s (List.mem_cons_of_mem step member)) next ranOthers

theorem runSteps_keeps (closed : ∀ step ∈ steps, step.operation ≠ .decrypt)
    (ran : c.runSteps around steps e = .ok (e', passed)) :
    e.layers <+: e'.layers ∧ (e.layers ≠ [] → e'.payload = e.payload) := by
  refine runSteps_kept (fun f => e.layers <+: f.layers ∧
    (e.layers ≠ [] → f.payload = e.payload)) ?_ ⟨List.prefix_rfl, fun _ => rfl⟩ ran
  rintro step member around f g passed effect ⟨layers, payload⟩
  obtain ⟨layersOn, payloadOn⟩ := effect.keeps (closed step member)
  refine ⟨layers.trans layersOn, fun layered => ?_⟩
  -- Without this the payload could be sealed further on.
  have stillLayered : f.layers ≠ [] := by
    intro empty
    rw [empty] at layers
    exact layered (List.prefix_nil.1 layers)
  exact (payloadOn stillLayered).trans (payload layered)

theorem runSteps_payload
    (leaves : ∀ step ∈ steps, step.operation ≠ .encrypt ∧ step.operation ≠ .decrypt)
    (ran : c.runSteps around steps e = .ok (e', passed)) : e'.payload = e.payload := by
  refine runSteps_kept (fun f => f.payload = e.payload) ?_ rfl ran
  intro step member around f g passed effect kept
  exact (effect.payload (leaves step member)).trans kept

theorem run_eq_ok {out : Outcome} :
    c.run around e = .ok out ↔ ∃ passed,
      c.runSteps around c.flow.steps e = .ok (out.envelope, passed) ∧
        out.verdict = if c.flow.verifies then some passed else none := by
  obtain ⟨after, verdict⟩ := out
  simp only [run, bind_eq_ok, Prod.exists, pure_eq_ok, Except.ok.injEq, Outcome.mk.injEq]
  constructor
  · rintro ⟨_, passed, ran, rfl, rfl⟩
    exact ⟨passed, ran, rfl⟩
  · rintro ⟨passed, ran, rfl⟩
    exact ⟨after, passed, ran, rfl, rfl⟩

theorem run_single (single : c.flow.steps = [step]) :
    c.run around e =
      (fun ran => ⟨ran.1, if c.flow.verifies then some ran.2 else none⟩) <$>
        c.runStep around step e := by
  rw [run, single, runSteps]
  cases c.runStep around step e with
  | error error => rfl
  | ok ran => simp [runSteps]

end CompiledFlow

end Countersign
