import Countersign.Proofs.Flow.Signing

/-!
# What a verdict says

A flow of checks passes exactly when all of its checks do: a check that fails is not made good by
another one, and the first error is the error of the run.
-/

namespace Countersign

namespace CompiledFlow

variable {c : CompiledFlow} {around : Surroundings} {e : Envelope} {step : Step}

/-! ## Flows of checks -/

def Checks (c : CompiledFlow) (around : Surroundings) (e : Envelope) (step : Step)
    (result : Result Bool) : Prop :=
  ∃ index, step.slot = .layer index ∧ c.verify around step index e = result

theorem Checks.unique {result other : Result Bool} (h : c.Checks around e step result)
    (h' : c.Checks around e step other) : result = other := by
  obtain ⟨index, slot, rfl⟩ := h
  obtain ⟨index', slot', rfl⟩ := h'
  cases slot.symm.trans slot'
  rfl

theorem slot_of_verify (member : step ∈ c.flow.steps) (verifies : step.operation = .verify) :
    ∃ index, step.slot = .layer index := by
  obtain ⟨index, placed, -⟩ := (c.sensible.sensible step member).checks verifies
  exact ⟨index, placed⟩

theorem checks_of_verify (member : step ∈ c.flow.steps) (verifies : step.operation = .verify) :
    ∃ result, c.Checks around e step result := by
  obtain ⟨index, slot⟩ := slot_of_verify member verifies
  exact ⟨_, index, slot, rfl⟩

private theorem runStep_of_checks {result : Result Bool} (verifies : step.operation = .verify)
    (h : c.Checks around e step result) :
    c.runStep around step e = (fun passed => (e, passed)) <$> result := by
  obtain ⟨index, slot, rfl⟩ := h
  simp only [runStep, verifies, slot]
  cases c.verify around step index e <;> rfl

/-- A run of checks that are all made: it passes exactly when each of them does. -/
theorem runSteps_ok {steps : List Step} (verifies : ∀ s ∈ steps, s.operation = .verify)
    (made : ∀ s ∈ steps, ∃ passed, c.Checks around e s (.ok passed)) :
    ∃ passed, c.runSteps around steps e = .ok (e, passed) ∧
      (passed = true ↔ ∀ s ∈ steps, c.Checks around e s (.ok true)) := by
  induction steps generalizing around with
  | nil => exact ⟨true, rfl, by simp⟩
  | cons step rest ih =>
      obtain ⟨first, check⟩ := made step List.mem_cons_self
      have ran := runStep_of_checks (verifies step List.mem_cons_self) check
      -- A check does not look at the clock, so it comes to the same at a later step.
      have madeLater : ∀ s ∈ rest, ∃ passed, c.Checks (around.later 1) e s (.ok passed) :=
        fun s hs => made s (List.mem_cons_of_mem _ hs)
      obtain ⟨others, ranOthers, passes⟩ :=
        ih (fun s hs => verifies s (List.mem_cons_of_mem _ hs)) madeLater
      refine ⟨first && others, by simp [runSteps, ran, ranOthers], ?_⟩
      have firstPasses : first = true ↔ c.Checks around e step (.ok true) := by
        constructor
        · rintro rfl
          exact check
        · intro passes
          exact Except.ok.inj (check.unique passes)
      rw [Bool.and_eq_true, firstPasses, passes, List.forall_mem_cons]
      rfl

/-- The first check that cannot be made ends the run with its error. -/
theorem runSteps_error {before after : List Step} {error : Error}
    (verifies : ∀ s ∈ before ++ step :: after, s.operation = .verify)
    (made : ∀ s ∈ before, ∃ passed, c.Checks around e s (.ok passed))
    (failed : c.Checks around e step (.error error)) :
    c.runSteps around (before ++ step :: after) e = .error error := by
  induction before generalizing around with
  | nil =>
      have ran := runStep_of_checks (verifies step (by simp)) failed
      simp [runSteps, ran]
  | cons s before ih =>
      obtain ⟨first, check⟩ := made s List.mem_cons_self
      have ran := runStep_of_checks (verifies s (by simp)) check
      have rest : c.runSteps (around.later 1) (before ++ step :: after) e = .error error :=
        ih (fun t ht => verifies t (List.mem_cons_of_mem _ ht))
          (fun t ht => made t (List.mem_cons_of_mem _ ht)) failed
      simp [runSteps, ran, rest]

theorem made_or_failed {steps : List Step}
    (sited : ∀ s ∈ steps, ∃ result, c.Checks around e s result) :
    (∀ s ∈ steps, ∃ passed, c.Checks around e s (.ok passed)) ∨
      ∃ error before step after, steps = before ++ step :: after ∧
        (∀ s ∈ before, ∃ passed, c.Checks around e s (.ok passed)) ∧
        c.Checks around e step (.error error) := by
  induction steps with
  | nil => exact .inl (by simp)
  | cons step rest ih =>
      obtain ⟨result, check⟩ := sited step List.mem_cons_self
      cases result with
      | error error => exact .inr ⟨error, [], step, rest, rfl, by simp, check⟩
      | ok passed =>
          rcases ih fun s hs => sited s (List.mem_cons_of_mem _ hs) with
            made | ⟨error, before, s, after, rfl, made, failed⟩
          · exact .inl (List.forall_mem_cons.2 ⟨⟨passed, check⟩, made⟩)
          · exact .inr ⟨error, step :: before, s, after, rfl,
              List.forall_mem_cons.2 ⟨⟨passed, check⟩, made⟩, failed⟩

/-! ## Verdicts -/

theorem run_of_runSteps {passed : Bool} (verifies : ∀ s ∈ c.flow.steps, s.operation = .verify)
    (ran : c.runSteps around c.flow.steps e = .ok (e, passed)) :
    c.run around e = .ok ⟨e, some passed⟩ := by
  obtain ⟨step, member⟩ := List.exists_mem_of_ne_nil _ c.sensible.filled
  have gives : c.flow.verifies = true := by
    rw [Flow.verifies, List.any_eq_true]
    exact ⟨step, member, by simp [verifies step member]⟩
  simp [run, ran, gives]

theorem run_passed (verifies : ∀ s ∈ c.flow.steps, s.operation = .verify)
    (pass : ∀ s ∈ c.flow.steps, c.Checks around e s (.ok true)) :
    c.run around e = .ok ⟨e, some true⟩ := by
  obtain ⟨passed, ran, passes⟩ := runSteps_ok verifies fun s hs => ⟨true, pass s hs⟩
  cases passes.2 pass
  exact run_of_runSteps verifies ran

theorem run_eq_error {error : Error} (ran : c.runSteps around c.flow.steps e = .error error) :
    c.run around e = .error error := by
  simp [run, ran]

theorem verified_eq_false {out : Outcome} (checkless : ∀ s ∈ c.flow.steps, s.operation ≠ .verify)
    (ran : c.run around e = .ok out) : out.verified = false := by
  have gives : c.flow.verifies = false := by
    rw [Flow.verifies, List.any_eq_false]
    intro s hs
    simpa using checkless s hs
  obtain ⟨_, -, ran⟩ := bind_eq_ok.1 ran
  simp only [gives, Bool.false_eq_true, if_false] at ran
  cases ran
  rfl

theorem run_cases (verifies : ∀ s ∈ c.flow.steps, s.operation = .verify) (around : Surroundings)
    (e : Envelope) :
    (∃ passed, c.run around e = .ok ⟨e, some passed⟩ ∧
      (∀ s ∈ c.flow.steps, ∃ passed, c.Checks around e s (.ok passed)) ∧
      (passed = true ↔ ∀ s ∈ c.flow.steps, c.Checks around e s (.ok true))) ∨
    (∃ error, c.run around e = .error error ∧ ∃ before step after,
      c.flow.steps = before ++ step :: after ∧
        (∀ s ∈ before, ∃ passed, c.Checks around e s (.ok passed)) ∧
        c.Checks around e step (.error error)) := by
  have sited : ∀ s ∈ c.flow.steps, ∃ result, c.Checks around e s result :=
    fun s hs => checks_of_verify hs (verifies s hs)
  rcases made_or_failed sited with made | ⟨error, before, step, after, split, made, failed⟩
  · obtain ⟨passed, ran, passes⟩ := runSteps_ok verifies made
    exact .inl ⟨passed, run_of_runSteps verifies ran, made, passes⟩
  · have ran := runSteps_error (split ▸ verifies) made failed
    exact .inr ⟨error, run_eq_error (split ▸ ran), before, step, after, split, made, failed⟩

theorem run_eq_true_iff (verifies : ∀ s ∈ c.flow.steps, s.operation = .verify) :
    c.run around e = .ok ⟨e, some true⟩ ↔
      ∀ s ∈ c.flow.steps, c.Checks around e s (.ok true) := by
  constructor
  · intro ran
    rcases run_cases verifies around e with ⟨passed, ran', -, passes⟩ | ⟨error, ran', -⟩
    · cases ran.symm.trans ran'
      exact passes.1 rfl
    · cases ran.symm.trans ran'
  · exact run_passed verifies

theorem run_eq_false_iff (verifies : ∀ s ∈ c.flow.steps, s.operation = .verify) :
    c.run around e = .ok ⟨e, some false⟩ ↔
      (∀ s ∈ c.flow.steps, ∃ passed, c.Checks around e s (.ok passed)) ∧
        ∃ s ∈ c.flow.steps, c.Checks around e s (.ok false) := by
  rcases run_cases verifies around e with
    ⟨passed, ran, made, passes⟩ | ⟨error, ran, before, step, after, split, -, failed⟩
  · constructor
    · intro ran'
      cases ran.symm.trans ran'
      refine ⟨made, ?_⟩
      -- Were there no failing check, all of them would pass.
      by_contra none
      refine Bool.false_ne_true (passes.2 fun s hs => ?_)
      obtain ⟨passed, check⟩ := made s hs
      cases passed with
      | true => exact check
      | false => exact absurd ⟨s, hs, check⟩ none
    · rintro ⟨-, s, hs, check⟩
      cases passed with
      | true => cases check.unique (passes.1 rfl s hs)
      | false => exact ran
  · constructor
    · intro ran'
      cases ran.symm.trans ran'
    · rintro ⟨made, -⟩
      obtain ⟨passed, check⟩ := made step (by simp [split])
      cases check.unique failed

theorem run_eq_error_iff (verifies : ∀ s ∈ c.flow.steps, s.operation = .verify) (error : Error) :
    c.run around e = .error error ↔ ∃ before step after,
      c.flow.steps = before ++ step :: after ∧
        (∀ s ∈ before, ∃ passed, c.Checks around e s (.ok passed)) ∧
        c.Checks around e step (.error error) := by
  constructor
  · intro ran
    rcases run_cases verifies around e with ⟨passed, ran', -⟩ | ⟨error', ran', first⟩
    · cases ran.symm.trans ran'
    · cases ran.symm.trans ran'
      exact first
  · rintro ⟨before, step, after, split, made, failed⟩
    have ran := runSteps_error (split ▸ verifies) made failed
    exact run_eq_error (split ▸ ran)

theorem run_ok_envelope (verifies : ∀ s ∈ c.flow.steps, s.operation = .verify) {out : Outcome}
    (ran : c.run around e = .ok out) : out.envelope = e ∧ out.verdict.isSome := by
  rcases run_cases verifies around e with ⟨passed, ran', -⟩ | ⟨error, ran', -⟩
  · cases ran.symm.trans ran'
    exact ⟨rfl, rfl⟩
  · cases ran.symm.trans ran'

/-- A flow of checks passes on the evidence for every one of them, fails if all are made and one
does not pass, and ends with the first error otherwise.  Without a check nothing is verified. -/
theorem run_exact (verifies : ∀ s ∈ c.flow.steps, s.operation = .verify) :
    (c.run around e = .ok ⟨e, some true⟩ ↔ ∀ step ∈ c.flow.steps, ∃ index,
      step.slot = .layer index ∧ Nonempty (c.Evidence around step index e)) ∧
    (c.run around e = .ok ⟨e, some false⟩ ↔
      (∀ step ∈ c.flow.steps, ∃ passed, c.Checks around e step (.ok passed)) ∧
        ∃ step ∈ c.flow.steps, c.Checks around e step (.ok false)) ∧
    (∀ error, c.run around e = .error error ↔ ∃ before step after,
      c.flow.steps = before ++ step :: after ∧
        (∀ s ∈ before, ∃ passed, c.Checks around e s (.ok passed)) ∧
        c.Checks around e step (.error error)) ∧
    (∀ out, c.run around e = .ok out → out.envelope = e ∧ out.verdict.isSome) ∧
    (∀ d : CompiledFlow, (∀ s ∈ d.flow.steps, s.operation ≠ .verify) →
      ∀ out, d.run around e = .ok out → out.verified = false) := by
  have evidence : (∀ step ∈ c.flow.steps, ∃ index,
      step.slot = .layer index ∧ Nonempty (c.Evidence around step index e)) ↔
        ∀ step ∈ c.flow.steps, c.Checks around e step (.ok true) := by
    simp only [Checks, verify_eq_true]
  rw [evidence]
  exact ⟨run_eq_true_iff verifies, run_eq_false_iff verifies, run_eq_error_iff verifies,
    fun out => run_ok_envelope verifies, fun d checkless out => verified_eq_false checkless⟩

end CompiledFlow

/-! ## Checking what a device and its gateway signed -/

def deviceLayer : Step := .verify "device" .unassigned 0

def gatewayLayer : Step := .verifyCosign "gateway" .fleetSigning 1

/-- It takes the device's layer for one of the gateway. -/
def mistakenLayer : Step := .verify "mistaken" .fleetSigning 0

def missingLayer : Step := .verify "missing" .unassigned 2

def checking (steps : List Step) (sound : (Flow.mk "Checking" steps).defect? = none) :
    CompiledFlow :=
  ⟨⟨"Checking", steps⟩, "fleet", .mostRecent, sound⟩

namespace DeviceThenGateway

variable {e e' : Envelope} (signed : DeviceThenGateway e e') {c : CompiledFlow}
include signed

theorem evidence_device (fleet : c.fleetId = "fleet") :
    Nonempty (c.Evidence deviceAndGateway deviceLayer 0 e') :=
  signed.layers.2.1.evidence Crypto.Suite.curve25519.honest_idealized rfl rfl deviceChecks
    fleet.symm rfl rfl

theorem evidence_gateway (fleet : c.fleetId = "fleet") :
    Nonempty (c.Evidence deviceAndGateway gatewayLayer 1 e') :=
  signed.layers.2.2.evidence Crypto.Suite.curve25519.honest_idealized rfl rfl gatewayChecks
    fleet.symm rfl rfl

theorem checks_device (fleet : c.fleetId = "fleet") :
    c.Checks deviceAndGateway e' deviceLayer (.ok true) :=
  ⟨0, rfl, CompiledFlow.verify_eq_true.2 (signed.evidence_device fleet)⟩

theorem checks_gateway (fleet : c.fleetId = "fleet") :
    c.Checks deviceAndGateway e' gatewayLayer (.ok true) :=
  ⟨1, rfl, CompiledFlow.verify_eq_true.2 (signed.evidence_gateway fleet)⟩

theorem checks_mistaken : c.Checks deviceAndGateway e' mistakenLayer (.ok false) :=
  ⟨0, rfl, signed.layers.2.1.verify_otherRole c deviceAndGateway (by decide)⟩

theorem checks_missing :
    c.Checks deviceAndGateway e' missingLayer (.error (.layerIndex 2 2)) := by
  have length := signed.layers.1
  have outside : c.verify deviceAndGateway missingLayer 2 e' =
      .error (.layerIndex 2 e'.layers.length) :=
    CompiledFlow.verify_outside (Nat.le_of_eq length) missingLayer
  rw [length] at outside
  exact ⟨2, rfl, outside⟩

end DeviceThenGateway

/-- Both layers pass.  A check that fails shows in spite of those that pass before and after it, and
so does one that cannot be made, also after one that fails. -/
theorem deviceThenGateway_run_exact :
    ∃ e e', DeviceThenGateway e e' ∧
      (checking [gatewayLayer, deviceLayer] (by decide)).run deviceAndGateway e' =
        .ok ⟨e', some true⟩ ∧
      (checking [deviceLayer, mistakenLayer, gatewayLayer] (by decide)).run deviceAndGateway e' =
        .ok ⟨e', some false⟩ ∧
      (checking [mistakenLayer, deviceLayer, missingLayer, gatewayLayer] (by decide)).run
        deviceAndGateway e' = .error (.layerIndex 2 2) ∧
      ∀ out, deviceSigns.run deviceAndGateway e' = .ok out → out.verified = false := by
  obtain ⟨e, e', signed⟩ := deviceThenGateway_signs
  have both : ∀ s ∈ (checking [gatewayLayer, deviceLayer] (by decide)).flow.steps,
      s.operation = .verify := by
    decide
  refine ⟨e, e', signed, (CompiledFlow.run_exact both).1.2 ?_,
    (CompiledFlow.run_exact (by decide)).2.1.2 ?_,
    ((CompiledFlow.run_exact (by decide)).2.2.1 _).2 ?_,
    (CompiledFlow.run_exact both).2.2.2.2 deviceSigns (by decide)⟩
  · exact List.forall_mem_cons.2 ⟨⟨1, rfl, signed.evidence_gateway rfl⟩,
      List.forall_mem_singleton.2 ⟨0, rfl, signed.evidence_device rfl⟩⟩
  · refine ⟨?_, mistakenLayer, by decide, signed.checks_mistaken⟩
    exact List.forall_mem_cons.2 ⟨⟨true, signed.checks_device rfl⟩,
      List.forall_mem_cons.2 ⟨⟨false, signed.checks_mistaken⟩,
        List.forall_mem_singleton.2 ⟨true, signed.checks_gateway rfl⟩⟩⟩
  · refine ⟨[mistakenLayer, deviceLayer], missingLayer, [gatewayLayer], rfl, ?_,
      signed.checks_missing⟩
    exact List.forall_mem_cons.2 ⟨⟨false, signed.checks_mistaken⟩,
      List.forall_mem_singleton.2 ⟨true, signed.checks_device rfl⟩⟩

end Countersign
