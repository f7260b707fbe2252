import Countersign.Proofs.Flow.Isolation
import Countersign.Proofs.Flow.Relay

/-!
# A flow in two parts

Running a flow comes to the same as running its first steps, sending the envelope to whoever runs
the others, and taking the two verdicts together.  Nothing of the flow but its steps, its fleet and
its policy has a part in a run, nor has anything of the node but its suite, its keys and its
moments; and the text of the envelope in between reads back to it.
-/

namespace Countersign

/-- The nodes differ at most in where they keep their keys and which one is their own. -/
structure Surroundings.Alike (x y : Surroundings) : Prop where
  suite : x.suite = y.suite
  keys : x.keystore.keys = y.keystore.keys
  selection : x.keystore.selection = y.keystore.selection
  moment : x.moment = y.moment

theorem Surroundings.Alike.refl (around : Surroundings) : around.Alike around :=
  ⟨rfl, rfl, rfl, rfl⟩

theorem Surroundings.Alike.later {x y : Surroundings} (alike : x.Alike y) (steps : Nat) :
    (x.later steps).Alike (y.later steps) where
  suite := alike.suite
  keys := alike.keys
  selection := alike.selection
  moment := congrArg (fun moment step => moment (steps + step)) alike.moment

namespace CompiledFlow

variable {c a b : CompiledFlow} {around x y : Surroundings} {step : Step} {steps : List Step}
  {e e' : Envelope} {passed : Bool}

/-! ## What a step depends on -/

/-- The flow is compiled for this fleet, and by this policy if it seals anything. -/
structure CompiledFor (a : CompiledFlow) (fleetId : String) (selection : Selection) : Prop where
  fleet : a.fleetId = fleetId
  policy : ∀ step ∈ a.flow.steps, step.operation = .encrypt → a.selection = selection

theorem CompiledFor.runStep_eq (likewise : a.CompiledFor c.fleetId c.selection) (alike : x.Alike y)
    (member : step ∈ a.flow.steps) : a.runStep x step e = c.runStep y step e := by
  have sited := @slot_of_verify a step member
  have policy := likewise.policy step member
  obtain ⟨flow, fleetId, selection, sound⟩ := a
  obtain ⟨suite, ⟨store, order, selfKid, keys⟩, moment⟩ := x
  obtain ⟨suite', ⟨store', order', selfKid', keys'⟩, moment'⟩ := y
  obtain ⟨rfl, rfl, rfl, rfl⟩ := alike
  obtain rfl : fleetId = c.fleetId := likewise.fleet
  cases operation : step.operation with
  | sign =>
      rw [runStep_sign operation, runStep_sign operation]
      rfl
  | encrypt =>
      obtain rfl : selection = c.selection := policy operation
      rw [runStep_encrypt operation, runStep_encrypt operation]
      rfl
  | decrypt =>
      rw [runStep_decrypt operation, runStep_decrypt operation]
      rfl
  | verify =>
      obtain ⟨index, slot⟩ := sited operation
      simp only [runStep, operation, slot]
      rfl

theorem CompiledFor.runSteps_eq (likewise : a.CompiledFor c.fleetId c.selection)
    (alike : x.Alike y) (members : ∀ step ∈ steps, step ∈ a.flow.steps) :
    a.runSteps x steps e = c.runSteps y steps e := by
  induction steps generalizing x y e with
  | nil => rfl
  | cons step rest ih =>
      obtain ⟨member, members⟩ := List.forall_mem_cons.1 members
      simp only [runSteps, likewise.runStep_eq alike member, ih (alike.later 1) members]

/-! ## What is sent on -/

theorem Effect.wellFormed (effect : c.Effect around step e e' passed) (wellFormed : e.WellFormed) :
    e'.WellFormed := by
  cases effect with
  | checked => exact wellFormed
  | @signed signer layer _ _ header signed =>
      obtain ⟨onTop, seed, _, input, there, -, -, -, signature⟩ := signed.signed
      obtain rfl : layer = onTop := by simpa using there
      have signatureBytes : layer.signatureBytes = .ok (around.suite.sign seed input).val := by
        rw [Layer.signatureBytes, signature, decodeText_encode]
      exact wellFormed.withLayer ⟨⟨_, header⟩, ⟨_, signatureBytes⟩⟩
  | hidden => exact Envelope.wellFormed_new _
  | opened => exact Envelope.wellFormed_new _

theorem runSteps_wellFormed (wellFormed : e.WellFormed)
    (ran : c.runSteps around steps e = .ok (e', passed)) : e'.WellFormed :=
  runSteps_kept Envelope.WellFormed (fun _ _ _ _ _ _ effect => effect.wellFormed) wellFormed ran

theorem run_readBack (wellFormed : e.WellFormed) {out : Outcome} (ran : c.run around e = .ok out) :
    Envelope.parse out.envelope.text = .ok out.envelope := by
  obtain ⟨_, ranSteps, -⟩ := run_eq_ok.1 ran
  exact Envelope.parse_text (runSteps_wellFormed wellFormed ranSteps)

/-! ## Verdicts -/

theorem Effect.passed_of_checkless (effect : c.Effect around step e e' passed)
    (checkless : step.operation ≠ .verify) : passed = true := by
  cases effect with
  | checked verifies => exact absurd verifies checkless
  | signed => rfl
  | hidden => rfl
  | opened => rfl

theorem runSteps_passed_of_checkless (checkless : ∀ step ∈ steps, step.operation ≠ .verify)
    (ran : c.runSteps around steps e = .ok (e', passed)) : passed = true := by
  induction steps generalizing around e passed with
  | nil =>
      cases ran
      rfl
  | cons step rest ih =>
      obtain ⟨first, others⟩ := List.forall_mem_cons.1 checkless
      obtain ⟨between, _, _, ranFirst, ranOthers, rfl⟩ := runSteps_cons_eq_ok.1 ran
      rw [(runStep_effect ranFirst).passed_of_checkless first, ih others ranOthers]
      rfl

/-- The two verdicts together: where one part checks nothing, the verdict is that of the other. -/
def bothVerdicts (first second : Option Bool) : Option Bool :=
  first.merge (fun p q => p && q) second

theorem bothVerdicts_of_runs {f g : Flow} {p q : Bool} (unchecked : f.verifies = false → p = true)
    (unchecked' : g.verifies = false → q = true) :
    bothVerdicts (if f.verifies then some p else none) (if g.verifies then some q else none) =
      if f.verifies || g.verifies then some (p && q) else none := by
  cases first : f.verifies with
  | false =>
      rw [unchecked first]
      cases g.verifies <;> rfl
  | true =>
      cases second : g.verifies with
      | false =>
          rw [unchecked' second, Bool.and_true]
          rfl
      | true => rfl

/-! ## Splitting a run -/

theorem compile_append {f : Flow} (named : f.name ≠ "")
    (steps : f.steps = a.flow.steps ++ b.flow.steps) (fleetId : String) (selection : Selection) :
    ∃ c, f.compile fleetId selection = .ok c ∧ c.flow = f ∧ c.fleetId = fleetId ∧
      c.selection = selection := by
  have filled : f.steps ≠ [] := by
    rw [steps]
    exact List.append_ne_nil_of_left_ne_nil a.sensible.filled _
  have sound : f.defect? = none := by
    refine Flow.defect?_eq_none named filled fun step member => ?_
    rw [steps] at member
    rcases List.mem_append.1 member with first | second
    · exact Step.defect?_eq_none.2 (a.sensible.sensible step first)
    · exact Step.defect?_eq_none.2 (b.sensible.sensible step second)
  exact ⟨_, Flow.compile_eq_ok sound fleetId selection, rfl, rfl, rfl⟩

theorem run_of_parts (steps : c.flow.steps = a.flow.steps ++ b.flow.steps)
    (first : a.CompiledFor c.fleetId c.selection) (second : b.CompiledFor c.fleetId c.selection)
    (here : x.Alike around) (there : y.Alike (around.later a.flow.steps.length)) (e : Envelope) :
    c.run around e = (do
      let sent ← a.run x e
      let out ← b.run y sent.envelope
      return ⟨out.envelope, bothVerdicts sent.verdict out.verdict⟩) := by
  have verifies : c.flow.verifies = (a.flow.verifies || b.flow.verifies) := by
    simp only [Flow.verifies, steps, List.any_append]
  have ranFirst : a.runSteps x a.flow.steps e = c.runSteps around a.flow.steps e :=
    first.runSteps_eq here fun _ member => member
  have ranSecond (between : Envelope) : b.runSteps y b.flow.steps between =
      c.runSteps (around.later a.flow.steps.length) b.flow.steps between :=
    second.runSteps_eq there fun _ member => member
  rw [run, run, steps, runSteps_append, ranFirst]
  cases before : c.runSteps around a.flow.steps e with
  | error error => rfl
  | ok between =>
      simp only [ok_bind, pure_eq_ok, run, ranSecond]
      cases after : c.runSteps (around.later a.flow.steps.length) b.flow.steps between.1 with
      | error error => rfl
      | ok last =>
          simp only [ok_bind, verifies]
          rw [bothVerdicts_of_runs
            (fun none => runSteps_passed_of_checkless (checkless_of_verifies none) before)
            (fun none => runSteps_passed_of_checkless (checkless_of_verifies none) after)]

/-- A flow with a name whose steps are those of `a` and then those of `b` compiles, and runs as `a`
does and then, on what was sent on as text, `b`, on any nodes alike.  If `a` ends with an error then
`b` is not run, and the error is that of the whole; so it is if `b` does. -/
theorem run_split {f : Flow} (named : f.name ≠ "")
    (steps : f.steps = a.flow.steps ++ b.flow.steps) {fleetId : String} {selection : Selection}
    (first : a.CompiledFor fleetId selection) (second : b.CompiledFor fleetId selection)
    (here : x.Alike around) (there : y.Alike (around.later a.flow.steps.length))
    (reachable : e.Reachable) :
    (∀ sent, a.run x e = .ok sent → Envelope.parse sent.envelope.text = .ok sent.envelope) ∧
    ∃ c, f.compile fleetId selection = .ok c ∧
      c.run around e = (do
        let sent ← a.run x e
        let received ← Envelope.parse sent.envelope.text
        let out ← b.run y received
        return ⟨out.envelope, bothVerdicts sent.verdict out.verdict⟩) ∧
      (∀ error, a.run x e = .error error → c.run around e = .error error) ∧
      ∀ sent, a.run x e = .ok sent →
        (∀ error, b.run y sent.envelope = .error error → c.run around e = .error error) ∧
        ∀ out, b.run y sent.envelope = .ok out →
          c.run around e = .ok ⟨out.envelope, bothVerdicts sent.verdict out.verdict⟩ := by
  have readBack (sent : Outcome) (ran : a.run x e = .ok sent) :
      Envelope.parse sent.envelope.text = .ok sent.envelope :=
    run_readBack reachable.wellFormed ran
  obtain ⟨c, compiled, rfl, rfl, rfl⟩ := compile_append named steps fleetId selection
  have whole := run_of_parts steps first second here there e
  refine ⟨readBack, c, compiled, ?_, fun error failed => ?_, fun sent ran =>
    ⟨fun error failed => ?_, fun out ranOn => ?_⟩⟩
  · rw [whole]
    cases ran : a.run x e with
    | error error => rfl
    | ok sent => simp only [ok_bind, readBack sent ran]
  · rw [whole, failed, error_bind]
  · rw [whole, ran, ok_bind, failed, error_bind]
  · rw [whole, ran, ok_bind, ranOn, ok_bind, pure_eq_ok]

/-! ## Signing here and checking there -/

def signAlone : CompiledFlow :=
  ⟨⟨"SignAlone", [.sign "sign" .unassigned]⟩, "fleet", .mostRecent, by decide⟩

def checkAlone : CompiledFlow :=
  ⟨⟨"CheckAlone", [.verify "check" .unassigned 0]⟩, "fleet", .mostRecent, by decide⟩

theorem signAlone_compiledFor : signAlone.CompiledFor "fleet" .mostRecent := ⟨rfl, fun _ _ _ => rfl⟩

theorem checkAlone_compiledFor : checkAlone.CompiledFor "fleet" .mostRecent := ⟨rfl, fun _ _ _ => rfl⟩

theorem signAlone_then_checkAlone :
    ∃ e, signAlone.run amongItsOwn (Envelope.new [104, 105]) = .ok ⟨e, none⟩ ∧
      checkAlone.run (amongItsOwn.later 1) e = .ok ⟨e, some true⟩ := by
  obtain ⟨e, ran⟩ := signThenCheck_ran
  obtain ⟨passed, ranSteps, verdict⟩ := run_eq_ok.1 ran
  obtain rfl : passed = true := Option.some.inj verdict.symm
  obtain ⟨between, signs, checks⟩ := runSteps_cons_passed.1 ranSteps
  obtain ⟨last, checked, done⟩ := runSteps_cons_passed.1 checks
  cases done
  obtain ⟨rfl, -⟩ := (runStep_verify_passed rfl).1 checked
  have signsAlone := CompiledFor.runStep_eq (c := signThenCheck) (e := Envelope.new [104, 105])
    signAlone_compiledFor (.refl amongItsOwn) (List.mem_singleton_self _)
  have checksAlone := CompiledFor.runStep_eq (c := signThenCheck) (e := e)
    checkAlone_compiledFor (.refl (amongItsOwn.later 1)) (List.mem_singleton_self _)
  refine ⟨e, ?_, ?_⟩
  · rw [run_single rfl, signsAlone, signs]
    rfl
  · rw [run_single rfl, checksAlone, checked]
    rfl

theorem signThenCheck_split :
    ∃ c e, Flow.compile ⟨"Both", signAlone.flow.steps ++ checkAlone.flow.steps⟩ "fleet"
        .mostRecent = .ok c ∧
      c.run amongItsOwn (Envelope.new [104, 105]) = .ok ⟨e, some true⟩ := by
  obtain ⟨e, signs, checks⟩ := signAlone_then_checkAlone
  have named : "Both" ≠ "" := by decide
  obtain ⟨-, c, compiled, -, -, next⟩ :=
    run_split (f := ⟨"Both", signAlone.flow.steps ++ checkAlone.flow.steps⟩) named rfl
      signAlone_compiledFor checkAlone_compiledFor (.refl amongItsOwn)
      (.refl (amongItsOwn.later 1)) (.new [104, 105])
  obtain ⟨-, whole⟩ := next _ signs
  exact ⟨c, e, compiled, whole _ checks⟩

end CompiledFlow

end Countersign
