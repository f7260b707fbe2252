import Countersign.Proofs.Flow.Effect
import Countersign.Proofs.Keystore.Choice

/-!
# What compiling keeps out of a run

A step can fail on what it finds: the envelope, the keys and the signatures.  That it was declared
wrongly is no such failure, and compiling has seen to it.  In particular no check is left to find
that its layer has none beneath it; only a signature can, on an envelope without layers.
-/

namespace Countersign

/-- The error is about what a step finds, and not that there is no layer to bind to. -/
def Error.Found : Error → Prop
  | .format (.noPriorLayer _) => False
  | .format _ | .layerIndex _ _ | .keyNotFound _ | .keyInvalid _ | .crypto _ => True
  | _ => False

variable {α : Type}

theorem decodeText_fails (text : String) : FailsOnly Error.Found (decodeText text) :=
  failsOnly_mapError (fun _ => trivial) _

theorem liftCrypto_fails (r : Except CryptoError α) : FailsOnly Error.Found (liftCrypto r) :=
  failsOnly_mapError (fun _ => trivial) _

theorem selectKey_fails (keys : List Key) (role : Role) (fleetId : String) (selection : Selection)
    (signing : Bool) : FailsOnly Error.Found (selectKey keys role fleetId selection signing) := by
  intro error failed
  rcases (selectKey_eq_error_iff.1 failed).2 with ⟨rfl, -⟩ | ⟨rfl, -⟩ <;> trivial

theorem Header.decode_fails (text : String) : FailsOnly Error.Found (Header.decode text) :=
  (decodeText_fails text).bind fun _ _ => failsOnly_mapError (fun _ => trivial) _

namespace Envelope

variable {e : Envelope}

theorem requirePayload_fails (e : Envelope) : FailsOnly Error.Found e.requirePayload := by
  unfold requirePayload
  split
  · exact failsOnly_ok _
  · exact failsOnly_error.2 trivial

theorem payloadBytes_fails (e : Envelope) : FailsOnly Error.Found e.payloadBytes :=
  e.requirePayload_fails.bind fun text _ => decodeText_fails text

theorem layerAt_fails (e : Envelope) (index : Nat) : FailsOnly Error.Found (e.layerAt index) := by
  unfold layerAt
  split
  · exact failsOnly_ok _
  · exact failsOnly_error.2 trivial

theorem replacePayload_fails (e : Envelope) (payload : Bytes) :
    FailsOnly Error.Found (e.replacePayload payload) := by
  unfold replacePayload
  split
  · exact failsOnly_ok _
  · exact failsOnly_error.2 trivial

theorem push_fails (e : Envelope) (pending : PendingLayer) (signature : Bytes) :
    FailsOnly Error.Found (e.push pending signature) :=
  e.requirePayload_fails.bind fun _ _ => failsOnly_ok _

/-- A position up to the top has a layer beneath it, unless it is the first. -/
theorem signingInput_fails {position : Nat} (header : String) {coverage : Coverage}
    (inside : position ≤ e.layers.length)
    (based : ¬ (position = 0 ∧ coverage = .priorLayer)) :
    FailsOnly Error.Found (e.signingInput header position coverage) := by
  refine e.requirePayload_fails.bind fun payload _ => ?_
  cases coverage with
  | payload => exact failsOnly_ok _
  | priorLayer =>
      cases position with
      | zero => exact absurd ⟨rfl, rfl⟩ based
      | succ below =>
          have beneath : e.layers[below]? = some e.layers[below] := List.getElem?_eq_getElem inside
          simp only [beneath]
          exact failsOnly_ok _

theorem signingInputAt_fails {index : Nat} {coverage : Coverage}
    (based : ¬ (index = 0 ∧ coverage = .priorLayer)) :
    FailsOnly Error.Found (e.signingInputAt index coverage) := by
  refine (e.layerAt_fails index).bind fun layer there => ?_
  obtain ⟨inside, -⟩ := List.getElem?_eq_some_iff.1 (layerAt_eq_ok.1 there)
  exact signingInput_fails layer.headerText (Nat.le_of_lt inside) based

end Envelope

namespace CompiledFlow

variable {c : CompiledFlow} {around : Surroundings} {step : Step} {e : Envelope}

theorem verify_fails {index : Nat} (based : ¬ (index = 0 ∧ step.coverage = .priorLayer)) :
    FailsOnly Error.Found (c.verify around step index e) := by
  refine (e.layerAt_fails index).bind fun layer _ => ?_
  refine (Header.decode_fails layer.headerText).bind fun header _ => ?_
  split
  · exact failsOnly_ok _
  split
  · rename_i kid _
    split
    · rename_i key _
      cases invalid : key.isInvalid with
      | true =>
          have failed : FailsOnly Error.Found (.error (.keyInvalid (.kid kid)) : Result Bool) :=
            failsOnly_error.2 trivial
          simpa [invalid] using failed
      | false =>
          simp only [Bool.false_eq_true, if_false]
          split
          · exact failsOnly_ok _
          split
          · exact failsOnly_ok _
          refine (Envelope.signingInputAt_fails based).bind fun input _ => ?_
          refine (decodeText_fails layer.signature).bind fun signature _ => ?_
          exact liftCrypto_fails _
    · exact failsOnly_error.2 trivial
  · exact failsOnly_error.2 trivial

theorem encrypt_fails : FailsOnly Error.Found (c.encrypt around step e) := by
  obtain ⟨payload, layers⟩ := e
  cases layers with
  | cons layer layers => exact failsOnly_error.2 trivial
  | nil =>
      refine (selectKey_fails _ _ _ _ _).bind fun k _ => ?_
      refine (Envelope.payloadBytes_fails _).bind fun plain _ => ?_
      refine (liftCrypto_fails _).bind fun hidden _ => ?_
      exact Envelope.replacePayload_fails _ hidden

theorem decrypt_fails : FailsOnly Error.Found (c.decrypt around step e) := by
  refine (selectKey_fails _ _ _ _ _).bind fun k _ => ?_
  refine e.payloadBytes_fails.bind fun hidden _ => ?_
  exact (liftCrypto_fails _).bind fun plain _ => failsOnly_ok _

def Baseless (step : Step) (e : Envelope) : Prop :=
  step.operation = .sign ∧ step.coverage = .priorLayer ∧ e.layers = []

theorem sign_fails (operation : step.operation = .sign) :
    FailsOnly (fun error => error.Found ∨ (error = .format (.noPriorLayer 0) ∧ Baseless step e))
      (c.sign around step e) := by
  have found {α : Type} {r : Result α} (fails : FailsOnly Error.Found r) :
      FailsOnly (fun error => error.Found ∨ (error = .format (.noPriorLayer 0) ∧ Baseless step e))
        r := fails.mono fun _ => .inl
  refine (found (selectKey_fails _ _ _ _ _)).bind fun key _ => ?_
  refine FailsOnly.bind ?_ fun pending _ => ?_
  · refine FailsOnly.bind ?_ fun input _ => failsOnly_ok _
    -- The new layer's position is the number of layers, so only the first one can lack a base.
    by_cases bare : e.layers.length = 0 ∧ step.coverage = .priorLayer
    · obtain ⟨none, binds⟩ := bare
      rw [none, binds]
      refine (found e.requirePayload_fails).bind fun payload _ => failsOnly_error.2 (.inr ⟨rfl, ?_⟩)
      exact ⟨operation, binds, List.eq_nil_of_length_eq_zero none⟩
    · exact found (Envelope.signingInput_fails _ (Nat.le_refl _) bare)
  · refine (found (liftCrypto_fails _)).bind fun signature _ => ?_
    exact (found (e.push_fails pending signature)).bind fun _ _ => failsOnly_ok _

/-- A sensible step fails on what it finds, unless it is a signature that lacks its base. -/
theorem runStep_fails (sensible : step.Sensible) :
    FailsOnly (fun error => error.Found ∨ (error = .format (.noPriorLayer 0) ∧ Baseless step e))
      (c.runStep around step e) := by
  cases operation : step.operation with
  | sign =>
      rw [runStep_sign operation, failsOnly_map]
      exact sign_fails operation
  | verify =>
      obtain ⟨index, slot, based⟩ := sensible.checks operation
      simp only [runStep, operation, slot]
      refine FailsOnly.bind ?_ fun _ _ => failsOnly_ok _
      exact (verify_fails based).mono fun _ => .inl
  | encrypt =>
      rw [runStep_encrypt operation, failsOnly_map]
      exact encrypt_fails.mono fun _ => .inl
  | decrypt =>
      rw [runStep_decrypt operation, failsOnly_map]
      exact decrypt_fails.mono fun _ => .inl

theorem run_failed_iff {error : Error} :
    c.run around e = .error error ↔ c.runSteps around c.flow.steps e = .error error := by
  rw [run, bind_eq_error]
  simp

theorem run_fails {error : Error} (failed : c.run around e = .error error) :
    error.Found ∨ (error = .format (.noPriorLayer 0) ∧ ∃ before step after between passed,
      c.flow.steps = before ++ step :: after ∧ c.runSteps around before e = .ok (between, passed) ∧
        Baseless step between) := by
  obtain ⟨before, step, after, between, passed, split, ran, failedAt⟩ :=
    runSteps_eq_error.1 (run_failed_iff.1 failed)
  have member : step ∈ c.flow.steps := by simp [split]
  rcases runStep_fails (c.sensible.sensible step member) error failedAt with
    found | ⟨same, baseless⟩
  · exact .inl found
  · exact .inr ⟨same, before, step, after, between, passed, split, ran, baseless⟩

end CompiledFlow

/-- A flow compiles exactly if it is sensible, into itself, and its first defect is reported
otherwise.  Once compiled it runs over any envelope without being found invalid, and no check of it
lacks a layer beneath the one it checks: a run that misses such a layer does so in signing over an
envelope without layers. -/
theorem Flow.compile_exact (f : Flow) (fleetId : String) (selection : Selection) :
    ((∃ c, f.compile fleetId selection = .ok c) ↔ f.Sensible) ∧
    (∀ c, f.compile fleetId selection = .ok c →
      c.flow = f ∧ c.fleetId = fleetId ∧ c.selection = selection) ∧
    (∀ error, f.compile fleetId selection = .error error ↔
      ∃ defect, f.Offends defect ∧ error = .invalidFlow f.name defect) ∧
    (∀ c, f.compile fleetId selection = .ok c → ∀ around e,
      (∀ name defect, c.run around e ≠ .error (.invalidFlow name defect)) ∧
      (∀ step ∈ c.flow.steps, step.operation = .verify → ∀ position,
        c.runStep around step e ≠ .error (.format (.noPriorLayer position))) ∧
      (∀ position, c.run around e = .error (.format (.noPriorLayer position)) →
        position = 0 ∧ ∃ before step after between passed,
          c.flow.steps = before ++ step :: after ∧
            c.runSteps around before e = .ok (between, passed) ∧
            step.operation = .sign ∧ step.coverage = .priorLayer ∧ between.layers = [])) := by
  refine ⟨⟨?_, fun sensible => ?_⟩, ?_, fun error => compile_eq_error_iff, ?_⟩
  · rintro ⟨c, compiled⟩
    exact (compile_eq_ok_iff.1 compiled).1
  · exact ⟨_, compile_eq_ok (defect?_eq_none_iff.2 sensible) fleetId selection⟩
  · intro c compiled
    exact (compile_eq_ok_iff.1 compiled).2
  · intro c compiled around e
    refine ⟨?_, ?_, ?_⟩
    · intro name defect failed
      rcases CompiledFlow.run_fails failed with found | ⟨same, -⟩
      · exact found
      · cases same
    · intro step member operation position failed
      rcases CompiledFlow.runStep_fails (c.sensible.sensible step member) _ failed with
        found | ⟨-, signs, -⟩
      · exact found
      · cases operation.symm.trans signs
    · intro position failed
      rcases CompiledFlow.run_fails failed with found | ⟨same, atSignature⟩
      · exact absurd found id
      · cases same
        exact ⟨rfl, atSignature⟩

end Countersign
