import Countersign.Proofs.Flow.Splitting

/-!
# Layers on top do not disturb what is beneath

A check looks at one layer, at the payload and perhaps at the layer beneath, and none of these
change when more layers are put on top.  So a flow that only checks comes to the same on the longer
envelope, unless it asks for a layer that the shorter one does not have.
-/

namespace Countersign

open CompiledFlow

/-! ## Putting layers on top -/

/-- The second envelope comes of the first one by layers that are put on top of it, on any nodes;
it may be sent on in between. -/
inductive Envelope.Appended (e : Envelope) : Envelope → Prop where
  | refl : Appended e e
  | append {f g : Envelope} {header : Header} {signature : Bytes} {index : Nat} :
      Appended e f → f.append header signature = .ok (g, index) → Appended e g
  | push {f g : Envelope} {pending : Prepared} {signature : Bytes} {index : Nat} :
      Appended e f → f.push pending.val signature = .ok (g, index) → Appended e g
  | sign {f g : Envelope} {c : CompiledFlow} {around : Surroundings} {step : Step}
      {passed : Bool} :
      Appended e f → step.operation = .sign → c.runStep around step f = .ok (g, passed) →
        Appended e g
  | sent {f g : Envelope} : Appended e f → parse f.text = .ok g → Appended e g

theorem Envelope.Appended.of_prepared {e e' : Envelope} {header : Header} {coverage : Coverage}
    {pending : PendingLayer} (prepared : e.prepare header coverage = .ok pending)
    {signature : Bytes} {index : Nat} (pushes : e.push pending signature = .ok (e', index)) :
    e.Appended e' := by
  let asPrepared : Prepared := ⟨pending, e, header, coverage, prepared⟩
  have pushed : e.push asPrepared.val signature = .ok (e', index) := pushes
  exact .push .refl pushed

theorem Envelope.Appended.extends {e e' : Envelope} (wellFormed : e.WellFormed)
    (appended : e.Appended e') : e'.WellFormed ∧ e.Extends e' := by
  induction appended with
  | refl => exact ⟨wellFormed, .refl e⟩
  | append _ appends ih =>
      obtain ⟨good, grown⟩ := ih
      obtain ⟨-, rfl, -⟩ := addLayer_eq_ok.1 appends
      exact ⟨good.withLayer (layer_wellFormed _ _), grown.trans (extends_layer _ _)⟩
  | @push _ _ pending signature _ _ pushes ih =>
      obtain ⟨good, grown⟩ := ih
      obtain ⟨-, rfl, -⟩ := addLayer_eq_ok.1 pushes
      have layer := Command.layer_wellFormed (c := .push pending signature) rfl
      exact ⟨good.withLayer layer, grown.trans (extends_layer _ _)⟩
  | sign _ operation ran ih =>
      obtain ⟨good, grown⟩ := ih
      rw [runStep_sign operation] at ran
      obtain ⟨_, signs, made⟩ := map_eq_ok.1 ran
      cases made
      obtain ⟨goodOn, grownOn, -⟩ := sign_eq_ok good signs
      exact ⟨goodOn, grown.trans grownOn⟩
  | sent _ reads ih =>
      obtain ⟨good, grown⟩ := ih
      cases (parse_text good).symm.trans reads
      exact ⟨good, grown⟩

/-! ## Checks beneath -/

namespace CompiledFlow

variable {c : CompiledFlow} {around : Surroundings} {e e' : Envelope}

theorem verify_extends (grown : e.Extends e') {index : Nat} (inside : index < e.layers.length)
    (step : Step) : c.verify around step index e' = c.verify around step index e := by
  simp only [verify, grown.layerAt_eq inside, grown.signingInputAt_eq inside]

/-- A check comes to what it came to before, unless there was no such layer. -/
theorem Checks.extends (grown : e.Extends e') {step : Step} {result : Result Bool}
    (check : c.Checks around e step result)
    (addressed : ∀ index count, result ≠ .error (.layerIndex index count)) :
    c.Checks around e' step result := by
  obtain ⟨index, slot, rfl⟩ := check
  have inside : index < e.layers.length := by
    by_contra outside
    exact addressed _ _ (verify_outside (Nat.le_of_not_lt outside) step)
  exact ⟨index, slot, verify_extends grown inside step⟩

theorem Checks.extends_ok (grown : e.Extends e') {step : Step} {passed : Bool}
    (check : c.Checks around e step (.ok passed)) : c.Checks around e' step (.ok passed) :=
  check.extends grown (by simp)

theorem run_extends_ok (grown : e.Extends e') (verifies : ∀ s ∈ c.flow.steps, s.operation = .verify)
    {out : Outcome} (ran : c.run around e = .ok out) :
    c.run around e' = .ok ⟨e', out.verdict⟩ := by
  rcases run_cases verifies around e with ⟨passed, ran', made, passes⟩ | ⟨error, ran', -⟩
  · cases ran.symm.trans ran'
    cases passed with
    | true =>
        exact (run_eq_true_iff verifies).2 fun s hs => (passes.1 rfl s hs).extends_ok grown
    | false =>
        obtain ⟨-, failing, member, failed⟩ := (run_eq_false_iff verifies).1 ran
        refine (run_eq_false_iff verifies).2
          ⟨fun s hs => ?_, failing, member, failed.extends_ok grown⟩
        obtain ⟨passed, check⟩ := made s hs
        exact ⟨passed, check.extends_ok grown⟩
  · cases ran.symm.trans ran'

theorem run_extends_error (grown : e.Extends e')
    (verifies : ∀ s ∈ c.flow.steps, s.operation = .verify) {error : Error}
    (failed : c.run around e = .error error)
    (addressed : ∀ index count, error ≠ .layerIndex index count) :
    c.run around e' = .error error := by
  obtain ⟨before, step, after, split, made, first⟩ := (run_eq_error_iff verifies error).1 failed
  refine (run_eq_error_iff verifies error).2 ⟨before, step, after, split, fun s hs => ?_,
    first.extends grown fun index count same => addressed index count (Except.error.inj same)⟩
  obtain ⟨passed, check⟩ := made s hs
  exact ⟨passed, check.extends_ok grown⟩

end CompiledFlow

/-- Layers that are put on an envelope change no verdict and no error of a flow that only checks,
but for the error of asking for a layer that was not there.  The bytes that a layer was prepared to
be signed over, on an envelope that is as it was when the layer is pushed, are found again at its
index from then on. -/
theorem Envelope.Reachable.checked_beneath {e : Envelope} (reachable : e.Reachable) :
    (∀ e', e.Appended e' → ∀ (c : CompiledFlow) (around : Surroundings),
      (∀ step ∈ c.flow.steps, step.operation = .verify) →
        (∀ out, c.run around e = .ok out → c.run around e' = .ok ⟨e', out.verdict⟩) ∧
        ∀ error, c.run around e = .error error →
          (∀ index count, error ≠ .layerIndex index count) → c.run around e' = .error error) ∧
    ∀ header coverage pending, e.prepare header coverage = .ok pending →
      ∀ between : List Command, (e.performAll between).payload = e.payload →
        (e.performAll between).layers.length = e.layers.length →
          ∀ signature pushed index,
            (e.performAll between).push pending signature = .ok (pushed, index) →
              ∀ later, pushed.Appended later →
                later.signingInputAt index coverage = .ok pending.signingInput := by
  constructor
  · intro e' appended c around verifies
    obtain ⟨-, grown⟩ := appended.extends reachable.wellFormed
    exact ⟨fun out ran => run_extends_ok grown verifies ran,
      fun error failed addressed => run_extends_error grown verifies failed addressed⟩
  · intro header coverage pending prepared between payload count signature pushed index pushes later
      appended
    rw [performAll_eq_self payload count] at pushes
    obtain ⟨good, -⟩ := (Appended.of_prepared prepared pushes).extends reachable.wellFormed
    obtain ⟨-, grown⟩ := appended.extends good
    exact signingInputAt_mono grown (signingInputAt_pushed prepared pushes).2

/-- A layer is checked before and after another one is pushed onto it. -/
theorem signedAlone_checked_beneath :
    ∃ e pending pushed, checkAlone.run (amongItsOwn.later 1) e = .ok ⟨e, some true⟩ ∧
      e.prepare Header.empty .priorLayer = .ok pending ∧ e.push pending [7] = .ok (pushed, 1) ∧
      checkAlone.run (amongItsOwn.later 1) pushed = .ok ⟨pushed, some true⟩ ∧
      pushed.signingInputAt 1 .priorLayer = .ok pending.signingInput := by
  obtain ⟨_, signs, checks⟩ := signAlone_then_checkAlone
  have start := Envelope.wellFormed_new [104, 105]
  rw [run_single rfl, runStep_sign rfl] at signs
  obtain ⟨⟨e, passed⟩, ran, made⟩ := map_eq_ok.1 signs
  cases made
  obtain ⟨_, signed, paired⟩ := map_eq_ok.1 ran
  cases paired
  obtain ⟨good, grown, length, -⟩ := sign_eq_ok start signed
  have held : e.payload ≠ none := by simp [grown.payload, Envelope.new]
  have single : e.layers.length = 1 := length
  obtain ⟨input, covered⟩ : ∃ input,
      e.signingInput Header.empty.encode e.layers.length .priorLayer = .ok input :=
    Envelope.signingInput_succeeds held _ (by simp [single])
  have prepares : e.prepare Header.empty .priorLayer = .ok ⟨Header.empty.encode, input⟩ := by
    rw [Envelope.prepare, covered]
    rfl
  have pushes := Envelope.addLayer_some held Header.empty.encode [7]
  rw [single] at pushes
  obtain ⟨beneath, prepared⟩ := Envelope.Reachable.checked_beneath good.reachable
  obtain ⟨checked, -⟩ := beneath _ (.of_prepared prepares pushes) checkAlone (amongItsOwn.later 1)
    (by decide)
  exact ⟨e, _, _, checks, prepares, pushes, checked _ checks,
    prepared _ _ _ prepares [] rfl rfl _ _ _ pushes _ .refl⟩

end Countersign
