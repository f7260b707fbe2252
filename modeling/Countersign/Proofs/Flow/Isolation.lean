import Countersign.Proofs.Flow.Uses
import Countersign.Proofs.Keystore.Changes

/-!
# Flows keep to their fleet

Two keystores with the same keys of a fleet are alike to the flows of that fleet.  A step that looks
its key up by role never sees a key of another fleet.  A check looks it up by id, and may find one of
another fleet where the other keystore has none, so the one check fails while the other ends the
run; but the evidence of a check that passes is there in both.
-/

namespace Countersign

/-- The keystores differ in the keys of other fleets only. -/
structure Keystore.AgreeOn (fleetId : String) (s t : Keystore) : Prop where
  selection : s.selection = t.selection
  distinct : DistinctKids s.keys
  distinct' : DistinctKids t.keys
  keys : s.keys.filter (·.fleetId == fleetId) = t.keys.filter (·.fleetId == fleetId)

namespace Keystore.AgreeOn

variable {fleetId : String} {s t : Keystore}

theorem symm (agree : AgreeOn fleetId s t) : AgreeOn fleetId t s :=
  ⟨agree.selection.symm, agree.distinct', agree.distinct, agree.keys.symm⟩

theorem selectKey_eq (agree : AgreeOn fleetId s t) (role : Role) (selection : Selection)
    (signing : Bool) :
    selectKey s.keys role fleetId selection signing =
      selectKey t.keys role fleetId selection signing := by
  rw [← selectKey_ownFleet, agree.keys, selectKey_ownFleet]

theorem keyByRole_eq (agree : AgreeOn fleetId s t) (role : Role) :
    s.keyByRole role fleetId = t.keyByRole role fleetId := by
  rw [keyByRole, keyByRole, agree.selection, agree.selectKey_eq]

theorem key?_eq_some (agree : AgreeOn fleetId s t) {kid : String} {k : Key}
    (own : k.fleetId = fleetId) (found : s.key? kid = some k) : t.key? kid = some k := by
  obtain ⟨member, named⟩ := (Keystore.key?_eq_some agree.distinct).1 found
  have ofFleet : k ∈ s.keys.filter (·.fleetId == fleetId) := by simp [member, own]
  rw [agree.keys] at ofFleet
  exact (Keystore.key?_eq_some agree.distinct').2 ⟨(List.mem_filter.1 ofFleet).1, named⟩

end Keystore.AgreeOn

namespace CompiledFlow

open Keystore (AgreeOn)

variable {c : CompiledFlow} {around : Surroundings} {t : Keystore} {e e' : Envelope}

/-! ## One step -/

theorem runStep_over_eq (agree : AgreeOn c.fleetId around.keystore t) {step : Step}
    (checkless : step.operation ≠ .verify) :
    c.runStep (around.over t) step e = c.runStep around step e := by
  have byRole := agree.keyByRole_eq step.role
  have recipient := agree.selectKey_eq step.role c.selection false
  cases operation : step.operation with
  | verify => exact absurd operation checkless
  | sign => simp only [runStep, operation, sign, Surroundings.over, byRole]
  | encrypt => simp only [runStep, operation, encrypt, Surroundings.over, recipient]
  | decrypt => simp only [runStep, operation, decrypt, Surroundings.over, byRole]

theorem runStep_over_passed (agree : AgreeOn c.fleetId around.keystore t) {step : Step}
    (passed : c.runStep around step e = .ok (e', true)) :
    c.runStep (around.over t) step e = .ok (e', true) := by
  by_cases verifies : step.operation = .verify
  · rw [runStep_verify_passed verifies] at passed ⊢
    obtain ⟨same, index, slot, ⟨v⟩⟩ := passed
    exact ⟨same, index, slot, ⟨v.over (agree.key?_eq_some v.keyFleet v.known)⟩⟩
  · rw [runStep_over_eq agree verifies, passed]

/-! ## Whole runs -/

theorem runSteps_over_eq {steps : List Step} (agree : AgreeOn c.fleetId around.keystore t)
    (checkless : ∀ step ∈ steps, step.operation ≠ .verify) :
    c.runSteps (around.over t) steps e = c.runSteps around steps e := by
  induction steps generalizing around e with
  | nil => rfl
  | cons step rest ih =>
      obtain ⟨first, others⟩ := List.forall_mem_cons.1 checkless
      have later (e : Envelope) :
          c.runSteps ((around.later 1).over t) rest e = c.runSteps (around.later 1) rest e :=
        ih agree others
      simp only [runSteps, runStep_over_eq agree first, Surroundings.over_later, later]

theorem runSteps_cons_passed {step : Step} {rest : List Step} :
    c.runSteps around (step :: rest) e = .ok (e', true) ↔
      ∃ between, c.runStep around step e = .ok (between, true) ∧
        c.runSteps (around.later 1) rest between = .ok (e', true) := by
  rw [runSteps_cons_eq_ok]
  constructor
  · rintro ⟨between, first, others, ranFirst, ranOthers, passed⟩
    obtain ⟨rfl, rfl⟩ := Bool.and_eq_true_iff.1 passed.symm
    exact ⟨between, ranFirst, ranOthers⟩
  · rintro ⟨between, ranFirst, ranOthers⟩
    exact ⟨between, true, true, ranFirst, ranOthers, rfl⟩

theorem runSteps_over_passed {steps : List Step} (agree : AgreeOn c.fleetId around.keystore t)
    (passed : c.runSteps around steps e = .ok (e', true)) :
    c.runSteps (around.over t) steps e = .ok (e', true) := by
  induction steps generalizing around e with
  | nil => exact passed
  | cons step rest ih =>
      obtain ⟨between, first, others⟩ := runSteps_cons_passed.1 passed
      have agreeLater : AgreeOn c.fleetId (around.later 1).keystore t := agree
      exact runSteps_cons_passed.2
        ⟨between, runStep_over_passed agree first, ih agreeLater others⟩

theorem checkless_of_verifies (none : c.flow.verifies = false) :
    ∀ step ∈ c.flow.steps, step.operation ≠ .verify := by
  simpa [Flow.verifies] using none

theorem run_over_eq (agree : AgreeOn c.fleetId around.keystore t)
    (checkless : ∀ step ∈ c.flow.steps, step.operation ≠ .verify) :
    c.run (around.over t) e = c.run around e := by
  simp only [run, runSteps_over_eq agree checkless]

theorem run_over_good (agree : AgreeOn c.fleetId around.keystore t) {out : Outcome}
    (good : out.verdict = none ∨ out.verdict = some true) (ran : c.run around e = .ok out) :
    c.run (around.over t) e = .ok out := by
  cases checks : c.flow.verifies with
  | false => rw [run_over_eq agree (checkless_of_verifies checks), ran]
  | true =>
      obtain ⟨⟨after, passed⟩, ranSteps, result⟩ := bind_eq_ok.1 ran
      simp only [checks, if_true, pure_eq_ok, Except.ok.injEq] at result
      subst result
      obtain rfl : passed = true := by simpa using good
      simp [run, runSteps_over_passed agree ranSteps, checks]

/-- What other fleets' keys a keystore holds has no part in a flow: they neither bring about a good
outcome nor prevent one, they do not show at all where nothing is checked, and every step that goes
through does so by a single key, which is one of the flow's fleet. -/
theorem run_isolated (agree : AgreeOn c.fleetId around.keystore t) (e : Envelope) :
    (∀ out : Outcome, out.verdict = none ∨ out.verdict = some true →
      (c.run around e = .ok out ↔ c.run (around.over t) e = .ok out)) ∧
    ((∀ step ∈ c.flow.steps, step.operation ≠ .verify) →
      c.run around e = c.run (around.over t) e) ∧
    (∀ steps step between,
      (∀ k, c.Uses (around.later steps) between step k → k.fleetId = c.fleetId) ∧
      ∀ after, c.runStep (around.later steps) step between = .ok (after, true) →
        ∃ k ∈ around.keystore.keys, c.Uses (around.later steps) between step k ∧
          c.runStep ((around.later steps).over (around.keystore.only k)) step between =
            .ok (after, true)) := by
  refine ⟨fun out good => ⟨run_over_good agree good, ?_⟩,
    fun checkless => (run_over_eq agree checkless).symm, fun steps step between => ?_⟩
  · have back : AgreeOn c.fleetId (around.over t).keystore around.keystore := agree.symm
    exact run_over_good back good
  · refine ⟨fun k uses => uses.fleet, fun after passed => ?_⟩
    obtain ⟨k, uses⟩ := uses_of_passed passed
    exact ⟨k, uses.held, uses, uses.alone.trans passed⟩

/-! ## A keystore with strangers -/

def ownKey : Key := ⟨"own", "fleet", List.replicate 32 7, none, .canSign⟩

def stranger (kid : String) : Key := ⟨kid, "elsewhere", List.replicate 32 9, none, .canSign⟩

noncomputable def amongItsOwn : Surroundings where
  suite := Crypto.Suite.curve25519.idealized
  keystore := { Keystore.new "keys" .mostRecent none with keys := [ownKey] }
  moment := fun step => ⟨Int64.ofNat step, Block.takePad 32 [], Block.takePad 12 []⟩

def amongStrangers : Keystore :=
  { Keystore.new "keys" .mostRecent none with keys := [stranger "a", ownKey, stranger "b"] }

def signThenCheck : CompiledFlow where
  flow := ⟨"SignThenCheck", [.sign "sign" .unassigned, .verify "check" .unassigned 0]⟩
  fleetId := "fleet"
  selection := .mostRecent
  sound := by decide

theorem signThenCheck_ran :
    ∃ e, signThenCheck.run amongItsOwn (Envelope.new [104, 105]) = .ok ⟨e, some true⟩ := by
  have start := Envelope.wellFormed_new [104, 105]
  have chosen : amongItsOwn.keystore.keyByRole .unassigned "fleet" = .ok ownKey := rfl
  have seedOf : ownKey.seed = .ok ⟨List.replicate 32 7, rfl⟩ := rfl
  obtain ⟨e, signs⟩ : ∃ e, signThenCheck.sign amongItsOwn (.sign "sign" .unassigned)
      (Envelope.new [104, 105]) = .ok e :=
    sign_succeeds chosen (by decide) seedOf (by decide) (by decide)
  obtain ⟨-, -, -, signer, chosen', signed⟩ := sign_eq_ok start signs
  cases chosen.symm.trans chosen'
  have checksFor : ownKey.ChecksFor Crypto.Suite.curve25519.idealized ownKey :=
    ⟨by decide, rfl, rfl, ⟨List.replicate 32 7, rfl⟩, rfl, .inr ⟨rfl, rfl⟩⟩
  have evidence : Nonempty (signThenCheck.Evidence (amongItsOwn.later 1)
      (.verify "check" .unassigned 0) 0 e) :=
    signed.evidence Crypto.Suite.curve25519.honest_idealized rfl rfl checksFor rfl rfl rfl
  have ran : signThenCheck.runSteps amongItsOwn signThenCheck.flow.steps (Envelope.new [104, 105]) =
      .ok (e, true) := by
    refine runSteps_cons_passed.2 ⟨e, ?_, runSteps_cons_passed.2 ⟨e, ?_, rfl⟩⟩
    · exact bind_eq_ok.2 ⟨e, signs, rfl⟩
    · exact (runStep_verify_passed rfl).2 ⟨rfl, 0, rfl, evidence⟩
  have verdict : signThenCheck.flow.verifies = true := rfl
  exact ⟨e, by simp [run, ran, verdict]⟩

theorem amongStrangers_isolated :
    ∃ e, signThenCheck.run amongItsOwn (Envelope.new [104, 105]) = .ok ⟨e, some true⟩ ∧
      signThenCheck.run (amongItsOwn.over amongStrangers) (Envelope.new [104, 105]) =
        .ok ⟨e, some true⟩ := by
  have agree : AgreeOn "fleet" amongItsOwn.keystore amongStrangers :=
    ⟨rfl, by decide, by decide, by decide⟩
  obtain ⟨e, ran⟩ := signThenCheck_ran
  obtain ⟨same, -⟩ := run_isolated (c := signThenCheck) agree (Envelope.new [104, 105])
  exact ⟨e, ran, (same _ (.inr rfl)).1 ran⟩

end CompiledFlow

end Countersign
