import Countersign.Flow.Compile
import Countersign.Proofs.Results

/-!
# Which flows compile

A flow compiles exactly if it is sensible, and otherwise the first of its defects is reported: those
of the flow as a whole before those of its steps, and of the steps in their order.
-/

namespace Countersign

/-! ## Steps -/

/-- Checks name a layer, and one that can have a layer beneath it if they ask for that; everything
else appends; only signatures and their checks bind to a prior layer. -/
structure Step.Sensible (s : Step) : Prop where
  checks : s.operation = .verify →
    ∃ index, s.slot = .layer index ∧ ¬ (index = 0 ∧ s.coverage = .priorLayer)
  appends : s.operation ≠ .verify → s.slot = .append
  unbound : s.operation = .encrypt ∨ s.operation = .decrypt → s.coverage ≠ .priorLayer

inductive Step.Offends (s : Step) : FlowDefect → Prop where
  | unplaced : s.operation = .verify → s.slot = .append → s.Offends (.needsLayer s.name)
  | baseless : s.operation = .verify → s.slot = .layer 0 → s.coverage = .priorLayer →
      s.Offends (.nothingBeforeFirst s.name)
  | consuming {index : Nat} : s.operation ≠ .verify → s.slot = .layer index →
      s.Offends (.mustAppend s.name)
  | binding : s.operation = .encrypt ∨ s.operation = .decrypt → s.slot = .append →
      s.coverage = .priorLayer → s.Offends (.cannotBind s.name)

theorem Step.defect?_eq_some {s : Step} {defect : FlowDefect} :
    s.defect? = some defect ↔ s.Offends defect := by
  constructor
  · intro found
    unfold Step.defect? at found
    split at found
    · rename_i index operation slot
      split at found
      · rename_i baseless
        obtain ⟨rfl, coverage⟩ := baseless
        cases found
        exact .baseless operation slot coverage
      · cases found
    · rename_i operation slot
      cases found
      exact .unplaced operation slot
    · rename_i slot operation
      cases found
      exact .consuming operation slot
    · cases found
    · rename_i operation slot
      split at found
      · rename_i coverage
        cases found
        exact .binding (.inl operation) slot coverage
      · cases found
    · rename_i operation slot
      split at found
      · rename_i coverage
        cases found
        exact .binding (.inr operation) slot coverage
      · cases found
  · rintro (⟨operation, slot⟩ | ⟨operation, slot, coverage⟩ | ⟨operation, slot⟩ |
      ⟨operation | operation, slot, coverage⟩)
    · simp [Step.defect?, operation, slot]
    · simp [Step.defect?, operation, slot, coverage]
    · cases kind : s.operation with
      | verify => exact absurd kind operation
      | _ => simp [Step.defect?, kind, slot]
    · simp [Step.defect?, operation, slot, coverage]
    · simp [Step.defect?, operation, slot, coverage]

theorem Step.sensible_iff {s : Step} : s.Sensible ↔ ∀ defect, ¬ s.Offends defect := by
  constructor
  · rintro sensible defect (⟨operation, slot⟩ | ⟨operation, slot, coverage⟩ | ⟨operation, slot⟩ |
      ⟨operation, slot, coverage⟩)
    · obtain ⟨index, placed, -⟩ := sensible.checks operation
      cases slot.symm.trans placed
    · obtain ⟨index, placed, based⟩ := sensible.checks operation
      cases slot.symm.trans placed
      exact based ⟨rfl, coverage⟩
    · cases slot.symm.trans (sensible.appends operation)
    · exact sensible.unbound operation coverage
  · intro none
    have appends : s.operation ≠ .verify → s.slot = .append := by
      intro operation
      cases slot : s.slot with
      | append => rfl
      | layer index => exact absurd (.consuming operation slot) (none _)
    refine ⟨fun operation => ?_, appends, fun operation coverage => ?_⟩
    · cases slot : s.slot with
      | append => exact absurd (.unplaced operation slot) (none _)
      | layer index =>
          refine ⟨index, rfl, ?_⟩
          rintro ⟨rfl, coverage⟩
          exact none _ (.baseless operation slot coverage)
    · have slot : s.slot = .append := by
        rcases operation with operation | operation <;> exact appends (by simp [operation])
      exact none _ (.binding operation slot coverage)

theorem Step.defect?_eq_none {s : Step} : s.defect? = none ↔ s.Sensible := by
  simp only [Option.eq_none_iff_forall_ne_some, ne_eq, Step.defect?_eq_some, Step.sensible_iff]

/-! ## Flows -/

structure Flow.Sensible (f : Flow) : Prop where
  named : f.name ≠ ""
  filled : f.steps ≠ []
  sensible : ∀ step ∈ f.steps, step.Sensible

/-- The defect that is found first: an empty name, then a lack of steps, then what the first step
that is not sensible offends by. -/
inductive Flow.Offends (f : Flow) : FlowDefect → Prop where
  | unnamed : f.name = "" → f.Offends .unnamed
  | noSteps : f.name ≠ "" → f.steps = [] → f.Offends .noSteps
  | step {before after : List Step} {s : Step} {defect : FlowDefect} : f.name ≠ "" →
      f.steps = before ++ s :: after → (∀ t ∈ before, t.Sensible) → s.Offends defect →
        f.Offends defect

theorem Flow.defect?_eq_none {f : Flow} (named : f.name ≠ "") (filled : f.steps ≠ [])
    (sound : ∀ step ∈ f.steps, step.defect? = none) : f.defect? = none := by
  have hasName : f.name.isEmpty = false := by simpa using named
  have hasSteps : f.steps.isEmpty = false := by simpa using filled
  rw [Flow.defect?, hasName, hasSteps]
  simpa using sound

theorem Flow.defect?_eq_none_iff {f : Flow} : f.defect? = none ↔ f.Sensible := by
  constructor
  · intro sound
    unfold Flow.defect? at sound
    split at sound
    · cases sound
    rename_i named
    split at sound
    · cases sound
    rename_i filled
    rw [List.findSome?_eq_none_iff] at sound
    exact ⟨by simpa using named, by simpa using filled,
      fun step member => Step.defect?_eq_none.1 (sound step member)⟩
  · rintro ⟨named, filled, sensible⟩
    exact Flow.defect?_eq_none named filled fun step member =>
      Step.defect?_eq_none.2 (sensible step member)

theorem Flow.defect?_eq_some {f : Flow} {defect : FlowDefect} :
    f.defect? = some defect ↔ f.Offends defect := by
  unfold Flow.defect?
  split
  · rename_i unnamed
    have empty : f.name = "" := by simpa using unnamed
    constructor
    · intro found
      cases found
      exact .unnamed empty
    · rintro (- | ⟨named, -⟩ | ⟨named, -⟩)
      · rfl
      · exact absurd empty named
      · exact absurd empty named
  rename_i unnamed
  have named : f.name ≠ "" := by simpa using unnamed
  split
  · rename_i unfilled
    have empty : f.steps = [] := by simpa using unfilled
    constructor
    · intro found
      cases found
      exact .noSteps named empty
    · rintro (nameless | - | ⟨-, split⟩)
      · exact absurd nameless named
      · rfl
      · simp [split] at empty
  rename_i unfilled
  have filled : f.steps ≠ [] := by simpa using unfilled
  rw [List.findSome?_eq_some_iff]
  constructor
  · rintro ⟨before, s, after, split, found, sound⟩
    exact .step named split (fun t member => Step.defect?_eq_none.1 (sound t member))
      (Step.defect?_eq_some.1 found)
  · rintro (nameless | ⟨-, empty⟩ | ⟨-, split, sensible, offends⟩)
    · exact absurd nameless named
    · exact absurd empty filled
    · exact ⟨_, _, _, split, Step.defect?_eq_some.2 offends,
        fun t member => Step.defect?_eq_none.2 (sensible t member)⟩

theorem Flow.compile_eq_ok {f : Flow} (sound : f.defect? = none) (fleetId : String)
    (selection : Selection) :
    f.compile fleetId selection = .ok ⟨f, fleetId, selection, sound⟩ := by
  unfold Flow.compile
  split
  · rename_i defect found
    cases sound.symm.trans found
  · rfl

theorem Flow.compile_eq_error {f : Flow} {defect : FlowDefect} (found : f.defect? = some defect)
    (fleetId : String) (selection : Selection) :
    f.compile fleetId selection = .error (.invalidFlow f.name defect) := by
  unfold Flow.compile
  split
  · rename_i other also
    cases found.symm.trans also
    rfl
  · rename_i sound
    cases found.symm.trans sound

theorem Flow.compile_eq_ok_iff {f : Flow} {fleetId : String} {selection : Selection}
    {c : CompiledFlow} :
    f.compile fleetId selection = .ok c ↔
      f.Sensible ∧ c.flow = f ∧ c.fleetId = fleetId ∧ c.selection = selection := by
  rw [← Flow.defect?_eq_none_iff]
  cases found : f.defect? with
  | none =>
      rw [Flow.compile_eq_ok found]
      constructor
      · rintro ⟨⟩
        exact ⟨rfl, rfl, rfl, rfl⟩
      · obtain ⟨flow, fleet, policy, sound⟩ := c
        rintro ⟨-, rfl, rfl, rfl⟩
        rfl
  | some defect => simp [Flow.compile_eq_error found]

theorem Flow.compile_eq_error_iff {f : Flow} {fleetId : String} {selection : Selection}
    {error : Error} :
    f.compile fleetId selection = .error error ↔
      ∃ defect, f.Offends defect ∧ error = .invalidFlow f.name defect := by
  simp only [← Flow.defect?_eq_some]
  cases found : f.defect? with
  | none => simp [Flow.compile_eq_ok found]
  | some defect => simp [Flow.compile_eq_error found, eq_comm]

theorem CompiledFlow.sensible (c : CompiledFlow) : c.flow.Sensible :=
  Flow.defect?_eq_none_iff.1 c.sound

end Countersign
