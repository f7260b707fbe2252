import Countersign.Flow.Basic
import Countersign.Keystore.Selection

/-!
# Compiled flows

Every step has to make sense: checks name a layer that can have been signed that way, everything
else appends, and only signatures bind to a prior layer.  The first defect is reported.
-/

namespace Countersign

def Step.defect? (s : Step) : Option FlowDefect :=
  match s.operation, s.slot with
  | .verify, .layer index =>
      if index = 0 ∧ s.coverage = .priorLayer then some (.nothingBeforeFirst s.name) else none
  | .verify, .append => some (.needsLayer s.name)
  | _, .layer _ => some (.mustAppend s.name)
  | .sign, .append => none
  | .encrypt, .append | .decrypt, .append =>
      if s.coverage = .priorLayer then some (.cannotBind s.name) else none

def Flow.defect? (f : Flow) : Option FlowDefect :=
  if f.name.isEmpty then some .unnamed
  else if f.steps.isEmpty then some .noSteps
  else f.steps.findSome? Step.defect?

structure CompiledFlow where
  flow : Flow
  fleetId : String
  /-- The policy by which a payload's recipient is chosen. -/
  selection : Selection
  sound : flow.defect? = none

def Flow.compile (f : Flow) (fleetId : String) (selection : Selection) : Result CompiledFlow :=
  match h : f.defect? with
  | some defect => .error (.invalidFlow f.name defect)
  | none => .ok ⟨f, fleetId, selection, h⟩

end Countersign
