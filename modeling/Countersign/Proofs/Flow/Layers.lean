import Countersign.Proofs.Flow.Sealing
import Countersign.Proofs.Flow.Verdict
import Mathlib.Data.List.DropRight
import Mathlib.Data.List.Forall2

/-!
# The layers that a run leaves

Opening is the only step that takes layers away, and it takes all of them.  What a run leaves is
thus what the envelope came with, if no step opened it, and one layer for each signing step after
the last opening, in their order.  Sealing is for envelopes without layers, so the payload beneath a
layer stays what was signed.
-/

namespace Countersign.CompiledFlow

variable {c : CompiledFlow} {around : Surroundings} {step : Step} {steps : List Step}
  {e e' : Envelope} {passed : Bool}

/-! ## Steps whose layers last -/

/-- The signing steps after the last one that opens, with their positions. -/
def lastingSigns (steps : List Step) : List (Step × Nat) :=
  (steps.zipIdx.rtakeWhile fun s => s.1.operation != .decrypt).filter fun s =>
    s.1.operation == .sign

def keptLayers (steps : List Step) (e : Envelope) : List Layer :=
  if steps.any (·.operation == .decrypt) then [] else e.layers

theorem lastingSigns_concat (steps : List Step) (step : Step) :
    lastingSigns (steps ++ [step]) =
      match step.operation with
      | .decrypt => []
      | .sign => lastingSigns steps ++ [(step, steps.length)]
      | .verify | .encrypt => lastingSigns steps := by
  have positions : (steps ++ [step]).zipIdx = steps.zipIdx ++ [(step, steps.length)] := by
    simp [List.zipIdx_append]
  rw [lastingSigns, positions, List.rtakeWhile_concat]
  cases operation : step.operation <;> simp [lastingSigns, operation]

theorem keptLayers_concat (steps : List Step) (step : Step) (e : Envelope) :
    keptLayers (steps ++ [step]) e =
      if step.operation = .decrypt then [] else keptLayers steps e := by
  by_cases opens : step.operation = .decrypt <;> simp [keptLayers, opens]

/-- No signing step lasts where the steps open and do not sign afterwards, or do neither. -/
theorem lastingSigns_eq_nil (unsigned : lastingSigns steps = []) :
    (∃ before opening after, steps = before ++ opening :: after ∧ opening.operation = .decrypt ∧
        ∀ s ∈ after, s.operation ≠ .sign) ∨
      ∀ s ∈ steps, s.operation ≠ .sign ∧ s.operation ≠ .decrypt := by
  induction steps using List.reverseRecOn with
  | nil => exact .inr fun s member => absurd member List.not_mem_nil
  | append_singleton steps step ih =>
      rw [lastingSigns_concat] at unsigned
      by_cases opens : step.operation = .decrypt
      · exact .inl ⟨steps, step, [], rfl, opens, fun s member => absurd member List.not_mem_nil⟩
      · have signless : step.operation ≠ .sign := by
          intro signs
          simp [signs] at unsigned
        have before : lastingSigns steps = [] := by
          cases operation : step.operation <;> simp_all
        obtain ⟨first, opening, last, rfl, isOpening, between⟩ | neither := ih before
        · refine .inl ⟨first, opening, last ++ [step], by simp, isOpening, fun s member => ?_⟩
          obtain member | rfl := by simpa using member
          · exact between s member
          · exact signless
        · refine .inr fun s member => ?_
          obtain member | rfl := by simpa using member
          · exact neither s member
          · exact ⟨signless, opens⟩

theorem getElem?_concat_eq_some {α : Type} {items : List α} {item found : α} {i : Nat}
    (there : (items ++ [item])[i]? = some found) :
    items[i]? = some found ∨ i = items.length ∧ found = item := by
  obtain before | past := Nat.lt_or_ge i items.length
  · rw [List.getElem?_append_left before] at there
    exact .inl there
  · rw [List.getElem?_append_right past] at there
    obtain ⟨last, rfl⟩ := List.getElem?_eq_some_iff.1 there
    rw [List.length_singleton] at last
    exact .inr ⟨by omega, by simp⟩

/-! ## Runs -/

/-- The layer says that it was made for the step's role and the flow's fleet, by the key that was
chosen, when the step ran. -/
def Signs (c : CompiledFlow) (around : Surroundings) (step : Step) (layer : Layer) : Prop :=
  ∃ signer, around.keystore.keyByRole step.role c.fleetId = .ok signer ∧
    layer.header = .ok (Header.signed signer.kid c.fleetId around.suite.algorithm step.role
      (around.moment 0).now)

structure Leaves (c : CompiledFlow) (around : Surroundings) (steps : List Step)
    (e e' : Envelope) : Prop where
  layers : ∃ made, e'.layers = keptLayers steps e ++ made ∧
    List.Forall₂ (fun s layer => c.Signs (around.later s.2) s.1 layer) (lastingSigns steps) made
  signed : ∀ {i step position}, (lastingSigns steps)[i]? = some (step, position) →
    ∃ signer, SignedAt around.suite signer step ((keptLayers steps e).length + i) e'

theorem Leaves.of_none (kept : keptLayers steps e = []) (lasting : lastingSigns steps = [])
    (bare : e'.layers = []) : c.Leaves around steps e e' where
  layers := ⟨[], by rw [bare, kept, List.append_nil], lasting ▸ .nil⟩
  signed there := by simp [lasting] at there

theorem Leaves.none_of_bare (leaves : c.Leaves around steps e e') (bare : e'.layers = []) :
    keptLayers steps e = [] ∧ lastingSigns steps = [] := by
  obtain ⟨made, layers, signs⟩ := leaves.layers
  rw [bare] at layers
  obtain ⟨kept, rfl⟩ := List.append_eq_nil_iff.1 layers.symm
  exact ⟨kept, List.forall₂_nil_right_iff.1 signs⟩

theorem Leaves.snoc (leaves : c.Leaves around steps e e') {after : Envelope}
    (effect : c.Effect (around.later steps.length) step e' after passed) :
    c.Leaves around (steps ++ [step]) e after := by
  obtain ⟨made, layers, signs⟩ := leaves.layers
  cases effect with
  | checked operation =>
      have kept : keptLayers (steps ++ [step]) e = keptLayers steps e := by
        simp [keptLayers_concat, operation]
      have lasting : lastingSigns (steps ++ [step]) = lastingSigns steps := by
        simp [lastingSigns_concat, operation]
      exact ⟨by rw [kept, lasting]; exact leaves.layers, by rw [kept, lasting]; exact leaves.signed⟩
  | @signed signer layer operation chosen header signed =>
      have kept : keptLayers (steps ++ [step]) e = keptLayers steps e := by
        simp [keptLayers_concat, operation]
      have lasting : lastingSigns (steps ++ [step]) =
          lastingSigns steps ++ [(step, steps.length)] := by
        simp [lastingSigns_concat, operation]
      have position : e'.layers.length =
          (keptLayers steps e).length + (lastingSigns steps).length := by
        rw [layers, List.length_append, signs.length_eq]
      refine ⟨⟨made ++ [layer], ?_, ?_⟩, fun {i s p} there => ?_⟩
      · simp only [kept, layers, List.append_assoc]
      · rw [lasting]
        exact List.rel_append signs (.cons ⟨signer, chosen, header⟩ .nil)
      · rw [lasting] at there
        rw [kept]
        obtain earlier | ⟨rfl, last⟩ := getElem?_concat_eq_some there
        · obtain ⟨signer, signed⟩ := leaves.signed earlier
          exact ⟨signer, signed.mono ⟨rfl, List.prefix_append _ _⟩⟩
        · cases last
          rw [← position]
          exact ⟨signer, signed⟩
  | hidden operation bare =>
      -- Sealing found no layers, so the steps before it kept none and left none.
      obtain ⟨kept, lasting⟩ := leaves.none_of_bare bare
      refine .of_none ?_ ?_ rfl
      · simp [keptLayers_concat, operation, kept]
      · simp [lastingSigns_concat, operation, lasting]
  | opened operation =>
      refine .of_none ?_ ?_ rfl
      · simp [keptLayers_concat, operation]
      · simp [lastingSigns_concat, operation]

theorem runSteps_leaves (ran : c.runSteps around steps e = .ok (e', passed)) :
    c.Leaves around steps e e' := by
  -- The step taken last decides which of the earlier signatures last.
  induction steps using List.reverseRecOn generalizing e' passed with
  | nil =>
      cases ran
      exact ⟨⟨[], by simp [keptLayers], .nil⟩, fun there => by simp [lastingSigns] at there⟩
  | append_singleton steps step ih =>
      obtain ⟨between, _, _, ranBefore, ranLast, -⟩ := runSteps_append_eq_ok.1 ran
      obtain ⟨_, _, _, ranStep, ended, -⟩ := runSteps_cons_eq_ok.1 ranLast
      cases ended
      exact (ih ranBefore).snoc (runStep_effect ranStep)

/-- Where the steps leave no layer, the last opening is not followed by a signature, or the envelope
came without layers and got none. -/
theorem Leaves.bare_cases (leaves : c.Leaves around steps e e') (bare : e'.layers = []) :
    (∃ first opening last, steps = first ++ opening :: last ∧ opening.operation = .decrypt ∧
        ∀ s ∈ last, s.operation ≠ .sign) ∨
      e.layers = [] ∧ ∀ s ∈ steps, s.operation ≠ .sign := by
  obtain ⟨kept, lasting⟩ := leaves.none_of_bare bare
  obtain opened | neither := lastingSigns_eq_nil lasting
  · exact .inl opened
  · have closed : steps.any (·.operation == .decrypt) = false := by
      rw [List.any_eq_false]
      intro s member opens
      exact (neither s member).2 (beq_iff_eq.1 opens)
    have bareBefore : e.layers = [] := by
      simpa only [keptLayers, closed, Bool.false_eq_true, if_false] using kept
    exact .inr ⟨bareBefore, fun s member => (neither s member).1⟩

/-- The effect of a run on the envelope.  Its layers are those it came with, unless a step opened
it, and one for each signing step after the last opening; without sealing and opening the payload is
as it was, and checks alone leave everything as it was.  At every point of the run, the layers of
the working envelope and the payload beneath them stay to the end if no later step opens; and a
sealing step finds no layers. -/
theorem run_leaves {out : Outcome} (ran : c.run around e = .ok out) :
    c.Leaves around c.flow.steps e out.envelope ∧
      ((∀ s ∈ c.flow.steps, s.operation ≠ .encrypt ∧ s.operation ≠ .decrypt) →
        out.envelope.payload = e.payload) ∧
      ((∀ s ∈ c.flow.steps, s.operation = .verify) → out.envelope = e) ∧
      ∀ before after, c.flow.steps = before ++ after → ∃ between passed,
        c.runSteps around before e = .ok (between, passed) ∧
        ((∀ s ∈ after, s.operation ≠ .decrypt) →
          between.layers <+: out.envelope.layers ∧
            (between.layers ≠ [] → out.envelope.payload = between.payload)) ∧
        ∀ seals ∈ after.head?, seals.operation = .encrypt →
          between.layers = [] ∧
            ((∃ first opening last, before = first ++ opening :: last ∧
                opening.operation = .decrypt ∧ ∀ s ∈ last, s.operation ≠ .sign) ∨
              e.layers = [] ∧ ∀ s ∈ before, s.operation ≠ .sign) := by
  obtain ⟨passed, ranSteps, -⟩ := run_eq_ok.1 ran
  refine ⟨runSteps_leaves ranSteps, fun leaves => runSteps_payload leaves ranSteps,
    fun verifies => (run_ok_envelope verifies ran).1, fun before after split => ?_⟩
  rw [split] at ranSteps
  obtain ⟨between, first, _, ranBefore, ranAfter, -⟩ := runSteps_append_eq_ok.1 ranSteps
  refine ⟨between, first, ranBefore, fun closed => runSteps_keeps closed ranAfter,
    fun step next operation => ?_⟩
  obtain ⟨rest, rfl⟩ := List.head?_eq_some_iff.1 next
  obtain ⟨_, _, _, ranStep, -, -⟩ := runSteps_cons_eq_ok.1 ranAfter
  have bare : between.layers = [] := by
    cases runStep_effect ranStep with
    | hidden _ bare => exact bare
    | checked verifies => simp [operation] at verifies
    | signed signs => simp [operation] at signs
    | opened opens => simp [operation] at opens
  exact ⟨bare, (runSteps_leaves ranBefore).bare_cases bare⟩

/-! ## A run with every kind of signing step -/

/-- The first signature goes when the payload is opened, and the other two last. -/
def resignFlow : CompiledFlow where
  flow := ⟨"Resign", [.encrypt "seal" .fleetEncryption, .sign "over-sealed" .fleetEncryption,
    .decrypt "open" .fleetEncryption, .sign "over-plain" .fleetEncryption,
    .cosign "over-layer" .fleetEncryption]⟩
  fleetId := "fleet"
  selection := .firstFound
  sound := by decide

private theorem holderSigns :
    holderNode.keystore.keyByRole .fleetEncryption "fleet" = .ok holder := rfl

private theorem resignFlow_signs {around : Surroundings}
    (held : around.keystore = holderNode.keystore) {step : Step} (role : step.role = .fleetEncryption) (holds : e.payload ≠ none)
    (bound : step.coverage = .priorLayer → e.layers ≠ []) :
    ∃ layer, resignFlow.sign around step e = .ok ⟨e.payload, e.layers ++ [layer]⟩ := by
  have chosen : around.keystore.keyByRole step.role resignFlow.fleetId = .ok holder := by
    rw [held, role]
    exact holderSigns
  have seedOf := Key.seed_eq_ok.2 holderSeed
  obtain ⟨after, signs⟩ := sign_succeeds chosen (by decide) seedOf holds bound
  obtain ⟨_, layer, -, rfl, -⟩ := sign_adds signs
  exact ⟨layer, signs⟩

theorem resignFlow_ran :
    ∃ out, resignFlow.run holderNode (Envelope.new [104, 105]) = .ok out := by
  have commutes : holderNode.suite.Commutes :=
    Crypto.Suite.commutes_commuting Crypto.Suite.curve25519
  have fits : Crypto.Aead.tooLong [104, 105] = false := by decide
  obtain ⟨hidden, seals, sealed⟩ :=
    @encrypt_succeeds resignFlow holderNode (.encrypt "seal" .fleetEncryption) holder _ _
      holderChosen (Key.publicKeys_of_seed holderSeed (.inl rfl)) fits
  obtain ⟨first, signs⟩ := @resignFlow_signs (Envelope.new hidden) (holderNode.later 1) rfl
    (.sign "over-sealed" .fleetEncryption) rfl nofun nofun
  let sealedSigned : Envelope :=
    ⟨(Envelope.new hidden).payload, (Envelope.new hidden).layers ++ [first]⟩
  have opens : resignFlow.decrypt ((holderNode.later 1).later 1) (.decrypt "open" .fleetEncryption)
      sealedSigned = .ok (Envelope.new [104, 105]) :=
    decrypt_sealed commutes holderSeed (.inl rfl) sealed holderSigns
      (Envelope.payloadBytes_new hidden)
  obtain ⟨second, resigns⟩ := @resignFlow_signs (Envelope.new [104, 105])
    (((holderNode.later 1).later 1).later 1) rfl (.sign "over-plain" .fleetEncryption) rfl nofun
    nofun
  let openedSigned : Envelope :=
    ⟨(Envelope.new [104, 105]).payload, (Envelope.new [104, 105]).layers ++ [second]⟩
  obtain ⟨third, cosigns⟩ := @resignFlow_signs openedSigned
    ((((holderNode.later 1).later 1).later 1).later 1) rfl (.cosign "over-layer" .fleetEncryption)
    rfl nofun nofun
  refine ⟨⟨⟨openedSigned.payload, openedSigned.layers ++ [third]⟩, none⟩,
    run_eq_ok.2 ⟨true, ?_, rfl⟩⟩
  refine runSteps_cons_eq_ok.2 ⟨_, true, true, by rw [runStep_encrypt rfl, seals, map_ok], ?_, rfl⟩
  refine runSteps_cons_eq_ok.2 ⟨_, true, true, by rw [runStep_sign rfl, signs, map_ok], ?_, rfl⟩
  refine runSteps_cons_eq_ok.2 ⟨_, true, true, by rw [runStep_decrypt rfl, opens, map_ok], ?_, rfl⟩
  refine runSteps_cons_eq_ok.2 ⟨_, true, true, by rw [runStep_sign rfl, resigns, map_ok], ?_, rfl⟩
  exact runSteps_cons_eq_ok.2 ⟨_, true, true, by rw [runStep_sign rfl, cosigns, map_ok], rfl, rfl⟩

theorem resignFlow_leaves :
    ∃ out, resignFlow.run holderNode (Envelope.new [104, 105]) = .ok out ∧
      out.envelope.layers.length = 2 := by
  obtain ⟨out, ran⟩ := resignFlow_ran
  obtain ⟨⟨⟨made, layers, signs⟩, -⟩, -⟩ := run_leaves ran
  have count : made.length = 2 := signs.length_eq.symm
  exact ⟨out, ran, by rw [layers, List.length_append, count]; rfl⟩

end Countersign.CompiledFlow
