import Countersign.Proofs.Envelope.SigningInput

/-!
# Envelopes grow at the top

A layer that is put on an envelope leaves what is beneath it alone, so what another layer was signed
over is found again in the longer envelope.
-/

namespace Countersign

structure Envelope.Extends (e e' : Envelope) : Prop where
  payload : e'.payload = e.payload
  layers : e.layers <+: e'.layers

namespace Envelope

theorem Extends.refl (e : Envelope) : e.Extends e := ⟨rfl, List.prefix_rfl⟩

theorem Extends.trans {e f g : Envelope} (h : e.Extends f) (h' : f.Extends g) : e.Extends g :=
  ⟨h'.payload.trans h.payload, h.layers.trans h'.layers⟩

theorem extends_layer (e : Envelope) (layer : Layer) :
    e.Extends ⟨e.payload, e.layers ++ [layer]⟩ := ⟨rfl, List.prefix_append _ _⟩

theorem Extends.getElem? {e e' : Envelope} (h : e.Extends e') {index : Nat} {layer : Layer}
    (there : e.layers[index]? = some layer) : e'.layers[index]? = some layer := by
  obtain ⟨more, split⟩ := h.layers
  have inside : index < e.layers.length := (List.getElem?_eq_some_iff.1 there).1
  rw [← split, List.getElem?_append_left inside, there]

theorem Extends.layerAt_eq {e e' : Envelope} (h : e.Extends e') {index : Nat}
    (inside : index < e.layers.length) : e'.layerAt index = e.layerAt index := by
  have there : e.layers[index]? = some e.layers[index] := List.getElem?_eq_getElem inside
  rw [layerAt, h.getElem? there, layerAt, there]

theorem signingInput_mono {e e' : Envelope} (h : e.Extends e') {header : String} {position : Nat}
    {coverage : Coverage} {bytes : Bytes}
    (input : e.signingInput header position coverage = .ok bytes) :
    e'.signingInput header position coverage = .ok bytes := by
  obtain ⟨payload, held, input⟩ := bind_eq_ok.1 input
  have stillHeld : e'.requirePayload = .ok payload := by
    rw [requirePayload_eq_ok, h.payload]
    exact requirePayload_eq_ok.1 held
  refine bind_eq_ok.2 ⟨payload, stillHeld, ?_⟩
  cases coverage with
  | payload => exact input
  | priorLayer =>
      cases position with
      | zero => cases input
      | succ below =>
          cases beneath : e.layers[below]? with
          | none => simp [beneath] at input
          | some prior =>
              have stillBeneath := h.getElem? beneath
              simp only [beneath] at input
              simp only [stillBeneath]
              exact input

theorem signingInput_succeeds {e : Envelope} (held : e.payload ≠ none) (header : String)
    {position : Nat} {coverage : Coverage}
    (bound : coverage = .priorLayer → 0 < position ∧ position ≤ e.layers.length) :
    ∃ input, e.signingInput header position coverage = .ok input := by
  obtain ⟨text, payload⟩ := Option.ne_none_iff_exists'.1 held
  cases coverage with
  | payload => exact ⟨_, bind_eq_ok.2 ⟨text, requirePayload_eq_ok.2 payload, rfl⟩⟩
  | priorLayer =>
      obtain ⟨positive, inside⟩ := bound rfl
      obtain ⟨below, rfl⟩ := Nat.exists_eq_succ_of_ne_zero (Nat.ne_of_gt positive)
      have beneath : e.layers[below]? = some e.layers[below] := List.getElem?_eq_getElem inside
      simp [signingInput, requirePayload_eq_ok.2 payload, beneath]

theorem signingInputAt_mono {e e' : Envelope} (h : e.Extends e') {index : Nat}
    {coverage : Coverage} {bytes : Bytes} (input : e.signingInputAt index coverage = .ok bytes) :
    e'.signingInputAt index coverage = .ok bytes := by
  obtain ⟨layer, there, input⟩ := bind_eq_ok.1 input
  have stillThere := layerAt_eq_ok.2 (h.getElem? (layerAt_eq_ok.1 there))
  exact bind_eq_ok.2 ⟨layer, stillThere, signingInput_mono h input⟩

/-- Whether it can be signed or not, a layer that was there is signed over the same bytes. -/
theorem Extends.signingInputAt_eq {e e' : Envelope} (h : e.Extends e') {index : Nat}
    (inside : index < e.layers.length) (coverage : Coverage) :
    e'.signingInputAt index coverage = e.signingInputAt index coverage := by
  rw [signingInputAt, h.layerAt_eq inside, signingInputAt]
  cases e.layerAt index with
  | error error => rfl
  | ok layer =>
      have payload : e'.requirePayload = e.requirePayload := by
        rw [requirePayload, h.payload, requirePayload]
      simp only [ok_bind, signingInput, payload]
      cases index with
      | zero => rfl
      | succ below =>
          have beneath : e.layers[below]? = some e.layers[below] :=
            List.getElem?_eq_getElem (Nat.lt_of_succ_lt inside)
          simp only [beneath, h.getElem? beneath]

theorem addLayer_eq_ok {e e' : Envelope} {header : String} {signature : Bytes} {index : Nat} :
    e.addLayer header signature = .ok (e', index) ↔ e.payload ≠ none ∧
      e' = ⟨e.payload, e.layers ++ [⟨header, Base64Url.encode signature⟩]⟩ ∧
        index = e.layers.length := by
  by_cases missing : e.payload = none
  · simp [addLayer_none missing, missing]
  · rw [addLayer_some missing, Except.ok.injEq, Prod.mk.injEq]
    simp [missing, eq_comm]

theorem push_prepared {e : Envelope} {header : Header} {coverage : Coverage}
    {pending : PendingLayer} (prepared : e.prepare header coverage = .ok pending)
    {signature : Bytes} {pushed : Envelope × Nat}
    (h : e.push pending signature = .ok pushed) :
    pushed.1 = ⟨e.payload, e.layers ++ [⟨header.encode, Base64Url.encode signature⟩]⟩ ∧
      e.signingInput header.encode e.layers.length coverage = .ok pending.signingInput := by
  obtain ⟨input, covered, prepared⟩ := bind_eq_ok.1 prepared
  cases prepared
  obtain ⟨payload, held, -⟩ := bind_eq_ok.1 covered
  have payloadHeld : e.payload ≠ none := by simp [requirePayload_eq_ok.1 held]
  rw [push, addLayer_some payloadHeld] at h
  cases h
  exact ⟨rfl, covered⟩

theorem signingInputAt_pushed {e e' : Envelope} {header : Header} {coverage : Coverage}
    {pending : PendingLayer} (prepared : e.prepare header coverage = .ok pending)
    {signature : Bytes} {index : Nat} (h : e.push pending signature = .ok (e', index)) :
    index = e.layers.length ∧ e'.signingInputAt index coverage = .ok pending.signingInput := by
  obtain ⟨rfl, covered⟩ := push_prepared prepared h
  obtain ⟨-, -, rfl⟩ := addLayer_eq_ok.1 h
  exact ⟨rfl, bind_eq_ok.2 ⟨_, layerAt_eq_ok.2 List.getElem?_concat_length,
    signingInput_mono (e.extends_layer _) covered⟩⟩

end Envelope

end Countersign
