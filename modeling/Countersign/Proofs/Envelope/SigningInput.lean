import Countersign.Proofs.Envelope.History

/-!
# What is signed cannot be misread

The bytes that a layer is signed over are the texts it covers with dots between them.  None of these
texts holds a dot, so the bytes can be cut into the texts again, and their number tells what kind of
coverage it was.
-/

namespace Countersign.Envelope

theorem layerAt_eq_ok {e : Envelope} {index : Nat} {layer : Layer} :
    e.layerAt index = .ok layer ↔ e.layers[index]? = some layer := by
  unfold layerAt
  split <;> simp_all

theorem requirePayload_eq_ok {e : Envelope} {text : String} :
    e.requirePayload = .ok text ↔ e.payload = some text := by
  unfold requirePayload
  split <;> simp_all

/-! ## The covered texts -/

/-- The texts that a layer covers: its header, the payload, and the prior layer's signature where
the coverage asks for it. -/
inductive Covers (e : Envelope) (index : Nat) (layer : Layer) (payload : String) :
    Coverage → List String → Prop where
  | payload : Covers e index layer payload .payload [layer.headerText, payload]
  | priorLayer {prior : Layer} : 0 < index → e.layers[index - 1]? = some prior →
      Covers e index layer payload .priorLayer [layer.headerText, payload, prior.signature]

def joinTexts (texts : List String) : Bytes := [46].intercalate (texts.map utf8)

private theorem utf8_dot : utf8 "." = [46] := by decide

theorem covers_of_signingInputAt {e : Envelope} {index : Nat} {coverage : Coverage} {bytes : Bytes}
    (h : e.signingInputAt index coverage = .ok bytes) :
    ∃ layer payload texts, e.layers[index]? = some layer ∧ e.payload = some payload ∧
      Covers e index layer payload coverage texts ∧ bytes = joinTexts texts := by
  obtain ⟨layer, there, h⟩ := bind_eq_ok.1 h
  obtain ⟨payload, held, h⟩ := bind_eq_ok.1 h
  refine ⟨layer, payload, ?_⟩
  cases coverage with
  | payload =>
      cases h
      refine ⟨_, layerAt_eq_ok.1 there, requirePayload_eq_ok.1 held, .payload, ?_⟩
      simp [joinTexts, utf8_dot]
  | priorLayer =>
      cases index with
      | zero => cases h
      | succ below =>
          cases beneath : e.layers[below]? with
          | none => simp [beneath] at h
          | some prior =>
              simp only [beneath, pure_eq_ok, Except.ok.injEq] at h
              refine ⟨_, layerAt_eq_ok.1 there, requirePayload_eq_ok.1 held,
                .priorLayer (Nat.succ_pos below) beneath, ?_⟩
              rw [← h]
              simp [joinTexts, utf8_dot]

/-! ## Cutting the bytes again -/

theorem joinTexts_injective {texts others : List String} (filled : texts ≠ [])
    (otherFilled : others ≠ []) (canonical : ∀ t ∈ texts, ∃ b, t = Base64Url.encode b)
    (otherCanonical : ∀ t ∈ others, ∃ b, t = Base64Url.encode b)
    (same : joinTexts texts = joinTexts others) : texts = others := by
  have split {texts : List String} (filled : texts ≠ [])
      (canonical : ∀ t ∈ texts, ∃ b, t = Base64Url.encode b) :
      (joinTexts texts).splitOn 46 = texts.map utf8 := by
    apply List.splitOn_intercalate
    · intro field member
      obtain ⟨t, ht, rfl⟩ := List.mem_map.1 member
      obtain ⟨b, rfl⟩ := canonical t ht
      rw [Base64Url.utf8_encode]
      exact Base64Url.dot_notMem_encodeBytes b
    · simpa using filled
  have fields : texts.map utf8 = others.map utf8 := by
    rw [← split filled canonical, same, split otherFilled otherCanonical]
  exact List.map_injective_iff.2 (fun _ _ => utf8_injective) fields

theorem Covers.ne_nil {e : Envelope} {index : Nat} {layer : Layer} {payload : String}
    {coverage : Coverage} {texts : List String}
    (h : Covers e index layer payload coverage texts) : texts ≠ [] := by
  cases h <;> simp

theorem Covers.canonical {e : Envelope} (wellFormed : e.WellFormed) {index : Nat} {layer : Layer}
    {payload : String} {coverage : Coverage} {texts : List String}
    (there : e.layers[index]? = some layer) (held : e.payload = some payload)
    (h : Covers e index layer payload coverage texts) :
    ∀ t ∈ texts, ∃ b, t = Base64Url.encode b := by
  have header := (wellFormed.layers layer (List.mem_of_getElem? there)).headerText_eq
  have payload := wellFormed.payload_eq held
  cases h with
  | payload => simp [header, payload]
  | priorLayer _ beneath =>
      have prior := (wellFormed.layers _ (List.mem_of_getElem? beneath)).signature_eq
      simp [header, payload, prior]

/-- Two layers signed over the same bytes cover the same things in the same way. -/
theorem signingInputAt_unambiguous {e f : Envelope} (reachable : Reachable e)
    (otherReachable : Reachable f) {i j : Nat} {s t : Coverage} {bytes : Bytes}
    (input : e.signingInputAt i s = .ok bytes) (otherInput : f.signingInputAt j t = .ok bytes) :
    s = t ∧
    e.payload = f.payload ∧
    (∃ payload, e.payloadBytes = .ok payload ∧ f.payloadBytes = .ok payload) ∧
    ∃ l m, e.layers[i]? = some l ∧ f.layers[j]? = some m ∧ l.headerText = m.headerText ∧
      (∃ header, l.header = .ok header ∧ m.header = .ok header) ∧
      (s = .priorLayer → 0 < i ∧ 0 < j ∧
        ∃ p q, e.layers[i - 1]? = some p ∧ f.layers[j - 1]? = some q ∧ p.signature = q.signature ∧
          ∃ signature, p.signatureBytes = .ok signature ∧ q.signatureBytes = .ok signature) := by
  have wellFormed := reachable.wellFormed
  have otherWellFormed := otherReachable.wellFormed
  obtain ⟨l, payload, texts, there, held, covers, rfl⟩ := covers_of_signingInputAt input
  obtain ⟨m, otherPayload, others, otherThere, otherHeld, otherCovers, same⟩ :=
    covers_of_signingInputAt otherInput
  have equal : texts = others :=
    joinTexts_injective covers.ne_nil otherCovers.ne_nil (covers.canonical wellFormed there held)
      (otherCovers.canonical otherWellFormed otherThere otherHeld) same
  have texts : s = t ∧ l.headerText = m.headerText ∧ payload = otherPayload ∧
      (s = .priorLayer → 0 < i ∧ 0 < j ∧
        ∃ p q, e.layers[i - 1]? = some p ∧ f.layers[j - 1]? = some q ∧
          p.signature = q.signature) := by
    cases covers with
    | payload =>
        cases otherCovers with
        | payload => simpa using equal
        | priorLayer => simp at equal
    | @priorLayer p positive beneath =>
        cases otherCovers with
        | payload => simp at equal
        | @priorLayer q otherPositive otherBeneath =>
            simp only [List.cons.injEq, and_true] at equal
            obtain ⟨header, payload, signature⟩ := equal
            exact ⟨rfl, header, payload,
              fun _ => ⟨positive, otherPositive, p, q, beneath, otherBeneath, signature⟩⟩
  obtain ⟨sameCoverage, sameHeader, rfl, samePrior⟩ := texts
  obtain ⟨plain, payloadDecoded⟩ := wellFormed.payload payload held
  obtain ⟨header, headerDecoded⟩ := (wellFormed.layers l (List.mem_of_getElem? there)).header
  refine ⟨sameCoverage, held.trans otherHeld.symm, ⟨plain, ?_, ?_⟩, l, m, there, otherThere,
    sameHeader, ⟨header, headerDecoded, ?_⟩, ?_⟩
  · exact bind_eq_ok.2 ⟨payload, requirePayload_eq_ok.2 held, payloadDecoded⟩
  · exact bind_eq_ok.2 ⟨payload, requirePayload_eq_ok.2 otherHeld, payloadDecoded⟩
  · rw [Layer.header, ← sameHeader]
    exact headerDecoded
  · intro bound
    obtain ⟨positive, otherPositive, p, q, beneath, otherBeneath, sameSignature⟩ := samePrior bound
    obtain ⟨signature, signatureDecoded⟩ :=
      (wellFormed.layers p (List.mem_of_getElem? beneath)).signature
    refine ⟨positive, otherPositive, p, q, beneath, otherBeneath, sameSignature, signature,
      signatureDecoded, ?_⟩
    rw [Layer.signatureBytes, ← sameSignature]
    exact signatureDecoded

/-- A layer covers the same things after another one was put on it. -/
theorem signedTwice_unambiguous :
    let e := ((new [1]).perform (.append Header.empty [7])).1
    let f := (e.perform (.append Header.empty [8])).1
    let bytes := utf8 (Header.empty.encode ++ "." ++ Base64Url.encode [1])
    e.signingInputAt 0 .payload = .ok bytes ∧ f.signingInputAt 0 .payload = .ok bytes ∧
      e.payload = f.payload := by
  intro e f bytes
  have reachable : Reachable e := (Reachable.new [1]).performed (.append Header.empty [7])
  have otherReachable : Reachable f := reachable.performed (.append Header.empty [8])
  have input : e.signingInputAt 0 .payload = .ok bytes := rfl
  have otherInput : f.signingInputAt 0 .payload = .ok bytes := rfl
  obtain ⟨-, samePayload, -⟩ :=
    signingInputAt_unambiguous reachable otherReachable input otherInput
  exact ⟨input, otherInput, samePayload⟩

end Countersign.Envelope
