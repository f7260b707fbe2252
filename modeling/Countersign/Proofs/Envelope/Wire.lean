import Countersign.Envelope.Wire
import Countersign.Proofs.Envelope.Header
import Mathlib.Data.List.Forall2

/-!
# Envelopes are read back

The written form of an envelope gives back the envelope, texts and all.  An envelope that was read
is well-formed: its base64url texts decode and its headers read.
-/

namespace Countersign

open Json

/-! ## Well-formed envelopes -/

structure Layer.WellFormed (l : Layer) : Prop where
  header : ∃ h, l.header = .ok h
  signature : ∃ b, l.signatureBytes = .ok b

structure Envelope.WellFormed (e : Envelope) : Prop where
  payload : ∀ text, e.payload = some text → ∃ b, decodeText text = .ok b
  layers : ∀ l ∈ e.layers, l.WellFormed

theorem Layer.WellFormed.headerText_eq {l : Layer} (h : l.WellFormed) :
    ∃ b, l.headerText = Base64Url.encode b := by
  obtain ⟨header, read⟩ := h.header
  obtain ⟨b, decoded, -⟩ := bind_eq_ok.1 read
  exact ⟨b, eq_encode_of_decodeText decoded⟩

theorem Layer.WellFormed.signature_eq {l : Layer} (h : l.WellFormed) :
    ∃ b, l.signature = Base64Url.encode b := by
  obtain ⟨b, decoded⟩ := h.signature
  exact ⟨b, eq_encode_of_decodeText decoded⟩

theorem Envelope.WellFormed.payload_eq {e : Envelope} (h : e.WellFormed) {text : String}
    (held : e.payload = some text) : ∃ b, text = Base64Url.encode b := by
  obtain ⟨b, decoded⟩ := h.payload text held
  exact ⟨b, eq_encode_of_decodeText decoded⟩

theorem Layer.check_eq_ok {l : Layer} : l.check = .ok () ↔ l.WellFormed := by
  constructor
  · intro h
    obtain ⟨header, readHeader, h⟩ := bind_eq_ok.1 h
    obtain ⟨signature, readSignature, -⟩ := bind_eq_ok.1 h
    exact ⟨⟨header, readHeader⟩, ⟨signature, readSignature⟩⟩
  · rintro ⟨⟨header, readHeader⟩, ⟨signature, readSignature⟩⟩
    simp [check, readHeader, readSignature]

theorem forM_check_eq_ok {layers : List Layer} :
    layers.forM Layer.check = .ok () ↔ ∀ l ∈ layers, l.WellFormed := by
  induction layers with
  | nil => simp
  | cons l layers ih =>
      rw [List.forM_eq_forM, List.forM_cons, bind_eq_ok, List.forall_mem_cons, ← ih,
        ← Layer.check_eq_ok]
      constructor
      · rintro ⟨⟨⟩, first, others⟩
        exact ⟨first, others⟩
      · rintro ⟨first, others⟩
        exact ⟨(), first, others⟩

theorem Envelope.check_eq_ok {e : Envelope} : e.check = .ok () ↔ e.WellFormed := by
  obtain ⟨payload, layers⟩ := e
  cases payload with
  | none =>
      have : (⟨none, layers⟩ : Envelope).check = layers.forM Layer.check := rfl
      rw [this, forM_check_eq_ok]
      exact ⟨fun h => ⟨by simp, h⟩, fun h => h.layers⟩
  | some text =>
      have : (⟨some text, layers⟩ : Envelope).check =
        (decodeText text >>= fun _ => layers.forM Layer.check) := rfl
      rw [this, bind_eq_ok]
      constructor
      · rintro ⟨b, decodes, h⟩
        refine ⟨?_, forM_check_eq_ok.1 h⟩
        rintro _ ⟨⟩
        exact ⟨b, decodes⟩
      · intro h
        obtain ⟨b, decodes⟩ := h.payload text rfl
        exact ⟨b, decodes, forM_check_eq_ok.2 h.layers⟩

/-! ## Reading what was written -/

theorem Layer.read_textDraft (l : Layer) : Layer.read l.json.textDraft = .ok l := by
  rfl

theorem mapM_read_textDraft (layers : List Layer) :
    (textDraftItems (layers.map Layer.json)).mapM Layer.read = .ok layers := by
  induction layers with
  | nil => rfl
  | cons l layers ih =>
      rw [List.map_cons, textDraftItems, List.mapM_cons, Layer.read_textDraft, ih]
      rfl

namespace Envelope

theorem read_textDraft (e : Envelope) : read e.json.textDraft = .ok e := by
  obtain ⟨payload, layers⟩ := e
  have walkPayload (rest : List (String × Json)) :
      readMembers fields ⟨none, none⟩
          (textDraftMembers ((payload.map fun s => ("payload", Json.string s)).toList ++ rest)) =
        readMembers fields ⟨payload.map some, none⟩ (textDraftMembers rest) :=
    readMembers_optional rfl rfl (by rintro rfl; rfl) (by rintro s rfl; rfl) rest
  have walkLayers :
      readMembers fields ⟨payload.map some, none⟩
          (textDraftMembers [("signatures", .array (layers.map Layer.json))]) =
        .ok ⟨payload.map some, some layers⟩ := by
    refine (readMembers_known rfl rfl ?_ []).trans rfl
    simp [textDraft, readList, mapM_read_textDraft]
  rw [read, json, textDraft, record]
  simp only [walkPayload, walkLayers, ok_bind]
  cases payload <;> rfl

theorem parse_text {e : Envelope} (h : e.WellFormed) : parse e.text = .ok e := by
  have wellFormed := check_eq_ok.2 h
  simp [parse, text, readDocument_render, read_textDraft, wellFormed]

theorem wellFormed_of_parse {text : String} {e : Envelope} (h : parse text = .ok e) :
    e.WellFormed := by
  obtain ⟨e', -, h⟩ := bind_eq_ok.1 h
  obtain ⟨⟨⟩, checked, h⟩ := bind_eq_ok.1 h
  cases h
  exact check_eq_ok.1 checked

end Envelope

end Countersign
