import Countersign.Proofs.Envelope.Wire

/-!
# Texts are kept verbatim

Reading an envelope takes the texts of its fields as they stand, whatever the spelling around them,
and writing it puts them between quotes as they are.
-/

namespace Countersign

open Json

/-! ## The written form, letter by letter -/

theorem escape_symbol {n : Nat} (h : n < 64) :
    Quoted.escape (Char.ofNat (Base64Url.symbol n).toNat) =
      String.singleton (Char.ofNat (Base64Url.symbol n).toNat) := by
  have all : ∀ m : Fin 64, Quoted.escape (Char.ofNat (Base64Url.symbol m).toNat) =
      String.singleton (Char.ofNat (Base64Url.symbol m).toNat) := by
    decide
  exact all ⟨n, h⟩

theorem escapeAll_eq_ofList {cs : List Char}
    (plain : ∀ c ∈ cs, Quoted.escape c = String.singleton c) :
    Quoted.escapeAll cs = String.ofList cs := by
  induction cs with
  | nil => rfl
  | cons c cs ih =>
      have first := plain c List.mem_cons_self
      have others := ih fun d hd => plain d (List.mem_cons_of_mem _ hd)
      rw [Quoted.escapeAll] at others ⊢
      rw [List.map_cons, String.join_cons, first, others, String.ofList_cons]

theorem quote_encode (b : Bytes) :
    quote (Base64Url.encode b) = "\"" ++ Base64Url.encode b ++ "\"" := by
  have plain : ∀ c ∈ (Base64Url.encode b).toList, Quoted.escape c = String.singleton c := by
    intro c hc
    rw [Base64Url.encode, ofAscii, String.toList_ofList] at hc
    obtain ⟨byte, member, rfl⟩ := List.mem_map.1 hc
    obtain ⟨n, small, rfl⟩ := Base64Url.mem_encodeBytes member
    exact escape_symbol small
  rw [quote, escapeAll_eq_ofList plain, String.ofList_toList]

def Layer.wire (l : Layer) : String :=
  "\x7b\"protected\":\"" ++ l.headerText ++ "\",\"signature\":\"" ++ l.signature ++ "\"\x7d"

def Envelope.wire (e : Envelope) : String :=
  let payload :=
    match e.payload with
    | some text => "\"payload\":\"" ++ text ++ "\","
    | none => ""
  "\x7b" ++ payload ++ "\"signatures\":[" ++ ",".intercalate (e.layers.map Layer.wire) ++ "]\x7d"

private theorem quote_payload : quote "payload" = "\"payload\"" := by decide
private theorem quote_signatures : quote "signatures" = "\"signatures\"" := by decide
private theorem quote_protected : quote "protected" = "\"protected\"" := by decide
private theorem quote_signature : quote "signature" = "\"signature\"" := by decide

theorem renderItems_eq_intercalate (items : List Json) :
    renderItems items = ",".intercalate (items.map render) := by
  induction items with
  | nil => rfl
  | cons v rest ih =>
      cases rest with
      | nil => simp [renderItems]
      | cons w more =>
          simp only [renderItems, ih, List.map_cons]
          rw [String.intercalate_cons_cons, String.append_assoc]

theorem Layer.render_json {l : Layer} (h : l.WellFormed) : l.json.render = l.wire := by
  obtain ⟨headerBytes, headerText⟩ := h.headerText_eq
  obtain ⟨signatureBytes, signature⟩ := h.signature_eq
  delta wire
  simp only [json, render, renderMembers, quote_protected, quote_signature, headerText, signature,
    quote_encode]
  rw [← String.toList_inj]
  simp

theorem Envelope.text_eq_wire {e : Envelope} (h : e.WellFormed) : e.text = e.wire := by
  have items : renderItems (e.layers.map Layer.json) =
      ",".intercalate (e.layers.map Layer.wire) := by
    rw [renderItems_eq_intercalate, List.map_map]
    congr 1
    exact List.map_congr_left fun l hl => Layer.render_json (h.layers l hl)
  cases payload : e.payload with
  | none =>
      simp only [text, json, wire, payload, Option.map_none, Option.toList_none, List.nil_append,
        render, renderMembers, quote_signatures, items]
      rw [← String.toList_inj]
      simp
  | some text =>
      obtain ⟨b, rfl⟩ := h.payload_eq payload
      simp only [Envelope.text, json, wire, payload, Option.map_some, Option.toList_some,
        List.cons_append, List.nil_append, render, renderMembers, quote_payload, quote_signatures,
        quote_encode, items]
      rw [← String.toList_inj]
      simp

/-! ## The texts of an accepted spelling -/

structure Layer.SpelledBy (d : Draft) (l : Layer) : Prop where
  header : d.part? 0 "protected" = some (.string (some l.headerText))
  signature : d.part? 1 "signature" = some (.string (some l.signature))

/-- The draft is an envelope with exactly these texts, in either form of a record and whatever
stands around them.  A payload may be left out or be null. -/
structure Envelope.SpelledBy (d : Draft) (e : Envelope) : Prop where
  payload : ∀ text, e.payload = some text → d.part? 0 "payload" = some (.string (some text))
  noPayload : e.payload = none → d.part? 0 "payload" = none ∨ d.part? 0 "payload" = some .null
  layers : ∃ items, d.part? 1 "signatures" = some (.array items true) ∧
    List.Forall₂ Layer.SpelledBy items e.layers

theorem optional_readText_eq_ok {d : Draft} {value : Option String}
    (h : Json.optional readText d = .ok value) :
    (value = none ∧ d = .null) ∨ ∃ s, value = some s ∧ d = .string (some s) := by
  rcases optional_eq_ok.1 h with ⟨rfl, rfl⟩ | ⟨-, s, read, rfl⟩
  · exact .inl ⟨rfl, rfl⟩
  · exact .inr ⟨s, rfl, readText_eq_ok.1 read⟩

theorem Layer.spelledBy_of_read {d : Draft} {l : Layer} (h : read d = .ok l) : l.SpelledBy d := by
  obtain ⟨p, walked, h⟩ := bind_eq_ok.1 h
  cases h
  have header : ∃ part v, d.part? 0 "protected" = some part ∧ readText part = .ok v ∧
      p.header = some v := by
    refine @record_required _ _ _ Parts.header readText _ [] _ ⟨fun _ => rfl, ?_, ?_⟩ ?_ rfl _ _
      rfl d walked
    · exact read_own fun _ _ => rfl
    · intro f member differs
      simp only [List.nil_append, List.mem_cons, List.not_mem_nil, or_false] at member
      rcases member with rfl | rfl
      · exact absurd rfl differs
      · exact read_other fun _ _ => rfl
    · simp
  have signature : ∃ part v, d.part? 1 "signature" = some part ∧ readText part = .ok v ∧
      p.signature = some v := by
    refine @record_required _ _ _ Parts.signature readText _ [_] _ ⟨fun _ => rfl, ?_, ?_⟩ ?_ rfl _ _
      rfl d walked
    · exact read_own fun _ _ => rfl
    · intro f member differs
      simp only [List.cons_append, List.nil_append, List.mem_cons, List.not_mem_nil,
        or_false] at member
      rcases member with rfl | rfl
      · exact read_other fun _ _ => rfl
      · exact absurd rfl differs
    · simp
  obtain ⟨headerDraft, headerText, headerPlace, headerRead, headerIs⟩ := header
  obtain ⟨signatureDraft, signatureText, signaturePlace, signatureRead, signatureIs⟩ := signature
  cases readText_eq_ok.1 headerRead
  cases readText_eq_ok.1 signatureRead
  rw [headerIs, signatureIs]
  exact ⟨headerPlace, signaturePlace⟩

namespace Envelope

theorem spelledBy_of_read {d : Draft} {e : Envelope} (h : read d = .ok e) : e.SpelledBy d := by
  obtain ⟨p, walked, h⟩ := bind_eq_ok.1 h
  cases h
  have payload : ReadAs (Json.optional readText) (d.part? 0 "payload") p.payload := by
    refine @record_part _ _ _ Parts.payload (Json.optional readText) _ [] _
      ⟨fun _ => rfl, ?_, ?_⟩ ?_ _ _ rfl d walked
    · exact read_own fun _ _ => rfl
    · intro f member differs
      simp only [List.nil_append, List.mem_cons, List.not_mem_nil, or_false] at member
      rcases member with rfl | rfl
      · exact absurd rfl differs
      · exact read_other fun _ _ => rfl
    · simp
  have layers : ∃ part v, d.part? 1 "signatures" = some part ∧ readList Layer.read part = .ok v ∧
      p.layers = some v := by
    refine @record_required _ _ _ Parts.layers (readList Layer.read) _ [_] _
      ⟨fun _ => rfl, ?_, ?_⟩ ?_ rfl _ _ rfl d walked
    · exact read_own fun _ _ => rfl
    · intro f member differs
      simp only [List.cons_append, List.nil_append, List.mem_cons, List.not_mem_nil,
        or_false] at member
      rcases member with rfl | rfl
      · exact read_other fun _ _ => rfl
      · exact absurd rfl differs
    · simp
  obtain ⟨layersDraft, layers, layersPlace, layersRead, layersAre⟩ := layers
  obtain ⟨items, rfl, itemsRead⟩ := readList_eq_ok.1 layersRead
  have spelled := itemsRead.imp fun _ _ => Layer.spelledBy_of_read
  rw [layersAre]
  cases place : d.part? 0 "payload" with
  | none =>
      rw [place] at payload
      rw [show p.payload = none from payload]
      exact ⟨by simp, fun _ => .inl place, items, layersPlace, spelled⟩
  | some part =>
      rw [place] at payload
      obtain ⟨value, reads, valueIs⟩ := payload
      rw [valueIs]
      rcases optional_readText_eq_ok reads with ⟨rfl, rfl⟩ | ⟨s, rfl, rfl⟩
      · exact ⟨by simp, fun _ => .inr place, items, layersPlace, spelled⟩
      · refine ⟨?_, by simp, items, layersPlace, spelled⟩
        rintro _ ⟨⟩
        exact place

theorem spelledBy_of_parse {text : String} {e : Envelope} (h : parse text = .ok e) :
    e.SpelledBy (Draft.Document.ofBytes (utf8 text)).value := by
  obtain ⟨e', document, h⟩ := bind_eq_ok.1 h
  obtain ⟨⟨⟩, -, h⟩ := bind_eq_ok.1 h
  cases h
  obtain ⟨e'', reads, h⟩ := bind_eq_ok.1 (mapError_eq_ok.1 document)
  split at h
  · cases h
  · cases h
    exact spelledBy_of_read reads

end Envelope

end Countersign
