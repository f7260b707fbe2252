import Countersign.Envelope.Command
import Countersign.Proofs.Envelope.Verbatim

/-!
# Histories of envelopes

Every envelope that can come to be is well-formed, so its text reads back to it.  Once a layer is
there, nothing that is done afterwards changes the payload or that layer.

What a command can do to an envelope is said once, by `perform_effect`; the rest follows from it by
induction on the history.
-/

namespace Countersign.Envelope

/-! ## One command -/

def Command.layer? : Command → Option Layer
  | .append header signature => some ⟨header.encode, Base64Url.encode signature⟩
  | .push pending signature => some ⟨pending.val.headerText, Base64Url.encode signature⟩
  | .prepare _ _ | .replacePayload _ => none

inductive Effect (e : Envelope) : Command → Envelope × Result Reply → Prop where
  | refused {c : Command} {layer : Layer} :
      c.layer? = some layer → e.payload = none → Effect e c (e, .error (.format .noPayload))
  | failed {c : Command} (error : Error) : c.layer? = none → Effect e c (e, .error error)
  | prepared {header : Header} {coverage : Coverage} {pending : PendingLayer} :
      e.prepare header coverage = .ok pending →
        Effect e (.prepare header coverage) (e, .ok (.pending pending))
  | layered {c : Command} {layer : Layer} :
      c.layer? = some layer → e.payload ≠ none →
        Effect e c (⟨e.payload, e.layers ++ [layer]⟩, .ok (.index e.layers.length))
  | refilled {payload : Bytes} :
      e.layers = [] → Effect e (.replacePayload payload) (new payload, .ok .done)

theorem addLayer_some {e : Envelope} (held : e.payload ≠ none) (header : String)
    (signature : Bytes) :
    e.addLayer header signature =
      .ok (⟨e.payload, e.layers ++ [⟨header, Base64Url.encode signature⟩]⟩, e.layers.length) := by
  obtain ⟨text, payload⟩ := Option.ne_none_iff_exists'.1 held
  simp [addLayer, requirePayload, payload]

theorem addLayer_none {e : Envelope} (missing : e.payload = none) (header : String)
    (signature : Bytes) : e.addLayer header signature = .error (.format .noPayload) := by
  simp [addLayer, requirePayload, missing]

theorem perform_effect (e : Envelope) (c : Command) : Effect e c (e.perform c) := by
  cases c with
  | append header signature =>
      by_cases missing : e.payload = none
      · simp only [perform, append, addLayer_none missing]
        exact .refused rfl missing
      · simp only [perform, append, addLayer_some missing]
        exact .layered rfl missing
  | prepare header coverage =>
      rw [perform]
      cases prepared : e.prepare header coverage with
      | error error => exact .failed error rfl
      | ok pending => exact .prepared prepared
  | push pending signature =>
      by_cases missing : e.payload = none
      · simp only [perform, push, addLayer_none missing]
        exact .refused rfl missing
      · simp only [perform, push, addLayer_some missing]
        exact .layered rfl missing
  | replacePayload payload =>
      obtain ⟨text, layers⟩ := e
      cases layers with
      | nil => exact .refilled rfl
      | cons layer layers => exact .failed _ rfl

theorem layer_wellFormed (header : Header) (signature : Bytes) :
    Layer.WellFormed ⟨header.encode, Base64Url.encode signature⟩ :=
  ⟨⟨header, by simp [Layer.header]⟩, ⟨signature, by simp [Layer.signatureBytes]⟩⟩

theorem Command.layer_wellFormed {c : Command} {layer : Layer} (h : c.layer? = some layer) :
    layer.WellFormed := by
  cases c with
  | append header signature =>
      cases h
      exact Envelope.layer_wellFormed header signature
  | push pending signature =>
      cases h
      obtain ⟨pending, e, header, coverage, prepared⟩ := pending
      obtain ⟨input, -, prepared⟩ := bind_eq_ok.1 prepared
      cases prepared
      exact Envelope.layer_wellFormed header signature
  | prepare header coverage => cases h
  | replacePayload payload => cases h

theorem WellFormed.withLayer {e : Envelope} (h : e.WellFormed) {layer : Layer}
    (good : layer.WellFormed) : WellFormed ⟨e.payload, e.layers ++ [layer]⟩ := by
  refine ⟨h.payload, ?_⟩
  intro l member
  rcases List.mem_append.1 member with old | fresh
  · exact h.layers l old
  · rw [List.mem_singleton.1 fresh]
    exact good

theorem wellFormed_new (payload : Bytes) : (new payload).WellFormed := by
  refine ⟨?_, by simp [new]⟩
  rintro _ ⟨⟩
  exact ⟨payload, decodeText_encode payload⟩

theorem WellFormed.performed {e : Envelope} (h : e.WellFormed) (c : Command) :
    (e.perform c).1.WellFormed := by
  have effect := perform_effect e c
  generalize e.perform c = after at effect
  cases effect with
  | refused => exact h
  | failed => exact h
  | prepared => exact h
  | layered added => exact h.withLayer (Command.layer_wellFormed added)
  | refilled => exact wellFormed_new _

theorem perform_keeps (e : Envelope) (c : Command) :
    e.layers <+: (e.perform c).1.layers ∧
      (e.layers ≠ [] → (e.perform c).1.payload = e.payload) := by
  have effect := perform_effect e c
  generalize e.perform c = after at effect
  cases effect with
  | refused => exact ⟨List.prefix_rfl, fun _ => rfl⟩
  | failed => exact ⟨List.prefix_rfl, fun _ => rfl⟩
  | prepared => exact ⟨List.prefix_rfl, fun _ => rfl⟩
  | layered => exact ⟨List.prefix_append _ _, fun _ => rfl⟩
  | refilled unsigned =>
      refine ⟨?_, fun signed => absurd unsigned signed⟩
      rw [unsigned]
      exact List.nil_prefix

theorem perform_error {e : Envelope} {c : Command} {error : Error}
    (h : (e.perform c).2 = .error error) : (e.perform c).1 = e := by
  have effect := perform_effect e c
  generalize e.perform c = after at effect h
  cases effect with
  | refused => rfl
  | failed => rfl
  | _ => cases h

/-- A layer is added on top and the reply tells where, unless there is no payload to sign. -/
theorem perform_layer {e : Envelope} {c : Command} {layer : Layer}
    (adds : c.layer? = some layer) :
    (e.payload = none ∧ (e.perform c).2 = .error (.format .noPayload)) ∨
      ((e.perform c).2 = .ok (.index e.layers.length) ∧
        (e.perform c).1.layers[e.layers.length]? = some layer) := by
  have effect := perform_effect e c
  generalize e.perform c = after at effect
  cases effect with
  | refused _ missing => exact .inl ⟨missing, rfl⟩
  | failed _ addsNone => cases adds.symm.trans addsNone
  | prepared => cases adds
  | layered adds' =>
      cases adds.symm.trans adds'
      exact .inr ⟨rfl, by simp⟩
  | refilled => cases adds

/-! ## Whole histories -/

theorem performAll_keeps (e : Envelope) (history : List Command) :
    e.layers <+: (e.performAll history).layers ∧
      (e.layers ≠ [] → (e.performAll history).payload = e.payload) := by
  induction history generalizing e with
  | nil => exact ⟨List.prefix_rfl, fun _ => rfl⟩
  | cons c history ih =>
      obtain ⟨firstLayers, firstPayload⟩ := perform_keeps e c
      obtain ⟨restLayers, restPayload⟩ := ih (e.perform c).1
      refine ⟨firstLayers.trans restLayers, ?_⟩
      intro signed
      -- Without this the payload could be replaced further on.
      have stillSigned : (e.perform c).1.layers ≠ [] := by
        intro empty
        rw [empty] at firstLayers
        exact signed (List.prefix_nil.1 firstLayers)
      exact (restPayload stillSigned).trans (firstPayload signed)

theorem Reachable.wellFormed {e : Envelope} (h : Reachable e) : e.WellFormed := by
  induction h with
  | new payload => exact wellFormed_new payload
  | parsed read => exact wellFormed_of_parse read
  | performed c _ ih => exact ih.performed c

theorem WellFormed.reachable {e : Envelope} (h : e.WellFormed) : Reachable e := .parsed (parse_text h)

/-- A history that leaves the payload and the number of layers leaves everything. -/
theorem performAll_eq_self {e : Envelope} {history : List Command}
    (payload : (e.performAll history).payload = e.payload)
    (count : (e.performAll history).layers.length = e.layers.length) :
    e.performAll history = e := by
  have layers : e.layers = (e.performAll history).layers :=
    (performAll_keeps e history).1.eq_of_length count.symm
  generalize e.performAll history = after at payload layers
  obtain ⟨_, _⟩ := e
  obtain ⟨_, _⟩ := after
  cases payload
  cases layers
  rfl

/-- An envelope that can come to be is sound, keeps what it has once it is signed, tells where a
layer went, and is what its text reads as.  That text is the only one of its envelope, and the
fields of any other spelling are taken from it as they stand. -/
theorem Reachable.sound_and_readBack {e : Envelope} (reachable : Reachable e) :
    e.WellFormed ∧
    (∀ history : List Command, e.layers <+: (e.performAll history).layers ∧
      (e.layers ≠ [] → (e.performAll history).payload = e.payload)) ∧
    (∀ c : Command, ∀ error, (e.perform c).2 = .error error → (e.perform c).1 = e) ∧
    (∀ c : Command, ∀ layer, c.layer? = some layer →
      (e.payload = none ∧ (e.perform c).2 = .error (.format .noPayload)) ∨
        ((e.perform c).2 = .ok (.index e.layers.length) ∧
          (e.perform c).1.layers[e.layers.length]? = some layer)) ∧
    parse e.text = .ok e ∧
    e.text = e.wire ∧
    (∀ other, Reachable other → other.text = e.text → other = e) ∧
    (∀ text, parse text = .ok e →
      e.SpelledBy (Json.Draft.Document.ofBytes (utf8 text)).value) := by
  have wellFormed := reachable.wellFormed
  have readBack := parse_text wellFormed
  refine ⟨wellFormed, performAll_keeps e, fun c error => perform_error, fun c layer => perform_layer,
    readBack, text_eq_wire wellFormed, ?_, fun text => spelledBy_of_parse⟩
  intro other reachableOther same
  have readOther := parse_text reachableOther.wellFormed
  rw [same, readBack] at readOther
  exact (Except.ok.inj readOther).symm

theorem signedOnce_sound_and_readBack :
    let e := ((new [104, 105]).perform (.append Header.empty [7])).1
    Reachable e ∧ e.layers.length = 1 ∧ parse e.text = .ok e := by
  have reachable : Reachable ((new [104, 105]).perform (.append Header.empty [7])).1 :=
    (Reachable.new [104, 105]).performed (.append Header.empty [7])
  obtain ⟨-, -, -, -, readBack, -⟩ := Reachable.sound_and_readBack reachable
  exact ⟨reachable, rfl, readBack⟩

end Countersign.Envelope
