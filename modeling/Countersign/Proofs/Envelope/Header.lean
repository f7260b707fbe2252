import Countersign.Envelope.Header
import Countersign.Proofs.Canonical
import Countersign.Proofs.Json.Records

/-!
# Headers and their texts

An object is read as a header exactly where each field's name stands at most once in it, with a
value of the field's type or with null.  The order of the members does not matter, nor do members of
other names.  A header's own text is such an object, so it gives the header back, and what the
header leaves out stays left out.
-/

namespace Countersign

open Json

/-! ## What members say of a field -/

/-- The values under a field's name say that the field is absent, if there are none or only a null,
or that it holds the one value there is. -/
inductive Json.Gives {α : Type} (json : α → Json) : List Json → Option α → Prop where
  | missing : Gives json [] none
  | null : Gives json [.null] none
  | value (a : α) : Gives json [json a] (some a)

namespace Json.Gives

variable {α : Type} {json : α → Json} {read : Reader α} {values : List Json} {a b : Option α}

theorem length_le (given : Gives json values a) : values.length ≤ 1 := by
  cases given <;> simp

theorem of_option (value : Option α) : Gives json (value.map json).toList value := by
  cases value with
  | none => exact .missing
  | some a => exact .value a

theorem unique (takes : TakesWritten read json) (given : Gives json values a)
    (given' : Gives json values b) : a = b := by
  cases given with
  | missing => cases given'; rfl
  | null =>
      generalize written : [Json.null] = values at given'
      cases given' with
      | missing => cases written
      | null => rfl
      | value b => exact absurd (List.singleton_inj.1 written).symm (takes.filled b)
  | value a =>
      generalize written : [json a] = values at given'
      cases given' with
      | missing => cases written
      | null => exact absurd (List.singleton_inj.1 written) (takes.filled a)
      | value b => rw [takes.injective (List.singleton_inj.1 written)]

theorem accepted (takes : TakesWritten read json) (given : Gives json values a) :
    ∀ v ∈ values, ∃ x, optional read v.textDraft = .ok x := by
  intro v member
  cases given with
  | missing => cases member
  | null =>
      cases List.mem_singleton.1 member
      exact ⟨none, rfl⟩
  | value a =>
      cases List.mem_singleton.1 member
      exact ⟨some a, takes.optional_eq_ok.2 (.inr ⟨a, rfl, rfl⟩)⟩

theorem of_readOnce (takes : TakesWritten read json) {part : Option (Option α)}
    (once : ReadOnce (optional read) (values.map textDraft) part) :
    Gives json values part.join := by
  match values with
  | [] =>
      obtain rfl : part = none := once
      exact .missing
  | [v] =>
      obtain ⟨x, reads, rfl⟩ := once
      rcases takes.optional_eq_ok.1 reads with ⟨rfl, rfl⟩ | ⟨a, rfl, rfl⟩
      · exact .null
      · exact .value a
  | _ :: _ :: _ => exact once.elim

end Json.Gives

namespace Header

structure ListedIn (h : Header) (members : List (String × Json)) : Prop where
  kid : Gives .string (under "kid" members) h.kid
  fleetId : Gives .string (under "fleetId" members) h.fleetId
  alg : Gives .string (under "alg" members) h.alg
  roleNumber : Gives (fun n : Int64 => Json.int n.toInt) (under "role" members) h.roleNumber
  timestamp : Gives (fun n : Int64 => Json.int n.toInt) (under "timestamp" members) h.timestamp

variable {h h' : Header} {members : List (String × Json)}

theorem ListedIn.unique (listed : h.ListedIn members) (listed' : h'.ListedIn members) : h = h' := by
  obtain ⟨kid, fleetId, alg, roleNumber, timestamp⟩ := h
  obtain ⟨kid', fleetId', alg', roleNumber', timestamp'⟩ := h'
  rw [mk.injEq]
  exact ⟨listed.kid.unique takesWritten_text listed'.kid,
    listed.fleetId.unique takesWritten_text listed'.fleetId,
    listed.alg.unique takesWritten_text listed'.alg,
    listed.roleNumber.unique takesWritten_int64 listed'.roleNumber,
    listed.timestamp.unique takesWritten_int64 listed'.timestamp⟩

/-! ## The fields -/

theorem read_apart {f : RecordField Parts} (member : f ∈ fields) {p q : Parts} {d : Draft}
    (h : f.read p d = .ok q) :
    (f.name ≠ "kid" → q.kid = p.kid) ∧ (f.name ≠ "fleetId" → q.fleetId = p.fleetId) ∧
      (f.name ≠ "alg" → q.alg = p.alg) ∧ (f.name ≠ "role" → q.roleNumber = p.roleNumber) ∧
      (f.name ≠ "timestamp" → q.timestamp = p.timestamp) := by
  simp only [fields, List.mem_cons, List.not_mem_nil, or_false] at member
  rcases member with rfl | rfl | rfl | rfl | rfl <;>
    obtain ⟨v, -, rfl⟩ := map_eq_ok.1 h <;> simp

theorem present_apart {f g : RecordField Parts} (hf : f ∈ fields) (hg : g ∈ fields)
    (differs : f.name ≠ g.name) {p q : Parts} {d : Draft} (h : f.read p d = .ok q) :
    g.present q = g.present p := by
  obtain ⟨kid, fleetId, alg, roleNumber, timestamp⟩ := read_apart hf h
  simp only [fields, List.mem_cons, List.not_mem_nil, or_false] at hg
  rcases hg with rfl | rfl | rfl | rfl | rfl
  · exact congrArg Option.isSome (kid differs)
  · exact congrArg Option.isSome (fleetId differs)
  · exact congrArg Option.isSome (alg differs)
  · exact congrArg Option.isSome (roleNumber differs)
  · exact congrArg Option.isSome (timestamp differs)

/-- The field that stands under a name fills the part that `get` shows, and no other. -/
def FillsUnder {β : Type} (name : String) (get : Parts → Option β) (read : Reader β) : Prop :=
  ∃ field, fields.find? (·.name == name) = some field ∧ Json.Fills fields field get read

theorem fills_kid : FillsUnder "kid" Parts.kid (optional readText) :=
  ⟨_, rfl, fun _ => rfl, read_own fun _ _ => rfl,
    fun _ member differs _ _ _ h => (read_apart member h).1 differs⟩

theorem fills_fleetId : FillsUnder "fleetId" Parts.fleetId (optional readText) :=
  ⟨_, rfl, fun _ => rfl, read_own fun _ _ => rfl,
    fun _ member differs _ _ _ h => (read_apart member h).2.1 differs⟩

theorem fills_alg : FillsUnder "alg" Parts.alg (optional readText) :=
  ⟨_, rfl, fun _ => rfl, read_own fun _ _ => rfl,
    fun _ member differs _ _ _ h => (read_apart member h).2.2.1 differs⟩

theorem fills_roleNumber : FillsUnder "role" Parts.roleNumber (optional readInt64) :=
  ⟨_, rfl, fun _ => rfl, read_own fun _ _ => rfl,
    fun _ member differs _ _ _ h => (read_apart member h).2.2.2.1 differs⟩

theorem fills_timestamp : FillsUnder "timestamp" Parts.timestamp (optional readInt64) :=
  ⟨_, rfl, fun _ => rfl, read_own fun _ _ => rfl,
    fun _ member differs _ _ _ h => (read_apart member h).2.2.2.2 differs⟩

theorem FillsUnder.gives {α : Type} {name : String} {get : Parts → Option (Option α)}
    {read : Reader α} {json : α → Json} (fills : FillsUnder name get (optional read))
    (takes : TakesWritten read json) {p q : Parts} (absent : get p = none)
    (walked : readMembers fields p (textDraftMembers members) = .ok q) :
    Gives json (under name members) (get q).join := by
  obtain ⟨field, found, fills⟩ := fills
  obtain rfl : field.name = name := by simpa using List.find?_some found
  have once := (readMembers_once fills found walked).2 absent
  rw [under_textDraftMembers] at once
  exact .of_readOnce takes once

/-! ## Reading members -/

def Parts.none : Parts := ⟨.none, .none, .none, .none, .none⟩

theorem read_object (members : List (String × Json)) :
    read (Json.object members).textDraft =
      ofParts <$> readMembers fields Parts.none (textDraftMembers members) := by
  rw [read, textDraft]
  change ofParts <$> record fields .malformed Parts.none (.object _ true) = _
  rw [record]
  cases readMembers fields Parts.none (textDraftMembers members) <;> rfl

theorem listedIn_of_read (reads : read (Json.object members).textDraft = .ok h) :
    h.ListedIn members := by
  obtain ⟨p, walked, rfl⟩ := map_eq_ok.1 ((read_object members).symm.trans reads)
  exact ⟨fills_kid.gives takesWritten_text rfl walked,
    fills_fleetId.gives takesWritten_text rfl walked, fills_alg.gives takesWritten_text rfl walked,
    fills_roleNumber.gives takesWritten_int64 rfl walked,
    fills_timestamp.gives takesWritten_int64 rfl walked⟩

theorem ListedIn.read_succeeds (listed : h.ListedIn members) :
    ∃ h', read (Json.object members).textDraft = .ok h' := by
  have accepted : ∀ f ∈ fields, ∀ v ∈ under f.name members, ∀ p, ∃ q,
      f.read p v.textDraft = .ok q := by
    intro f member v held p
    simp only [fields, List.mem_cons, List.not_mem_nil, or_false] at member
    rcases member with rfl | rfl | rfl | rfl | rfl
    · obtain ⟨x, reads⟩ := listed.kid.accepted takesWritten_text v held
      exact ⟨_, by simp only [reads]; rfl⟩
    · obtain ⟨x, reads⟩ := listed.fleetId.accepted takesWritten_text v held
      exact ⟨_, by simp only [reads]; rfl⟩
    · obtain ⟨x, reads⟩ := listed.alg.accepted takesWritten_text v held
      exact ⟨_, by simp only [reads]; rfl⟩
    · obtain ⟨x, reads⟩ := listed.roleNumber.accepted takesWritten_int64 v held
      exact ⟨_, by simp only [reads]; rfl⟩
    · obtain ⟨x, reads⟩ := listed.timestamp.accepted takesWritten_int64 v held
      exact ⟨_, by simp only [reads]; rfl⟩
  have once : ∀ f ∈ fields, (under f.name members).length ≤ 1 := by
    intro f member
    simp only [fields, List.mem_cons, List.not_mem_nil, or_false] at member
    rcases member with rfl | rfl | rfl | rfl | rfl
    · exact listed.kid.length_le
    · exact listed.fleetId.length_le
    · exact listed.alg.length_le
    · exact listed.roleNumber.length_le
    · exact listed.timestamp.length_le
  have free : ∀ f ∈ fields, f.present Parts.none = true → under f.name members = [] := by
    intro f member
    simp only [fields, List.mem_cons, List.not_mem_nil, or_false] at member
    rcases member with rfl | rfl | rfl | rfl | rfl <;> simp [Parts.none]
  obtain ⟨q, walked⟩ := readMembers_succeeds
    (fun f hf g hg differs p d q h => present_apart hf hg differs h) accepted once free
  exact ⟨ofParts q, by rw [read_object, walked, map_ok]⟩

theorem read_eq_ok : read (Json.object members).textDraft = .ok h ↔ h.ListedIn members := by
  constructor
  · exact listedIn_of_read
  · intro listed
    obtain ⟨h', reads⟩ := listed.read_succeeds
    rw [reads, (listedIn_of_read reads).unique listed]

/-! ## The texts of headers -/

theorem decode_render (v : Json) :
    decode (Base64Url.encode (utf8 v.render)) =
      (read v.textDraft).mapError fun e => .format (.header e) := by
  rw [decode, decodeText_encode, ok_bind, readDocument_render]

theorem listedIn_json (h : Header) : ∃ members, h.json = .object members ∧ h.ListedIn members := by
  refine ⟨_, rfl, ?_, ?_, ?_, ?_, ?_⟩ <;> simp [Gives.of_option]

@[simp] theorem decode_encode (h : Header) : decode h.encode = .ok h := by
  obtain ⟨members, written, listed⟩ := h.listedIn_json
  rw [encode, written, decode_render, read_eq_ok.2 listed, mapError_ok]

theorem encode_injective : Function.Injective encode := by
  intro h h' same
  have read := h.decode_encode
  rw [same, decode_encode] at read
  exact (Except.ok.inj read).symm

theorem not_listedIn_of_twice {name : String}
    (known : name ∈ ["kid", "fleetId", "alg", "role", "timestamp"])
    (twice : 2 ≤ (under name members).length) : ¬ h.ListedIn members := by
  intro listed
  simp only [List.mem_cons, List.not_mem_nil, or_false] at known
  rcases known with rfl | rfl | rfl | rfl | rfl
  · exact absurd listed.kid.length_le (by omega)
  · exact absurd listed.fleetId.length_le (by omega)
  · exact absurd listed.alg.length_le (by omega)
  · exact absurd listed.roleNumber.length_le (by omega)
  · exact absurd listed.timestamp.length_le (by omega)

/-- What is written for a header reads as that header and no other.  The text of any object reads as
a header exactly where its members list the header's fields, whatever their order and whatever
stands among them; one of the five names that stands twice makes the text unreadable, wherever the
two stand and whatever they hold. -/
theorem decode_exact :
    (∀ h : Header, decode h.encode = .ok h) ∧ Function.Injective encode ∧
    (∀ (members : List (String × Json)) (h : Header),
      decode (Base64Url.encode (utf8 (Json.object members).render)) = .ok h ↔
        h.ListedIn members) ∧
    ∀ name ∈ ["kid", "fleetId", "alg", "role", "timestamp"],
      ∀ (before between after : List (String × Json)) (v w : Json), ∃ cause,
        decode (Base64Url.encode (utf8 (Json.object
          (before ++ (name, v) :: (between ++ (name, w) :: after))).render)) =
          .error (.format (.header cause)) := by
  refine ⟨decode_encode, encode_injective, fun members h => ?_, ?_⟩
  · rw [decode_render, mapError_eq_ok, read_eq_ok]
  · intro name known before between after v w
    rw [decode_render]
    cases reads : read (Json.object
        (before ++ (name, v) :: (between ++ (name, w) :: after))).textDraft with
    | error cause => exact ⟨cause, rfl⟩
    | ok h =>
        refine absurd (read_eq_ok.1 reads) (not_listedIn_of_twice known ?_)
        simp only [under_append, under_cons_self, List.length_append, List.length_cons]
        omega

theorem shuffled_decode_exact :
    decode (Base64Url.encode (utf8 (Json.object
      [("note", .array [.null, .object [("kid", .string "inner")]]),
        ("timestamp", .int Int64.minValue.toInt), ("fleetId", .null),
        ("kid", .string "a\"b\\c\n")]).render)) =
      .ok ⟨some "a\"b\\c\n", none, none, none, some Int64.minValue⟩ ∧
    ∃ cause, decode (Base64Url.encode (utf8 (Json.object
      [("role", .int 1), ("note", .null), ("role", .null)]).render)) =
        .error (.format (.header cause)) := by
  obtain ⟨-, -, exact, twice⟩ := decode_exact
  refine ⟨(exact _ _).2 ⟨.value _, .null, .missing, .missing, .value _⟩, ?_⟩
  exact twice "role" (by decide) [] [("note", .null)] [] (.int 1) .null

end Header

end Countersign
