import Countersign.Proofs.Json.Document
import Countersign.Proofs.Results

/-!
# Records and their parts

A reader of records takes each part from the member of its name, or from the item at its place, and
from nowhere else.  One direction walks through the members that a record writes; the other says
what an accepted draft must have held.
-/

namespace Countersign.Json

variable {σ α β : Type} {fields : List (RecordField σ)}

/-! ## Walking through written members -/

theorem readMembers_known {field : RecordField σ} {name : String}
    (found : fields.find? (·.name == name) = some field) {p q : σ} {d : Draft}
    (absent : field.present p = false) (read : field.read p d = .ok q)
    (rest : List (Option String × Draft)) :
    readMembers fields p ((some name, d) :: rest) = readMembers fields q rest := by
  simp [readMembers, found, absent, read]

theorem readMembers_optional {field : RecordField σ} {name : String}
    (found : fields.find? (·.name == name) = some field) {p q : σ}
    (absent : field.present p = false) {value : Option α} {json : α → Json}
    (empty : value = none → q = p)
    (filled : ∀ a, value = some a → field.read p (json a).textDraft = .ok q)
    (rest : List (String × Json)) :
    readMembers fields p
        (textDraftMembers ((value.map fun a => (name, json a)).toList ++ rest)) =
      readMembers fields q (textDraftMembers rest) := by
  cases value with
  | none => rw [empty rfl, Option.map_none, Option.toList_none, List.nil_append]
  | some a => exact readMembers_known found absent (filled a rfl) (textDraftMembers rest)

/-! ## What stands under a name -/

def under {κ α : Type} [BEq κ] (key : κ) (members : List (κ × α)) : List α :=
  (members.filter (·.1 == key)).map (·.2)

section Under

variable {κ : Type} [BEq κ] {key : κ}

@[simp] theorem under_append (members others : List (κ × α)) :
    under key (members ++ others) = under key members ++ under key others := by
  simp [under]

@[simp] theorem under_optional {name : κ} {value : Option β} {json : β → α} :
    under key (value.map fun a => (name, json a)).toList =
      if name == key then (value.map json).toList else [] := by
  cases value with
  | none => simp [under]
  | some a => cases same : name == key <;> simp [under, same]

variable [LawfulBEq κ]

theorem under_cons_self (a : α) (members : List (κ × α)) :
    under key ((key, a) :: members) = a :: under key members := by
  simp [under]

theorem under_cons_of_ne {other : κ} (differs : other ≠ key) (a : α) (members : List (κ × α)) :
    under key ((other, a) :: members) = under key members := by
  simp [under, differs]

theorem mem_under {a : α} {members : List (κ × α)} :
    a ∈ under key members ↔ (key, a) ∈ members := by
  simp [under]

theorem lookup_eq_head? (members : List (κ × α)) :
    members.lookup key = (under key members).head? := by
  induction members with
  | nil => rfl
  | cons member rest ih =>
      obtain ⟨other, a⟩ := member
      by_cases same : other = key
      · subst same
        rw [under_cons_self, List.lookup_cons_self, List.head?_cons]
      · have differs : (key == other) = false := by simpa using Ne.symm same
        rw [under_cons_of_ne same, List.lookup_cons, differs, ih]

end Under

/-! ## What an accepted draft held -/

/-- The part of a record at its place in the array form, under its name in the object form. -/
def Draft.part? (d : Draft) (place : Nat) (name : String) : Option Draft :=
  match d with
  | .array items _ => items[place]?
  | .object members _ => members.lookup (some name)
  | _ => none

/-- Among `fields`, `field` alone fills the part that `get` shows, with what `read` gives. -/
structure Fills (fields : List (RecordField σ)) (field : RecordField σ) (get : σ → Option β)
    (read : Reader β) : Prop where
  present : ∀ p, field.present p = (get p).isSome
  own : ∀ p d q, field.read p d = .ok q → ∃ v, read d = .ok v ∧ get q = some v
  others : ∀ f ∈ fields, f.name ≠ field.name → ∀ p d q, f.read p d = .ok q → get q = get p

theorem read_own {put : σ → β → σ} {get : σ → Option β} {read : Reader β}
    (gives : ∀ p v, get (put p v) = some v) (p : σ) (d : Draft) (q : σ)
    (h : (do return put p (← read d) : Except ReadError σ) = .ok q) :
    ∃ v, read d = .ok v ∧ get q = some v := by
  obtain ⟨v, reads, h⟩ := bind_eq_ok.1 h
  cases h
  exact ⟨v, reads, gives p v⟩

theorem read_other {put : σ → α → σ} {get : σ → Option β} {read : Reader α}
    (keeps : ∀ p v, get (put p v) = get p) (p : σ) (d : Draft) (q : σ)
    (h : (do return put p (← read d) : Except ReadError σ) = .ok q) : get q = get p := by
  obtain ⟨v, -, h⟩ := bind_eq_ok.1 h
  cases h
  exact keeps p v

def ReadAs (read : Reader β) : Option Draft → Option β → Prop
  | none, value => value = none
  | some d, value => ∃ v, read d = .ok v ∧ value = some v

/-- A part stood once and reads as this value, or it stood nowhere and there is no value. -/
def ReadOnce (read : Reader β) : List Draft → Option β → Prop
  | [], value => value = none
  | [d], value => ∃ v, read d = .ok v ∧ value = some v
  | _ :: _ :: _, _ => False

theorem ReadOnce.readAs {read : Reader β} {ds : List Draft} {value : Option β}
    (once : ReadOnce read ds value) : ReadAs read ds.head? value := by
  match ds with
  | [] => exact once
  | [d] => exact once
  | _ :: _ :: _ => exact once.elim

variable {field : RecordField σ} {get : σ → Option β} {read : Reader β}

theorem readMembers_once (fills : Fills fields field get read)
    (found : fields.find? (·.name == field.name) = some field)
    {members : List (Option String × Draft)} {p q : σ} (h : readMembers fields p members = .ok q) :
    (∀ v, get p = some v → under (some field.name) members = [] ∧ get q = some v) ∧
      (get p = none → ReadOnce read (under (some field.name) members) (get q)) := by
  induction members generalizing p with
  | nil =>
      cases h
      exact ⟨fun _ held => ⟨rfl, held⟩, id⟩
  | cons member rest ih =>
      obtain ⟨_ | name, d⟩ := member
      · cases h
      by_cases same : name = field.name
      · subst same
        rw [readMembers, found] at h
        by_cases held : field.present p = true
        · simp [held] at h
        · obtain ⟨p', step, h⟩ := bind_eq_ok.1 ((if_neg held).symm.trans h)
          obtain ⟨v, reads, gives⟩ := fills.own p d p' step
          obtain ⟨alone, kept⟩ := (ih h).1 v gives
          have absent : get p = none := by simpa [fills.present] using held
          refine ⟨?_, fun _ => ?_⟩
          · intro w holds
            cases absent.symm.trans holds
          · rw [under_cons_self, alone]
            exact ⟨v, reads, kept⟩
      · rw [under_cons_of_ne fun equal => same (Option.some.inj equal)]
        rw [readMembers] at h
        split at h
        · split at h
          · exact ih h
          · cases h
        · rename_i other foundOther
          have named : other.name = name := by simpa using List.find?_some foundOther
          split at h
          · cases h
          · obtain ⟨p', step, h⟩ := bind_eq_ok.1 h
            have unchanged := fills.others other (List.mem_of_find?_eq_some foundOther)
              (named ▸ same) p d p' step
            rw [← unchanged]
            exact ih h

theorem readMembers_part (fills : Fills fields field get read)
    (found : fields.find? (·.name == field.name) = some field)
    {members : List (Option String × Draft)} {p q : σ} (absent : get p = none)
    (h : readMembers fields p members = .ok q) :
    ReadAs read (members.lookup (some field.name)) (get q) := by
  rw [lookup_eq_head?]
  exact ((readMembers_once fills found h).2 absent).readAs

theorem readItems_nil {surplus : ReadError} {closed : Bool} {after : List (RecordField σ)}
    {p q : σ} (h : readItems surplus closed after p [] = .ok q) : q = p := by
  cases after with
  | nil =>
      cases closed with
      | false => cases h
      | true => exact (Except.ok.inj h).symm
  | cons f after =>
      simp only [readItems] at h
      split at h
      · cases h
      · split at h
        · cases h
        · exact (Except.ok.inj h).symm

theorem readItems_other {surplus : ReadError} {closed : Bool} {after : List (RecordField σ)}
    (fills : Fills fields field get read) (sub : ∀ f ∈ after, f ∈ fields ∧ f.name ≠ field.name)
    {items : List Draft} {p q : σ} (h : readItems surplus closed after p items = .ok q) :
    get q = get p := by
  induction items generalizing p after with
  | nil => rw [readItems_nil h]
  | cons d items ih =>
      cases after with
      | nil => cases h
      | cons f after =>
          obtain ⟨p', step, h⟩ := bind_eq_ok.1 h
          obtain ⟨member, differs⟩ := sub f List.mem_cons_self
          rw [ih (fun g hg => sub g (List.mem_cons_of_mem _ hg)) h]
          exact fills.others f member differs p d p' step

theorem readItems_part {surplus : ReadError} {closed : Bool} {before after : List (RecordField σ)}
    (fills : Fills fields field get read) (sub : ∀ f ∈ before ++ after, f ∈ fields)
    (distinct : ∀ f ∈ before ++ after, f.name ≠ field.name)
    {items : List Draft} {p q : σ} (absent : get p = none)
    (h : readItems surplus closed (before ++ field :: after) p items = .ok q) :
    ReadAs read items[before.length]? (get q) := by
  induction items generalizing p before with
  | nil =>
      rw [readItems_nil h]
      exact absent
  | cons d items ih =>
      cases before with
      | nil =>
          obtain ⟨p', step, h⟩ := bind_eq_ok.1 h
          obtain ⟨v, reads, gives⟩ := fills.own p d p' step
          have kept := readItems_other fills (fun f hf => ⟨sub f hf, distinct f hf⟩) h
          exact ⟨v, reads, kept.trans gives⟩
      | cons f before =>
          obtain ⟨p', step, h⟩ := bind_eq_ok.1 h
          have unchanged := fills.others f (sub f (by simp)) (distinct f (by simp)) p d p' step
          exact ih (fun g hg => sub g (List.mem_cons_of_mem _ hg))
            (fun g hg => distinct g (List.mem_cons_of_mem _ hg)) (unchanged.trans absent) h

theorem record_part {surplus : ReadError} {before after : List (RecordField σ)}
    (fills : Fills (before ++ field :: after) field get read)
    (distinct : ∀ f ∈ before ++ after, f.name ≠ field.name) {start q : σ}
    (absent : get start = none) {d : Draft}
    (h : record (before ++ field :: after) surplus start d = .ok q) :
    ReadAs read (d.part? before.length field.name) (get q) := by
  have sub : ∀ f ∈ before ++ after, f ∈ before ++ field :: after := by
    intro f hf
    simp only [List.mem_append, List.mem_cons] at hf ⊢
    exact hf.imp_right .inr
  have found : (before ++ field :: after).find? (·.name == field.name) = some field := by
    have none : before.find? (·.name == field.name) = none := by
      rw [List.find?_eq_none]
      intro f hf
      simpa using distinct f (List.mem_append_left _ hf)
    simp [List.find?_append, none]
  cases d with
  | object members closed =>
      obtain ⟨p, walked, h⟩ := bind_eq_ok.1 h
      have part := readMembers_part fills found absent walked
      cases closed with
      | false => cases h
      | true =>
          simp only [Bool.not_true, Bool.false_eq_true, if_false] at h
          split at h
          · cases h
          · cases h
            exact part
  | array items closed => exact readItems_part fills sub distinct absent h
  | _ => cases h

theorem readItems_required {surplus : ReadError} {closed : Bool}
    {before after : List (RecordField σ)} (required : field.required = true) {items : List Draft}
    {p q : σ} (h : readItems surplus closed (before ++ field :: after) p items = .ok q) :
    ∃ d, items[before.length]? = some d := by
  induction items generalizing p before with
  | nil =>
      have needed : (before ++ field :: after).any (·.required) = true := by
        simp [required]
      obtain ⟨f, fs, split⟩ := List.exists_cons_of_ne_nil
        (List.append_ne_nil_of_right_ne_nil before (List.cons_ne_nil field after))
      rw [split] at h needed
      cases closed <;> simp [readItems, needed] at h
  | cons d items ih =>
      cases before with
      | nil => exact ⟨d, rfl⟩
      | cons f before =>
          obtain ⟨p', -, h⟩ := bind_eq_ok.1 h
          exact ih h

theorem record_required {surplus : ReadError} {before after : List (RecordField σ)}
    (fills : Fills (before ++ field :: after) field get read)
    (distinct : ∀ f ∈ before ++ after, f.name ≠ field.name) (required : field.required = true)
    {start q : σ} (absent : get start = none) {d : Draft}
    (h : record (before ++ field :: after) surplus start d = .ok q) :
    ∃ part v, d.part? before.length field.name = some part ∧ read part = .ok v ∧
      get q = some v := by
  have part := record_part fills distinct absent h
  cases place : d.part? before.length field.name with
  | some found =>
      rw [place] at part
      obtain ⟨v, reads, gives⟩ := part
      exact ⟨found, v, rfl, reads, gives⟩
  | none =>
      exfalso
      cases d with
      | object members closed =>
          obtain ⟨p, -, h⟩ := bind_eq_ok.1 h
          cases closed with
          | false => cases h
          | true =>
              simp only [Bool.not_true, Bool.false_eq_true, if_false] at h
              split at h
              · cases h
              · rename_i complete
                cases h
                have held := List.find?_eq_none.1 complete field (by simp)
                simp only [required, fills.present, Bool.true_and, Bool.not_eq_true',
                  Option.isSome_eq_false_iff, Option.isNone_iff_eq_none] at held
                rw [place] at part
                exact held part
      | array items closed =>
          obtain ⟨found, there⟩ := readItems_required required h
          cases place.symm.trans there
      | _ => cases h

/-! ## Members of a written object -/

theorem under_textDraftMembers (name : String) (members : List (String × Json)) :
    under (some name) (textDraftMembers members) = (under name members).map textDraft := by
  induction members with
  | nil => rfl
  | cons member rest ih =>
      obtain ⟨other, v⟩ := member
      by_cases same : other = name
      · subst same
        rw [textDraftMembers, under_cons_self, under_cons_self, List.map_cons, ih]
      · rw [textDraftMembers, under_cons_of_ne fun equal => same (Option.some.inj equal),
          under_cons_of_ne same, ih]

@[simp] theorem complete_textDraft (v : Json) : v.textDraft.complete = true := by
  cases v <;> rfl

/-- Members that stand at most once under each known name, and hold there what the field reads, are
all read, whatever stands around them. -/
theorem readMembers_succeeds
    (apart : ∀ f ∈ fields, ∀ g ∈ fields, f.name ≠ g.name → ∀ p d q, f.read p d = .ok q →
      g.present q = g.present p)
    {members : List (String × Json)}
    (accepted : ∀ f ∈ fields, ∀ v ∈ under f.name members, ∀ p, ∃ q, f.read p v.textDraft = .ok q)
    {p : σ} (once : ∀ f ∈ fields, (under f.name members).length ≤ 1)
    (free : ∀ f ∈ fields, f.present p = true → under f.name members = []) :
    ∃ q, readMembers fields p (textDraftMembers members) = .ok q := by
  induction members generalizing p with
  | nil => exact ⟨p, rfl⟩
  | cons member rest ih =>
      obtain ⟨name, v⟩ := member
      rw [textDraftMembers, readMembers]
      split
      · rename_i unknown
        have skipped (f : RecordField σ) (hf : f ∈ fields) :
            under f.name ((name, v) :: rest) = under f.name rest := by
          refine under_cons_of_ne (fun same => ?_) v rest
          simpa [same] using List.find?_eq_none.1 unknown f hf
        rw [if_pos v.complete_textDraft]
        refine ih ?_ ?_ ?_
        · exact fun f hf w hw => accepted f hf w (skipped f hf ▸ hw)
        · exact fun f hf => skipped f hf ▸ once f hf
        · exact fun f hf held => skipped f hf ▸ free f hf held
      · rename_i field known
        have member : field ∈ fields := List.mem_of_find?_eq_some known
        obtain rfl : field.name = name := by simpa using List.find?_some known
        have here : under field.name ((field.name, v) :: rest) = v :: under field.name rest :=
          under_cons_self v rest
        have absent : field.present p = false := by
          rw [Bool.eq_false_iff]
          intro held
          cases here.symm.trans (free field member held)
        obtain ⟨q, step⟩ := accepted field member v (here ▸ List.mem_cons_self) p
        rw [absent, if_neg Bool.false_ne_true, step, ok_bind]
        refine ih ?_ ?_ ?_
        · intro f hf w hw
          exact accepted f hf w (mem_under.2 (List.mem_cons_of_mem _ (mem_under.1 hw)))
        · intro f hf
          refine Nat.le_trans ?_ (once f hf)
          exact ((List.sublist_cons_self _ rest).filter _).map _ |>.length_le
        · intro f hf held
          by_cases same : field.name = f.name
          · have single := once field member
            rw [here, same] at single
            simpa using single
          · rw [apart field member f hf same p _ q step] at held
            rw [← under_cons_of_ne same v rest]
            exact free f hf held

/-! ## Whole texts -/

theorem readDocument_render (read : Reader α) (v : Json) :
    readDocument read (utf8 v.render) = read v.textDraft := by
  rw [readDocument, Draft.Document.ofBytes_render]
  cases read v.textDraft <;> rfl

/-! ## Scalars -/

theorem readText_eq_ok {d : Draft} {s : String} : readText d = .ok s ↔ d = .string (some s) := by
  constructor
  · intro h
    unfold readText at h
    split at h
    · cases h
      rfl
    · cases h
  · rintro rfl
    rfl

theorem readInt64_eq_ok {d : Draft} {n : Int64} :
    readInt64 d = .ok n ↔ d = .number (some (.int n.toInt)) := by
  constructor
  · intro h
    obtain ⟨i, reads, rfl⟩ := map_eq_ok.1 h
    unfold readInt at reads
    split at reads
    · split at reads
      · rename_i bounds
        cases reads
        have low : -0x8000000000000000 ≤ i := bounds.1
        have high : i ≤ 0x7fffffffffffffff := bounds.2
        rw [Int64.toInt_ofInt_of_le low (by omega)]
      · cases reads
    · cases reads
  · rintro rfl
    have low : Int64.minValue.toInt ≤ n.toInt := n.le_toInt
    have high : n.toInt ≤ Int64.maxValue.toInt := n.toInt_le
    rw [readInt64, readInt, if_pos ⟨low, high⟩, map_ok, Int64.ofInt_toInt]

theorem optional_eq_ok {read : Reader α} {d : Draft} {value : Option α} :
    optional read d = .ok value ↔
      (d = .null ∧ none = value) ∨ (d ≠ .null ∧ ∃ a, read d = .ok a ∧ some a = value) := by
  cases d <;> simp [optional, map_eq_ok]

/-- A reader takes from values the written forms of `α`, none of which is null, and nothing else. -/
structure TakesWritten (read : Reader α) (json : α → Json) : Prop where
  eq_ok : ∀ v a, read v.textDraft = .ok a ↔ v = json a
  filled : ∀ a, json a ≠ .null

theorem takesWritten_text : TakesWritten readText Json.string where
  eq_ok v s := by rw [readText_eq_ok, textDraft_eq_string]
  filled s := by simp

theorem takesWritten_int64 : TakesWritten readInt64 fun n => Json.int n.toInt where
  eq_ok v n := by
    have low := n.le_toInt
    have high := n.toInt_lt
    rw [readInt64_eq_ok, textDraft_eq_int (by omega) (by omega)]
  filled n := by simp [Json.int]

theorem TakesWritten.injective {json : α → Json} {read : Reader α}
    (takes : TakesWritten read json) : Function.Injective json := by
  intro a b same
  have reads := (takes.eq_ok (json a) b).2 same
  rw [(takes.eq_ok (json a) a).2 rfl] at reads
  exact Except.ok.inj reads

theorem TakesWritten.optional_eq_ok {json : α → Json} {read : Reader α}
    (takes : TakesWritten read json) {v : Json} {value : Option α} :
    optional read v.textDraft = .ok value ↔
      (v = .null ∧ none = value) ∨ ∃ a, v = json a ∧ some a = value := by
  rw [Json.optional_eq_ok, ne_eq, textDraft_eq_null]
  simp only [takes.eq_ok]
  constructor
  · rintro (null | ⟨-, filled⟩)
    · exact .inl null
    · exact .inr filled
  · rintro (null | ⟨a, rfl, held⟩)
    · exact .inl null
    · exact .inr ⟨takes.filled a, a, rfl, held⟩

/-! ## Lists -/

theorem readList_eq_ok {read : Reader α} {d : Draft} {values : List α} :
    readList read d = .ok values ↔
      ∃ items, d = .array items true ∧ List.Forall₂ (fun d v => read d = .ok v) items values := by
  cases d with
  | array items closed =>
      simp only [readList, bind_eq_ok, mapM_eq_ok, Draft.array.injEq, and_assoc, exists_eq_left']
      cases closed <;> simp
  | _ => simp [readList]

end Countersign.Json
