import Countersign.Keystore.Request
import Countersign.Proofs.Keystore.Choice
import Countersign.Proofs.Keystore.Persistence

/-!
# Requests that fail change nothing

A load may create the store that it reads, so it touches the stores before it knows whether the
keys in them can be read.  But a store that it creates holds an empty list: a load fails only over
a store that was there, and then it has changed nothing.  All other requests that fail do so before
they change anything.
-/

namespace Countersign.Keystore

variable {s s' : Keystore} {suite : Crypto.Suite} {stores stores' : Stores}

/-! ## Lists of keys in a store -/

def ListsKeys (v : Json) (keys : List Key) : Prop :=
  ∃ items, v = .array items ∧
    List.Forall₂ (fun item k => Key.read .wrongLength (Json.draft item) = .ok k) items keys

theorem draftItems_eq_map (items : List Json) : Json.draftItems items = items.map Json.draft := by
  induction items with
  | nil => rfl
  | cons item items ih => rw [Json.draftItems, ih, List.map_cons]

theorem listOfJson_eq_ok {v : Json} {keys : List Key} :
    Key.listOfJson v = .ok keys ↔ ListsKeys v keys := by
  rw [Key.listOfJson, Json.readList_eq_ok, ListsKeys]
  cases v with
  | array items => simp [Json.draft, draftItems_eq_map, List.forall₂_map_left_iff]
  | _ => simp [Json.draft]

def freshEntries : Table Json := Table.ofList [(keysEntry, .array [])]

/-- The keys that are there to be loaded: none where the store or the entry is missing. -/
inductive Saved (name : String) (stores : Stores) : List Key → Prop where
  | noStore : stores.get? name = none → Saved name stores []
  | noEntry {entries : Table Json} :
      stores.get? name = some entries → entries.get? keysEntry = none → Saved name stores []
  | listed {entries : Table Json} {v : Json} {keys : List Key} :
      stores.get? name = some entries → entries.get? keysEntry = some v → ListsKeys v keys →
        Saved name stores keys

def Unreadable (name : String) (stores : Stores) : Prop :=
  ∃ entries v, stores.get? name = some entries ∧ entries.get? keysEntry = some v ∧
    ∀ keys, ¬ ListsKeys v keys

theorem saved_or_unreadable (name : String) (stores : Stores) :
    (∃ keys, Saved name stores keys) ∨ Unreadable name stores := by
  cases present : stores.get? name with
  | none => exact .inl ⟨[], .noStore present⟩
  | some entries =>
      cases entry : entries.get? keysEntry with
      | none => exact .inl ⟨[], .noEntry present entry⟩
      | some v =>
          by_cases listed : ∃ keys, ListsKeys v keys
          · obtain ⟨keys, lists⟩ := listed
            exact .inl ⟨keys, .listed present entry lists⟩
          · exact .inr ⟨entries, v, present, entry, fun keys lists => listed ⟨keys, lists⟩⟩

/-! ## Loading -/

theorem load_absent (absent : stores.get? s.store = none) :
    s.load stores = (stores.insert s.store freshEntries, .ok { s with keys := [] }) := by
  have entry : freshEntries.get? keysEntry = some (.array []) := Table.get?_insert_self _ _ _
  have held : Stores.get (stores.insert s.store freshEntries) s.store keysEntry =
      .ok (some (savedValue [])) :=
    Stores.get_eq_ok.2 ⟨freshEntries, Table.get?_insert_self _ _ _, entry⟩
  have created : stores.create s.store (.object [(keysEntry, .array [])]) =
      .ok (stores.insert s.store freshEntries, true) := by
    simp [Stores.create, Stores.initial, Table.contains, absent, freshEntries]
  simp [load, created, readSaved_held held]

theorem load_present {entries : Table Json} (present : stores.get? s.store = some entries) :
    s.load stores = (stores, do return { s with keys := ← readSaved s.store stores }) := by
  have left : stores.create s.store (.object [(keysEntry, .array [])]) = .ok (stores, false) := by
    simp [Stores.create, Stores.initial, Table.contains, present]
  simp [load, left]

def storesLoaded (s : Keystore) (stores : Stores) : Stores :=
  if stores.contains s.store then stores else stores.insert s.store freshEntries

theorem readSaved_present {entries : Table Json} (present : stores.get? s.store = some entries)
    {v : Json} (entry : entries.get? keysEntry = some v) :
    readSaved s.store stores = (Key.listOfJson v).mapError fun e => Error.format (.json e) := by
  simp [readSaved, Stores.get, Stores.store, present, entry]

theorem Saved.load {keys : List Key} (saved : Saved s.store stores keys) :
    s.load stores = (s.storesLoaded stores, .ok { s with keys := keys }) := by
  cases saved with
  | noStore absent => simp [load_absent absent, storesLoaded, Table.contains, absent]
  | noEntry present missing =>
      have read : readSaved s.store stores = .ok [] := by
        simp [readSaved, Stores.get, Stores.store, present, missing]
      simp [load_present present, storesLoaded, Table.contains, present, read]
  | listed present entry lists =>
      have read : readSaved s.store stores = .ok keys := by
        rw [readSaved_present present entry, listOfJson_eq_ok.2 lists, mapError_ok]
      simp [load_present present, storesLoaded, Table.contains, present, read]

-- The store was there before, so the load has not created it.
theorem Unreadable.load (unreadable : Unreadable s.store stores) :
    ∃ error, s.load stores = (stores, .error error) := by
  obtain ⟨entries, v, present, entry, unlisted⟩ := unreadable
  cases read : Key.listOfJson v with
  | ok keys => exact absurd (listOfJson_eq_ok.1 read) (unlisted keys)
  | error e =>
      refine ⟨.format (.json e), ?_⟩
      simp [load_present present, readSaved_present present entry, read]

/-! ## Requests -/

/-- The request cannot be met: the keys cannot be read, the store is missing, the text is no record
or one without an id, the id is unknown, or no key of the role is there to sign. -/
def Refuses (s : Keystore) (stores : Stores) : Request → Prop
  | .command .load => Unreadable s.store stores
  | .command .save => stores.get? s.store = none
  | .command (.provision text) => ∀ k, Key.parse text = .ok k → k.kid = ""
  | .command (.setFlag kid _ _) => ∀ k ∈ s.keys, k.kid ≠ kid
  | .role role fleetId => ∀ k ∈ s.keys, ¬ k.Eligible role fleetId true
  | .command (.generate ..) | .command (.adopt ..) | .command (.forget _) => False
  | .kid _ | .all | .own => False

/-- A request is met, or it is refused and nothing changes. -/
theorem answer_cases (s : Keystore) (suite : Crypto.Suite) (stores : Stores) (r : Request) :
    (¬ s.Refuses stores r ∧ ∃ s' stores' a, s.answer suite stores r = (s', stores', .ok a)) ∨
    (s.Refuses stores r ∧ ∃ error, s.answer suite stores r = (s, stores, .error error)) := by
  cases r with
  | command c =>
      cases c with
      | load =>
          rcases saved_or_unreadable s.store stores with ⟨keys, saved⟩ | unreadable
          · refine .inl ⟨fun refuses => ?_, ?_⟩
            · obtain ⟨error, fails⟩ := Unreadable.load refuses
              simp [saved.load] at fails
            · simp [answer, perform, saved.load]
          · obtain ⟨error, fails⟩ := unreadable.load
            refine .inr ⟨unreadable, ?_⟩
            simp [answer, perform, fails]
      | save =>
          cases present : stores.get? s.store with
          | none =>
              refine .inr ⟨present, ?_⟩
              simp [answer, perform, save, Stores.set, Stores.store, present]
          | some entries =>
              refine .inl ⟨by simp [Refuses, present], ?_⟩
              simp [answer, perform, save, Stores.set, Stores.store, present]
      | provision text =>
          cases parsed : Key.parse text with
          | error e =>
              refine .inr ⟨fun k parses => ?_, ?_⟩
              · cases parsed.symm.trans parses
              · simp [answer, perform, provision, parsed, keepOnError]
          | ok k =>
              by_cases nameless : k.kid = ""
              · refine .inr ⟨fun l parses => ?_, ?_⟩
                · cases parsed.symm.trans parses
                  exact nameless
                · simp [answer, perform, provision, parsed, nameless, keepOnError]
              · refine .inl ⟨fun refuses => nameless (refuses k parsed), ?_⟩
                simp [answer, perform, provision, parsed, nameless, keepOnError]
      | setFlag kid flag on =>
          cases found : s.key? kid with
          | none =>
              have unknown : ∀ k ∈ s.keys, k.kid ≠ kid := by simpa [key?] using found
              refine .inr ⟨unknown, ?_⟩
              simp [answer, perform, setFlag, found, keepOnError]
          | some k =>
              refine .inl ⟨fun refuses => refuses k (mem_of_key? found) (kid_of_key? found), ?_⟩
              simp [answer, perform, setFlag, found, keepOnError]
      | generate seed flags kid fleetId => exact .inl ⟨id, _, _, _, rfl⟩
      | adopt key flags fleetId => exact .inl ⟨id, _, _, _, rfl⟩
      | forget kid => exact .inl ⟨id, _, _, _, rfl⟩
  | kid kid => exact .inl ⟨id, _, _, _, rfl⟩
  | all => exact .inl ⟨id, _, _, _, rfl⟩
  | own => exact .inl ⟨id, _, _, _, rfl⟩
  | role role fleetId =>
      cases chosen : s.keyByRole role fleetId with
      | ok k =>
          obtain ⟨l, listed, eligible⟩ := selectKey_succeeds_iff.1 ⟨k, chosen⟩
          refine .inl ⟨fun refuses => refuses l listed eligible, ?_⟩
          simp [answer, chosen]
      | error error =>
          refine .inr ⟨(selectKey_eq_error_iff.1 chosen).1, ?_⟩
          simp [answer, chosen]

theorem answer_load_eq_ok {a : Answer} :
    s.answer suite stores (.command .load) = (s', stores', .ok a) ↔
      ∃ keys, Saved s.store stores keys ∧ s' = { s with keys := keys } ∧
        stores' = s.storesLoaded stores ∧ a = .reply (.count keys.length) := by
  constructor
  · intro met
    rcases saved_or_unreadable s.store stores with ⟨keys, saved⟩ | unreadable
    · simp only [answer, perform, saved.load, map_ok] at met
      cases met
      exact ⟨keys, saved, rfl, rfl, rfl⟩
    · obtain ⟨error, fails⟩ := unreadable.load
      simp [answer, perform, fails] at met
  · rintro ⟨keys, saved, rfl, rfl, rfl⟩
    simp [answer, perform, saved.load]

theorem answerAll_metOf (s : Keystore) (suite : Crypto.Suite) (stores : Stores)
    (history : List Request) :
    s.answerAll suite stores (s.metOf suite stores history) =
      s.answerAll suite stores history := by
  induction history generalizing s stores with
  | nil => rfl
  | cons r history ih =>
      rcases answer_cases s suite stores r with ⟨-, s', stores', a, met⟩ | ⟨-, error, failed⟩
      · simp only [metOf, met, answerAll, ih]
      · simp only [metOf, failed, answerAll, ih]

/-- A request that fails leaves the keys and all stores as they were, so a history comes to the same
without the requests that fail in it.  It fails exactly if it is refused, and a load that does not
fail takes the list that is there, all of it and nothing else. -/
theorem failed_unchanged (s : Keystore) (suite : Crypto.Suite) (stores : Stores) :
    (∀ r s' stores' error, s.answer suite stores r = (s', stores', .error error) →
      s' = s ∧ stores' = stores) ∧
    (∀ r, (∃ s' stores' error, s.answer suite stores r = (s', stores', .error error)) ↔
      s.Refuses stores r) ∧
    (∀ s' stores' a, s.answer suite stores (.command .load) = (s', stores', .ok a) ↔
      ∃ keys, Saved s.store stores keys ∧ s' = { s with keys := keys } ∧
        stores' = s.storesLoaded stores ∧ a = .reply (.count keys.length)) ∧
    (∀ history, s.answerAll suite stores (s.metOf suite stores history) =
      s.answerAll suite stores history) := by
  refine ⟨?_, ?_, fun _ _ _ => answer_load_eq_ok, answerAll_metOf s suite stores⟩
  · intro r s' stores' error failed
    rcases answer_cases s suite stores r with ⟨-, t, after, a, met⟩ | ⟨-, raised, refused⟩
    · cases failed.symm.trans met
    · cases failed.symm.trans refused
      exact ⟨rfl, rfl⟩
  · intro r
    rcases answer_cases s suite stores r with ⟨free, t, after, a, met⟩ | ⟨refuses, raised, refused⟩
    · refine ⟨?_, fun refuses => absurd refuses free⟩
      rintro ⟨s', stores', error, failed⟩
      cases failed.symm.trans met
    · exact ⟨fun _ => refuses, fun _ => ⟨s, stores, raised, refused⟩⟩

end Countersign.Keystore
