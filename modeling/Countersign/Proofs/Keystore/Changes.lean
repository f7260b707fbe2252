import Countersign.Keystore.Command
import Countersign.Proofs.Results

/-!
# What commands do to the keys

Whatever a keystore is asked to do, its list of keys undergoes one of five changes, and nothing else
of it changes.  All of them but the loading of a list keep the ids distinct, so that a record is
found by its id wherever it stands.
-/

namespace Countersign.Keystore

inductive Change where
  | keep
  | store (k : Key)
  | mark (kid : String) (flag : KeyFlags) (on : Bool)
  | drop (kid : String)
  | replace (keys : List Key)

def Change.apply : Change → List Key → List Key
  | .keep, keys => keys
  | .store k, keys => keys.filter (fun old => !(old.kid == k.kid)) ++ [k]
  | .mark kid flag on, keys => changeFirst (·.kid == kid) (·.setFlag flag on) keys
  | .drop kid, keys => keys.filter fun k => !(k.kid == kid)
  | .replace keys, _ => keys

def change (s : Keystore) (suite : Crypto.Suite) (stores : Stores) : Command → Change
  | .load =>
      match (s.load stores).2 with
      | .ok loaded => .replace loaded.keys
      | .error _ => .keep
  | .save => .keep
  | .generate seed flags kid fleetId => .store (generated suite seed flags kid fleetId)
  | .adopt key flags fleetId =>
      .store { key with flags := flags.orOrigin .external, fleetId := fleetId }
  | .provision text =>
      match s.provision text with
      | .ok (_, k) => .store k
      | .error _ => .keep
  | .setFlag kid flag on => .mark kid flag on
  | .forget kid => .drop kid

/-! ## One command -/

theorem changeFirst_of_none {p : Key → Bool} {keys : List Key} (none : ∀ k ∈ keys, p k = false)
    (f : Key → Key) : changeFirst p f keys = keys := by
  induction keys with
  | nil => rfl
  | cons k rest ih =>
      rw [changeFirst, none k List.mem_cons_self, ih fun l hl => none l (List.mem_cons_of_mem k hl)]
      rfl

theorem load_eq_ok {s loaded : Keystore} {stores : Stores} (h : (s.load stores).2 = .ok loaded) :
    loaded = { s with keys := loaded.keys } := by
  unfold load at h
  split at h
  · cases h
  · obtain ⟨keys, -, h⟩ := bind_eq_ok.1 h
    cases h
    rfl

theorem provision_eq_ok {s s' : Keystore} {text : String} {k : Key}
    (h : s.provision text = .ok (s', k)) : s' = s.put k := by
  obtain ⟨parsed, -, h⟩ := bind_eq_ok.1 h
  split at h
  · cases h
  · cases h
    rfl

theorem perform_fst (s : Keystore) (suite : Crypto.Suite) (stores : Stores) (c : Command) :
    (s.perform suite stores c).1 =
      { s with keys := (s.change suite stores c).apply s.keys } := by
  cases c with
  | load =>
      rw [perform, change]
      cases loads : s.load stores with
      | mk stores' result =>
          cases result with
          | error e => rfl
          | ok loaded => exact load_eq_ok (congrArg Prod.snd loads)
  | save =>
      rw [perform]
      cases s.save stores <;> rfl
  | generate seed flags kid fleetId => rfl
  | adopt key flags fleetId => rfl
  | provision text =>
      rw [perform, change]
      cases provisions : s.provision text with
      | error e => rfl
      | ok result => exact provision_eq_ok provisions
  | setFlag kid flag on =>
      rw [perform, setFlag]
      cases found : s.key? kid with
      | some k => rfl
      | none =>
          have absent : ∀ k ∈ s.keys, (k.kid == kid) = false := by
            intro k member
            simpa using List.find?_eq_none.1 found k member
          change s = { s with keys := changeFirst (·.kid == kid) (·.setFlag flag on) s.keys }
          rw [changeFirst_of_none absent]
  | forget kid => rfl

/-! ## What holds of every record of an id -/

theorem mem_changeFirst {p : Key → Bool} {f : Key → Key} {keys : List Key} {l : Key}
    (member : l ∈ changeFirst p f keys) : l ∈ keys ∨ ∃ k ∈ keys, p k = true ∧ l = f k := by
  induction keys with
  | nil => cases member
  | cons first rest ih =>
      rw [changeFirst] at member
      split at member
      · rename_i hit
        rcases List.mem_cons.1 member with rfl | member
        · exact .inr ⟨first, List.mem_cons_self, hit, rfl⟩
        · exact .inl (List.mem_cons_of_mem first member)
      · rcases List.mem_cons.1 member with rfl | member
        · exact .inl List.mem_cons_self
        · rcases ih member with kept | ⟨k, held, hit, rfl⟩
          · exact .inl (List.mem_cons_of_mem first kept)
          · exact .inr ⟨k, List.mem_cons_of_mem first held, hit, rfl⟩

/-- The change keeps up `P` for the records of this id. -/
def Change.Upholds (kid : String) (P : Key → Prop) : Change → Prop
  | .keep | .drop _ => True
  | .store k => k.kid = kid → P k
  | .mark marked flag on => marked = kid → ∀ k, k.kid = kid → P k → P (k.setFlag flag on)
  | .replace keys => ∀ k ∈ keys, k.kid = kid → P k

theorem Change.apply_every {P : Key → Prop} {change : Change} {kid : String} {keys : List Key}
    (upholds : change.Upholds kid P) (every : ∀ k ∈ keys, k.kid = kid → P k) :
    ∀ k ∈ change.apply keys, k.kid = kid → P k := by
  intro l member named
  cases change with
  | keep => exact every l member named
  | store k =>
      rcases List.mem_append.1 member with old | new
      · exact every l (List.mem_filter.1 old).1 named
      · obtain rfl := List.mem_singleton.1 new
        exact upholds named
  | mark marked flag on =>
      rcases mem_changeFirst member with kept | ⟨k, held, hit, rfl⟩
      · exact every l kept named
      · exact upholds ((beq_iff_eq.1 hit).symm.trans named) k named (every k held named)
  | drop dropped => exact every l (List.mem_filter.1 member).1 named
  | replace loaded => exact upholds l member named

/-! ## Distinct ids -/

def DistinctKids (keys : List Key) : Prop := (keys.map (·.kid)).Nodup

instance (keys : List Key) : Decidable (DistinctKids keys) :=
  inferInstanceAs (Decidable (keys.map (·.kid)).Nodup)

theorem map_kid_changeFirst {p : Key → Bool} {f : Key → Key} (same : ∀ k, (f k).kid = k.kid)
    (keys : List Key) : (changeFirst p f keys).map (·.kid) = keys.map (·.kid) := by
  induction keys with
  | nil => rfl
  | cons k rest ih =>
      rw [changeFirst]
      split
      · simp [same]
      · simp [ih]

theorem DistinctKids.apply {keys : List Key} (distinct : DistinctKids keys) {change : Change}
    (fresh : ∀ loaded, change = .replace loaded → DistinctKids loaded) :
    DistinctKids (change.apply keys) := by
  cases change with
  | keep => exact distinct
  | store k =>
      have others : DistinctKids (keys.filter fun old => !(old.kid == k.kid)) :=
        distinct.sublist (List.filter_sublist.map _)
      have new : ∀ kid ∈ (keys.filter fun old => !(old.kid == k.kid)).map (·.kid), kid ≠ k.kid := by
        intro kid member
        obtain ⟨old, held, rfl⟩ := List.mem_map.1 member
        simpa using (List.mem_filter.1 held).2
      rw [DistinctKids, Change.apply, List.map_append, List.nodup_append]
      refine ⟨others, by simp, ?_⟩
      intro kid member last only
      rw [List.mem_singleton.1 only]
      exact new kid member
  | mark kid flag on =>
      have same : ∀ k : Key, (k.setFlag flag on).kid = k.kid := fun _ => rfl
      rw [DistinctKids, Change.apply, map_kid_changeFirst same]
      exact distinct
  | drop kid => exact distinct.sublist (List.filter_sublist.map _)
  | replace loaded => exact fresh loaded rfl

theorem changeFirst_eq_map {keys : List Key} (distinct : DistinctKids keys) (kid : String)
    (f : Key → Key) :
    changeFirst (·.kid == kid) f keys = keys.map fun k => if k.kid = kid then f k else k := by
  induction keys with
  | nil => rfl
  | cons first rest ih =>
      rw [DistinctKids, List.map_cons, List.nodup_cons] at distinct
      obtain ⟨others, distinct⟩ := distinct
      rw [changeFirst, List.map_cons]
      by_cases here : first.kid = kid
      · -- No other record has the id, so the map leaves the rest alone as well.
        have unchanged : rest.map (fun k => if k.kid = kid then f k else k) = rest := by
          rw [List.map_congr_left (g := id), List.map_id]
          intro k member
          refine if_neg fun same => others ?_
          rw [here, ← same]
          exact List.mem_map_of_mem member
        simp [here, unchanged]
      · simp [here, ih distinct]

theorem find?_kid_of_mem {keys : List Key} (distinct : DistinctKids keys) {k : Key}
    (member : k ∈ keys) : keys.find? (·.kid == k.kid) = some k := by
  induction keys with
  | nil => cases member
  | cons first rest ih =>
      rw [DistinctKids, List.map_cons, List.nodup_cons] at distinct
      obtain ⟨others, distinct⟩ := distinct
      rcases List.mem_cons.1 member with rfl | member
      · simp
      · have differs : first.kid ≠ k.kid := by
          intro same
          rw [same] at others
          exact others (List.mem_map_of_mem member)
        rw [List.find?_cons_of_neg (by simpa using differs)]
        exact ih distinct member

theorem mem_of_key? {s : Keystore} {kid : String} {k : Key} (found : s.key? kid = some k) :
    k ∈ s.keys :=
  List.mem_of_find?_eq_some found

theorem kid_of_key? {s : Keystore} {kid : String} {k : Key} (found : s.key? kid = some k) :
    k.kid = kid := by
  simpa using List.find?_some found

theorem key?_eq_some {s : Keystore} (distinct : DistinctKids s.keys) {kid : String} {k : Key} :
    s.key? kid = some k ↔ k ∈ s.keys ∧ k.kid = kid := by
  constructor
  · intro found
    exact ⟨mem_of_key? found, kid_of_key? found⟩
  · rintro ⟨member, rfl⟩
    exact find?_kid_of_mem distinct member

end Countersign.Keystore
