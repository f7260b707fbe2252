import Countersign.Proofs.Keystore.Changes
import Countersign.Proofs.Keystore.Selection

/-!
# Keystores list their keys in order of storing

A ledger knows no lists: for each id it has the record last stored under it, as later changes of its
flags have left it, and the moment of that storing.  However a keystore comes to be without loading,
its keys are the records of the ledger, in the order of their moments.  So what a look-up chooses
can be said in terms of what was stored first or last.
-/

namespace Countersign

/-! ## Ledgers -/

structure Ledger where
  clock : Nat
  entry : String → Option (Nat × Key)
  keyed : ∀ {kid time k}, entry kid = some (time, k) → k.kid = kid
  past : ∀ {kid time k}, entry kid = some (time, k) → time < clock

namespace Ledger

def empty : Ledger := ⟨0, fun _ => none, by simp, by simp⟩

def store (m : Ledger) (k : Key) : Ledger where
  clock := m.clock + 1
  entry kid := if kid = k.kid then some (m.clock, k) else m.entry kid
  keyed := by
    intro kid time held h
    split at h
    · rename_i same
      cases h
      exact same.symm
    · exact m.keyed h
  past := by
    intro kid time held h
    split at h
    · cases h
      exact Nat.lt_succ_self _
    · exact Nat.lt_succ_of_lt (m.past h)

def mark (m : Ledger) (marked : String) (flag : KeyFlags) (on : Bool) : Ledger where
  clock := m.clock
  entry kid :=
    if kid = marked then (m.entry kid).map fun (time, k) => (time, k.setFlag flag on)
    else m.entry kid
  keyed := by
    intro kid time held h
    split at h
    · obtain ⟨⟨_, k⟩, before, h⟩ := Option.map_eq_some_iff.1 h
      cases h
      have same : k.kid = kid := m.keyed before
      exact same
    · exact m.keyed h
  past := by
    intro kid time held h
    split at h
    · obtain ⟨⟨_, k⟩, before, h⟩ := Option.map_eq_some_iff.1 h
      cases h
      exact m.past before
    · exact m.past h

def drop (m : Ledger) (dropped : String) : Ledger where
  clock := m.clock
  entry kid := if kid = dropped then none else m.entry kid
  keyed := by
    intro kid time held h
    split at h
    · cases h
    · exact m.keyed h
  past := by
    intro kid time held h
    split at h
    · cases h
    · exact m.past h

/-- What a command puts down in the ledger.  A key that is generated is this node's own, and every
way of storing a key has an origin for those that come without one. -/
def perform (m : Ledger) (suite : Crypto.Suite) : Keystore.Command → Ledger
  | .load | .save => m
  | .generate seed flags kid fleetId =>
      m.store ⟨kid, fleetId, seed.val, some (suite.material seed),
        (flags ||| .ourOwn).orOrigin .generated⟩
  | .adopt k flags fleetId => m.store ⟨k.kid, fleetId, k.secret, k.material, flags.orOrigin .external⟩
  | .provision text =>
      match Key.parse text with
      | .ok k => if k.kid = "" then m else m.store { k with flags := k.flags.orOrigin .pki }
      | .error _ => m
  | .setFlag kid flag on => m.mark kid flag on
  | .forget kid => m.drop kid

def ofHistory (suite : Crypto.Suite) (history : List Keystore.Command) : Ledger :=
  history.foldl (fun m c => m.perform suite c) empty

/-! ## First and last -/

def Holds (m : Ledger) (k : Key) : Prop := ∃ time, m.entry k.kid = some (time, k)

def Before (m : Ledger) (k l : Key) : Prop :=
  ∃ time later, m.entry k.kid = some (time, k) ∧ m.entry l.kid = some (later, l) ∧ time < later

/-- Of the records with this property, `k` is the one stored first. -/
def First (m : Ledger) (p : Key → Prop) (k : Key) : Prop :=
  m.Holds k ∧ p k ∧ ∀ l, m.Holds l → p l → l ≠ k → m.Before k l

/-- Of the records with this property, `k` is the one stored last. -/
def Last (m : Ledger) (p : Key → Prop) (k : Key) : Prop :=
  m.Holds k ∧ p k ∧ ∀ l, m.Holds l → p l → l ≠ k → m.Before l k

theorem Before.asymm {m : Ledger} {k l : Key} (h : m.Before k l) : ¬ m.Before l k := by
  obtain ⟨time, later, entry, entry', lt⟩ := h
  rintro ⟨time', later', entry'', entry''', lt'⟩
  cases entry.symm.trans entry'''
  cases entry'.symm.trans entry''
  exact Nat.lt_asymm lt lt'

/-! ## The keys that a ledger lists -/

structure Lists (m : Ledger) (keys : List Key) : Prop where
  mem : ∀ k, k ∈ keys ↔ m.Holds k
  order : keys.Pairwise m.Before

variable {m : Ledger} {keys : List Key}

theorem Lists.distinct (h : m.Lists keys) : Keystore.DistinctKids keys := by
  rw [Keystore.DistinctKids, List.Nodup, List.pairwise_map]
  refine h.order.imp ?_
  rintro k l ⟨time, later, entry, entry', lt⟩ same
  rw [same, entry'] at entry
  cases entry
  exact Nat.lt_irrefl _ lt

theorem lists_empty : empty.Lists [] := ⟨by simp [empty, Holds], .nil⟩

/-! ## One command -/

theorem holds_store {k l : Key} :
    (m.store k).Holds l ↔ l = k ∨ (m.Holds l ∧ l.kid ≠ k.kid) := by
  by_cases same : l.kid = k.kid
  · simp only [Holds, store, same, if_true, ne_eq, not_true, and_false, or_false]
    constructor
    · rintro ⟨time, entry⟩
      cases entry
      rfl
    · rintro rfl
      exact ⟨_, rfl⟩
  · have differs : l ≠ k := fun eq => same (congrArg Key.kid eq)
    simp [Holds, store, same, differs]

theorem Before.store {k l new : Key} (h : m.Before k l) (kept : k.kid ≠ new.kid)
    (kept' : l.kid ≠ new.kid) : (m.store new).Before k l := by
  obtain ⟨time, later, entry, entry', lt⟩ := h
  exact ⟨time, later, by simpa [Ledger.store, kept] using entry,
    by simpa [Ledger.store, kept'] using entry', lt⟩

theorem Lists.store (h : m.Lists keys) (k : Key) :
    (m.store k).Lists ((Keystore.Change.store k).apply keys) := by
  have mem_others (l : Key) :
      l ∈ keys.filter (fun old => !(old.kid == k.kid)) ↔ m.Holds l ∧ l.kid ≠ k.kid := by
    simp [h.mem]
  refine ⟨fun l => ?_, ?_⟩
  · rw [Keystore.Change.apply, List.mem_append, List.mem_singleton, mem_others, holds_store, or_comm]
  · refine List.pairwise_append.2 ⟨?_, List.pairwise_singleton _ _, ?_⟩
    · refine (h.order.filter _).imp_of_mem ?_
      intro l l' member member' before
      exact before.store ((mem_others l).1 member).2 ((mem_others l').1 member').2
    · -- The new record comes last: it has the moment that the clock shows.
      intro l member last only
      rw [List.mem_singleton.1 only]
      obtain ⟨⟨time, entry⟩, kept⟩ := (mem_others l).1 member
      exact ⟨time, m.clock, by simpa [Ledger.store, kept] using entry, by simp [Ledger.store],
        m.past entry⟩

def marked (kid : String) (flag : KeyFlags) (on : Bool) (k : Key) : Key :=
  if k.kid = kid then k.setFlag flag on else k

theorem kid_marked (kid : String) (flag : KeyFlags) (on : Bool) (k : Key) :
    (marked kid flag on k).kid = k.kid := by
  unfold marked
  split <;> rfl

theorem entry_mark {kid : String} {flag : KeyFlags} {on : Bool} {k : Key} {time : Nat}
    (entry : m.entry k.kid = some (time, k)) :
    (m.mark kid flag on).entry (marked kid flag on k).kid = some (time, marked kid flag on k) := by
  rw [kid_marked]
  by_cases same : k.kid = kid <;> simp only [mark, marked, same, if_true, if_false]
  · simp [same ▸ entry]
  · exact entry

theorem holds_mark {kid : String} {flag : KeyFlags} {on : Bool} {l : Key} :
    (m.mark kid flag on).Holds l ↔ ∃ k, m.Holds k ∧ marked kid flag on k = l := by
  constructor
  · rintro ⟨time, entry⟩
    by_cases same : l.kid = kid
    · simp only [mark, same, if_true] at entry
      obtain ⟨⟨_, k⟩, before, h⟩ := Option.map_eq_some_iff.1 entry
      cases h
      have held : k.kid = kid := m.keyed before
      exact ⟨k, ⟨_, held ▸ before⟩, by simp [marked, held]⟩
    · exact ⟨l, ⟨time, by simpa [mark, same] using entry⟩, by simp [marked, same]⟩
  · rintro ⟨k, ⟨time, entry⟩, rfl⟩
    exact ⟨time, entry_mark entry⟩

theorem Lists.mark (h : m.Lists keys) (kid : String) (flag : KeyFlags) (on : Bool) :
    (m.mark kid flag on).Lists ((Keystore.Change.mark kid flag on).apply keys) := by
  have mapped : (Keystore.Change.mark kid flag on).apply keys = keys.map (marked kid flag on) :=
    Keystore.changeFirst_eq_map h.distinct kid _
  rw [mapped]
  refine ⟨fun l => ?_, ?_⟩
  · simp only [List.mem_map, h.mem, holds_mark]
  · refine List.pairwise_map.2 (h.order.imp ?_)
    rintro k l ⟨time, later, entry, entry', lt⟩
    exact ⟨time, later, entry_mark entry, entry_mark entry', lt⟩

theorem holds_drop {kid : String} {k : Key} : (m.drop kid).Holds k ↔ m.Holds k ∧ k.kid ≠ kid := by
  by_cases same : k.kid = kid <;> simp [Holds, drop, same]

theorem Lists.drop (h : m.Lists keys) (kid : String) :
    (m.drop kid).Lists ((Keystore.Change.drop kid).apply keys) := by
  have mem_others (k : Key) :
      k ∈ keys.filter (fun k => !(k.kid == kid)) ↔ m.Holds k ∧ k.kid ≠ kid := by
    simp [h.mem]
  refine ⟨fun k => (mem_others k).trans holds_drop.symm, ?_⟩
  refine (h.order.filter _).imp_of_mem ?_
  rintro k l member member' ⟨time, later, entry, entry', lt⟩
  have kept := ((mem_others k).1 member).2
  have kept' := ((mem_others l).1 member').2
  exact ⟨time, later, by simpa [Ledger.drop, kept] using entry,
    by simpa [Ledger.drop, kept'] using entry', lt⟩

theorem provision_eq (s : Keystore) (text : String) :
    s.provision text =
      match Key.parse text with
      | .ok k =>
          if k.kid = "" then .error (.format .emptyKid)
          else
            let stored := { k with flags := k.flags.orOrigin .pki }
            .ok (s.put stored, stored)
      | .error e => .error (.format (.json e)) := by
  unfold Keystore.provision
  cases Key.parse text with
  | error e => rfl
  | ok k => by_cases empty : k.kid = "" <;> simp [empty]

theorem Lists.perform {s : Keystore} (h : m.Lists s.keys) (suite : Crypto.Suite) (stores : Stores)
    {c : Keystore.Command} (unloaded : c ≠ .load) :
    (m.perform suite c).Lists (s.perform suite stores c).1.keys := by
  rw [Keystore.perform_fst]
  cases c with
  | load => exact absurd rfl unloaded
  | save => exact h
  | generate seed flags kid fleetId => exact h.store _
  | adopt k flags fleetId => exact h.store _
  | provision text =>
      simp only [Keystore.change, Ledger.perform, provision_eq]
      cases Key.parse text with
      | error e => exact h
      | ok k =>
          by_cases empty : k.kid = "" <;> simp only [empty, if_true, if_false]
          · exact h
          · exact h.store _
  | setFlag kid flag on => exact h.mark kid flag on
  | forget kid => exact h.drop kid

/-! ## Looking up -/

theorem Lists.key?_eq {s : Keystore} (h : m.Lists s.keys) (kid : String) :
    s.key? kid = (m.entry kid).map (·.2) := by
  apply Option.ext
  intro k
  rw [Keystore.key?_eq_some h.distinct, h.mem, Option.map_eq_some_iff]
  constructor
  · rintro ⟨⟨time, entry⟩, rfl⟩
    exact ⟨_, entry, rfl⟩
  · rintro ⟨⟨time, k⟩, entry, rfl⟩
    have held : k.kid = kid := m.keyed entry
    exact ⟨⟨time, held ▸ entry⟩, held⟩

/-- In a list in the order `r`, the first hit is the one that comes before all others. -/
theorem find?_eq_some_iff_least {r : Key → Key → Prop} (asymm : ∀ {k l}, r k l → ¬ r l k)
    (order : keys.Pairwise r) {p : Key → Bool} {k : Key} :
    keys.find? p = some k ↔ k ∈ keys ∧ p k = true ∧ ∀ l ∈ keys, p l = true → l ≠ k → r k l := by
  constructor
  · intro found
    obtain ⟨hit, before, after, rfl, missed⟩ := List.find?_eq_some_iff_append.1 found
    refine ⟨by simp, hit, ?_⟩
    intro l member hit' ne
    rcases List.mem_append.1 member with early | late
    · simpa [hit'] using missed l early
    · exact (List.pairwise_cons.1 (List.pairwise_append.1 order).2.1).1 l
        ((List.mem_cons.1 late).resolve_left ne)
  · rintro ⟨member, hit, least⟩
    obtain ⟨found, first⟩ : ∃ found, keys.find? p = some found :=
      Option.isSome_iff_exists.1 (List.find?_isSome.2 ⟨k, member, hit⟩)
    obtain ⟨hit', before, after, rfl, missed⟩ := List.find?_eq_some_iff_append.1 first
    by_cases same : k = found
    · rw [first, same]
    · -- Then `k` comes after the hit, and the hit after `k`.
      have late : r found k := by
        rcases List.mem_append.1 member with early | late
        · simpa [hit] using missed k early
        · exact (List.pairwise_cons.1 (List.pairwise_append.1 order).2.1).1 k
            ((List.mem_cons.1 late).resolve_left same)
      exact absurd (least found (by simp) hit' (Ne.symm same)) (asymm late)

theorem Lists.find?_eq_some (h : m.Lists keys) {p : Key → Bool} {k : Key} :
    keys.find? p = some k ↔ m.First (p · = true) k := by
  simp only [find?_eq_some_iff_least Before.asymm h.order, h.mem, First]

theorem Lists.find?_reverse_eq_some (h : m.Lists keys) {p : Key → Bool} {k : Key} :
    keys.reverse.find? p = some k ↔ m.Last (p · = true) k := by
  have order : keys.reverse.Pairwise fun k l => m.Before l k := List.pairwise_reverse.2 h.order
  simp only [find?_eq_some_iff_least Before.asymm order, List.mem_reverse, h.mem, Last]

end Ledger

/-! ## Whole histories -/

structure Key.SignsFor (k : Key) (role : Role) (fleetId : String) : Prop where
  fleet : k.fleetId = fleetId
  role : k.role = role
  able : k.hasFlag .canSign = true
  valid : k.isInvalid = false

structure Key.OwnValid (k : Key) : Prop where
  own : k.hasFlag .ourOwn = true
  valid : k.isInvalid = false

theorem Key.signsFor_iff {k : Key} {role : Role} {fleetId : String} :
    (k.matchesRole role fleetId && k.usable true) = true ↔ k.SignsFor role fleetId := by
  simp only [Key.matchesRole, Key.usable, Bool.and_eq_true, beq_iff_eq, Bool.not_eq_true',
    Bool.not_true, Bool.false_or]
  exact ⟨fun h => ⟨h.1.1, h.1.2, h.2.2, h.2.1⟩, fun h => ⟨⟨h.fleet, h.role⟩, h.valid, h.able⟩⟩

theorem Key.ownValid_iff {k : Key} :
    (k.hasFlag .ourOwn && !k.isInvalid) = true ↔ k.OwnValid := by
  simp only [Bool.and_eq_true, Bool.not_eq_true']
  exact ⟨fun h => ⟨h.1, h.2⟩, fun h => ⟨h.own, h.valid⟩⟩

namespace Keystore

variable {s : Keystore} {m : Ledger}

theorem performAll_cons (s : Keystore) (suite : Crypto.Suite) (stores : Stores) (c : Command)
    (history : List Command) :
    s.performAll suite stores (c :: history) =
      (s.perform suite stores c).1.performAll suite (s.perform suite stores c).2.1 history := rfl

theorem performAll_settings (s : Keystore) (suite : Crypto.Suite) (stores : Stores)
    (history : List Command) :
    (s.performAll suite stores history).1 =
      { s with keys := (s.performAll suite stores history).1.keys } := by
  induction history generalizing s stores with
  | nil => rfl
  | cons c history ih =>
      rw [performAll_cons, ih, perform_fst]

theorem performAll_lists (h : m.Lists s.keys) (suite : Crypto.Suite) (stores : Stores)
    {history : List Command} (unloaded : ∀ c ∈ history, c ≠ .load) :
    (history.foldl (fun m c => m.perform suite c) m).Lists
      (s.performAll suite stores history).1.keys := by
  induction history generalizing s m stores with
  | nil => exact h
  | cons c history ih =>
      exact ih (h.perform suite stores (unloaded c List.mem_cons_self)) _
        fun d hd => unloaded d (List.mem_cons_of_mem c hd)

theorem keyByRole_eq_ok_iff (h : m.Lists s.keys) {role : Role} {fleetId : String} {k : Key} :
    s.keyByRole role fleetId = .ok k ↔
      match s.selection with
      | .mostRecent => m.Last (·.SignsFor role fleetId) k
      | .firstFound => m.First (·.SignsFor role fleetId) k := by
  rw [keyByRole, selectKey_eq_ok_iff]
  cases s.selection with
  | mostRecent => simp only [Selection.order, h.find?_reverse_eq_some, Key.signsFor_iff]
  | firstFound => simp only [Selection.order, h.find?_eq_some, Key.signsFor_iff]

theorem keyByRole_succeeds_iff (h : m.Lists s.keys) {role : Role} {fleetId : String} :
    (∃ k, s.keyByRole role fleetId = .ok k) ↔ ∃ k, m.Holds k ∧ k.SignsFor role fleetId := by
  simp only [keyByRole, selectKey_eq_ok_iff, ← Option.isSome_iff_exists, List.find?_isSome,
    Key.signsFor_iff]
  have inOrder (k : Key) : k ∈ s.selection.order s.keys ↔ m.Holds k := by
    rw [← h.mem]
    cases s.selection with
    | mostRecent => exact List.mem_reverse
    | firstFound => exact Iff.rfl
  simp only [inOrder]

/-- However a keystore came to be without loading, its keys are those that the ledger of its history
holds, in the order of storing, and its look-ups choose among them by that order. -/
theorem performAll_refines_ledger (store : String) (selection : Selection) (selfKid : Option String)
    (suite : Crypto.Suite) (stores : Stores) {history : List Command}
    (unloaded : ∀ c ∈ history, c ≠ .load) :
    let s := ((new store selection selfKid).performAll suite stores history).1
    let m := Ledger.ofHistory suite history
    (∀ k, k ∈ s.keys ↔ m.Holds k) ∧ s.keys.Pairwise m.Before ∧ DistinctKids s.keys ∧
    (∀ kid, s.key? kid = (m.entry kid).map (·.2)) ∧
    (∀ role fleetId k, s.keyByRole role fleetId = .ok k ↔
      match selection with
      | .mostRecent => m.Last (·.SignsFor role fleetId) k
      | .firstFound => m.First (·.SignsFor role fleetId) k) ∧
    (∀ role fleetId, (∃ k, s.keyByRole role fleetId = .ok k) ↔
      ∃ k, m.Holds k ∧ k.SignsFor role fleetId) ∧
    (∀ kid, selfKid = some kid → s.selfKey? = (m.entry kid).map (·.2)) ∧
    (selfKid = none →
      (∀ k, s.selfKey? = some k ↔ m.Last (·.OwnValid) k) ∧
      (s.selfKey? = none ↔ ∀ k, m.Holds k → ¬ k.OwnValid)) := by
  intro s m
  have settings := performAll_settings (new store selection selfKid) suite stores history
  have lists : m.Lists s.keys := performAll_lists Ledger.lists_empty suite stores unloaded
  have policy : s.selection = selection := congrArg Keystore.selection settings
  have pinned : s.selfKid = selfKid := congrArg Keystore.selfKid settings
  refine ⟨lists.mem, lists.order, lists.distinct, lists.key?_eq, ?_, ?_, ?_, ?_⟩
  · intro role fleetId k
    rw [keyByRole_eq_ok_iff lists, policy]
  · intro role fleetId
    exact keyByRole_succeeds_iff lists
  · intro kid pin
    rw [selfKey?, pinned, pin]
    exact lists.key?_eq kid
  · intro unpinned
    have free : s.selfKey? = s.keys.reverse.find? fun k => k.hasFlag .ourOwn && !k.isInvalid := by
      rw [selfKey?, pinned, unpinned]
    rw [free]
    constructor
    · intro k
      simp only [lists.find?_reverse_eq_some, Key.ownValid_iff]
    · simp only [List.find?_eq_none, List.mem_reverse, lists.mem, Key.ownValid_iff]

/-- The key `old` is stored once more, then revoked and restored, and `spare` is given up. -/
def renewal : List Command :=
  [.adopt ⟨"old", "", [], none, .none⟩ .canSign "fleet",
    .generate (Block.takePad 32 []) .canSign "new" "fleet",
    .adopt ⟨"spare", "", [], none, .none⟩ .canSign "fleet",
    .provision "no key",
    .adopt ⟨"old", "", [], none, .none⟩ .canSign "fleet",
    .setFlag "old" .invalid true,
    .setFlag "nobody" .invalid true,
    .setFlag "old" .invalid false,
    .forget "spare"]

theorem renewal_refines_ledger :
    let s := ((new "keys" .mostRecent none).performAll .curve25519 ∅ renewal).1
    s.key? "spare" = none ∧
      s.keyByRole .unassigned "fleet" =
        .ok ⟨"old", "fleet", [], none, KeyFlags.canSign.withOrigin .external⟩ := by
  have unloaded : ∀ c ∈ renewal, c ≠ .load := by simp [renewal]
  obtain ⟨-, -, -, byKid, byRole, -⟩ :=
    performAll_refines_ledger "keys" .mostRecent none .curve25519 ∅ unloaded
  refine ⟨byKid "spare", (byRole .unassigned "fleet" _).2
    ⟨⟨3, rfl⟩, ⟨rfl, by decide, by decide, by decide⟩, ?_⟩⟩
  rintro l ⟨time, entry⟩ - ne
  -- What was provided is no key, so any other record is that of `new`, which is older.
  have junk : Key.parse "no key" = .error .malformed := rfl
  by_cases old : l.kid = "old"
  · rw [old] at entry
    cases entry
    exact absurd rfl ne
  by_cases spare : l.kid = "spare"
  · rw [spare] at entry
    cases entry
  by_cases new : l.kid = "new"
  · rw [new] at entry
    cases entry
    exact ⟨1, 3, rfl, rfl, by decide⟩
  · simp [Ledger.ofHistory, renewal, Ledger.perform, Ledger.store, Ledger.mark, Ledger.drop,
      Ledger.empty, junk, old, spare, new] at entry

end Keystore

end Countersign
