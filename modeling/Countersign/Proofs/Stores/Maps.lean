import Countersign.Proofs.ByteOrder
import Countersign.Proofs.Stores
import Mathlib.Data.Finmap
import Mathlib.Data.Finset.Sort

/-!
# Stores are a map of maps

A finite map from names to finite maps from keys to values knows neither lists nor an order of its
entries.  Every history of commands comes to the same for it as for the stores: the replies are the
same one by one, and what is held in the end is the same.  The keys of a store, which have no order
in a map, are listed in the order of their bytes.
-/

namespace Countersign

/-! ## Tables as finite maps -/

namespace Table

variable {α β : Type} {f : α → β}

/-- The finite map of a table, with `f` applied to its values. -/
def toMap (f : α → β) (t : Table α) : Finmap fun _ : String => β :=
  (t.entries.map fun (key, value) => ⟨key, f value⟩).toFinmap

theorem lookup_toMap (t : Table α) (key : String) :
    (t.toMap f).lookup key = (t.get? key).map f := by
  rw [toMap, Finmap.dlookup_list_toFinmap, get?]
  induction t.entries with
  | nil => rfl
  | cons head rest ih =>
      obtain ⟨k, value⟩ := head
      rw [List.map_cons, lookup_cons_eq]
      by_cases same : key = k
      · subst same
        rw [List.dlookup_cons_eq, if_pos rfl, Option.map_some]
      · rw [List.dlookup_cons_ne _ _ same, if_neg same, ih]

theorem toMap_insert (t : Table α) (key : String) (value : α) :
    (t.insert key value).toMap f = (t.toMap f).insert key (f value) := by
  apply Finmap.ext_lookup
  intro other
  rw [lookup_toMap]
  by_cases same : other = key
  · subst same
    rw [get?_insert_self, Finmap.lookup_insert, Option.map_some]
  · rw [get?_insert_of_ne t same, Finmap.lookup_insert_of_ne _ same, lookup_toMap]

theorem toMap_erase (t : Table α) (key : String) :
    (t.erase key).toMap f = (t.toMap f).erase key := by
  apply Finmap.ext_lookup
  intro other
  rw [lookup_toMap]
  by_cases same : other = key
  · subst same
    rw [get?_erase_self, Finmap.lookup_erase, Option.map_none]
  · rw [get?_erase_of_ne t same, Finmap.lookup_erase_ne same, lookup_toMap]

theorem contains_eq (t : Table α) (key : String) :
    t.contains key = ((t.toMap f).lookup key).isSome := by
  rw [lookup_toMap, Option.isSome_map, contains]

/-- The keys of a table are those of its map, in the order of their bytes. -/
theorem keys_eq_sort (t : Table α) : t.keys = (t.toMap f).keys.sort ByteLe := by
  have members : (t.toMap f).keys = t.keys.toFinset := by
    ext key
    rw [Finmap.mem_keys, Finmap.mem_iff, List.mem_toFinset, mem_keys]
    simp only [lookup_toMap, Option.map_eq_some_iff]
    constructor
    · rintro ⟨-, value, held, -⟩
      exact ⟨value, held⟩
    · rintro ⟨value, held⟩
      exact ⟨f value, value, held, rfl⟩
  have once : t.keys.Nodup := t.keys_ascending.imp fun less => String.ne_of_lt less
  have ordered : t.keys.Pairwise ByteLe := t.keys_ascending.imp byteLe_of_lt
  rw [members, (List.toFinset_sort ByteLe once).2 ordered]

end Table

/-! ## The map of maps -/

abbrev EntryMap := Finmap fun _ : String => Json

abbrev StoreMap := Finmap fun _ : String => EntryMap

namespace StoreMap

open Stores (Command Reply)

def initial : Json → Option EntryMap
  | .object members => some (members.foldl (fun m (key, value) => m.insert key value) ∅)
  | .null => some ∅
  | _ => none

/-- Something is done to the entries of a store, which has to be there. -/
def within (m : StoreMap) (name : String) (act : EntryMap → EntryMap × Reply) :
    StoreMap × Result Reply :=
  match m.lookup name with
  | some entries => (m.insert name (act entries).1, .ok (act entries).2)
  | none => (m, .error (.storage (.unknownStore name)))

def perform (m : StoreMap) : Command → StoreMap × Result Reply
  | .create name init =>
      match initial init with
      | none => (m, .error (.storage (.badInitial name init)))
      | some entries =>
          if name ∈ m then (m, .ok (.whether false))
          else (m.insert name entries, .ok (.whether true))
  | .delete name => (m.erase name, .ok (.whether (decide (name ∈ m))))
  | .get name key => m.within name fun entries => (entries, .value (entries.lookup key))
  | .set name key value => m.within name fun entries => (entries.insert key value, .done)
  | .keys name => m.within name fun entries => (entries, .keys (entries.keys.sort ByteLe))
  | .dropKey name key =>
      m.within name fun entries => (entries.erase key, .whether (decide (key ∈ entries)))

def performAll (m : StoreMap) (history : List Command) : StoreMap :=
  history.foldl (fun m c => (m.perform c).1) m

def replies (m : StoreMap) : List Command → List (Result Reply)
  | [] => []
  | c :: history => (m.perform c).2 :: replies (m.perform c).1 history

end StoreMap

namespace Stores

def replies (s : Stores) : List Command → List (Result Reply)
  | [] => []
  | c :: history => (s.perform c).2 :: replies (s.perform c).1 history

def toStoreMap (s : Stores) : StoreMap := s.toMap (Table.toMap id)

variable {s : Stores} {name : String}

theorem toMap_ofList (members : List (String × Json)) :
    (Table.ofList members).toMap id =
      members.foldl (fun (m : EntryMap) (key, value) => m.insert key value) ∅ := by
  have grown (t : Table Json) :
      (members.foldl (fun t (key, value) => t.insert key value) t).toMap id =
        members.foldl (fun (m : EntryMap) (key, value) => m.insert key value) (t.toMap id) := by
    induction members generalizing t with
    | nil => rfl
    | cons member members ih => rw [List.foldl_cons, List.foldl_cons, ih, Table.toMap_insert, id]
  exact grown Table.empty

theorem initial_cases (name : String) (init : Json) :
    (∃ entries, initial name init = .ok entries ∧
      StoreMap.initial init = some (entries.toMap id)) ∨
    (initial name init = .error (.storage (.badInitial name init)) ∧
      StoreMap.initial init = none) := by
  cases init with
  | object members => exact .inl ⟨_, rfl, congrArg some (toMap_ofList members).symm⟩
  | null => exact .inl ⟨_, rfl, rfl⟩
  | bool value => exact .inr ⟨rfl, rfl⟩
  | number value => exact .inr ⟨rfl, rfl⟩
  | string value => exact .inr ⟨rfl, rfl⟩
  | array items => exact .inr ⟨rfl, rfl⟩

theorem mem_toStoreMap : name ∈ s.toStoreMap ↔ Table.contains s name = true := by
  rw [Table.contains_eq (f := Table.toMap id), Finmap.lookup_isSome]
  rfl

theorem within_toStoreMap_none (absent : s.get? name = none) (act : EntryMap → EntryMap × Reply) :
    s.toStoreMap.within name act = (s.toStoreMap, .error (.storage (.unknownStore name))) := by
  rw [StoreMap.within, toStoreMap, Table.lookup_toMap, absent]
  rfl

theorem within_toStoreMap_some {entries : Table Json} (present : s.get? name = some entries)
    (act : EntryMap → EntryMap × Reply) :
    s.toStoreMap.within name act =
      (s.toStoreMap.insert name (act (entries.toMap id)).1, .ok (act (entries.toMap id)).2) := by
  rw [StoreMap.within, toStoreMap, Table.lookup_toMap, present]
  rfl

theorem insert_toStoreMap (s : Stores) (name : String) (entries : Table Json) :
    toStoreMap (Table.insert s name entries) = s.toStoreMap.insert name (entries.toMap id) :=
  Table.toMap_insert s name entries

theorem insert_toStoreMap_self {entries : Table Json} (present : s.get? name = some entries) :
    s.toStoreMap.insert name (entries.toMap id) = s.toStoreMap := by
  apply Finmap.ext_lookup
  intro other
  by_cases same : other = name
  · subst same
    rw [Finmap.lookup_insert, toStoreMap, Table.lookup_toMap, present, Option.map_some]
  · rw [Finmap.lookup_insert_of_ne _ same]

/-- A command comes to the same for the map as for the stores, and gives the same reply. -/
theorem perform_toStoreMap (s : Stores) (c : Command) :
    s.toStoreMap.perform c = ((s.perform c).1.toStoreMap, (s.perform c).2) := by
  cases c with
  | create name init =>
      rw [StoreMap.perform, perform, create]
      rcases initial_cases name init with ⟨entries, starts, known⟩ | ⟨fails, unknown⟩
      · rw [starts, known]
        cases taken : Table.contains s name with
        | true => simp [mem_toStoreMap, taken, keepOnError]
        | false => simp [mem_toStoreMap, taken, keepOnError, insert_toStoreMap]
      · rw [fails, unknown]
        rfl
  | delete name =>
      have was : decide (name ∈ s.toStoreMap) = Table.contains s name := by
        rw [Bool.eq_iff_iff, decide_eq_true_iff, mem_toStoreMap]
      rw [StoreMap.perform, was, toStoreMap, ← Table.toMap_erase]
      rfl
  | get name key =>
      rw [StoreMap.perform, perform, get, store]
      cases present : s.get? name with
      | none => rw [within_toStoreMap_none present]; rfl
      | some entries =>
          rw [within_toStoreMap_some present, insert_toStoreMap_self present, Table.lookup_toMap,
            Option.map_id]
          rfl
  | set name key value =>
      rw [StoreMap.perform, perform, set, store]
      cases present : s.get? name with
      | none => rw [within_toStoreMap_none present]; rfl
      | some entries =>
          rw [within_toStoreMap_some present, ← id_eq value, ← Table.toMap_insert,
            ← insert_toStoreMap]
          rfl
  | keys name =>
      rw [StoreMap.perform, perform, keys, store]
      cases present : s.get? name with
      | none => rw [within_toStoreMap_none present]; rfl
      | some entries =>
          rw [within_toStoreMap_some present, insert_toStoreMap_self present,
            ← Table.keys_eq_sort]
          rfl
  | dropKey name key =>
      rw [StoreMap.perform, perform, dropKey, store]
      cases present : s.get? name with
      | none => rw [within_toStoreMap_none present]; rfl
      | some entries =>
          have was : decide (key ∈ entries.toMap id) = entries.contains key := by
            rw [Bool.eq_iff_iff, decide_eq_true_iff, Table.contains_eq (f := id),
              Finmap.lookup_isSome]
          rw [within_toStoreMap_some present, was, ← Table.toMap_erase, ← insert_toStoreMap]
          rfl

theorem performAll_toStoreMap (s : Stores) (history : List Command) :
    (s.performAll history).toStoreMap = s.toStoreMap.performAll history := by
  induction history generalizing s with
  | nil => rfl
  | cons c history ih =>
      have first : (s.toStoreMap.perform c).1 = (s.perform c).1.toStoreMap := by
        rw [perform_toStoreMap]
      exact (ih (s.perform c).1).trans (congrArg (StoreMap.performAll · history) first.symm)

theorem replies_toStoreMap (s : Stores) (history : List Command) :
    s.replies history = s.toStoreMap.replies history := by
  induction history generalizing s with
  | nil => rfl
  | cons c history ih => rw [replies, StoreMap.replies, perform_toStoreMap, ih]

/-! ## Failures, listings and creation anew -/

theorem keepOnError_failed {σ α : Type} {old : σ} {r : Result (σ × α)} {e : Error}
    (failed : (keepOnError old r).2 = .error e) : (keepOnError old r).1 = old := by
  cases r with
  | ok changed => cases failed
  | error raised => rfl

theorem perform_failed {c : Command} {e : Error} (failed : (s.perform c).2 = .error e) :
    (s.perform c).1 = s := by
  cases c with
  | create name init => exact keepOnError_failed failed
  | delete name => cases failed
  | get name key => rfl
  | set name key value => exact keepOnError_failed failed
  | keys name => rfl
  | dropKey name key => exact keepOnError_failed failed

theorem keys_eq_ok {names : List String} (listed : s.keys name = .ok names) :
    names.Pairwise (fun a b => utf8 a < utf8 b) ∧
      ∀ key, key ∈ names ↔ ∃ v, s.get name key = .ok (some v) := by
  obtain ⟨entries, found, listed⟩ := bind_eq_ok.1 listed
  cases listed
  have present : s.get? name = some entries := by
    rw [store] at found
    cases there : s.get? name with
    | none => simp [there] at found
    | some held =>
        simp only [there, Except.ok.injEq] at found
        rw [found]
  refine ⟨entries.keys_ascending.imp utf8_lt_utf8, fun key => ?_⟩
  simp [get_eq_ok, present, Table.mem_keys]

theorem performAll_absent (absent : s.get? name = none) {history : List Command}
    (uncreated : ∀ c ∈ history, ∀ init, c ≠ .create name init) :
    (s.performAll history).get? name = none := by
  induction history generalizing s with
  | nil => exact absent
  | cons c history ih =>
      obtain ⟨first, rest⟩ := List.forall_mem_cons.1 uncreated
      exact ih ((s.perform_effect c).absent absent first) rest

theorem create_absent (absent : s.get? name = none) {init : Json} {entries : EntryMap}
    (starts : StoreMap.initial init = some entries) :
    s.toStoreMap.perform (.create name init) =
      (s.toStoreMap.insert name entries, .ok (.whether true)) := by
  have unheld : name ∉ s.toStoreMap := by
    rw [mem_toStoreMap, Table.contains, absent]
    exact Bool.false_ne_true
  rw [StoreMap.perform, starts]
  exact if_neg unheld

/-- Every history comes to the same for the stores as for the map of maps, with the same replies.
The keys of a store are listed once each in strictly ascending order of their bytes.  A command
changes no store but its own, and no entry there but its own; one that fails changes nothing at all.
A store that was deleted stays away until it is created, and then holds what it is created with. -/
theorem performAll_refines_map (s : Stores) :
    toStoreMap ∅ = ∅ ∧
    (∀ history, (s.performAll history).toStoreMap = s.toStoreMap.performAll history ∧
      s.replies history = s.toStoreMap.replies history) ∧
    (∀ name names, s.keys name = .ok names → names.Pairwise (fun a b => utf8 a < utf8 b) ∧
      ∀ key, key ∈ names ↔ ∃ v, s.get name key = .ok (some v)) ∧
    (∀ c name, name ≠ c.store → (s.perform c).1.get? name = s.get? name) ∧
    (∀ c name key found, s.get name key = .ok found → c.Spares name key →
      (s.perform c).1.get name key = .ok found) ∧
    (∀ c e, (s.perform c).2 = .error e → (s.perform c).1 = s) ∧
    (∀ name init entries between, StoreMap.initial init = some entries →
      (∀ c ∈ between, ∀ init, c ≠ .create name init) →
      let t := s.performAll (.delete name :: between)
      t.get? name = none ∧ (t.perform (.create name init)).2 = .ok (.whether true) ∧
        (t.perform (.create name init)).1.toStoreMap = t.toStoreMap.insert name entries) := by
  refine ⟨rfl, fun history => ⟨performAll_toStoreMap s history, replies_toStoreMap s history⟩,
    fun _ _ => keys_eq_ok, fun c _ => (s.perform_effect c).elsewhere,
    fun c _ _ _ => (s.perform_effect c).held, fun _ _ => perform_failed, ?_⟩
  intro name init entries between starts uncreated t
  have absent : t.get? name = none := performAll_absent (Table.get?_erase_self s name) uncreated
  have created := create_absent absent starts
  rw [perform_toStoreMap] at created
  exact ⟨absent, (Prod.mk.inj created).2, (Prod.mk.inj created).1⟩

def twoFilled : Stores :=
  performAll ∅ [.create "s" (.object [("a", .null)]), .create "r" (.object [("b", .null)])]

/-- One of them is deleted and created again, the other is as it was, and a write to a third one,
which is not there, changes nothing. -/
theorem twoFilled_recreated :
    let t := twoFilled.performAll [.delete "s", .keys "r"]
    t.get? "s" = none ∧ (t.perform (.create "s" .null)).2 = .ok (.whether true) ∧
      (t.perform (.create "s" .null)).1.toStoreMap = t.toStoreMap.insert "s" ∅ ∧
      (twoFilled.perform (.delete "s")).1.get "r" "b" = .ok (some .null) ∧
      (twoFilled.perform (.set "q" "b" .null)).1 = twoFilled := by
  obtain ⟨-, -, -, -, held, failed, anew⟩ := performAll_refines_map twoFilled
  have uncreated : ∀ c ∈ [Command.keys "r"], ∀ init, c ≠ .create "s" init := by
    rintro c listed init rfl
    cases List.mem_singleton.1 listed
  obtain ⟨absent, created, entries⟩ := anew "s" .null ∅ [.keys "r"] rfl uncreated
  have spares : (Command.delete "s").Spares "r" "b" := by
    change "s" ≠ "r"
    decide
  exact ⟨absent, created, entries, held (.delete "s") "r" "b" _ rfl spares,
    failed (.set "q" "b" .null) (.storage (.unknownStore "q")) rfl⟩

example :
    replies ∅ [.create "s" (.object [("b", .null), ("a", .null)]), .create "s" .null, .keys "s",
        .delete "s", .set "s" "c" .null, .create "s" .null, .keys "s"] =
      [.ok (.whether true), .ok (.whether false), .ok (.keys ["a", "b"]), .ok (.whether true),
        .error (.storage (.unknownStore "s")), .ok (.whether true), .ok (.keys [])] := by
  rfl

end Stores

end Countersign
