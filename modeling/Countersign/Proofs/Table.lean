import Countersign.Table

/-!
# What a table holds

Inserting and erasing show under the key they are about, and nowhere else.
-/

namespace Countersign.Table

variable {α : Type}

theorem lookup_cons_eq (key other : String) (value : α) (entries : List (String × α)) :
    ((key, value) :: entries).lookup other =
      if other = key then some value else entries.lookup other := by
  by_cases same : other = key
  · simp [same]
  · simp [List.lookup_cons, beq_eq_false_iff_ne.2 same, same]

theorem lookup_insertSorted (key other : String) (value : α) (entries : List (String × α)) :
    (insertSorted key value entries).lookup other =
      if other = key then some value else entries.lookup other := by
  induction entries with
  | nil => exact lookup_cons_eq key other value []
  | cons head rest ih =>
      obtain ⟨k, v⟩ := head
      unfold insertSorted
      split
      · exact lookup_cons_eq key other value ((k, v) :: rest)
      · split
        · rename_i taken
          subst taken
          by_cases same : other = key <;> simp only [lookup_cons_eq, same, if_true, if_false]
        · rename_i differs
          rw [lookup_cons_eq, lookup_cons_eq, ih]
          by_cases same : other = key
          · simp [same, differs]
          · simp only [same, if_false]

theorem get?_insert (t : Table α) (key other : String) (value : α) :
    (t.insert key value).get? other = if other = key then some value else t.get? other :=
  lookup_insertSorted key other value t.entries

@[simp] theorem get?_insert_self (t : Table α) (key : String) (value : α) :
    (t.insert key value).get? key = some value := by
  rw [get?_insert, if_pos rfl]

theorem get?_insert_of_ne (t : Table α) {key other : String} (ne : other ≠ key) (value : α) :
    (t.insert key value).get? other = t.get? other := by
  rw [get?_insert, if_neg ne]

theorem get?_erase_of_ne (t : Table α) {key other : String} (ne : other ≠ key) :
    (t.erase key).get? other = t.get? other := by
  change (t.entries.filter fun entry => !(entry.1 == key)).lookup other = t.entries.lookup other
  induction t.entries with
  | nil => rfl
  | cons head rest ih =>
      obtain ⟨k, v⟩ := head
      by_cases erased : k = key
      · subst erased
        simp [lookup_cons_eq, ih, ne]
      · simp [lookup_cons_eq, ih, erased]

@[simp] theorem get?_erase_self (t : Table α) (key : String) : (t.erase key).get? key = none := by
  rw [get?, List.lookup_eq_none_iff]
  intro entry listed
  have kept := (List.mem_filter.1 listed).2
  rw [Bool.not_eq_true', beq_eq_false_iff_ne] at kept
  exact bne_iff_ne.2 kept.symm

theorem keys_ascending (t : Table α) : t.keys.Pairwise (· < ·) :=
  List.pairwise_map.2 t.sorted

theorem mem_keys {t : Table α} {key : String} :
    key ∈ t.keys ↔ ∃ value, t.get? key = some value := by
  rw [← Option.isSome_iff_exists]
  unfold get?
  rw [List.lookup_isSome_iff]
  simp [keys]

end Countersign.Table
