/-!
# Tables

Each key stands once, in ascending order of code points, which is the order of UTF-8 bytes.
-/

namespace Countersign

structure Table (α : Type) where
  entries : List (String × α)
  sorted : entries.Pairwise (·.1 < ·.1)

namespace Table

variable {α : Type}

def empty : Table α := ⟨[], .nil⟩

instance : EmptyCollection (Table α) := ⟨empty⟩
instance : Inhabited (Table α) := ⟨empty⟩

def get? (t : Table α) (key : String) : Option α := t.entries.lookup key

def contains (t : Table α) (key : String) : Bool := (t.get? key).isSome

def keys (t : Table α) : List String := t.entries.map (·.1)

def insertSorted (key : String) (value : α) : List (String × α) → List (String × α)
  | [] => [(key, value)]
  | (k, v) :: rest =>
      if key < k then (key, value) :: (k, v) :: rest
      else if key = k then (key, value) :: rest
      else (k, v) :: insertSorted key value rest

theorem mem_insertSorted {key : String} {value : α} {entry : String × α}
    {entries : List (String × α)} (h : entry ∈ insertSorted key value entries) :
    entry = (key, value) ∨ entry ∈ entries := by
  induction entries with
  | nil => simpa [insertSorted] using h
  | cons head rest ih =>
    obtain ⟨k, v⟩ := head
    unfold insertSorted at h
    split at h
    · simpa using h
    · split at h
      · rcases List.mem_cons.1 h with h | h
        · exact .inl h
        · exact .inr (List.mem_cons_of_mem _ h)
      · rcases List.mem_cons.1 h with h | h
        · exact .inr (h ▸ List.mem_cons_self)
        · rcases ih h with h | h
          · exact .inl h
          · exact .inr (List.mem_cons_of_mem _ h)

theorem lt_of_not_lt_of_ne {s t : String} (h : ¬ s < t) (ne : s ≠ t) : t < s := by
  by_cases back : t < s
  · exact back
  · exact absurd (String.le_antisymm (String.not_lt.1 back) (String.not_lt.1 h)) ne

theorem insertSorted_sorted (key : String) (value : α) {entries : List (String × α)}
    (h : entries.Pairwise (·.1 < ·.1)) :
    (insertSorted key value entries).Pairwise (·.1 < ·.1) := by
  induction entries with
  | nil => simp [insertSorted]
  | cons head rest ih =>
    obtain ⟨k, v⟩ := head
    obtain ⟨front, tail⟩ := List.pairwise_cons.1 h
    unfold insertSorted
    split
    · rename_i lt
      refine List.pairwise_cons.2 ⟨?_, h⟩
      intro entry mem
      rcases List.mem_cons.1 mem with mem | mem
      · rw [mem]
        exact lt
      · exact String.lt_trans lt (front entry mem)
    · split
      · rename_i eq
        exact List.pairwise_cons.2 ⟨fun entry mem => eq ▸ front entry mem, tail⟩
      · rename_i nlt ne
        refine List.pairwise_cons.2 ⟨?_, ih tail⟩
        intro entry mem
        rcases mem_insertSorted mem with mem | mem
        · rw [mem]
          exact lt_of_not_lt_of_ne nlt ne
        · exact front entry mem

def insert (t : Table α) (key : String) (value : α) : Table α :=
  ⟨insertSorted key value t.entries, insertSorted_sorted key value t.sorted⟩

/-- Later entries replace earlier ones of the same key. -/
def ofList (entries : List (String × α)) : Table α :=
  entries.foldl (fun t (key, value) => t.insert key value) empty

def erase (t : Table α) (key : String) : Table α :=
  ⟨t.entries.filter (fun entry => !(entry.1 == key)), t.sorted.filter _⟩

end Table

end Countersign
