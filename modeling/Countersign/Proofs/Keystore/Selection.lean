import Countersign.Proofs.Key.Use

/-!
# Choosing by role

A look-up by role gives the first record of a list that fits and is usable, in the order of the
policy, and it looks at the records of its own fleet only.
-/

namespace Countersign

variable {keys : List Key} {role : Role} {fleetId : String} {selection : Selection} {signing : Bool}

def Selection.order : Selection → List Key → List Key
  | .mostRecent, keys => keys.reverse
  | .firstFound, keys => keys

theorem Selection.order_filter (selection : Selection) (p : Key → Bool) (keys : List Key) :
    selection.order (keys.filter p) = (selection.order keys).filter p := by
  cases selection with
  | mostRecent => exact List.filter_reverse.symm
  | firstFound => rfl

theorem selectKey_eq :
    selectKey keys role fleetId selection signing =
      match (selection.order keys).find?
        (fun k => k.matchesRole role fleetId && k.usable signing) with
      | some k => .ok k
      | none =>
          if keys.any (fun k => k.matchesRole role fleetId && k.isInvalid) then
            .error (.keyInvalid (.role role fleetId))
          else .error (.keyNotFound (.role role fleetId)) := by
  have unfolded : selectKey keys role fleetId selection signing =
      match (selection.order (keys.filter (·.matchesRole role fleetId))).find?
        (·.usable signing) with
      | some k => .ok k
      | none =>
          if (keys.filter (·.matchesRole role fleetId)).any (·.isInvalid) then
            .error (.keyInvalid (.role role fleetId))
          else .error (.keyNotFound (.role role fleetId)) := by
    cases selection <;> rfl
  simp only [unfolded, Selection.order_filter, List.find?_filter, List.any_filter,
    Bool.decide_and, Bool.decide_eq_true]

theorem selectKey_eq_ok_iff {k : Key} :
    selectKey keys role fleetId selection signing = .ok k ↔
      (selection.order keys).find? (fun k => k.matchesRole role fleetId && k.usable signing) =
        some k := by
  rw [selectKey_eq]
  split
  · rename_i found
    rw [found, Except.ok.injEq, Option.some.injEq]
  · rename_i none
    rw [none]
    split <;> simp

theorem selectKey_fleet {k : Key} (h : selectKey keys role fleetId selection signing = .ok k) :
    k.fleetId = fleetId := by
  have fits := (selectKey_eq_ok h).2.1
  simp only [Key.matchesRole, Bool.and_eq_true, beq_iff_eq] at fits
  exact fits.1

theorem selectKey_valid {k : Key} (h : selectKey keys role fleetId selection signing = .ok k) :
    k.isInvalid = false := by
  have usable := (selectKey_eq_ok h).2.2
  simp only [Key.usable, Bool.and_eq_true, Bool.not_eq_true'] at usable
  exact usable.1

theorem Key.usable_of_signing {k : Key} (h : k.usable true = true) : k.usable false = true := by
  simp only [Key.usable, Bool.and_eq_true] at h ⊢
  exact ⟨h.1, rfl⟩

/-- The key chosen without a demand is the one chosen for signing, provided that it signs. -/
theorem selectKey_signing {k : Key} (h : selectKey keys role fleetId selection false = .ok k)
    (able : k.hasFlag .canSign = true) : selectKey keys role fleetId selection true = .ok k := by
  rw [selectKey_eq_ok_iff, List.find?_eq_some_iff_append] at h ⊢
  obtain ⟨fits, before, after, split, missed⟩ := h
  refine ⟨by simpa [Key.usable, able] using fits, before, after, split, fun l early => ?_⟩
  have miss := missed l early
  rw [Bool.not_eq_true', Bool.eq_false_iff] at miss ⊢
  intro hit
  rw [Bool.and_eq_true] at hit
  exact miss (Bool.and_eq_true_iff.2 ⟨hit.1, Key.usable_of_signing hit.2⟩)

theorem selectKey_able {k : Key} (h : selectKey keys role fleetId selection true = .ok k) :
    k.hasFlag .canSign = true := by
  have usable := (selectKey_eq_ok h).2.2
  simp only [Key.usable, Bool.and_eq_true, Bool.not_true, Bool.false_or] at usable
  exact usable.2

/-- Records of other fleets make no difference, not even to the error. -/
theorem selectKey_ownFleet :
    selectKey (keys.filter (·.fleetId == fleetId)) role fleetId selection signing =
      selectKey keys role fleetId selection signing := by
  have own : (keys.filter (·.fleetId == fleetId)).filter (·.matchesRole role fleetId) =
      keys.filter (·.matchesRole role fleetId) := by
    rw [List.filter_filter]
    refine List.filter_congr fun k _ => ?_
    simp only [Key.matchesRole]
    cases k.fleetId == fleetId <;> simp
  simp only [selectKey, own]

end Countersign
