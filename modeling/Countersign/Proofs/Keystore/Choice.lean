import Countersign.Proofs.Keystore.Selection

/-!
# Which key a role finds

A look-up by role finds a key exactly if one of the list is eligible, and among several the policy
goes by their places alone.  Records that are invalid, of another fleet or of another role can stand
anywhere without a difference to what is found; they only decide between the two errors.
-/

namespace Countersign

variable {keys others : List Key} {role : Role} {fleetId : String} {selection : Selection}
  {signing : Bool}

structure Key.Eligible (role : Role) (fleetId : String) (signing : Bool) (k : Key) : Prop where
  ofFleet : k.fleetId = fleetId
  ofRole : k.role = role
  valid : k.hasFlag .invalid = false
  able : signing = true → k.hasFlag .canSign = true

/-- No look-up for this role in this fleet can choose the record. -/
def Key.PassedOver (role : Role) (fleetId : String) (k : Key) : Prop :=
  k.hasFlag .invalid = true ∨ k.fleetId ≠ fleetId ∨ k.role ≠ role

theorem Key.eligible_iff {k : Key} :
    k.Eligible role fleetId signing ↔
      (k.matchesRole role fleetId && k.usable signing) = true := by
  simp only [Key.matchesRole, Key.usable, Key.isInvalid, Bool.and_eq_true, beq_iff_eq,
    Bool.not_eq_true', Bool.or_eq_true]
  constructor
  · rintro ⟨ofFleet, ofRole, valid, able⟩
    refine ⟨⟨ofFleet, ofRole⟩, valid, ?_⟩
    cases signing with
    | false => exact .inl rfl
    | true => exact .inr (able rfl)
  · rintro ⟨⟨ofFleet, ofRole⟩, valid, free | able⟩
    · exact ⟨ofFleet, ofRole, valid, fun asked => absurd asked (by simp [free])⟩
    · exact ⟨ofFleet, ofRole, valid, fun _ => able⟩

theorem Key.PassedOver.not_eligible {k : Key} (passed : k.PassedOver role fleetId) :
    ¬ k.Eligible role fleetId signing := by
  rintro ⟨ofFleet, ofRole, valid, -⟩
  rcases passed with invalid | foreign | unfit
  · exact Bool.false_ne_true (valid.symm.trans invalid)
  · exact foreign ofFleet
  · exact unfit ofRole

/-! ## Places -/

/-- Of the records with the property, the policy picks `k`: the last one of the list or the first
one. -/
def Selection.Picks (p : Key → Prop) (keys : List Key) (k : Key) : Selection → Prop
  | .mostRecent => p k ∧ ∃ before after, keys = before ++ k :: after ∧ ∀ l ∈ after, ¬ p l
  | .firstFound => p k ∧ ∃ before after, keys = before ++ k :: after ∧ ∀ l ∈ before, ¬ p l

theorem selectKey_eq_ok_iff_picks {k : Key} :
    selectKey keys role fleetId selection signing = .ok k ↔
      selection.Picks (Key.Eligible role fleetId signing) keys k := by
  have missed : ∀ l : Key, (!(l.matchesRole role fleetId && l.usable signing)) = true ↔
      ¬ l.Eligible role fleetId signing := by
    intro l
    rw [Key.eligible_iff, Bool.not_eq_true', Bool.not_eq_true]
  rw [selectKey_eq_ok_iff, List.find?_eq_some_iff_append]
  simp only [← Key.eligible_iff, missed]
  cases selection with
  | firstFound => rfl
  | mostRecent =>
      -- What stands before the key in the reversed list stands after it in the list.
      refine and_congr_right fun _ => ?_
      constructor
      · rintro ⟨before, after, split, none⟩
        refine ⟨after.reverse, before.reverse, ?_, fun l member => none l (by simpa using member)⟩
        rw [← List.reverse_reverse keys, show keys.reverse = _ from split]
        simp
      · rintro ⟨before, after, rfl, none⟩
        refine ⟨after.reverse, before.reverse, ?_, fun l member => none l (by simpa using member)⟩
        simp [Selection.order]

theorem selectKey_succeeds_iff :
    (∃ k, selectKey keys role fleetId selection signing = .ok k) ↔
      ∃ k ∈ keys, k.Eligible role fleetId signing := by
  have inOrder : ∀ k, k ∈ selection.order keys ↔ k ∈ keys := by
    cases selection <;> simp [Selection.order]
  simp only [selectKey_eq_ok_iff, ← Option.isSome_iff_exists, List.find?_isSome, inOrder,
    Key.eligible_iff]

/-! ## Errors -/

theorem selectKey_eq_error_iff {error : Error} :
    selectKey keys role fleetId selection signing = .error error ↔
      (∀ k ∈ keys, ¬ k.Eligible role fleetId signing) ∧
        ((error = .keyInvalid (.role role fleetId) ∧
            ∃ k ∈ keys, k.fleetId = fleetId ∧ k.role = role ∧ k.hasFlag .invalid = true) ∨
          (error = .keyNotFound (.role role fleetId) ∧
            ∀ k ∈ keys, k.fleetId = fleetId → k.role = role → k.hasFlag .invalid = false)) := by
  have revoked : keys.any (fun k => k.matchesRole role fleetId && k.isInvalid) = true ↔
      ∃ k ∈ keys, k.fleetId = fleetId ∧ k.role = role ∧ k.hasFlag .invalid = true := by
    simp [Key.matchesRole, Key.isInvalid, and_assoc]
  have unrevoked : (¬ ∃ k ∈ keys, k.fleetId = fleetId ∧ k.role = role ∧ k.hasFlag .invalid = true) ↔
      ∀ k ∈ keys, k.fleetId = fleetId → k.role = role → k.hasFlag .invalid = false := by
    simp
  cases chosen : selectKey keys role fleetId selection signing with
  | ok k =>
      obtain ⟨l, listed, eligible⟩ := selectKey_succeeds_iff.1 ⟨k, chosen⟩
      simp only [reduceCtorEq, false_iff]
      exact fun refused => refused.1 l listed eligible
  | error raised =>
      have none : ∀ k ∈ keys, ¬ k.Eligible role fleetId signing := by
        intro k listed eligible
        obtain ⟨_, found⟩ := selectKey_succeeds_iff.2 ⟨k, listed, eligible⟩
        cases chosen.symm.trans found
      rw [selectKey_eq] at chosen
      split at chosen
      · cases chosen
      split at chosen
      · rename_i any
        have one := revoked.1 any
        cases chosen
        constructor
        · intro same
          cases same
          exact ⟨none, .inl ⟨rfl, one⟩⟩
        · rintro ⟨-, ⟨rfl, -⟩ | ⟨-, all⟩⟩
          · rfl
          · exact absurd one (unrevoked.2 all)
      · rename_i any
        have all := unrevoked.1 (mt revoked.2 any)
        cases chosen
        constructor
        · intro same
          cases same
          exact ⟨none, .inr ⟨rfl, all⟩⟩
        · rintro ⟨-, ⟨-, one⟩ | ⟨rfl, -⟩⟩
          · exact absurd one (unrevoked.2 all)
          · rfl

/-! ## Records that make no difference -/

/-- The lists agree but for records with the property, which either may have anywhere. -/
inductive AlikeBut (p : Key → Prop) : List Key → List Key → Prop where
  | nil : AlikeBut p [] []
  | both (k : Key) {keys others : List Key} :
      AlikeBut p keys others → AlikeBut p (k :: keys) (k :: others)
  | removed (k : Key) {keys others : List Key} :
      p k → AlikeBut p keys others → AlikeBut p (k :: keys) others
  | inserted (k : Key) {keys others : List Key} :
      p k → AlikeBut p keys others → AlikeBut p keys (k :: others)

theorem AlikeBut.filter_eq {p : Key → Prop} (alike : AlikeBut p keys others) {kept : Key → Bool}
    (drops : ∀ k, p k → kept k = false) : keys.filter kept = others.filter kept := by
  induction alike with
  | nil => rfl
  | both k _ ih => simp only [List.filter_cons, ih]
  | removed k dropped _ ih => rw [List.filter_cons_of_neg (by simp [drops k dropped]), ih]
  | inserted k dropped _ ih => rw [List.filter_cons_of_neg (by simp [drops k dropped]), ih]

theorem selectKey_alikeBut (alike : AlikeBut (Key.PassedOver role fleetId) keys others) {k : Key} :
    selectKey keys role fleetId selection signing = .ok k ↔
      selectKey others role fleetId selection signing = .ok k := by
  have drops : ∀ l : Key, l.PassedOver role fleetId →
      (l.matchesRole role fleetId && l.usable signing) = false := by
    intro l passed
    rw [← Bool.not_eq_true, ← Key.eligible_iff]
    exact passed.not_eligible
  rw [selectKey_eq_ok_iff, selectKey_eq_ok_iff, ← List.head?_filter, ← List.head?_filter,
    ← Selection.order_filter, ← Selection.order_filter, alike.filter_eq drops]

/-! ## All of it -/

theorem selectKey_mostRecent :
    selectKey keys role fleetId .mostRecent signing =
      selectKey keys.reverse role fleetId .firstFound signing := by
  simp only [selectKey_eq, Selection.order, List.any_reverse]

/-- A look-up finds the eligible record that the policy picks by its place, and it fails exactly if
there is none; the error tells whether an invalid record of the role was there.  The latest of a
list is the first of its reverse, records that are passed over do not change what is found, and who
asks for less and gets a key that signs would have got the same by asking for one. -/
theorem selectKey_exact (keys : List Key) (role : Role) (fleetId : String) (selection : Selection)
    (signing : Bool) :
    (∀ k, selectKey keys role fleetId selection signing = .ok k ↔
      selection.Picks (Key.Eligible role fleetId signing) keys k) ∧
    ((∃ k, selectKey keys role fleetId selection signing = .ok k) ↔
      ∃ k ∈ keys, k.Eligible role fleetId signing) ∧
    (∀ error, selectKey keys role fleetId selection signing = .error error ↔
      (∀ k ∈ keys, ¬ k.Eligible role fleetId signing) ∧
        ((error = .keyInvalid (.role role fleetId) ∧
            ∃ k ∈ keys, k.fleetId = fleetId ∧ k.role = role ∧ k.hasFlag .invalid = true) ∨
          (error = .keyNotFound (.role role fleetId) ∧
            ∀ k ∈ keys, k.fleetId = fleetId → k.role = role → k.hasFlag .invalid = false))) ∧
    selectKey keys role fleetId .mostRecent signing =
      selectKey keys.reverse role fleetId .firstFound signing ∧
    (∀ others, AlikeBut (Key.PassedOver role fleetId) keys others → ∀ k,
      selectKey keys role fleetId selection signing = .ok k ↔
        selectKey others role fleetId selection signing = .ok k) ∧
    (∀ k, selectKey keys role fleetId selection false = .ok k → k.hasFlag .canSign = true →
      selectKey keys role fleetId selection true = .ok k) :=
  ⟨fun _ => selectKey_eq_ok_iff_picks, selectKey_succeeds_iff, fun _ => selectKey_eq_error_iff,
    selectKey_mostRecent, fun _ alike _ => selectKey_alikeBut alike, fun _ => selectKey_signing⟩

end Countersign
