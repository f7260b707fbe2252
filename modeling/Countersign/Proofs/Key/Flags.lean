import Countersign.Key.Record
import Mathlib.Algebra.Group.Nat.Defs

/-!
# Flags bit by bit

A set of flags is known by its bits.  Setting or clearing some of them leaves all others as they
are, and the role and the origin are the business of their own bits alone.
-/

namespace Countersign

theorem Origin.number_fits (o : Origin) : o.number < 2 ^ (11 - 8) := by
  cases o <;> decide

theorem Role.number_fits (r : Role) : r.number < 2 ^ (16 - 12) := by
  cases r <;> decide

namespace KeyFlags

variable {f g : KeyFlags} {on : Bool} {i : Nat}

theorem getLsbD_set (inWord : i < 32) :
    (f.set g on).bits.getLsbD i = if g.bits.getLsbD i then on else f.bits.getLsbD i := by
  cases on with
  | true =>
      rw [set, if_pos rfl, BitVec.getLsbD_or]
      cases g.bits.getLsbD i <;> simp
  | false =>
      rw [set, if_neg Bool.false_ne_true, BitVec.getLsbD_and, BitVec.getLsbD_not,
        decide_eq_true inWord]
      cases g.bits.getLsbD i <;> simp

theorem contains_iff :
    f.contains g = true ↔ ∀ i < 32, g.bits.getLsbD i = true → f.bits.getLsbD i = true := by
  rw [contains, beq_iff_eq]
  constructor
  · intro same i inWord held
    rw [← same, BitVec.getLsbD_and, Bool.and_eq_true] at held
    exact held.1
  · intro every
    apply BitVec.eq_of_getLsbD_eq
    intro i inWord
    rw [BitVec.getLsbD_and]
    cases held : g.bits.getLsbD i with
    | false => simp
    | true => simp [every i inWord held]

/-! ## Flags of one bit -/

def Single (g : KeyFlags) (n : Nat) : Prop :=
  n < 32 ∧ ∀ i < 32, g.bits.getLsbD i = decide (i = n)

theorem single_canSign : canSign.Single 0 := ⟨by decide, by decide⟩

theorem single_invalid : invalid.Single 1 := ⟨by decide, by decide⟩

theorem single_expirable : expirable.Single 2 := ⟨by decide, by decide⟩

theorem single_revokable : revokable.Single 3 := ⟨by decide, by decide⟩

theorem single_ourOwn : ourOwn.Single 4 := ⟨by decide, by decide⟩

theorem Single.contains_eq {n : Nat} (single : g.Single n) : f.contains g = f.bits.getLsbD n := by
  obtain ⟨inWord, bit⟩ := single
  rw [Bool.eq_iff_iff, contains_iff]
  constructor
  · intro every
    exact every n inWord ((bit n inWord).trans (decide_eq_true rfl))
  · intro held i small set
    rw [bit i small, decide_eq_true_iff] at set
    rwa [set]

theorem Single.contains_set {n : Nat} (single : g.Single n) (flag : KeyFlags) :
    (f.set flag on).contains g = if flag.contains g then on else f.contains g := by
  simp only [single.contains_eq, getLsbD_set single.1]

/-! ## Numbers inside the word -/

/-- The mask is made of the bits from `low` up to `high`, which is not one of them. -/
def Spans (mask : KeyFlags) (low high : Nat) : Prop :=
  ∀ i < 32, mask.bits.getLsbD i = decide (low ≤ i ∧ i < high)

theorem spans_originMask : originMask.Spans 8 11 := by
  unfold Spans
  decide

theorem spans_roleMask : roleMask.Spans 12 16 := by
  unfold Spans
  decide

variable {mask other : KeyFlags} {low high low' high' n : Nat}

theorem Spans.masked_congr {v w : BitVec 32} (spans : mask.Spans low high)
    (same : ∀ i < 32, low ≤ i → i < high → v.getLsbD i = w.getLsbD i) :
    v &&& mask.bits = w &&& mask.bits := by
  apply BitVec.eq_of_getLsbD_eq
  intro i inWord
  rw [BitVec.getLsbD_and, BitVec.getLsbD_and, spans i inWord]
  by_cases inside : low ≤ i ∧ i < high
  · rw [same i inWord inside.1 inside.2]
  · simp [inside]

theorem getLsbD_moved (fits : n < 2 ^ (high - low)) {i : Nat} (inWord : i < 32) :
    (BitVec.ofNat 32 n <<< low).getLsbD i =
      (decide (low ≤ i ∧ i < high) && n.testBit (i - low)) := by
  have small : i - low < 32 := by omega
  rw [BitVec.getLsbD_shiftLeft, BitVec.getLsbD_ofNat, decide_eq_true inWord, decide_eq_true small]
  by_cases below : i < low
  · rw [decide_eq_false fun inside : low ≤ i ∧ i < high => by omega]
    simp [below]
  by_cases inside : i < high
  · rw [decide_eq_true (by omega : low ≤ i ∧ i < high)]
    simp [below]
  · have ended : n.testBit (i - low) = false :=
      Nat.testBit_lt_two_pow
        (Nat.lt_of_lt_of_le fits (Nat.pow_le_pow_right (by omega) (by omega)))
    simp [ended]

theorem Spans.getLsbD_write (spans : mask.Spans low high) (fits : n < 2 ^ (high - low))
    (inWord : i < 32) :
    (f.bits &&& ~~~mask.bits ||| BitVec.ofNat 32 n <<< low).getLsbD i =
      if low ≤ i ∧ i < high then n.testBit (i - low) else f.bits.getLsbD i := by
  rw [BitVec.getLsbD_or, BitVec.getLsbD_and, BitVec.getLsbD_not, spans i inWord,
    getLsbD_moved fits inWord, decide_eq_true inWord]
  by_cases inside : low ≤ i ∧ i < high <;> simp [inside]

theorem Spans.masked_write (spans : mask.Spans low high) (fits : n < 2 ^ (high - low)) :
    (f.bits &&& ~~~mask.bits ||| BitVec.ofNat 32 n <<< low) &&& mask.bits =
      BitVec.ofNat 32 n <<< low := by
  apply BitVec.eq_of_getLsbD_eq
  intro i inWord
  rw [BitVec.getLsbD_and, spans.getLsbD_write fits inWord, spans i inWord,
    getLsbD_moved fits inWord]
  by_cases inside : low ≤ i ∧ i < high <;> simp [inside]

theorem Spans.masked_write_apart (others : other.Spans low' high') (spans : mask.Spans low high)
    (apart : high ≤ low' ∨ high' ≤ low) (fits : n < 2 ^ (high - low)) :
    (f.bits &&& ~~~mask.bits ||| BitVec.ofNat 32 n <<< low) &&& other.bits =
      f.bits &&& other.bits := by
  refine others.masked_congr fun i inWord above below => ?_
  have outside : ¬ (low ≤ i ∧ i < high) := by omega
  rw [spans.getLsbD_write fits inWord, if_neg outside]

/-- A flag of one bit has nothing to do with numbers elsewhere in the word. -/
theorem Single.masked_set (single : g.Single n) (spans : mask.Spans low high)
    (apart : n < low ∨ high ≤ n) : (f.set g on).bits &&& mask.bits = f.bits &&& mask.bits := by
  refine spans.masked_congr fun i inWord above below => ?_
  have outside : g.bits.getLsbD i = false := by
    rw [single.2 i inWord, decide_eq_false_iff_not]
    omega
  rw [getLsbD_set inWord, outside]
  rfl

/-! ## The origin -/

theorem getLsbD_withOrigin (inWord : i < 32) (o : Origin) :
    (f.withOrigin o).bits.getLsbD i =
      if 8 ≤ i ∧ i < 11 then o.number.testBit (i - 8) else f.bits.getLsbD i :=
  spans_originMask.getLsbD_write o.number_fits inWord

@[simp] theorem origin_withOrigin (o : Origin) : (f.withOrigin o).origin = o := by
  rw [origin, withOrigin, spans_originMask.masked_write o.number_fits]
  cases o <;> rfl

theorem getLsbD_orOrigin (inWord : i < 32) (o : Origin) :
    (f.orOrigin o).bits.getLsbD i =
      if f.origin = .unknown ∧ 8 ≤ i ∧ i < 11 then o.number.testBit (i - 8)
      else f.bits.getLsbD i := by
  rw [orOrigin]
  split
  · rename_i unknown
    rw [getLsbD_withOrigin inWord]
    simp [unknown]
  · rename_i known
    simp [known]

theorem origin_orOrigin (o : Origin) :
    (f.orOrigin o).origin = if f.origin = .unknown then o else f.origin := by
  rw [orOrigin]
  split <;> simp

theorem Single.contains_orOrigin {n : Nat} (single : g.Single n) (apart : n < 8) (o : Origin) :
    (f.orOrigin o).contains g = f.contains g := by
  have outside : ¬ (f.origin = .unknown ∧ 8 ≤ n ∧ n < 11) := by omega
  rw [single.contains_eq, single.contains_eq, getLsbD_orOrigin single.1, if_neg outside]

theorem Single.origin_set {n : Nat} (single : g.Single n) (apart : n < 8) :
    (f.set g on).origin = f.origin := by
  rw [origin, single.masked_set spans_originMask (.inl apart), origin]

theorem origin_withRole (r : Role) : (f.withRole r).origin = f.origin := by
  rw [origin, withRole, spans_originMask.masked_write_apart spans_roleMask (by omega)
    r.number_fits, origin]

/-! ## The role -/

theorem getLsbD_withRole (inWord : i < 32) (r : Role) :
    (f.withRole r).bits.getLsbD i =
      if 12 ≤ i ∧ i < 16 then r.number.testBit (i - 12) else f.bits.getLsbD i :=
  spans_roleMask.getLsbD_write r.number_fits inWord

@[simp] theorem role_withRole (r : Role) : (f.withRole r).role = r := by
  rw [role, withRole, spans_roleMask.masked_write r.number_fits]
  cases r <;> rfl

theorem role_withOrigin (o : Origin) : (f.withOrigin o).role = f.role := by
  rw [role, withOrigin, spans_roleMask.masked_write_apart spans_originMask (by omega)
    o.number_fits, role]

theorem Single.role_set (single : g.Single n) (apart : n < 12) : (f.set g on).role = f.role := by
  rw [role, single.masked_set spans_roleMask (.inl apart), role]

end KeyFlags

/-- A flag of one bit keeps its value unless just that flag is changed to the other one. -/
theorem Key.hasFlag_setFlag_of_spared {g flag : KeyFlags} {n : Nat} (single : g.Single n) {k : Key}
    {value on : Bool} (held : k.hasFlag g = value)
    (spared : ¬ (flag.contains g = true ∧ on = !value)) :
    (k.setFlag flag on).hasFlag g = value := by
  rw [hasFlag, setFlag, single.contains_set]
  cases touches : flag.contains g with
  | false => exact held
  | true =>
      have same : on = value := by
        have differs : on ≠ !value := fun other => spared ⟨touches, other⟩
        simpa using differs
      exact same

theorem Key.isInvalid_setFlag (k : Key) (flag : KeyFlags) (on : Bool) :
    (k.setFlag flag on).isInvalid = if flag.contains .invalid then on else k.isInvalid :=
  KeyFlags.single_invalid.contains_set flag

end Countersign
