import Countersign.Key.Command
import Countersign.Proofs.Key.Flags
import Countersign.Proofs.Key.Record

/-!
# The last write to each part of a flag word

Seven parts of a flag word can be written: the role, the origin, and five flags of one bit each.  A
command writes one of them.  So after any commands each part holds what was last written to it,
whatever was written to the others in between, and no bit outside the parts ever changes.
-/

namespace Countersign

/-! ## Flags that have a name -/

namespace KeyFlags

variable {flag : KeyFlags} {n i : Nat}

def singles : List KeyFlags := named.map (·.2)

theorem single_of_mem (listed : flag ∈ singles) : ∃ n < 5, flag.Single n := by
  simp only [singles, named, List.map_cons, List.map_nil, List.mem_cons, List.not_mem_nil,
    or_false] at listed
  rcases listed with rfl | rfl | rfl | rfl | rfl
  · exact ⟨0, by omega, single_canSign⟩
  · exact ⟨1, by omega, single_invalid⟩
  · exact ⟨2, by omega, single_expirable⟩
  · exact ⟨3, by omega, single_revokable⟩
  · exact ⟨4, by omega, single_ourOwn⟩

theorem invalid_mem_singles : invalid ∈ singles := by decide

theorem byName_mem_singles (name : String) : byName name ∈ singles := by
  rw [byName]
  cases found : named.lookup name with
  | none => exact invalid_mem_singles
  | some flag =>
      obtain ⟨before, after, split, -⟩ := List.lookup_eq_some_iff.1 found
      exact List.mem_map.2 ⟨(name, flag), by simp [split], rfl⟩

theorem byNumber_mem_singles (n : BitVec 32) : byNumber n ∈ singles := by
  change (singles.find? fun flag => flag.bits = n).getD invalid ∈ singles
  cases found : singles.find? fun flag => flag.bits = n with
  | none => exact invalid_mem_singles
  | some flag => exact List.mem_of_find?_eq_some found

def bit (n : Nat) : KeyFlags := ⟨BitVec.twoPow 32 n⟩

theorem single_bit (inWord : n < 32) : (bit n).Single n := by
  refine ⟨inWord, fun i small => ?_⟩
  rw [bit, BitVec.getLsbD_twoPow, decide_eq_true inWord, Bool.true_and]
  exact decide_eq_decide.2 eq_comm

theorem Single.eq_bit (single : flag.Single n) : flag = bit n := by
  obtain ⟨bits⟩ := flag
  refine congrArg KeyFlags.mk (BitVec.eq_of_getLsbD_eq fun i inWord => ?_)
  rw [single.2 i inWord, BitVec.getLsbD_twoPow, decide_eq_true single.1, Bool.true_and]
  exact decide_eq_decide.2 eq_comm

theorem Single.eq_iff (single : flag.Single n) (inWord : i < 32) : flag = bit i ↔ i = n := by
  constructor
  · rintro rfl
    have held := (single_bit inWord).2 i inWord
    rw [single.2 i inWord, decide_eq_true rfl, decide_eq_true_iff] at held
    exact held
  · rintro rfl
    exact single.eq_bit

end KeyFlags

namespace Key

/-! ## What commands write -/

namespace Command

/-- The flag, where the command changes one, was found by a name or by a number. -/
def Found : Command → Prop
  | .setFlag flag _ => (∃ name, flag = .byName name) ∨ ∃ n, flag = .byNumber n
  | .setRole _ | .setRoleNumber _ | .setOrigin _ => True

def role? : Command → Option Role
  | .setRole role => some role
  | .setRoleNumber n => some (.byNumber n.toInt)
  | .setFlag _ _ | .setOrigin _ => none

def origin? : Command → Option Origin
  | .setOrigin origin => some origin
  | .setFlag _ _ | .setRole _ | .setRoleNumber _ => none

def value? (flag : KeyFlags) : Command → Option Bool
  | .setFlag changed on => if changed = flag then some on else none
  | .setRole _ | .setRoleNumber _ | .setOrigin _ => none

/-- The value that the command gives to the bit at `i`, if it writes it. -/
def bit? (i : Nat) (c : Command) : Option Bool :=
  if 12 ≤ i ∧ i < 16 then c.role?.map fun role => role.number.testBit (i - 12)
  else if 8 ≤ i ∧ i < 11 then c.origin?.map fun origin => origin.number.testBit (i - 8)
  else c.value? (.bit i)

variable {c : Command} {flag : KeyFlags} {on : Bool}

theorem Found.mem_singles (found : (setFlag flag on).Found) : flag ∈ KeyFlags.singles := by
  rcases found with ⟨name, rfl⟩ | ⟨n, rfl⟩
  · exact KeyFlags.byName_mem_singles name
  · exact KeyFlags.byNumber_mem_singles n

theorem Found.value?_eq_none (found : c.Found) (unlisted : flag ∉ KeyFlags.singles) :
    c.value? flag = none := by
  cases c with
  | setFlag changed on =>
      have differs : changed ≠ flag := by
        rintro rfl
        exact unlisted found.mem_singles
      rw [value?, if_neg differs]
  | setRole role => rfl
  | setRoleNumber n => rfl
  | setOrigin origin => rfl

end Command

def lastOf {α : Type} (written : Command → Option α) (commands : List Command) : Option α :=
  (commands.filterMap written).getLast?

section Last

variable {α β : Type} {written : Command → Option α} {commands : List Command}

theorem lastOf_cons (c : Command) (commands : List Command) :
    lastOf written (c :: commands) = (lastOf written commands).or (written c) := by
  rw [lastOf, lastOf, List.filterMap_cons]
  cases written c with
  | none => rw [Option.or_none]
  | some value =>
      rw [List.getLast?_cons]
      cases (commands.filterMap written).getLast? <;> rfl

theorem lastOf_map (f : α → β) (commands : List Command) :
    lastOf (fun c => (written c).map f) commands = (lastOf written commands).map f := by
  rw [lastOf, ← List.map_filterMap, List.getLast?_map, lastOf]

theorem lastOf_eq_none (unwritten : ∀ c ∈ commands, written c = none) :
    lastOf written commands = none := by
  rw [lastOf, List.filterMap_eq_nil_iff.2 unwritten, List.getLast?_nil]

/-- A part that each command writes or leaves alone holds what was last written to it. -/
theorem performAll_last (part : Key → α)
    (step : ∀ k, ∀ c ∈ commands, part (k.perform c) = (written c).getD (part k)) (k : Key) :
    part (k.performAll commands) = (lastOf written commands).getD (part k) := by
  induction commands generalizing k with
  | nil => rfl
  | cons c commands ih =>
      have first := step k c List.mem_cons_self
      have rest := ih (fun k d listed => step k d (List.mem_cons_of_mem c listed)) (k.perform c)
      rw [lastOf_cons]
      -- What `c` wrote only counts where nothing was written after it.
      cases later : lastOf written commands with
      | none =>
          rw [later, Option.getD_none, first] at rest
          exact rest
      | some value =>
          rw [later] at rest
          exact rest

end Last

/-! ## One command -/

variable {c : Command} {k : Key}

theorem role_perform (found : c.Found) : (k.perform c).role = c.role?.getD k.role := by
  cases c with
  | setFlag flag on =>
      obtain ⟨n, small, single⟩ := KeyFlags.single_of_mem found.mem_singles
      exact single.role_set (by omega)
  | setRole role => exact KeyFlags.role_withRole role
  | setRoleNumber n => exact KeyFlags.role_withRole _
  | setOrigin origin => exact KeyFlags.role_withOrigin origin

theorem origin_perform (found : c.Found) : (k.perform c).origin = c.origin?.getD k.origin := by
  cases c with
  | setFlag flag on =>
      obtain ⟨n, small, single⟩ := KeyFlags.single_of_mem found.mem_singles
      exact single.origin_set (by omega)
  | setRole role => exact KeyFlags.origin_withRole role
  | setRoleNumber n => exact KeyFlags.origin_withRole _
  | setOrigin origin => exact KeyFlags.origin_withOrigin origin

theorem getLsbD_perform (found : c.Found) {i : Nat} (inWord : i < 32) :
    (k.perform c).flags.bits.getLsbD i = (c.bit? i).getD (k.flags.bits.getLsbD i) := by
  have roles (r : Role) : (k.setRole r).flags.bits.getLsbD i =
      ((Command.setRole r).bit? i).getD (k.flags.bits.getLsbD i) := by
    rw [setRole, KeyFlags.getLsbD_withRole inWord, Command.bit?]
    split
    · rfl
    · split <;> rfl
  cases c with
  | setFlag flag on =>
      obtain ⟨n, small, single⟩ := KeyFlags.single_of_mem found.mem_singles
      rw [perform, setFlag, KeyFlags.getLsbD_set inWord, single.2 i inWord, Command.bit?]
      by_cases here : i = n
      · have low : ¬ (12 ≤ i ∧ i < 16) ∧ ¬ (8 ≤ i ∧ i < 11) := by omega
        rw [if_neg low.1, if_neg low.2, Command.value?, if_pos ((single.eq_iff inWord).2 here)]
        simp [here]
      · rw [Command.value?, if_neg (mt (single.eq_iff inWord).1 here)]
        simp [here, Command.role?, Command.origin?]
  | setRole role => exact roles role
  | setRoleNumber n => exact roles (.byNumber n.toInt)
  | setOrigin origin =>
      rw [perform, setOrigin, KeyFlags.getLsbD_withOrigin inWord, Command.bit?]
      by_cases nibble : 12 ≤ i ∧ i < 16
      · have outside : ¬ (8 ≤ i ∧ i < 11) := by omega
        rw [if_pos nibble, if_neg outside]
        rfl
      · rw [if_neg nibble]
        split <;> rfl

/-! ## Any number of commands -/

variable {commands : List Command}

def Spare (i : Nat) : Prop := 5 ≤ i ∧ i < 8 ∨ i = 11 ∨ 16 ≤ i

/-- Both sequences write the same parts, and the last value written to each is the same. -/
structure SameLast (commands others : List Command) : Prop where
  role : lastOf Command.role? commands = lastOf Command.role? others
  origin : lastOf Command.origin? commands = lastOf Command.origin? others
  flag : ∀ flag ∈ KeyFlags.singles,
    lastOf (Command.value? flag) commands = lastOf (Command.value? flag) others

theorem getLsbD_performAll (found : ∀ c ∈ commands, c.Found) (k : Key) {i : Nat} (inWord : i < 32) :
    (k.performAll commands).flags.bits.getLsbD i =
      (lastOf (Command.bit? i) commands).getD (k.flags.bits.getLsbD i) :=
  performAll_last (fun k => k.flags.bits.getLsbD i)
    (fun _ c listed => getLsbD_perform (found c listed) inWord) k

theorem hasFlag_performAll (found : ∀ c ∈ commands, c.Found) (k : Key) {flag : KeyFlags}
    (listed : flag ∈ KeyFlags.singles) :
    (k.performAll commands).hasFlag flag =
      (lastOf (Command.value? flag) commands).getD (k.hasFlag flag) := by
  obtain ⟨n, small, single⟩ := KeyFlags.single_of_mem listed
  have written : Command.bit? n = Command.value? flag := by
    funext c
    have low : ¬ (12 ≤ n ∧ n < 16) ∧ ¬ (8 ≤ n ∧ n < 11) := by omega
    rw [Command.bit?, if_neg low.1, if_neg low.2, single.eq_bit]
  rw [hasFlag, hasFlag, single.contains_eq, single.contains_eq, getLsbD_performAll found k single.1,
    written]

theorem getLsbD_performAll_spare (found : ∀ c ∈ commands, c.Found) (k : Key) {i : Nat}
    (spare : Spare i) :
    (k.performAll commands).flags.bits.getLsbD i = k.flags.bits.getLsbD i := by
  rcases Nat.lt_or_ge i 32 with inWord | outside
  · have unlisted : KeyFlags.bit i ∉ KeyFlags.singles := by
      intro listed
      obtain ⟨n, small, single⟩ := KeyFlags.single_of_mem listed
      have same : i = n := (single.eq_iff inWord).1 rfl
      rw [Spare] at spare
      omega
    have unwritten : ∀ c ∈ commands, c.bit? i = none := by
      intro c listed
      have high : ¬ (12 ≤ i ∧ i < 16) ∧ ¬ (8 ≤ i ∧ i < 11) := by
        rw [Spare] at spare
        omega
      rw [Command.bit?, if_neg high.1, if_neg high.2, (found c listed).value?_eq_none unlisted]
    rw [getLsbD_performAll found k inWord, lastOf_eq_none unwritten, Option.getD_none]
  · rw [BitVec.getLsbD_of_ge _ i outside, BitVec.getLsbD_of_ge _ i outside]

theorem SameLast.bit {others : List Command} (same : SameLast commands others)
    (found : ∀ c ∈ commands, c.Found) (othersFound : ∀ c ∈ others, c.Found) (i : Nat) :
    lastOf (Command.bit? i) commands = lastOf (Command.bit? i) others := by
  unfold Command.bit?
  split
  · rw [lastOf_map, lastOf_map, same.role]
  · split
    · rw [lastOf_map, lastOf_map, same.origin]
    · by_cases listed : KeyFlags.bit i ∈ KeyFlags.singles
      · exact same.flag _ listed
      · rw [lastOf_eq_none fun c given => (found c given).value?_eq_none listed,
          lastOf_eq_none fun c given => (othersFound c given).value?_eq_none listed]

/-- After any commands whose flags were found by name or number, the role, the origin and each of
the five flags is what was last written to it, or what it was where nothing was; all bits outside
them stay as they were.  So the whole word depends on nothing but the last write to each part, and
the text of the record gives it back bit by bit. -/
theorem performAll_independent (k : Key) (found : ∀ c ∈ commands, c.Found) :
    (k.performAll commands).role = (lastOf Command.role? commands).getD k.role ∧
    (k.performAll commands).origin = (lastOf Command.origin? commands).getD k.origin ∧
    (∀ flag ∈ KeyFlags.singles, (k.performAll commands).hasFlag flag =
      (lastOf (Command.value? flag) commands).getD (k.hasFlag flag)) ∧
    (∀ i, Spare i →
      (k.performAll commands).flags.bits.getLsbD i = k.flags.bits.getLsbD i) ∧
    (∀ (l : Key) (others : List Command), l.flags = k.flags → (∀ c ∈ others, c.Found) →
      SameLast commands others → (k.performAll commands).flags = (l.performAll others).flags) ∧
    Key.flags <$> parse (k.performAll commands).text = .ok (k.performAll commands).flags := by
  refine ⟨?_, ?_, fun flag listed => hasFlag_performAll found k listed,
    fun i spare => getLsbD_performAll_spare found k spare, ?_, ?_⟩
  · exact performAll_last role (fun _ c listed => role_perform (found c listed)) k
  · exact performAll_last origin (fun _ c listed => origin_perform (found c listed)) k
  · intro l others start othersFound same
    refine congrArg KeyFlags.mk (BitVec.eq_of_getLsbD_eq fun i inWord => ?_)
    rw [getLsbD_performAll found k inWord, getLsbD_performAll othersFound l inWord,
      same.bit found othersFound i, start]
  · rw [parse_text]
    rfl

/-- Every bit is set, so neither the role nor the origin has a meaning. -/
def saturated : Key := ⟨"key", "fleet", [], none, ⟨0xFFFFFFFF⟩⟩

/-- The name has no meaning, and nor has the last number. -/
def scattered : List Command :=
  [.setFlag (.byName "CAN_SIG") false, .setRoleNumber 2, .setFlag (.byNumber 0x10) true,
    .setOrigin .hsm, .setRole .fleetSigning, .setFlag (.byNumber 0x10) false, .setRoleNumber 9]

/-- The same last writes as in `scattered`, and no others. -/
def gathered : List Command :=
  [.setRole .unassigned, .setOrigin .hsm, .setFlag .ourOwn false, .setFlag .invalid false]

theorem scattered_independent :
    (∀ c ∈ scattered, c.Found) ∧ (∀ c ∈ gathered, c.Found) ∧ SameLast scattered gathered ∧
      (saturated.performAll scattered).role = .unassigned ∧
      (saturated.performAll scattered).hasFlag .canSign = true ∧
      (saturated.performAll scattered).flags = (saturated.performAll gathered).flags := by
  have found : ∀ c ∈ scattered, c.Found := by
    simp only [scattered, List.forall_mem_cons, Command.Found, true_and]
    exact ⟨.inl ⟨_, rfl⟩, .inr ⟨_, rfl⟩, .inr ⟨_, rfl⟩, List.forall_mem_nil _⟩
  have gatheredFound : ∀ c ∈ gathered, c.Found := by
    simp only [gathered, List.forall_mem_cons, Command.Found, true_and]
    exact ⟨.inl ⟨"OUR_OWN", rfl⟩, .inl ⟨"INVALID", rfl⟩, List.forall_mem_nil _⟩
  have same : SameLast scattered gathered := ⟨by decide, by decide, by decide⟩
  obtain ⟨role, -, flags, -, word, -⟩ := performAll_independent saturated found
  exact ⟨found, gatheredFound, same, role.trans (by decide),
    (flags .canSign (by decide)).trans (by decide), word saturated gathered rfl gatheredFound same⟩

end Key

end Countersign
