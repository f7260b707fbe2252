import Countersign.Proofs.Keystore.Provisioning

/-!
# This node's own key

A keystore without a pinned id takes the latest valid record that is marked as its own for the key
of this node.  The mark travels with an exported record, so a peer's key that was generated as the
peer's own becomes the key of the node that imports it.
-/

namespace Countersign

open KeyFlags (single_invalid single_ourOwn)

theorem Key.hasFlag_provisioned {flag : KeyFlags} {n : Nat} (single : flag.Single n)
    (notSigning : n ≠ 0) (apart : n < 8) (k : Key) :
    k.provisioned.hasFlag flag = k.hasFlag flag := by
  have outside : ¬ (k.origin = .unknown ∧ 8 ≤ n ∧ n < 11) := by omega
  rw [hasFlag, hasFlag, single.contains_eq, single.contains_eq, getLsbD_provisioned k single.1,
    if_neg notSigning, if_neg outside]

namespace Keystore

variable {s : Keystore} {k : Key} {kid : String}

/-! ## One change -/

theorem put_of_absent (absent : s.key? k.kid = none) :
    s.put k = { s with keys := s.keys ++ [k] } := by
  have others : s.keys.filter (fun old => !(old.kid == k.kid)) = s.keys := by
    rw [List.filter_eq_self]
    intro old member
    simpa using List.find?_eq_none.1 absent old member
  rw [put, others]

/-- A record of a new id becomes this node's own key exactly if it says so and is valid. -/
theorem selfKey?_put (unpinned : s.selfKid = none) (absent : s.key? k.kid = none) :
    (s.put k).selfKey? =
      if k.hasFlag .ourOwn = true ∧ k.isInvalid = false then some k else s.selfKey? := by
  rw [put_of_absent absent]
  simp only [selfKey?, unpinned, List.reverse_append, List.reverse_singleton, List.singleton_append,
    List.find?_cons]
  by_cases own : k.hasFlag .ourOwn = true ∧ k.isInvalid = false
  · simp [own]
  · rw [if_neg own]
    have passedOver : (k.hasFlag .ourOwn && !k.isInvalid) = false := by
      rw [Bool.eq_false_iff]
      intro hit
      exact own (by simpa using hit)
    rw [passedOver]

theorem selfKey?_provisioned (unpinned : s.selfKid = none) (absent : s.key? k.kid = none) :
    (s.put k.provisioned).selfKey? =
      if k.hasFlag .ourOwn = true ∧ k.isInvalid = false then some k.provisioned
      else s.selfKey? := by
  have own := k.hasFlag_provisioned single_ourOwn (by decide) (by decide)
  have invalid : k.provisioned.isInvalid = k.isInvalid :=
    k.hasFlag_provisioned single_invalid (by decide) (by decide)
  have put : (s.put k.provisioned).selfKey? =
      if k.provisioned.hasFlag .ourOwn = true ∧ k.provisioned.isInvalid = false then
        some k.provisioned
      else s.selfKey? := selfKey?_put unpinned absent
  rw [put, own, invalid]

theorem provision_nameless (s : Keystore) (nameless : k.kid = "") :
    s.provision k.exported.text = .error (.format .emptyKid) := by
  have kid : k.exported.kid = "" := nameless
  simp only [provision, Key.parse_text, mapError_ok, ok_bind, String.isEmpty_iff, if_pos kid]
  rfl

/-! ## Generated keys -/

section Generated

variable (suite : Crypto.Suite) (seed : Block 32) (flags : KeyFlags) (kid fleetId : String)

theorem generated_ourOwn : (generated suite seed flags kid fleetId).hasFlag .ourOwn = true := by
  have marked : (flags ||| KeyFlags.ourOwn).contains .ourOwn = true := by
    rw [KeyFlags.contains_iff]
    intro i inWord bit
    change (flags.bits ||| KeyFlags.ourOwn.bits).getLsbD i = true
    rw [BitVec.getLsbD_or, bit, Bool.or_true]
  rw [generated, Key.hasFlag, single_ourOwn.contains_orOrigin (by decide), marked]

theorem generated_isInvalid :
    (generated suite seed flags kid fleetId).isInvalid = flags.contains .invalid := by
  have bits : (flags ||| KeyFlags.ourOwn).bits = flags.bits ||| KeyFlags.ourOwn.bits := rfl
  have outside : KeyFlags.ourOwn.bits.getLsbD 1 = false := by decide
  rw [generated, Key.isInvalid, Key.hasFlag, single_invalid.contains_orOrigin (by decide),
    single_invalid.contains_eq, single_invalid.contains_eq, bits, BitVec.getLsbD_or, outside,
    Bool.or_false]

theorem selfKey?_generated (unpinned : s.selfKid = none) (absent : s.key? kid = none)
    (valid : flags.contains .invalid = false) :
    (s.put (generated suite seed flags kid fleetId).provisioned).selfKey? =
      some (generated suite seed flags kid fleetId).provisioned := by
  rw [selfKey?_provisioned unpinned absent, generated_isInvalid]
  exact if_pos ⟨generated_ourOwn suite seed flags kid fleetId, valid⟩

end Generated

/-! ## Claims -/

def Change.Claims (kid : String) : Change → Prop
  | .keep | .drop _ => False
  | .store k => k.kid = kid ∧ k.hasFlag .ourOwn = true
  | .mark marked flag on => marked = kid ∧ flag.contains .ourOwn = true ∧ on = true
  | .replace keys => ∃ k ∈ keys, k.kid = kid ∧ k.hasFlag .ourOwn = true

theorem Change.upholds_unclaimed {change : Change} (unclaimed : ¬ change.Claims kid) :
    change.Upholds kid fun k => k.hasFlag .ourOwn = false := by
  cases change with
  | keep => trivial
  | store k => exact fun named => Bool.eq_false_iff.2 fun own => unclaimed ⟨named, own⟩
  | mark marked flag on =>
      rintro rfl k - without
      exact Key.hasFlag_setFlag_of_spared single_ourOwn without fun claims =>
        unclaimed ⟨rfl, claims⟩
  | drop dropped => trivial
  | replace loaded =>
      exact fun k member named => Bool.eq_false_iff.2 fun own => unclaimed ⟨k, member, named, own⟩

theorem selfKey?_eq_some (unpinned : s.selfKid = none) {own : Key} (found : s.selfKey? = some own) :
    own ∈ s.keys ∧ own.hasFlag .ourOwn = true := by
  rw [selfKey?, unpinned] at found
  have marked := List.find?_some found
  rw [Bool.and_eq_true] at marked
  exact ⟨List.mem_reverse.1 (List.mem_of_find?_eq_some found), marked.1⟩

end Keystore

namespace Site

variable {suite : Crypto.Suite} {site : Site} {which : Nat} {k : Key}

/-! ## Histories -/

/-- The event brings the keystore a record of this id that says it is the node's own, or makes one
say so. -/
def Claims (suite : Crypto.Suite) (which : Nat) (kid : String) (site : Site) (event : Event) :
    Prop :=
  (site.change suite which event).Claims kid

theorem perform_nameless (nameless : k.kid = "") :
    (site.perform suite (.keystore which (.provision k.exported.text))).keystores which =
      site.keystores which := by
  have keeps : site.change suite which (.keystore which (.provision k.exported.text)) = .keep := by
    simp [change, Keystore.change, Keystore.provision_nameless _ nameless]
  rw [perform_keystore, keeps]
  rfl

/-- Importing the exported form of a record whose id is new here changes this node's own key exactly
if the record is valid and was marked as its sender's own: then the imported record takes its place.
The own key is always one that some event of the history brought or marked as such. -/
theorem provisioned_identity (fresh : (site.keystores which).keys = []) (before : List Event)
    (unpinned : ((site.performAll suite before).keystores which).selfKid = none)
    (absent : ((site.performAll suite before).keystores which).key? k.kid = none) :
    let s := (site.performAll suite before).keystores which
    let after := ((site.performAll suite before).perform suite
      (.keystore which (.provision k.exported.text))).keystores which
    after.selfKey? =
        (if k.kid ≠ "" ∧ k.hasFlag .ourOwn = true ∧ k.isInvalid = false then some k.provisioned
          else s.selfKey?) ∧
      ∀ own, s.selfKey? = some own →
        ¬ Throughout suite (fun site event => ¬ Claims suite which own.kid site event) site
          before := by
  intro s after
  refine ⟨?_, fun own found unclaimed => ?_⟩
  · by_cases named : k.kid = ""
    · have unchanged : after = s := perform_nameless named
      rw [unchanged, if_neg fun claims => claims.1 named]
    · have stored : after = s.put k.provisioned := perform_provision _ which named
      have imported : (s.put k.provisioned).selfKey? =
          if k.hasFlag .ourOwn = true ∧ k.isInvalid = false then some k.provisioned
          else s.selfKey? := Keystore.selfKey?_provisioned unpinned absent
      simp only [stored, imported, ne_eq, named, not_false_eq_true, true_and]
  · have start : ∀ k ∈ (site.keystores which).keys,
        k.kid = own.kid → k.hasFlag .ourOwn = false := by
      rw [fresh]
      exact fun k member => absurd member List.not_mem_nil
    have upholds := unclaimed.mono fun site event => Keystore.Change.upholds_unclaimed
    have never := upholds.kept_every start
    obtain ⟨member, marked⟩ := Keystore.selfKey?_eq_some unpinned found
    exact Bool.false_ne_true ((never own member rfl).symm.trans marked)

def vacant : Site where
  stores := ∅
  keystores _ := .new "keys" .mostRecent none

/-- A record that its sender did not mark as its own leaves the key of the importing node alone. -/
theorem unmarked_identity :
    let peer : Key := ⟨"peer", "fleet", [], some [], .canSign⟩
    let site := vacant.performAll .curve25519
      [.keystore 0 (.generate (Block.takePad 32 [7]) .none "me" "fleet")]
    ∃ own, ((site.perform .curve25519 (.keystore 0 (.provision peer.exported.text))).keystores
      0).selfKey? = some own ∧ own.kid = "me" := by
  intro peer site
  have unmarked : ¬ (peer.kid ≠ "" ∧ peer.hasFlag .ourOwn = true ∧ peer.isInvalid = false) := by
    decide
  obtain ⟨imported, -⟩ := @provisioned_identity .curve25519 vacant 0 peer rfl
    [.keystore 0 (.generate (Block.takePad 32 [7]) .none "me" "fleet")] rfl rfl
  refine ⟨Keystore.generated .curve25519 (Block.takePad 32 [7]) .none "me" "fleet", ?_, rfl⟩
  rw [imported, if_neg unmarked]
  rfl

/-- One node generates a key, another one has a key of its own and imports the first one's. -/
theorem peer_becomes_identity :
    let peer := Keystore.generated .curve25519 (Block.takePad 32 [9]) .none "peer" "fleet"
    let site := vacant.performAll .curve25519
      [.keystore 1 (.generate (Block.takePad 32 [9]) .none "peer" "fleet"),
        .keystore 0 (.generate (Block.takePad 32 [7]) .none "me" "fleet")]
    (site.keystores 1).key? "peer" = some peer ∧ (site.keystores 0).key? "peer" = none ∧
      (site.keystores 0).selfKid = none ∧
      (∃ own, (site.keystores 0).selfKey? = some own ∧ own.kid = "me") ∧
      ∃ own, ((site.perform .curve25519 (.keystore 0 (.provision peer.exported.text))).keystores
        0).selfKey? = some own ∧ own.kid = "peer" := by
  intro peer site
  refine ⟨rfl, rfl, rfl, ⟨_, rfl, rfl⟩, peer.provisioned, ?_, rfl⟩
  have named : peer.kid ≠ "" := by decide
  rw [perform_provision site 0 named]
  exact Keystore.selfKey?_generated .curve25519 (Block.takePad 32 [9]) .none "peer" "fleet" rfl rfl
    (by decide)

end Site

end Countersign
