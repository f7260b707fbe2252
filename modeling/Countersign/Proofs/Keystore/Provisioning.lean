import Countersign.Proofs.Key.Flags
import Countersign.Proofs.Key.Record
import Countersign.Proofs.Keystore.Selection
import Countersign.Proofs.Site

/-!
# Provisioning with exported keys

An exported record arrives whole at another keystore, in every field and every bit of its flags,
except that it does not sign and that an origin is recorded where none was.  It checks signatures as
the original does, and signs nothing for as long as nobody lets it.
-/

namespace Countersign

namespace Key

def provisioned (k : Key) : Key := { k with flags := k.exported.flags.orOrigin .pki }

variable {k l : Key}

theorem origin_exported (k : Key) : k.exported.origin = k.origin :=
  KeyFlags.single_canSign.origin_set (by decide)

theorem getLsbD_provisioned (k : Key) {i : Nat} (inWord : i < 32) :
    k.provisioned.flags.bits.getLsbD i =
      if i = 0 then false
      else if k.origin = .unknown ∧ 8 ≤ i ∧ i < 11 then Origin.pki.number.testBit (i - 8)
      else k.flags.bits.getLsbD i := by
  have origin : k.exported.flags.origin = k.origin := k.origin_exported
  have cleared : k.exported.flags.bits.getLsbD i =
      if i = 0 then false else k.flags.bits.getLsbD i := by
    simp only [exported, setFlag, KeyFlags.getLsbD_set inWord,
      KeyFlags.single_canSign.2 i inWord, decide_eq_true_eq]
  rw [provisioned, KeyFlags.getLsbD_orOrigin inWord, origin, cleared]
  by_cases first : i = 0
  · simp [first]
  · simp [first]

theorem origin_provisioned (k : Key) :
    k.provisioned.origin = if k.origin = .unknown then .pki else k.origin := by
  have origin : k.exported.flags.origin = k.origin := k.origin_exported
  rw [Key.origin, provisioned, KeyFlags.origin_orOrigin, origin]

theorem canSign_provisioned (k : Key) : k.provisioned.hasFlag .canSign = false := by
  rw [hasFlag, KeyFlags.single_canSign.contains_eq, getLsbD_provisioned k (by decide), if_pos rfl]

/-- The record is `k` but for its flags, which do not let it sign. -/
structure Withheld (k l : Key) : Prop where
  same : ∃ flags, l = { k with flags := flags }
  unable : l.hasFlag .canSign = false

theorem withheld_provisioned (k : Key) : k.Withheld k.provisioned where
  same := ⟨_, rfl⟩
  unable := canSign_provisioned k

theorem Withheld.setFlag (withheld : k.Withheld l) {flag : KeyFlags} {on : Bool}
    (grants : ¬ (flag.contains .canSign = true ∧ on = true)) : k.Withheld (l.setFlag flag on) := by
  obtain ⟨⟨flags, rfl⟩, unable⟩ := withheld
  exact ⟨⟨_, rfl⟩, hasFlag_setFlag_of_spared KeyFlags.single_canSign unable grants⟩

theorem Withheld.sign (withheld : k.Withheld l) (suite : Crypto.Suite) (message : Bytes) :
    l.sign suite message = .error (.signingNotPermitted k.kid) := by
  obtain ⟨⟨flags, rfl⟩, unable⟩ := withheld
  simp [Key.sign, canSign, unable]

theorem Withheld.verify (withheld : k.Withheld l) (suite : Crypto.Suite)
    (message signature : Bytes) :
    l.verify suite message signature = k.verify suite message signature := by
  obtain ⟨⟨flags, rfl⟩, -⟩ := withheld
  rfl

end Key

namespace Keystore

variable {s : Keystore} {k : Key} {change : Change}

theorem provision_exported (s : Keystore) (named : k.kid ≠ "") :
    s.provision k.exported.text = .ok (s.put k.provisioned, k.provisioned) := by
  have kid : k.exported.kid ≠ "" := named
  simp only [provision, Key.parse_text, mapError_ok, ok_bind, String.isEmpty_iff, if_neg kid]
  rfl

theorem eq_of_mem_put {l : Key} (member : l ∈ (s.put k).keys) (same : l.kid = k.kid) : l = k := by
  rcases List.mem_append.1 member with old | new
  · have differs : l.kid ≠ k.kid := by simpa using (List.mem_filter.1 old).2
    exact absurd same differs
  · exact List.mem_singleton.1 new

def Change.Withholds (kid : String) : Change → Prop
  | .keep | .drop _ => True
  | .store k => k.kid ≠ kid
  | .mark marked flag on => ¬ (marked = kid ∧ flag.contains .canSign = true ∧ on = true)
  | .replace _ => False

theorem Change.Withholds.upholds (withholds : change.Withholds k.kid) :
    change.Upholds k.kid k.Withheld := by
  cases change with
  | keep => trivial
  | store l => exact fun named => absurd named withholds
  | mark marked flag on =>
      rintro rfl l - withheld
      exact withheld.setFlag fun grants => withholds ⟨rfl, grants⟩
  | drop dropped => trivial
  | replace loaded => exact absurd withholds id

theorem keyByRole_of_withheld (every : ∀ l ∈ s.keys, l.kid = k.kid → k.Withheld l) {role : Role}
    {fleetId : String} {l : Key} (chosen : s.keyByRole role fleetId = .ok l) : l.kid ≠ k.kid := by
  intro named
  have withheld := every l (selectKey_eq_ok chosen).1 named
  exact Bool.false_ne_true (withheld.unable.symm.trans (selectKey_able chosen))

end Keystore

namespace Site

variable {suite : Crypto.Suite} {k : Key}

/-- The event neither stores a key of this id in the keystore, nor lets it sign there, nor loads the
keystore's keys. -/
def Withholds (suite : Crypto.Suite) (which : Nat) (kid : String) (site : Site) (event : Event) :
    Prop :=
  (site.change suite which event).Withholds kid

theorem perform_provision (site : Site) (which : Nat) (named : k.kid ≠ "") :
    (site.perform suite (.keystore which (.provision k.exported.text))).keystores which =
      (site.keystores which).put k.provisioned := by
  have stores : site.change suite which (.keystore which (.provision k.exported.text)) =
      .store k.provisioned := by
    simp [change, Keystore.change, Keystore.provision_exported _ named]
  rw [perform_keystore, stores]
  rfl

/-- Whatever a keystore holds, provisioning it with an exported record succeeds, stores the record
with nothing changed but the signing and an unknown origin, and leaves the records of other ids as
they are, in their order.  Until the id is stored anew, let sign or loaded, no look-up by role gives
the record, it signs nothing, and it checks signatures as the original does. -/
theorem exported_provisioned (site : Site) (which : Nat) (named : k.kid ≠ "") :
    let s := site.keystores which
    let t := { s with keys := s.keys.filter (fun old => !(old.kid == k.kid)) ++ [k.provisioned] }
    let after := site.perform suite (.keystore which (.provision k.exported.text))
    s.perform suite site.stores (.provision k.exported.text) =
        (t, site.stores, .ok (.key k.provisioned)) ∧
      after.keystores which = t ∧
      k.provisioned = { k with flags := k.provisioned.flags } ∧
      (∀ i < 32, k.provisioned.flags.bits.getLsbD i =
        if i = 0 then false
        else if k.origin = .unknown ∧ 8 ≤ i ∧ i < 11 then Origin.pki.number.testBit (i - 8)
        else k.flags.bits.getLsbD i) ∧
      k.provisioned.origin = (if k.origin = .unknown then .pki else k.origin) ∧
      ∀ later, Throughout suite (Withholds suite which k.kid) after later →
        let u := (after.performAll suite later).keystores which
        (∀ role fleetId l, u.keyByRole role fleetId = .ok l → l.kid ≠ k.kid) ∧
          ∀ l ∈ u.keys, l.kid = k.kid → ∀ message,
            l.sign suite message = .error (.signingNotPermitted k.kid) ∧
              ∀ signature, l.verify suite message signature = k.verify suite message signature := by
  intro s t after
  have stored : after.keystores which = s.put k.provisioned := by
    simp only [after, s]
    exact perform_provision site which named
  have performed : s.perform suite site.stores (.provision k.exported.text) =
      (s.put k.provisioned, site.stores, .ok (.key k.provisioned)) := by
    simp [Keystore.perform, Keystore.provision_exported s named, keepOnError]
  have start : ∀ l ∈ (after.keystores which).keys, l.kid = k.kid → k.Withheld l := by
    rw [stored]
    intro l member same
    rw [Keystore.eq_of_mem_put member same]
    exact k.withheld_provisioned
  refine ⟨performed, stored, rfl, fun i inWord => k.getLsbD_provisioned inWord,
    k.origin_provisioned, fun later withholds => ?_⟩
  have still := (withholds.mono fun site event spared => spared.upholds).kept_every start
  refine ⟨fun role fleetId l chosen => Keystore.keyByRole_of_withheld still chosen,
    fun l member same message => ?_⟩
  have withheld := still l member same
  exact ⟨withheld.sign suite message, withheld.verify suite message⟩

/-- A record with odd texts and material, and flags of which most mean nothing. -/
def oddSigner : Key := ⟨"\"peer\"\n", "é", [1, 2, 3], some [], ⟨0xF0F1⟩⟩

def allButSigning : KeyFlags := ⟨0xFFFFFFFE⟩

def oneSigner : Site where
  stores := ∅
  keystores _ := { Keystore.new "keys" .mostRecent none with
    keys := [⟨"own", "é", List.replicate 32 7, none, ⟨0xF011⟩⟩] }

theorem oddSigner_provisioned :
    let after := oneSigner.perform .curve25519 (.keystore 0 (.provision oddSigner.exported.text))
    let later : List Event :=
      [.keystore 0 (.setFlag oddSigner.kid allButSigning true), .keystore 0 .save,
        .keystore 0 (.setFlag oddSigner.kid .canSign false), .keystore 1 .load,
        .keystore 0 (.adopt { oddSigner with kid := "other" } ⟨0xFFFFFFFF⟩ "é"),
        .keystore 0 (.forget "own"), .keystore 0 (.setFlag oddSigner.kid .invalid false)]
    ∃ l, ((after.performAll .curve25519 later).keystores 0).key? oddSigner.kid = some l ∧
      l.sign .curve25519 [104, 105] = .error (.signingNotPermitted oddSigner.kid) := by
  intro after later
  have named : oddSigner.kid ≠ "" := by decide
  obtain ⟨-, stored, -, -, -, thereafter⟩ :=
    @exported_provisioned .curve25519 oddSigner oneSigner 0 named
  have withholds : Throughout .curve25519 (Withholds .curve25519 0 oddSigner.kid) after later := by
    have other : allButSigning.contains .canSign = false := by decide
    have apart : "other" ≠ oddSigner.kid := by decide
    simp [later, Throughout, Withholds, change, Keystore.change, Keystore.Change.Withholds, other,
      apart]
  obtain ⟨-, every⟩ := thereafter later withholds
  have held : (after.keystores 0).keys =
      (oneSigner.keystores 0).keys ++ [oddSigner.provisioned] := by
    rw [stored]
    rfl
  have known : ∃ l,
      ((after.performAll .curve25519 later).keystores 0).key? oddSigner.kid = some l := by
    simp only [later, performAll_cons, performAll_nil, perform_keystore, change, Keystore.change,
      if_true, Nat.zero_ne_one, if_false, held]
    exact ⟨_, rfl⟩
  obtain ⟨l, found⟩ := known
  refine ⟨l, found, ?_⟩
  simp only [after] at found
  exact (every l (Keystore.mem_of_key? found) (Keystore.kid_of_key? found) _).1

end Site

end Countersign
