/-!
# Key flags

Bits 0 to 4 are capabilities and lifecycle, bits 8 to 10 hold the origin and bits 12 to 15 the role;
all others are kept.  Words come from other parties, so a role or an origin without a meaning reads
as the unassigned role or the unknown origin.
-/

namespace Countersign

inductive Role where
  | unassigned
  | fleetSigning
  | fleetEncryption
  | fleetProvisioning
  deriving DecidableEq, Repr, Inhabited

namespace Role

def all : List Role := [unassigned, fleetSigning, fleetEncryption, fleetProvisioning]

def name : Role → String
  | unassigned => "ROLE_UNDEF"
  | fleetSigning => "ROLE_F_S"
  | fleetEncryption => "ROLE_F_E"
  | fleetProvisioning => "ROLE_F_P"

def number : Role → Nat
  | unassigned => 0
  | fleetSigning => 1
  | fleetEncryption => 2
  | fleetProvisioning => 3

def byNumber (n : Int) : Role := (all.find? fun r => (r.number : Int) = n).getD unassigned

def byName (name : String) : Role := (all.find? fun r => r.name = name).getD unassigned

@[simp] theorem byNumber_number (r : Role) : byNumber r.number = r := by cases r <;> rfl

end Role

inductive Origin where
  | unknown
  | persistent
  | flash
  | generated
  | external
  | hsm
  | pki
  deriving DecidableEq, Repr, Inhabited

namespace Origin

def all : List Origin := [unknown, persistent, flash, generated, external, hsm, pki]

def name : Origin → String
  | unknown => "ORIGIN_UNKNOWN"
  | persistent => "ORIGIN_PERSISTENT"
  | flash => "ORIGIN_FLASH"
  | generated => "ORIGIN_GENERATED"
  | external => "ORIGIN_EXTERNAL"
  | hsm => "ORIGIN_HSM"
  | pki => "ORIGIN_PKI"

def number : Origin → Nat
  | unknown => 0
  | persistent => 1
  | flash => 2
  | generated => 3
  | external => 4
  | hsm => 5
  | pki => 6

def byNumber (n : Int) : Origin := (all.find? fun o => (o.number : Int) = n).getD unknown

def byName (name : String) : Origin := (all.find? fun o => o.name = name).getD unknown

@[simp] theorem byNumber_number (o : Origin) : byNumber o.number = o := by cases o <;> rfl

end Origin

structure KeyFlags where
  bits : BitVec 32
  deriving DecidableEq, Repr, Inhabited

namespace KeyFlags

/-! ## Single flags and masks -/

def none : KeyFlags := ⟨0⟩

def canSign : KeyFlags := ⟨0x0001⟩

def invalid : KeyFlags := ⟨0x0002⟩

def expirable : KeyFlags := ⟨0x0004⟩

def revokable : KeyFlags := ⟨0x0008⟩

def ourOwn : KeyFlags := ⟨0x0010⟩

def originMask : KeyFlags := ⟨0x0700⟩

def roleMask : KeyFlags := ⟨0xF000⟩

def named : List (String × KeyFlags) :=
  [("CAN_SIGN", canSign), ("INVALID", invalid), ("EXPIRABLE", expirable),
    ("REVOKABLE", revokable), ("OUR_OWN", ourOwn)]

def byName (name : String) : KeyFlags := (named.lookup name).getD invalid

def byNumber (n : BitVec 32) : KeyFlags :=
  ((named.map (·.2)).find? fun f => f.bits = n).getD invalid

/-! ## Sets of flags -/

def union (f g : KeyFlags) : KeyFlags := ⟨f.bits ||| g.bits⟩

instance : OrOp KeyFlags := ⟨union⟩

def contains (f g : KeyFlags) : Bool := f.bits &&& g.bits == g.bits

def set (f g : KeyFlags) (on : Bool) : KeyFlags :=
  if on then ⟨f.bits ||| g.bits⟩ else ⟨f.bits &&& ~~~g.bits⟩

/-! ## The role and the origin -/

def role (f : KeyFlags) : Role := .byNumber ((f.bits &&& roleMask.bits) >>> 12).toNat

def withRole (f : KeyFlags) (r : Role) : KeyFlags :=
  ⟨f.bits &&& ~~~roleMask.bits ||| BitVec.ofNat 32 r.number <<< 12⟩

def origin (f : KeyFlags) : Origin := .byNumber ((f.bits &&& originMask.bits) >>> 8).toNat

def withOrigin (f : KeyFlags) (o : Origin) : KeyFlags :=
  ⟨f.bits &&& ~~~originMask.bits ||| BitVec.ofNat 32 o.number <<< 8⟩

/-- Records an origin where none is recorded yet. -/
def orOrigin (f : KeyFlags) (o : Origin) : KeyFlags :=
  if f.origin = .unknown then f.withOrigin o else f

end KeyFlags

def Role.flags (r : Role) : KeyFlags := KeyFlags.none.withRole r

def Origin.flags (o : Origin) : KeyFlags := KeyFlags.none.withOrigin o

/-! ## The text of a flag word -/

namespace KeyFlags

def listed : List (String × KeyFlags) := named ++ [("ORIGIN", originMask), ("ROLE", roleMask)]

def hexText (n : Nat) : String := String.ofList (Nat.toDigits 16 n)

/-- The names of the flags that are wholly set, then what is left over as a number. -/
def names (f : KeyFlags) : List String :=
  let held := listed.filter fun entry => f.contains entry.2
  let rest := held.foldl (fun bits entry => bits &&& ~~~entry.2.bits) f.bits
  held.map (·.1) ++ if rest = 0 then [] else ["0x" ++ hexText rest.toNat]

def describe (f : KeyFlags) : String :=
  "KeyFlags(" ++ (if f.bits = 0 then "0x0" else " | ".intercalate f.names) ++ ")"

end KeyFlags

end Countersign
