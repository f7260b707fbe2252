import Countersign.Bytes

/-!
# Random identifiers

Version and variant have fixed places among the sixteen random bytes.
-/

namespace Countersign.Text

def setByte (i : Nat) (change : UInt8 → UInt8) (b : Bytes) : Bytes := b.modify i change

def uuid (random : Block 16) : String :=
  let b := setByte 6 (fun c => c &&& 0x0F ||| 0x40) random.val
  let b := setByte 8 (fun c => c &&& 0x3F ||| 0x80) b
  let group (start len : Nat) := hex ((b.drop start).take len)
  "-".intercalate [group 0 4, group 4 2, group 6 2, group 8 2, group 10 6]

end Countersign.Text
