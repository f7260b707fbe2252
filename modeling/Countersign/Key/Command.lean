import Countersign.Key.Record

/-!
# Commands to a key record

A sequence of changes to the flags, the role and the origin of a record is a list of commands.
-/

namespace Countersign.Key

inductive Command where
  | setFlag (flag : KeyFlags) (on : Bool)
  | setRole (role : Role)
  | setRoleNumber (n : Int64)
  | setOrigin (origin : Origin)
  deriving Repr

def perform (k : Key) : Command → Key
  | .setFlag flag on => k.setFlag flag on
  | .setRole role => k.setRole role
  | .setRoleNumber n => k.setRole (.byNumber n.toInt)
  | .setOrigin origin => k.setOrigin origin

def performAll (k : Key) (commands : List Command) : Key := commands.foldl perform k

end Countersign.Key
