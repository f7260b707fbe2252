import Countersign.Keystore.Basic

/-!
# Commands to a keystore

Loading and saving also touch the stores; all other commands leave them alone, and a command that
fails changes no key.
-/

namespace Countersign.Keystore

inductive Command where
  | load
  | save
  | generate (seed : Block 32) (flags : KeyFlags) (kid fleetId : String)
  | adopt (key : Key) (flags : KeyFlags) (fleetId : String)
  | provision (text : String)
  | setFlag (kid : String) (flag : KeyFlags) (on : Bool)
  | forget (kid : String)
  deriving Repr

inductive Reply where
  | done
  | count (keys : Nat)
  | key (stored : Key)
  | whether (yes : Bool)
  deriving Repr

def perform (s : Keystore) (suite : Crypto.Suite) (stores : Stores) :
    Command → Keystore × Stores × Result Reply
  | .load =>
      match s.load stores with
      | (stores, .ok loaded) => (loaded, stores, .ok (.count loaded.keys.length))
      | (stores, .error e) => (s, stores, .error e)
  | .save =>
      match s.save stores with
      | .ok saved => (s, saved, .ok .done)
      | .error e => (s, stores, .error e)
  | .generate seed flags kid fleetId =>
      let (s, k) := s.generate suite seed flags kid fleetId
      (s, stores, .ok (.key k))
  | .adopt key flags fleetId =>
      let (s, k) := s.adopt key flags fleetId
      (s, stores, .ok (.key k))
  | .provision text =>
      let (s, r) := keepOnError s (s.provision text)
      (s, stores, .key <$> r)
  | .setFlag kid flag on =>
      let (s, r) := keepOnError s (s.setFlag kid flag on)
      (s, stores, .key <$> r)
  | .forget kid =>
      let (s, was) := s.forget kid
      (s, stores, .ok (.whether was))

def performAll (s : Keystore) (suite : Crypto.Suite) (stores : Stores) :
    List Command → Keystore × Stores
  | [] => (s, stores)
  | c :: history =>
      let (s, stores, _) := s.perform suite stores c
      performAll s suite stores history

end Countersign.Keystore
