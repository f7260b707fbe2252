import Countersign.Keystore.Command

/-!
# Requests to a keystore

Besides commands a keystore takes questions, which may find nothing but never change anything.
-/

namespace Countersign.Keystore

inductive Request where
  | command (c : Command)
  | kid (kid : String)
  | all
  | own
  | role (role : Role) (fleetId : String)
  deriving Repr

inductive Answer where
  | reply (r : Reply)
  | key (found : Option Key)
  | keys (held : List Key)
  deriving Repr

def answer (s : Keystore) (suite : Crypto.Suite) (stores : Stores) :
    Request → Keystore × Stores × Result Answer
  | .command c =>
      let (s, stores, r) := s.perform suite stores c
      (s, stores, .reply <$> r)
  | .kid kid => (s, stores, .ok (.key (s.key? kid)))
  | .all => (s, stores, .ok (.keys s.keys))
  | .own => (s, stores, .ok (.key s.selfKey?))
  | .role role fleetId => (s, stores, (fun k => .key (some k)) <$> s.keyByRole role fleetId)

def answerAll (s : Keystore) (suite : Crypto.Suite) (stores : Stores) :
    List Request → Keystore × Stores
  | [] => (s, stores)
  | r :: history =>
      let (s, stores, _) := s.answer suite stores r
      answerAll s suite stores history

/-- The requests of a history that are met, each at its turn. -/
def metOf (s : Keystore) (suite : Crypto.Suite) (stores : Stores) : List Request → List Request
  | [] => []
  | r :: history =>
      match s.answer suite stores r with
      | (s, stores, .ok _) => r :: metOf s suite stores history
      | (s, stores, .error _) => metOf s suite stores history

end Countersign.Keystore
