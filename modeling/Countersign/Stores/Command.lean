import Countersign.Stores

/-!
# Commands to the stores

A history of uses is a list of commands, and a command that fails changes nothing.
-/

namespace Countersign.Stores

inductive Command where
  | create (store : String) (init : Json)
  | delete (store : String)
  | get (store key : String)
  | set (store key : String) (value : Json)
  | keys (store : String)
  | dropKey (store key : String)
  deriving Repr

inductive Reply where
  | done
  | whether (yes : Bool)
  | value (found : Option Json)
  | keys (names : List String)
  deriving Repr

def perform (s : Stores) : Command → Stores × Result Reply
  | .create store init => keepOnError s ((·.map id .whether) <$> s.create store init)
  | .delete store => let (s, was) := s.delete store; (s, .ok (.whether was))
  | .get store key => (s, .value <$> s.get store key)
  | .set store key value => keepOnError s ((·, .done) <$> s.set store key value)
  | .keys store => (s, .keys <$> s.keys store)
  | .dropKey store key => keepOnError s ((·.map id .whether) <$> s.dropKey store key)

def performAll (s : Stores) (history : List Command) : Stores :=
  history.foldl (fun s c => (s.perform c).1) s

end Countersign.Stores
