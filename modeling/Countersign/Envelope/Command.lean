import Countersign.Envelope.Wire

/-!
# Commands to an envelope

A history of changes is a list of commands, and a command that fails changes nothing.  A layer that
is pushed was prepared before, on this envelope or on another.
-/

namespace Countersign.Envelope

abbrev Prepared := { p : PendingLayer // ∃ e header coverage, prepare e header coverage = .ok p }

inductive Command where
  | append (header : Header) (signature : Bytes)
  | prepare (header : Header) (coverage : Coverage)
  | push (pending : Prepared) (signature : Bytes)
  | replacePayload (payload : Bytes)

inductive Reply where
  | done
  | index (position : Nat)
  | pending (layer : PendingLayer)
  deriving DecidableEq, Repr

def perform (e : Envelope) : Command → Envelope × Result Reply
  | .append header signature => keepOnError e ((·.map id .index) <$> e.append header signature)
  | .prepare header coverage => (e, .pending <$> e.prepare header coverage)
  | .push pending signature => keepOnError e ((·.map id .index) <$> e.push pending.val signature)
  | .replacePayload payload => keepOnError e ((·, .done) <$> e.replacePayload payload)

def performAll (e : Envelope) (history : List Command) : Envelope :=
  history.foldl (fun e c => (e.perform c).1) e

/-- The envelopes that can come to be: fresh or read from a text, and whatever was done to them. -/
inductive Reachable : Envelope → Prop where
  | new (payload : Bytes) : Reachable (new payload)
  | parsed {text : String} {e : Envelope} : parse text = .ok e → Reachable e
  | performed {e : Envelope} (c : Command) : Reachable e → Reachable (e.perform c).1

end Countersign.Envelope
