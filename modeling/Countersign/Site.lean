import Countersign.Keystore.Command
import Countersign.Stores.Command

/-!
# Sites

Several keystores share one set of stores.  An event is a command to one of the keystores, or to the
stores behind their back.
-/

namespace Countersign

structure Site where
  stores : Stores
  keystores : Nat → Keystore

namespace Site

inductive Event where
  | stores (c : Stores.Command)
  | keystore (which : Nat) (c : Keystore.Command)
  deriving Repr

def perform (site : Site) (suite : Crypto.Suite) : Event → Site
  | .stores c => { site with stores := (site.stores.perform c).1 }
  | .keystore which c =>
      let (s, stores, _) := (site.keystores which).perform suite site.stores c
      ⟨stores, fun other => if other = which then s else site.keystores other⟩

def performAll (site : Site) (suite : Crypto.Suite) (history : List Event) : Site :=
  history.foldl (fun site event => site.perform suite event) site

@[simp] theorem performAll_nil (site : Site) (suite : Crypto.Suite) :
    site.performAll suite [] = site := rfl

@[simp] theorem performAll_cons (site : Site) (suite : Crypto.Suite) (event : Event)
    (history : List Event) :
    site.performAll suite (event :: history) = (site.perform suite event).performAll suite history :=
  rfl

/-- Every event of the history is as `p` says, at the site that it finds. -/
def Throughout (suite : Crypto.Suite) (p : Site → Event → Prop) : Site → List Event → Prop
  | _, [] => True
  | site, event :: history => p site event ∧ Throughout suite p (site.perform suite event) history

theorem Throughout.kept {suite : Crypto.Suite} {p : Site → Event → Prop} (kept : Site → Prop)
    (step : ∀ site event, kept site → p site event → kept (site.perform suite event))
    {site : Site} {history : List Event} (start : kept site)
    (every : Throughout suite p site history) : kept (site.performAll suite history) := by
  induction history generalizing site with
  | nil => exact start
  | cons event history ih => exact ih (step site event start every.1) every.2

end Site

end Countersign
