import Countersign.Proofs.Keystore.Changes
import Countersign.Site

/-!
# What happens to one keystore of a site

An event changes the keys of the keystore that it is a command to, and of no other.
-/

namespace Countersign.Site

/-- The change that an event makes to the keys of this keystore. -/
def change (site : Site) (suite : Crypto.Suite) (which : Nat) : Event → Keystore.Change
  | .stores _ => .keep
  | .keystore acting c =>
      if which = acting then (site.keystores which).change suite site.stores c else .keep

theorem perform_keystore (site : Site) (suite : Crypto.Suite) (event : Event) (which : Nat) :
    (site.perform suite event).keystores which =
      { site.keystores which with
        keys := (site.change suite which event).apply (site.keystores which).keys } := by
  cases event with
  | stores c => rfl
  | keystore acting c =>
      by_cases same : which = acting
      · subst same
        simp [perform, change, Keystore.perform_fst]
      · simp [perform, change, same, Keystore.Change.apply]

theorem Throughout.mono {suite : Crypto.Suite} {p q : Site → Event → Prop}
    (implies : ∀ site event, p site event → q site event) {site : Site} {history : List Event}
    (every : Throughout suite p site history) : Throughout suite q site history := by
  induction history generalizing site with
  | nil => trivial
  | cons event history ih => exact ⟨implies site event every.1, ih every.2⟩

theorem Throughout.kept_every {suite : Crypto.Suite} {which : Nat} {kid : String} {P : Key → Prop}
    {site : Site} {history : List Event}
    (upholds : Throughout suite
      (fun site event => (site.change suite which event).Upholds kid P) site history)
    (start : ∀ k ∈ (site.keystores which).keys, k.kid = kid → P k) :
    ∀ k ∈ ((site.performAll suite history).keystores which).keys, k.kid = kid → P k := by
  refine upholds.kept (fun site => ∀ k ∈ (site.keystores which).keys, k.kid = kid → P k) ?_ start
  intro site event every upholds
  rw [perform_keystore]
  exact Keystore.Change.apply_every upholds every

end Countersign.Site
