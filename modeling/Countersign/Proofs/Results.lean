import Countersign.Error
import Mathlib.Data.List.Forall2

/-!
# Taking results apart

A computation that may fail succeeds exactly when each of its steps does.  These rules peel the
steps off one by one, so that no proof opens the monad itself.
-/

namespace Countersign

variable {ε ε' α β : Type}

@[simp] theorem pure_eq_ok (a : α) : (pure a : Except ε α) = .ok a := rfl

@[simp] theorem throw_eq_error (e : ε) : (throw e : Except ε α) = .error e := rfl

@[simp] theorem ok_bind (a : α) (f : α → Except ε β) : (Except.ok a >>= f) = f a := rfl

@[simp] theorem error_bind (e : ε) (f : α → Except ε β) :
    ((Except.error e : Except ε α) >>= f) = .error e := rfl

@[simp] theorem map_ok (f : α → β) (a : α) : f <$> (Except.ok a : Except ε α) = .ok (f a) := rfl

@[simp] theorem map_error (f : α → β) (e : ε) :
    f <$> (Except.error e : Except ε α) = .error e := rfl

@[simp] theorem mapError_ok (f : ε → ε') (a : α) :
    (Except.ok a : Except ε α).mapError f = .ok a := rfl

@[simp] theorem mapError_error (f : ε → ε') (e : ε) :
    (Except.error e : Except ε α).mapError f = .error (f e) := rfl

theorem bind_eq_ok {x : Except ε α} {f : α → Except ε β} {b : β} :
    (x >>= f) = .ok b ↔ ∃ a, x = .ok a ∧ f a = .ok b := by
  cases x with
  | error e => simp
  | ok a => simp

theorem map_eq_ok {f : α → β} {x : Except ε α} {b : β} :
    f <$> x = .ok b ↔ ∃ a, x = .ok a ∧ f a = b := by
  cases x with
  | error e => simp
  | ok a => simp

theorem bind_eq_error {x : Except ε α} {f : α → Except ε β} {e : ε} :
    (x >>= f) = .error e ↔ x = .error e ∨ ∃ a, x = .ok a ∧ f a = .error e := by
  cases x with
  | error raised => simp
  | ok a => simp

theorem mapError_eq_ok {f : ε → ε'} {x : Except ε α} {a : α} :
    x.mapError f = .ok a ↔ x = .ok a := by
  cases x with
  | error e => simp
  | ok b => simp

theorem mapM_eq_ok {f : α → Except ε β} {as : List α} {bs : List β} :
    as.mapM f = .ok bs ↔ List.Forall₂ (fun a b => f a = .ok b) as bs := by
  induction as generalizing bs with
  | nil => simp [eq_comm]
  | cons a as ih =>
      simp only [List.mapM_cons, bind_eq_ok, ih, pure_eq_ok, Except.ok.injEq,
        List.forall₂_cons_left_iff]
      constructor
      · rintro ⟨b, first, bs, rest, rfl⟩
        exact ⟨b, bs, first, rest, rfl⟩
      · rintro ⟨b, bs, first, rest, rfl⟩
        exact ⟨b, first, bs, rest, rfl⟩

theorem mapM_eq_error {f : α → Except ε β} {as : List α} {e : ε} :
    as.mapM f = .error e ↔ ∃ before a after, as = before ++ a :: after ∧
      (∀ b ∈ before, ∃ c, f b = .ok c) ∧ f a = .error e := by
  induction as with
  | nil => simp
  | cons a as ih =>
      simp only [List.mapM_cons, bind_eq_error, ih, pure_eq_ok, reduceCtorEq, and_false,
        exists_false, or_false]
      constructor
      · rintro (first | ⟨b, first, before, c, after, rfl, earlier, failed⟩)
        · exact ⟨[], a, as, rfl, by simp, first⟩
        · exact ⟨a :: before, c, after, rfl, List.forall_mem_cons.2 ⟨⟨b, first⟩, earlier⟩, failed⟩
      · rintro ⟨before, c, after, split, earlier, failed⟩
        cases before with
        | nil =>
            cases split
            exact .inl failed
        | cons b before =>
            cases split
            obtain ⟨first, earlier⟩ := List.forall_mem_cons.1 earlier
            obtain ⟨d, passed⟩ := first
            exact .inr ⟨d, passed, before, c, after, rfl, earlier, failed⟩

/-! ## How computations fail -/

/-- Every error of the computation is of this kind. -/
def FailsOnly (p : ε → Prop) (x : Except ε α) : Prop := ∀ e, x = .error e → p e

variable {p : ε → Prop}

theorem failsOnly_ok (a : α) : FailsOnly p (.ok a : Except ε α) := by
  intro e failed
  cases failed

theorem failsOnly_error {e : ε} : FailsOnly p (.error e : Except ε α) ↔ p e := by
  simp [FailsOnly]

theorem FailsOnly.bind {x : Except ε α} {f : α → Except ε β} (first : FailsOnly p x)
    (next : ∀ a, x = .ok a → FailsOnly p (f a)) : FailsOnly p (x >>= f) := by
  intro e failed
  rcases bind_eq_error.1 failed with failed | ⟨a, passed, failed⟩
  · exact first e failed
  · exact next a passed e failed

theorem FailsOnly.mono {q : ε → Prop} {x : Except ε α} (fails : FailsOnly p x)
    (implies : ∀ e, p e → q e) : FailsOnly q x :=
  fun e failed => implies e (fails e failed)

theorem failsOnly_map {f : α → β} {x : Except ε α} : FailsOnly p (f <$> x) ↔ FailsOnly p x := by
  cases x <;> simp [FailsOnly]

theorem failsOnly_mapError {p : ε' → Prop} {f : ε → ε'} (every : ∀ e, p (f e)) (x : Except ε α) :
    FailsOnly p (x.mapError f) := by
  intro e failed
  cases x with
  | error cause =>
      cases failed
      exact every cause
  | ok a => cases failed

theorem decodeText_eq_ok {text : String} {b : Bytes} :
    decodeText text = .ok b ↔ Base64Url.decode text = .ok b :=
  mapError_eq_ok

end Countersign
