/-!
# Computations

Laws by which a computation that may fail, has a state or both is taken apart step by step.
-/

namespace SelfUpdate

variable {σ ε α β : Type}

@[simp] theorem ok_bind (a : α) (next : α → Except ε β) : (Except.ok a >>= next) = next a := rfl

@[simp] theorem error_bind (error : ε) (next : α → Except ε β) :
    (Except.error error >>= next) = .error error := rfl

@[simp] theorem throw_eq_error (error : ε) : (throw error : Except ε α) = .error error := rfl

@[simp] theorem pure_eq_ok (a : α) : (pure a : Except ε α) = .ok a := rfl

@[simp] theorem map_ok (f : α → β) (a : α) : (Except.ok a : Except ε α).map f = .ok (f a) := rfl

@[simp] theorem map_error (f : α → β) (error : ε) :
    (Except.error error : Except ε α).map f = .error error := rfl

@[simp] theorem mapError_ok {δ : Type} (wrap : ε → δ) (a : α) :
    (Except.ok a : Except ε α).mapError wrap = .ok a := rfl

@[simp] theorem mapError_error {δ : Type} (wrap : ε → δ) (error : ε) :
    (Except.error error : Except ε α).mapError wrap = .error (wrap error) := rfl

theorem bind_eq_ok_iff {first : Except ε α} {next : α → Except ε β} {b : β} :
    (first >>= next) = .ok b ↔ ∃ a, first = .ok a ∧ next a = .ok b := by
  cases first with
  | error error => simp
  | ok a => simp

theorem map_eq_ok_iff {f : α → β} {result : Except ε α} {b : β} :
    result.map f = .ok b ↔ ∃ a, result = .ok a ∧ f a = b := by
  cases result <;> simp

theorem mapError_eq_ok_iff {δ : Type} {wrap : ε → δ} {result : Except ε α} {a : α} :
    result.mapError wrap = .ok a ↔ result = .ok a := by
  cases result <;> simp

/-! ## With a state -/

namespace Stateful

variable (state : σ)

@[simp] theorem bind_run (first : StateM σ α) (next : α → StateM σ β) :
    (first >>= next) state = next (first state).1 (first state).2 := (rfl)

@[simp] theorem map_run (f : α → β) (first : StateM σ α) :
    (f <$> first) state = (f (first state).1, (first state).2) := (rfl)

@[simp] theorem pure_run (a : α) : (pure a : StateM σ α) state = (a, state) := (rfl)

@[simp] theorem get_run : (get : StateM σ σ) state = (state, state) := (rfl)

@[simp] theorem set_run (after : σ) : (set after : StateM σ PUnit) state = ((), after) := (rfl)

@[simp] theorem modify_run (change : σ → σ) :
    (modify change : StateM σ PUnit) state = ((), change state) := (rfl)

@[simp] theorem ite_run (condition : Prop) [Decidable condition] (yes no : StateM σ α) :
    (if condition then yes else no) state = if condition then yes state else no state := by
  split <;> rfl

end Stateful

/-! ## With a state that outlives failures -/

namespace Failing

variable (state : σ)

/-- What follows is done after a success only. -/
@[simp] theorem bind_run (first : ExceptT ε (StateM σ) α) (next : α → ExceptT ε (StateM σ) β) :
    (first >>= next) state =
      match (first state).1 with
      | .ok a => next a (first state).2
      | .error error => (.error error, (first state).2) := by
  change (match first state with | (result, after) => ExceptT.bindCont next result after) = _
  rcases first state with ⟨_ | _, after⟩ <;> rfl

@[simp] theorem map_run (f : α → β) (first : ExceptT ε (StateM σ) α) :
    (f <$> first) state = ((first state).1.map f, (first state).2) := by
  rw [map_eq_pure_bind, bind_run]
  cases (first state).1 <;> rfl

@[simp] theorem pure_run (a : α) : (pure a : ExceptT ε (StateM σ) α) state = (.ok a, state) :=
  (rfl)

@[simp] theorem get_run : (get : ExceptT ε (StateM σ) σ) state = (.ok state, state) := (rfl)

@[simp] theorem set_run (after : σ) :
    (set after : ExceptT ε (StateM σ) PUnit) state = (.ok (), after) := (rfl)

@[simp] theorem throw_run (error : ε) :
    (throw error : ExceptT ε (StateM σ) α) state = (.error error, state) := (rfl)

@[simp] theorem lift_run (first : StateM σ α) :
    (liftM first : ExceptT ε (StateM σ) α) state = (.ok (first state).1, (first state).2) := (rfl)

@[simp] theorem ite_run (condition : Prop) [Decidable condition]
    (yes no : ExceptT ε (StateM σ) α) :
    (if condition then yes else no) state = if condition then yes state else no state := by
  split <;> rfl

end Failing

end SelfUpdate
