import Mathlib.Data.List.Forall2

/-!
# Sequence — attempts one after another

An attempt has a result or fails with an error. What comes after a failed one is not tried.

* `Attempt.bind_eq_ok_iff` and `Attempt.bind_eq_error_iff`: how two attempts in a row end;
* `Attempt.mapM_eq_ok_iff`: going through a list gives the results of its elements one by one;
* `Attempt.mapM_eq_error_iff`: it fails as the first element does that fails, and
  `Attempt.exists_mapM_iff`: it succeeds exactly when each element does;
* `Attempt.failure?` is the error of an attempt, if it fails.
-/

namespace Readiness

namespace Attempt

variable {α β ε : Type} {a : Except ε α} {f : α → Except ε β} {x : α} {y : β} {xs : List α}
  {ys : List β} {error : ε}

theorem toOption_eq_some_iff : a.toOption = some x ↔ a = .ok x := by
  cases a <;> simp [Except.toOption]

theorem bind_eq_ok_iff : (a >>= f) = .ok y ↔ ∃ x, a = .ok x ∧ f x = .ok y := by
  cases a <;> simp [bind, Except.bind]

theorem bind_eq_error_iff :
    (a >>= f) = .error error ↔ a = .error error ∨ ∃ x, a = .ok x ∧ f x = .error error := by
  cases a <;> simp [bind, Except.bind]

theorem map_eq_ok_iff {g : α → β} : a.map g = .ok y ↔ ∃ x, a = .ok x ∧ g x = y := by
  cases a <;> simp [Except.map]

theorem pure_eq_ok_iff {y' : β} : (pure y : Except ε β) = .ok y' ↔ y = y' := by
  simp [pure, Except.pure]

theorem pure_ne_error : (pure y : Except ε β) ≠ .error error := by
  simp [pure, Except.pure]

theorem exists_of_forall₂ {R : α → β → Prop} (h : List.Forall₂ R xs ys) (mem : x ∈ xs) :
    ∃ y ∈ ys, R x y := by
  induction h with
  | nil => cases mem
  | @cons x y xs ys related rest ih =>
      rcases List.mem_cons.1 mem with rfl | later
      · exact ⟨y, List.mem_cons_self, related⟩
      · rcases ih later with ⟨other, found, hother⟩
        exact ⟨other, List.mem_cons_of_mem y found, hother⟩

/-- What is related to a list that is split is split alike. -/
theorem exists_split_of_forall₂ {R : α → β → Prop} {front back : List α}
    (h : List.Forall₂ R (front ++ x :: back) ys) :
    ∃ front' y back', ys = front' ++ y :: back' ∧ List.Forall₂ R front front' ∧ R x y ∧
      List.Forall₂ R back back' := by
  induction front generalizing ys with
  | nil =>
      rcases List.forall₂_cons_left_iff.1 h with ⟨y, back', related, rest, rfl⟩
      exact ⟨[], y, back', rfl, .nil, related, rest⟩
  | cons first front ih =>
      rcases List.forall₂_cons_left_iff.1 h with ⟨y', ys', related, rest, rfl⟩
      rcases ih rest with ⟨front', y, back', rfl, hfront, here, hback⟩
      exact ⟨y' :: front', y, back', rfl, .cons related hfront, here, hback⟩

/-- Going through a list succeeds when it succeeds at each element. -/
theorem mapM_eq_ok_iff : xs.mapM f = .ok ys ↔ List.Forall₂ (fun x y => f x = .ok y) xs ys := by
  induction xs generalizing ys with
  | nil => rw [List.mapM_nil, pure_eq_ok_iff, List.forall₂_nil_left_iff, eq_comm]
  | cons x rest ih =>
      simp only [List.mapM_cons, bind_eq_ok_iff, pure_eq_ok_iff, ih, List.forall₂_cons_left_iff]
      constructor
      · rintro ⟨y, hfirst, further, hrest, rfl⟩
        exact ⟨y, further, hfirst, hrest, rfl⟩
      · rintro ⟨y, further, hfirst, hrest, rfl⟩
        exact ⟨y, hfirst, further, hrest, rfl⟩

/-- What fails is the first element that does, and nothing behind it matters. -/
theorem mapM_eq_error_iff : xs.mapM f = .error error ↔
    ∃ front x back, xs = front ++ x :: back ∧ (∀ earlier ∈ front, ∃ y, f earlier = .ok y) ∧
      f x = .error error := by
  constructor
  · intro fails
    induction xs with
    | nil => exact absurd fails pure_ne_error
    | cons first rest ih =>
        rw [List.mapM_cons, bind_eq_error_iff] at fails
        rcases fails with hfirst | ⟨y, hfirst, later⟩
        · exact ⟨[], first, rest, rfl, by simp, hfirst⟩
        · rcases bind_eq_error_iff.1 later with hrest | ⟨further, -, done⟩
          · rcases ih hrest with ⟨front, x, back, rfl, sound, hx⟩
            exact ⟨first :: front, x, back, rfl, List.forall_mem_cons.2 ⟨⟨y, hfirst⟩, sound⟩, hx⟩
          · exact absurd done pure_ne_error
  · rintro ⟨front, x, back, rfl, sound, hx⟩
    induction front with
    | nil =>
        rw [List.nil_append, List.mapM_cons, bind_eq_error_iff]
        exact .inl hx
    | cons first front ih =>
        rcases List.forall_mem_cons.1 sound with ⟨⟨y, hfirst⟩, hfront⟩
        rw [List.cons_append, List.mapM_cons, bind_eq_error_iff]
        exact .inr ⟨y, hfirst, bind_eq_error_iff.2 (.inl (ih hfront))⟩

theorem exists_mem_of_mapM (h : xs.mapM f = .error error) : ∃ x ∈ xs, f x = .error error := by
  rcases mapM_eq_error_iff.1 h with ⟨front, x, back, rfl, -, fails⟩
  exact ⟨x, by simp, fails⟩

theorem exists_mapM_iff : (∃ ys, xs.mapM f = .ok ys) ↔ ∀ x ∈ xs, ∃ y, f x = .ok y := by
  constructor
  · rintro ⟨ys, all⟩ x mem
    rcases exists_of_forall₂ (mapM_eq_ok_iff.1 all) mem with ⟨y, -, hy⟩
    exact ⟨y, hy⟩
  · intro each
    cases h : xs.mapM f with
    | ok ys => exact ⟨ys, rfl⟩
    | error error =>
        rcases exists_mem_of_mapM h with ⟨x, mem, fails⟩
        rcases each x mem with ⟨y, succeeds⟩
        cases fails.symm.trans succeeds

/-! ## Failures -/

/-- The error of an attempt, if it fails. -/
def failure? : Except ε α → Option ε
  | .ok _ => none
  | .error error => some error

@[simp] theorem failure?_ok : failure? (.ok x : Except ε α) = none := rfl

@[simp] theorem failure?_error : failure? (.error error : Except ε α) = some error := rfl

@[simp] theorem failure?_map (g : α → β) : failure? (a.map g) = failure? a := by
  cases a <;> rfl

theorem failure?_eq_some_iff : failure? a = some error ↔ a = .error error := by
  cases a <;> simp

theorem failure?_eq_none_iff : failure? a = none ↔ ∃ x, a = .ok x := by
  cases a <;> simp

/-- When the second attempt fails alike whatever the first one gives, the earlier failure counts. -/
theorem failure?_bind {second : Option ε} (h : ∀ x, failure? (f x) = second) :
    failure? (a >>= f) = (failure? a).or second := by
  cases a with
  | ok x => simpa [bind, Except.bind] using h x
  | error error => rfl

end Attempt

end Readiness
