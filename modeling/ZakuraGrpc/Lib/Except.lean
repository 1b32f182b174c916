import Mathlib

/-!
# Computations that succeed or fail

Inversion rules for `Except`: a sequence that succeeds succeeds at each step,
and a `mapM` that succeeds does so at each element. `FailsIn P x` says what the
errors of `x` are; a sequence fails with the errors of its parts.
-/

namespace Except

variable {ε : Type*} {α β : Type}

theorem bind_eq_ok {x : Except ε α} {f : α → Except ε β} {b : β} :
    (x >>= f) = .ok b ↔ ∃ a, x = .ok a ∧ f a = .ok b := by
  cases x with
  | error e => simp [bind, Except.bind]
  | ok a => simp [bind, Except.bind]

theorem pure_eq_ok {a b : α} : (pure a : Except ε α) = .ok b ↔ a = b := by
  simp [pure, Except.pure]

theorem map_eq_ok {x : Except ε α} {f : α → β} {b : β} :
    x.map f = .ok b ↔ ∃ a, x = .ok a ∧ f a = b := by
  cases x with
  | error e => simp [Except.map]
  | ok a => simp [Except.map]

/-- A computation that is checked to succeed has a result. -/
theorem exists_of_isOk {x : Except ε α} (h : x.isOk = true) : ∃ a, x = .ok a := by
  cases x with
  | error e => cases h
  | ok a => exact ⟨a, rfl⟩

/-- And one that is checked for its result has that result. -/
theorem exists_of_any {x : Except ε α} {p : α → Bool} (h : x.toOption.any p = true) :
    ∃ a, x = .ok a ∧ p a = true := by
  cases x with
  | error e => cases h
  | ok a => exact ⟨a, rfl, h⟩

/-- A sequence succeeds when its first step does and the rest behind it. -/
theorem exists_bind_ok {x : Except ε α} {f : α → Except ε β} {Q : Prop}
    (hf : ∀ a, x = .ok a → ((∃ b, f a = .ok b) ↔ Q)) :
    (∃ b, (x >>= f) = .ok b) ↔ (∃ a, x = .ok a) ∧ Q := by
  constructor
  · rintro ⟨b, hb⟩
    obtain ⟨a, ha, hrest⟩ := bind_eq_ok.mp hb
    exact ⟨⟨a, ha⟩, (hf a ha).mp ⟨b, hrest⟩⟩
  · rintro ⟨⟨a, ha⟩, hQ⟩
    obtain ⟨b, hb⟩ := (hf a ha).mpr hQ
    exact ⟨b, bind_eq_ok.mpr ⟨a, ha, hb⟩⟩

/-- A `mapM` succeeds when it does at each element. -/
theorem mapM_eq_ok {f : α → Except ε β} :
    ∀ {xs : List α} {ys : List β},
      xs.mapM f = .ok ys ↔ List.Forall₂ (fun x y => f x = .ok y) xs ys := by
  intro xs
  induction xs with
  | nil =>
    intro ys
    rw [List.mapM_nil, pure_eq_ok, List.forall₂_nil_left_iff, eq_comm]
  | cons x xs ih =>
    intro ys
    simp only [List.mapM_cons, bind_eq_ok, pure_eq_ok]
    constructor
    · rintro ⟨y, hy, rest, hrest, rfl⟩
      exact .cons hy (ih.mp hrest)
    · rintro (_ | ⟨hy, hrest⟩)
      exact ⟨_, hy, _, ih.mpr hrest, rfl⟩

/-- Every result of a `mapM` is the result of one of the elements. -/
theorem mapM_mem {f : α → Except ε β} {xs : List α} {ys : List β} (h : xs.mapM f = .ok ys) :
    ∀ y ∈ ys, ∃ x ∈ xs, f x = .ok y := by
  have hall := mapM_eq_ok.mp h
  clear h
  induction hall with
  | nil =>
    intro y hy
    cases hy
  | cons hfirst _ ih =>
    intro y hy
    rcases List.mem_cons.mp hy with rfl | hy
    · exact ⟨_, List.mem_cons_self, hfirst⟩
    · obtain ⟨x, hx, hok⟩ := ih y hy
      exact ⟨x, List.mem_cons_of_mem _ hx, hok⟩

/-- A `mapM` that succeeds fixes the one of a function that agrees up to `k`. -/
theorem mapM_ok_map {γ : Type} {f : α → Except ε β} {g : α → Except ε γ} {k : β → γ}
    (h : ∀ x y, f x = .ok y → g x = .ok (k y)) {xs : List α} {ys : List β}
    (hf : xs.mapM f = .ok ys) : xs.mapM g = .ok (ys.map k) := by
  have hall := (mapM_eq_ok.mp hf).imp h
  exact mapM_eq_ok.mpr (List.forall₂_map_right_iff.mpr hall)

/-! ## Errors -/

/-- The error of the computation, if it fails, satisfies `P`. -/
def FailsIn (P : ε → Prop) (x : Except ε α) : Prop := ∀ e, x = .error e → P e

variable {P : ε → Prop}

theorem failsIn_ok (a : α) : FailsIn P (.ok a : Except ε α) := by
  intro e h
  cases h

theorem failsIn_error {e : ε} (h : P e) : FailsIn P (.error e : Except ε α) := by
  intro e' heq
  cases heq
  exact h

theorem FailsIn.bind {x : Except ε α} {f : α → Except ε β} (hx : FailsIn P x)
    (hf : ∀ a, FailsIn P (f a)) : FailsIn P (x >>= f) := by
  cases x with
  | error e => exact failsIn_error (hx e rfl)
  | ok a => exact hf a

theorem FailsIn.map {x : Except ε α} (hx : FailsIn P x) (f : α → β) : FailsIn P (f <$> x) := by
  cases x with
  | error e => exact failsIn_error (hx e rfl)
  | ok a => exact failsIn_ok (f a)

end Except
