import ZakuraGrpc.Lib.Runs

/-!
# Runs within a budget

Amortised accounting for partial step functions. Where an event that spends takes
something off the budget and one that grants adds at most `most`, a run spends no more
often than it starts with and is granted (`runs_countP_le`). Where each answer either
settles the system or takes something off the budget, as many answers as the budget
settle it (`runs_settles`).
-/

namespace Runs

variable {σ ε α : Type*} {step : σ → ε → Option σ} (budget : σ → Nat)

theorem runs_countP_le (spends grants : ε → Bool) (most : Nat)
    (hstep : ∀ s e s', step s e = some s' →
      budget s' + (if spends e then 1 else 0) ≤ budget s + if grants e then most else 0) {s t : σ}
    {es : List ε} (hrun : runs step s es = some t) :
    budget t + es.countP spends ≤ budget s + most * es.countP grants := by
  induction es generalizing s with
  | nil =>
    cases hrun
    exact Nat.le_refl _
  | cons e es ih =>
    obtain ⟨s1, h1, h2⟩ := runs_cons.mp hrun
    have hfirst := hstep s e s1 h1
    have hrest := ih h2
    rw [List.countP_cons, List.countP_cons, Nat.mul_add]
    have hgrant : most * (if grants e then 1 else 0) = if grants e then most else 0 := by
      split <;> simp
    rw [hgrant]
    omega

/-- The answer `a` settles the system in the step from `t` to `t'`. -/
theorem runs_settles (feed : α → ε) {I : σ → Prop} (settled : σ → α → σ → Prop)
    (hpos : ∀ s, I s → 0 < budget s)
    (hstep : ∀ s a, I s → ∃ s', step s (feed a) = some s' ∧
      (settled s a s' ∨ I s' ∧ budget s' < budget s)) {s : σ} (hs : I s) {answers : List α}
    (henough : budget s ≤ answers.length) :
    ∃ before a after t t', answers = before ++ a :: after ∧
      runs step s (before.map feed) = some t ∧ I t ∧ step t (feed a) = some t' ∧
      settled t a t' := by
  induction answers generalizing s with
  | nil =>
    have hbudget := hpos s hs
    rw [List.length_nil] at henough
    omega
  | cons a answers ih =>
    obtain ⟨s', hs', hsettled | ⟨hI, hless⟩⟩ := hstep s a hs
    · exact ⟨[], a, answers, s, s', rfl, rfl, hs, hs', hsettled⟩
    · rw [List.length_cons] at henough
      obtain ⟨before, b, after, t, t', rfl, hrun, ht, hlast, hdone⟩ := ih hI (by omega)
      exact ⟨a :: before, b, after, t, t', rfl, runs_cons.mpr ⟨s', hs', hrun⟩, ht, hlast, hdone⟩

end Runs
