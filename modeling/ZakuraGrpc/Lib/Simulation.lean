import ZakuraGrpc.Lib.Runs

/-!
# Simulations

A forward simulation matches each step of one system by a run of another
(`runs_simulate`), under a condition on the events and an invariant of the first
system, and keeps a relation to the events so far. `runs_filter` drops the events
that change nothing, and `runs_history` is the rule for what a state owes to the
events behind it.
-/

namespace Runs

variable {σ ε τ φ : Type*} {step : σ → ε → Option σ} {step' : τ → φ → Option τ}

/-- Each step of a run from `s` by an event in `P`, out of a state in `I`, is matched
by a run. The relation may speak of the events so far. -/
def Simulates (step : σ → ε → Option σ) (step' : τ → φ → Option τ) (s : σ) (P : ε → Prop)
    (I : σ → Prop) (R : List ε → σ → τ → Prop) : Prop :=
  ∀ es s1 e s2 t, P e → I s1 → runs step s es = some s1 → step s1 e = some s2 → R es s1 t →
    ∃ fs t', runs step' t fs = some t' ∧ R (es ++ [e]) s2 t'

/-- **The simulation rule.** -/
theorem runs_simulate {P : ε → Prop} {I : σ → Prop} {R : List ε → σ → τ → Prop} {s s' : σ}
    {t : τ} (hsim : Simulates step step' s P I R)
    (hinv : ∀ s e s', step s e = some s' → I s → I s') {es : List ε} (hes : ∀ e ∈ es, P e)
    (hrun : runs step s es = some s') (hs : I s) (hrel : R [] s t) :
    ∃ fs t', runs step' t fs = some t' ∧ R es s' t' := by
  induction es using List.reverseRecOn generalizing s' with
  | nil =>
    cases hrun
    exact ⟨[], t, rfl, hrel⟩
  | append_singleton es e ih =>
    obtain ⟨s1, h1, h2⟩ := runs_snoc.mp hrun
    obtain ⟨fs, t1, hfs, hrel1⟩ := ih (fun f hf => hes f (List.mem_append_left _ hf)) h1
    have he : P e := hes e (List.mem_append_right es List.mem_cons_self)
    obtain ⟨gs, t', hgs, hrel'⟩ :=
      hsim es s1 e s' t1 he (runs_invariant hinv h1 hs) h1 h2 hrel1
    exact ⟨fs ++ gs, t', runs_append.mpr ⟨t1, hfs, hgs⟩, hrel'⟩

/-- **Events without effect.** A run reaches the same state without them. -/
theorem runs_filter {p : ε → Bool}
    (hskip : ∀ s e s', p e = false → step s e = some s' → s' = s) {s s' : σ} {es : List ε}
    (hrun : runs step s es = some s') : runs step s (es.filter p) = some s' := by
  induction es generalizing s with
  | nil => exact hrun
  | cons e es ih =>
    obtain ⟨s1, h1, hrest⟩ := runs_cons.mp hrun
    cases hp : p e with
    | true =>
      rw [List.filter_cons_of_pos hp]
      exact runs_cons.mpr ⟨s1, h1, ih hrest⟩
    | false =>
      rw [List.filter_cons_of_neg (by rw [hp]; exact Bool.false_ne_true)]
      have hsame : s1 = s := hskip s e s1 hp h1
      rw [hsame] at hrest
      exact ih hrest

/-- **The history rule.** What holds of the events so far and the state they lead
to, for every run. -/
theorem runs_history {J : List ε → σ → Prop}
    (hstep : ∀ es s e s', step s e = some s' → J es s → J (es ++ [e]) s') {s t : σ} {es : List ε}
    (hrun : runs step s es = some t) (hs : J [] s) : J es t :=
  takes_history (fun fs t e t' _ _ ht h => hstep fs t e t' ht h) hs hrun

end Runs
