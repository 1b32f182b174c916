import Mathlib

/-!
# Runs of a partial step function

`step s e` is the state after event `e`, or `none` when the event is not
enabled. `runs step s es` follows a list of events. The rules below lift what
one step preserves to what a run preserves.
-/

namespace Runs

variable {σ ε : Type*}

/-- The state after the events `es`, when each of them is enabled in turn. -/
def runs (step : σ → ε → Option σ) : σ → List ε → Option σ
  | s, [] => some s
  | s, e :: es => (step s e).bind fun s' => runs step s' es

variable {step : σ → ε → Option σ}

@[simp] theorem runs_nil (s : σ) : runs step s [] = some s := rfl

theorem runs_cons {s t : σ} {e : ε} {es : List ε} :
    runs step s (e :: es) = some t ↔ ∃ s', step s e = some s' ∧ runs step s' es = some t := by
  simp [runs, Option.bind_eq_some_iff]

theorem runs_append {s t : σ} {es fs : List ε} :
    runs step s (es ++ fs) = some t ↔
      ∃ s', runs step s es = some s' ∧ runs step s' fs = some t := by
  induction es generalizing s with
  | nil => simp
  | cons e es ih =>
    simp only [List.cons_append, runs_cons, ih]
    constructor
    · rintro ⟨s1, h1, s2, h2, h3⟩
      exact ⟨s2, ⟨s1, h1, h2⟩, h3⟩
    · rintro ⟨s2, ⟨s1, h1, h2⟩, h3⟩
      exact ⟨s1, h1, s2, h2, h3⟩

theorem runs_snoc {s t : σ} {es : List ε} {e : ε} :
    runs step s (es ++ [e]) = some t ↔ ∃ s', runs step s es = some s' ∧ step s' e = some t := by
  simp [runs_append, runs_cons]

/-- **The invariant rule.** -/
theorem runs_invariant {I : σ → Prop}
    (hstep : ∀ s e s', step s e = some s' → I s → I s') {s t : σ} {es : List ε}
    (hrun : runs step s es = some t) (hs : I s) : I t := by
  induction es generalizing s with
  | nil => cases hrun; exact hs
  | cons e es ih =>
    obtain ⟨s1, h1, h2⟩ := runs_cons.mp hrun
    exact ih h2 (hstep _ _ _ h1 hs)

/-- The invariant rule for events that satisfy `P`. -/
theorem runs_invariant_of {P : ε → Prop} {I : σ → Prop}
    (hstep : ∀ s e s', P e → step s e = some s' → I s → I s') {s t : σ} {es : List ε}
    (hes : ∀ e ∈ es, P e) (hrun : runs step s es = some t) (hs : I s) : I t := by
  induction es generalizing s with
  | nil => cases hrun; exact hs
  | cons e es ih =>
    obtain ⟨s1, h1, h2⟩ := runs_cons.mp hrun
    exact ih (fun f hf => hes f (List.mem_cons_of_mem _ hf)) h2
      (hstep _ _ _ (hes e List.mem_cons_self) h1 hs)

/-! ## The states on the way -/

/-- Following the events leads through the state. -/
def Visits (step : σ → ε → Option σ) (s : σ) (es : List ε) (t : σ) : Prop :=
  ∃ fs, fs <+: es ∧ runs step s fs = some t

/-- Following the events takes the step from `t` to `t'` by `e`. -/
def Takes (step : σ → ε → Option σ) (s : σ) (es : List ε) (t : σ) (e : ε) (t' : σ) : Prop :=
  ∃ fs, fs ++ [e] <+: es ∧ runs step s fs = some t ∧ step t e = some t'

theorem Takes.source {s t t' : σ} {es : List ε} {e : ε} (h : Takes step s es t e t') :
    Visits step s es t := by
  obtain ⟨fs, hfs, hrun, -⟩ := h
  exact ⟨fs, (List.prefix_append fs [e]).trans hfs, hrun⟩

theorem Takes.target {s t t' : σ} {es : List ε} {e : ε} (h : Takes step s es t e t') :
    Visits step s es t' := by
  obtain ⟨fs, hfs, hrun, hstep⟩ := h
  exact ⟨fs ++ [e], hfs, runs_snoc.mpr ⟨t, hrun, hstep⟩⟩

/-- The last step of a run is taken. -/
theorem takes_last {s t t' : σ} {es : List ε} {e : ε} (hrun : runs step s es = some t)
    (hstep : step t e = some t') : Takes step s (es ++ [e]) t e t' :=
  ⟨es, List.prefix_rfl, hrun, hstep⟩

theorem Takes.snoc {s t t' : σ} {es : List ε} {e : ε} (h : Takes step s es t e t') (f : ε) :
    Takes step s (es ++ [f]) t e t' := by
  obtain ⟨fs, hfs, hrest⟩ := h
  exact ⟨fs, hfs.trans (List.prefix_append es [f]), hrest⟩

/-- The invariant rule for the steps that are taken. -/
theorem visits_invariant {I : σ → Prop} {s : σ} {es : List ε}
    (hstep : ∀ t e t', Takes step s es t e t' → I t → I t') (hs : I s) {t : σ}
    (ht : Visits step s es t) : I t := by
  obtain ⟨fs, hfs, hrun⟩ := ht
  induction fs using List.reverseRecOn generalizing t with
  | nil => cases hrun; exact hs
  | append_singleton fs e ih =>
    obtain ⟨t0, hrun0, ht⟩ := runs_snoc.mp hrun
    exact hstep t0 e t ⟨fs, hfs, hrun0, ht⟩
      (ih ((List.prefix_append fs [e]).trans hfs) hrun0)

/-- What a run gathers, from each event and the state it meets. -/
def gather {α : Type*} (step : σ → ε → Option σ) (f : α → σ → ε → α) : α → σ → List ε → α
  | a, _, [] => a
  | a, s, e :: es => (step s e).elim a fun s' => gather step f (f a s e) s' es

theorem gather_snoc {α : Type*} {f : α → σ → ε → α} {a : α} {s t t' : σ} {es : List ε} {e : ε}
    (hrun : runs step s es = some t) (hstep : step t e = some t') :
    gather step f a s (es ++ [e]) = f (gather step f a s es) t e := by
  induction es generalizing a s with
  | nil =>
    cases hrun
    simp [gather, hstep]
  | cons e0 es ih =>
    obtain ⟨s1, h1, hrest⟩ := runs_cons.mp hrun
    simp only [List.cons_append, gather, h1, Option.elim_some]
    exact ih hrest

/-- The history rule for the steps that are taken: what holds of the events so far and
the state they lead to. -/
theorem takes_history {J : List ε → σ → Prop} {s : σ} {es : List ε}
    (hstep : ∀ fs t e t', fs ++ [e] <+: es → runs step s fs = some t → step t e = some t' →
      J fs t → J (fs ++ [e]) t') (hs : J [] s) {t : σ} (hrun : runs step s es = some t) :
    J es t := by
  have hall : ∀ fs t, fs <+: es → runs step s fs = some t → J fs t := by
    intro fs
    induction fs using List.reverseRecOn with
    | nil =>
      rintro t - hrun
      cases hrun
      exact hs
    | append_singleton fs e ih =>
      intro t hfs hrun
      obtain ⟨t0, hrun0, ht⟩ := runs_snoc.mp hrun
      exact hstep fs t0 e t hfs hrun0 ht (ih t0 ((List.prefix_append fs [e]).trans hfs) hrun0)
  exact hall es t List.prefix_rfl hrun

/-- A check of all states on the way. -/
def visitsAll (step : σ → ε → Option σ) (p : σ → Bool) : σ → List ε → Bool
  | s, [] => p s
  | s, e :: es => p s && (step s e).all fun s' => visitsAll step p s' es

theorem of_visitsAll {p : σ → Bool} {s : σ} {es : List ε} (h : visitsAll step p s es = true)
    {t : σ} (ht : Visits step s es t) : p t = true := by
  obtain ⟨fs, hfs, hrun⟩ := ht
  induction es generalizing s fs with
  | nil =>
    rw [List.prefix_nil.mp hfs] at hrun
    cases hrun
    exact h
  | cons e es ih =>
    simp only [visitsAll, Bool.and_eq_true] at h
    cases fs with
    | nil =>
      cases hrun
      exact h.1
    | cons f fs =>
      obtain ⟨rfl, hrest⟩ := List.cons_prefix_cons.mp hfs
      obtain ⟨s', hs', hrun⟩ := runs_cons.mp hrun
      rw [hs'] at h
      exact ih h.2 fs hrest hrun

end Runs
