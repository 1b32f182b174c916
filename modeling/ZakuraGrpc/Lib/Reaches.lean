import ZakuraGrpc.Lib.Runs

/-!
# What can be reached

`Reaches step P s Q`: by events in `P` alone the system gets from `s` to a state in
`Q`. Such runs compose (`Reaches.first`, `Reaches.bind`), keep what every event in
`P` keeps (`Reaches.keeps`) and carry over to a larger system (`Reaches.lift`).
-/

namespace Runs

variable {σ ε τ φ : Type*} {step : σ → ε → Option σ} {step' : τ → φ → Option τ}
  {P : ε → Prop} {Q R : σ → Prop} {s t : σ} {e : ε}

def Reaches (step : σ → ε → Option σ) (P : ε → Prop) (s : σ) (Q : σ → Prop) : Prop :=
  ∃ es t, (∀ e ∈ es, P e) ∧ runs step s es = some t ∧ Q t

theorem reaches_here (h : Q s) : Reaches step P s Q :=
  ⟨[], s, fun _ hmem => absurd hmem List.not_mem_nil, rfl, h⟩

theorem Reaches.first (he : P e) (hstep : step s e = some t) (h : Reaches step P t Q) :
    Reaches step P s Q := by
  obtain ⟨es, t', hes, hrun, hQ⟩ := h
  exact ⟨e :: es, t', List.forall_mem_cons.mpr ⟨he, hes⟩, runs_cons.mpr ⟨t, hstep, hrun⟩, hQ⟩

theorem Reaches.bind (h : Reaches step P s Q) (k : ∀ t, Q t → Reaches step P t R) :
    Reaches step P s R := by
  obtain ⟨es, t, hes, hrun, hQ⟩ := h
  obtain ⟨es', t', hes', hrun', hR⟩ := k t hQ
  refine ⟨es ++ es', t', fun e hmem => ?_, runs_append.mpr ⟨t, hrun, hrun'⟩, hR⟩
  exact (List.mem_append.mp hmem).elim (hes e) (hes' e)

theorem Reaches.mono {P' : ε → Prop} (h : Reaches step P s Q) (hP : ∀ e, P e → P' e)
    (hQ : ∀ t, Q t → R t) : Reaches step P' s R := by
  obtain ⟨es, t, hes, hrun, h⟩ := h
  exact ⟨es, t, fun e hmem => hP e (hes e hmem), hrun, hQ t h⟩

/-- What the events keep still holds there. -/
theorem Reaches.keeps {I : σ → Prop}
    (hkeep : ∀ s e s', P e → step s e = some s' → I s → I s') (hs : I s)
    (h : Reaches step P s Q) : Reaches step P s fun t => I t ∧ Q t := by
  obtain ⟨es, t, hes, hrun, hQ⟩ := h
  exact ⟨es, t, hes, hrun, runs_invariant_of hkeep hes hrun hs, hQ⟩

/-- **Lifting.** Where each step towards a state in `I` is one of the larger system,
so is a run to a state in `I`; a step into `I` starts in `I`. -/
theorem Reaches.lift {P' : φ → Prop} {I : τ → Prop} {Q' : τ → Prop} {F : τ → σ}
    (hback : ∀ u f u', step' u f = some u' → I u' → I u)
    (hstep : ∀ u f u', P' f → step' u f = some u' → I u' →
      ∃ e, P e ∧ step (F u) e = some (F u')) {u : τ}
    (h : Reaches step' P' u fun u' => I u' ∧ Q' u') :
    Reaches step P (F u) fun t => ∃ u', t = F u' ∧ I u' ∧ Q' u' := by
  obtain ⟨fs, u', hfs, hrun, hI, hQ⟩ := h
  have hlifted : I u ∧ ∃ es, (∀ e ∈ es, P e) ∧ runs step (F u) es = some (F u') := by
    clear hQ
    induction fs generalizing u with
    | nil =>
      cases hrun
      exact ⟨hI, [], fun _ hmem => absurd hmem List.not_mem_nil, rfl⟩
    | cons f fs ih =>
      obtain ⟨u1, h1, hrest⟩ := runs_cons.mp hrun
      obtain ⟨hf, hfs⟩ := List.forall_mem_cons.mp hfs
      obtain ⟨hI1, es, hes, hes'⟩ := ih hfs hrest
      obtain ⟨e, he, hlift⟩ := hstep u f u1 hf h1 hI1
      exact ⟨hback u f u1 h1 hI1, e :: es, List.forall_mem_cons.mpr ⟨he, hes⟩,
        runs_cons.mpr ⟨_, hlift, hes'⟩⟩
  obtain ⟨-, es, hes, hrun'⟩ := hlifted
  exact ⟨es, F u', hes, hrun', u', rfl, hI, hQ⟩

end Runs
