import Mathlib

/-!
# Longest admissible suffixes

A sliding window keeps the longest suffix of a growing history that satisfies a
predicate. It is found by dropping elements from the front while the predicate
fails (`Covers.tail`). When the predicate only gets stricter, by time passing
(`IsLongest.mono`) or by a new element at the back (`IsLongest.snoc`), the
window of the longer history is found inside the current window: what was
dropped never comes back.
-/

namespace Suffix

variable {α : Type*} {P Q : List α → Prop} {l s : List α}

/-- Every suffix of `l` that satisfies `P` is a suffix of `s`. -/
structure Covers (P : List α → Prop) (l s : List α) : Prop where
  suffix : s <:+ l
  longest : ∀ t, t <:+ l → P t → t <:+ s

/-- `s` is the longest suffix of `l` that satisfies `P`. -/
structure IsLongest (P : List α → Prop) (l s : List α) : Prop extends Covers P l s where
  holds : P s

theorem Covers.refl (P : List α → Prop) (l : List α) : Covers P l l :=
  ⟨List.suffix_rfl, fun _ ht _ => ht⟩

/-- The front element goes when the predicate fails with it. -/
theorem Covers.tail {a : α} (h : Covers P l (a :: s)) (hP : ¬ P (a :: s)) : Covers P l s := by
  refine ⟨(List.suffix_cons a s).trans h.suffix, fun t ht hPt => ?_⟩
  rcases List.suffix_cons_iff.mp (h.longest t ht hPt) with rfl | ht
  · exact absurd hPt hP
  · exact ht

/-- A stricter predicate finds its window inside the old one. -/
theorem IsLongest.mono (h : IsLongest P l s) (hPQ : ∀ t, t <:+ l → Q t → P t) {w : List α}
    (hw : IsLongest Q s w) : IsLongest Q l w :=
  { suffix := hw.suffix.trans h.suffix
    longest := fun t ht hQ => hw.longest t (h.longest t ht (hPQ t ht hQ)) hQ
    holds := hw.holds }

/-- A new element at the back: the window is found inside the old window with
the new element. -/
theorem IsLongest.snoc (h : IsLongest P l s) {a : α}
    (hPQ : ∀ t, t <:+ l → Q (t ++ [a]) → P t) {w : List α}
    (hw : IsLongest Q (s ++ [a]) w) : IsLongest Q (l ++ [a]) w := by
  have hsa : s ++ [a] <:+ l ++ [a] := List.suffix_append_self_iff.mpr h.suffix
  refine { suffix := hw.suffix.trans hsa, longest := fun t ht hQ => hw.longest t ?_ hQ,
           holds := hw.holds }
  rcases List.suffix_concat_iff.mp ht with rfl | ⟨u, rfl, hu⟩
  · exact List.nil_suffix
  · exact List.suffix_append_self_iff.mpr (h.longest u hu (hPQ u hu hQ))

end Suffix
