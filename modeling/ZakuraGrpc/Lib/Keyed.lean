import Mathlib

/-!
# Ordered maps whose values know their keys

In such a map the key of an entry is computed from its value. Insertion under
the value's own key, removal and filtering keep that, and the values come out
in the strict order of their keys.
-/

namespace Keyed

open Std

variable {α β : Type*} {cmp : α → α → Ordering} {key : β → α} {t : TreeMap α β cmp}

/-- Every entry sits under the key of its value. -/
def IsKeyed (key : β → α) (t : TreeMap α β cmp) : Prop :=
  ∀ entry ∈ t.toList, key entry.2 = entry.1

/-- The values in the order of their keys. -/
def values (t : TreeMap α β cmp) : List β := t.toList.map (·.2)

section
variable [TransCmp cmp]

/-- **Order.** The values of a keyed map are in the strict order of their keys. -/
theorem IsKeyed.pairwise (h : IsKeyed key t) :
    (values t).Pairwise fun a b => cmp (key a) (key b) = .lt := by
  unfold values
  refine List.pairwise_map.mpr (TreeMap.ordered_keys_toList.imp_of_mem ?_)
  intro a b ha hb hlt
  rw [h a ha, h b hb]
  exact hlt

theorem IsKeyed.nodup (h : IsKeyed key t) : (values t).Nodup := by
  refine h.pairwise.imp fun {v w} hlt heq => ?_
  have hrefl : cmp (key w) (key w) = .eq := ReflCmp.compare_self
  rw [heq, hrefl] at hlt
  cases hlt

variable [LawfulEqCmp cmp]

theorem IsKeyed.iff_getElem? :
    IsKeyed key t ↔ ∀ k v, t[k]? = some v → key v = k := by
  constructor
  · intro h k v hget
    exact h (k, v) (TreeMap.mem_toList_iff_getElem?_eq_some.mpr hget)
  · intro h entry hmem
    exact h entry.1 entry.2 (TreeMap.mem_toList_iff_getElem?_eq_some.mp hmem)

theorem isKeyed_empty : IsKeyed key (∅ : TreeMap α β cmp) := by
  rw [IsKeyed.iff_getElem?]
  intro k v hget
  rw [TreeMap.getElem?_emptyc] at hget
  cases hget

theorem mem_values {v : β} : v ∈ values t ↔ ∃ k : α, t[k]? = some v := by
  unfold values
  rw [List.mem_map]
  constructor
  · rintro ⟨entry, hmem, rfl⟩
    exact ⟨entry.1, TreeMap.mem_toList_iff_getElem?_eq_some.mp hmem⟩
  · rintro ⟨k, hget⟩
    exact ⟨(k, v), TreeMap.mem_toList_iff_getElem?_eq_some.mpr hget, rfl⟩

/-- A value of a keyed map is found under its own key. -/
theorem IsKeyed.mem_of_mem_values (h : IsKeyed key t) {v : β} (hv : v ∈ values t) : key v ∈ t := by
  obtain ⟨k, hget⟩ := mem_values.mp hv
  rw [IsKeyed.iff_getElem?.mp h k v hget]
  exact TreeMap.mem_iff_isSome_getElem?.mpr (by simp [hget])

theorem IsKeyed.insert (h : IsKeyed key t) (v : β) : IsKeyed key (t.insert (key v) v) := by
  rw [IsKeyed.iff_getElem?] at h ⊢
  intro k w hget
  rw [TreeMap.getElem?_insert] at hget
  split at hget
  · rename_i heq
    cases hget
    exact LawfulEqCmp.eq_of_compare heq
  · exact h k w hget

theorem IsKeyed.erase (h : IsKeyed key t) (k : α) : IsKeyed key (t.erase k) := by
  rw [IsKeyed.iff_getElem?] at h ⊢
  intro k' w hget
  rw [TreeMap.getElem?_erase] at hget
  split at hget
  · cases hget
  · exact h k' w hget

theorem IsKeyed.filter (h : IsKeyed key t) (f : α → β → Bool) : IsKeyed key (t.filter f) := by
  rw [IsKeyed.iff_getElem?] at h ⊢
  intro k w hget
  rw [TreeMap.getElem?_filter', Option.filter_eq_some_iff] at hget
  exact h k w hget.1

end

end Keyed
