import Mathlib

/-!
# Counting maps

A tree map that counts how often each key occurs in a list, kept up to date as
elements come and go. A key that no longer occurs has no entry, so the size of
the map is the number of distinct elements (`Counts.size_eq`) and its keys are
the elements (`Counts.mem_keys`).
-/

namespace Counter

variable {α : Type*} [Ord α]

/-- One occurrence more. -/
def acquire (m : Std.TreeMap α Nat) (a : α) : Std.TreeMap α Nat := m.insert a (m.getD a 0 + 1)

/-- One occurrence less; an entry that reaches zero is removed. -/
def release (m : Std.TreeMap α Nat) (a : α) : Std.TreeMap α Nat :=
  match m[a]? with
  | none => m
  | some n => if n - 1 = 0 then m.erase a else m.insert a (n - 1)

variable [DecidableEq α]

/-- The entry of an element that occurs `n` times. -/
def entry (n : Nat) : Option Nat := if n = 0 then none else some n

@[simp] theorem entry_zero : entry 0 = none := rfl

@[simp] theorem entry_succ (n : Nat) : entry (n + 1) = some (n + 1) := rfl

theorem entry_getD (n : Nat) : (entry n).getD 0 = n := by
  cases n <;> rfl

/-- `m` counts the elements of `l`. -/
def Counts (m : Std.TreeMap α Nat) (l : List α) : Prop := ∀ a, m[a]? = entry (l.count a)

variable {m : Std.TreeMap α Nat} {l : List α} {a : α}

theorem Counts.perm {l' : List α} (h : Counts m l) (hl : l.Perm l') : Counts m l' := by
  intro a
  rw [h a, hl.count_eq]

/-- A map with the same lookups counts the same list. -/
theorem Counts.congr {m' : Std.TreeMap α Nat} (h : Counts m l) (heq : ∀ a : α, m'[a]? = m[a]?) :
    Counts m' l := fun a => (heq a).trans (h a)

variable [Std.TransOrd α]

theorem Counts.empty : Counts (∅ : Std.TreeMap α Nat) [] := by
  intro a
  simp

theorem Counts.getD_eq (h : Counts m l) (a : α) : m.getD a 0 = l.count a := by
  rw [Std.TreeMap.getD_eq_getD_getElem?, h a, entry_getD]

theorem Counts.isEmpty (h : Counts m []) : m.isEmpty = true := by
  rw [Std.TreeMap.isEmpty_iff_forall_not_mem]
  intro a hmem
  rw [Std.TreeMap.mem_iff_isSome_getElem?, h a] at hmem
  cases hmem

variable [Std.LawfulEqOrd α]

theorem Counts.acquire (h : Counts m l) (a : α) : Counts (acquire m a) (a :: l) := by
  intro b
  rw [Counter.acquire, Std.TreeMap.getElem?_insert, h.getD_eq a]
  by_cases hab : a = b
  · subst hab
    simp
  · have hcmp : compare a b ≠ .eq := fun heq => hab (Std.LawfulEqCmp.compare_eq_iff_eq.mp heq)
    rw [if_neg hcmp, h b, List.count_cons_of_ne (fun heq => hab heq)]

theorem Counts.release (h : Counts m (a :: l)) : Counts (release m a) l := by
  intro b
  have ha : m[a]? = some (l.count a + 1) := by rw [h a, List.count_cons_self, entry_succ]
  unfold Counter.release
  rw [ha]
  by_cases hab : a = b
  · subst hab
    by_cases h0 : l.count a = 0
    · simp [h0]
    · simp [h0, entry]
  · have hcmp : compare a b ≠ .eq := fun heq => hab (Std.LawfulEqCmp.compare_eq_iff_eq.mp heq)
    have hb : m[b]? = entry (l.count b) := by
      rw [h b, List.count_cons_of_ne (fun heq => hab heq)]
    simp only [Nat.add_sub_cancel]
    split
    · rw [Std.TreeMap.getElem?_erase, if_neg hcmp, hb]
    · rw [Std.TreeMap.getElem?_insert, if_neg hcmp, hb]

theorem Counts.mem_keys (h : Counts m l) (a : α) : a ∈ m.keys ↔ a ∈ l := by
  rw [Std.TreeMap.mem_keys, Std.TreeMap.mem_iff_isSome_getElem?, h a]
  rw [← List.count_pos_iff]
  cases l.count a <;> simp

theorem Counts.size_eq (h : Counts m l) : m.size = l.toFinset.card := by
  have hnodup : m.keys.Nodup :=
    Std.TreeMap.distinct_keys.imp fun hne heq => hne (Std.LawfulEqCmp.compare_eq_iff_eq.mpr heq)
  rw [← Std.TreeMap.length_keys, ← List.toFinset_card_of_nodup hnodup]
  congr 1
  ext a
  simp only [List.mem_toFinset, h.mem_keys]

end Counter
