import Mathlib

/-!
# Ledgers

A ledger is a partial map. A step erases keys and then inserts keyed values;
steps are applied one after the other (`run`). Renaming the keys by an injective
map and the values by any map commutes with all of it (`Represents.run`).
-/

namespace Ledger

variable {K V K' V' : Type*}

/-- What one step erases and inserts, in order. -/
structure Step (K V : Type*) where
  erases : List K
  inserts : List (K × V)

/-- The step under other names for its keys and values. -/
def Step.rename (key : K → K') (value : V → V') (step : Step K V) : Step K' V' :=
  { erases := step.erases.map key
    inserts := step.inserts.map fun entry => (key entry.1, value entry.2) }

section
variable [DecidableEq K]

def erase (map : K → Option V) (key : K) : K → Option V := Function.update map key none

def insert (map : K → Option V) (entry : K × V) : K → Option V :=
  Function.update map entry.1 (some entry.2)

def apply (map : K → Option V) (step : Step K V) : K → Option V :=
  step.inserts.foldl insert (step.erases.foldl erase map)

def run (steps : List (Step K V)) (map : K → Option V) : K → Option V := steps.foldl apply map

end

/-- `map'` holds the entries of `map` under other names. -/
def Represents (key : K → K') (value : V → V') (map : K → Option V) (map' : K' → Option V') :
    Prop :=
  ∀ k, map' (key k) = (map k).map value

variable [DecidableEq K] [DecidableEq K'] {key : K → K'} {value : V → V'}
  {map : K → Option V} {map' : K' → Option V'}

theorem Represents.update (h : Represents key value map map') (hkey : Function.Injective key)
    (k : K) (entry : Option V) :
    Represents key value (Function.update map k entry)
      (Function.update map' (key k) (entry.map value)) := by
  intro other
  by_cases heq : other = k
  · subst heq
    rw [Function.update_self, Function.update_self]
  · rw [Function.update_of_ne heq, Function.update_of_ne fun hkeys => heq (hkey hkeys)]
    exact h other

theorem Represents.erase (h : Represents key value map map') (hkey : Function.Injective key)
    (k : K) : Represents key value (Ledger.erase map k) (Ledger.erase map' (key k)) :=
  h.update hkey k none

theorem Represents.insert (h : Represents key value map map') (hkey : Function.Injective key)
    (entry : K × V) :
    Represents key value (Ledger.insert map entry)
      (Ledger.insert map' (key entry.1, value entry.2)) :=
  h.update hkey entry.1 (some entry.2)

theorem Represents.apply (h : Represents key value map map') (hkey : Function.Injective key)
    (step : Step K V) :
    Represents key value (Ledger.apply map step) (Ledger.apply map' (step.rename key value)) := by
  have herases : ∀ (keys : List K) {map : K → Option V} {map' : K' → Option V'},
      Represents key value map map' →
      Represents key value (keys.foldl Ledger.erase map)
        ((keys.map key).foldl Ledger.erase map') := by
    intro keys
    induction keys with
    | nil => exact id
    | cons k rest ih => exact fun h => ih (h.erase hkey k)
  have hinserts : ∀ (entries : List (K × V)) {map : K → Option V} {map' : K' → Option V'},
      Represents key value map map' →
      Represents key value (entries.foldl Ledger.insert map)
        ((entries.map fun entry => (key entry.1, value entry.2)).foldl Ledger.insert map') := by
    intro entries
    induction entries with
    | nil => exact id
    | cons entry rest ih => exact fun h => ih (h.insert hkey entry)
  exact hinserts step.inserts (herases step.erases h)

/-- **Steps commute with renaming.** -/
theorem Represents.run (h : Represents key value map map') (hkey : Function.Injective key)
    (steps : List (Step K V)) :
    Represents key value (Ledger.run steps map)
      (Ledger.run (steps.map (Step.rename key value)) map') := by
  induction steps generalizing map map' with
  | nil => exact h
  | cons step rest ih => exact ih (h.apply hkey step)

end Ledger
