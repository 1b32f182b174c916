import ZakuraGrpc.Geyser.Transparent

/-!
# Transparent totals

The input total of a transaction is present when every previous output is
known, and is their sum; the output total is the sum of the outputs. The pass
refuses a sum that leaves the `u64` range, and nothing else
(`encodeTransparentUpdates_totals`).

The input total is folded with `none` absorbing: once a value is unknown the
rest of the inputs only advances the index (`inputTotal_none`), so what can
overflow is the sum before the first unknown value.
-/

namespace ZakuraGrpc

/-! ## Known values -/

/-- The previous output of an input: by outpoint in a block, by position in the
mempool. -/
def PreviousOutputs.find (previousOutputs : PreviousOutputs) (outpoint : OutPoint)
    (inputIndex : Nat) : Option Output :=
  match previousOutputs with
  | .block outputs => (outputs.lookup outpoint).map (·.output)
  | .mempool outputs => outputs[inputIndex]?

/-- The value of the input at an index, when it is known; a coinbase counts
zero. -/
def PreviousOutputs.value (previousOutputs : PreviousOutputs) (entry : Input × Nat) : Option Nat :=
  match entry.1 with
  | .prevOut outpoint _ _ => (previousOutputs.find outpoint entry.2).map (·.value)
  | .coinbase _ _ _ => some 0

/-- The sum of the values before the first unknown one. -/
def leadingTotal (values : List (Option Nat)) : Nat :=
  (values.takeWhile Option.isSome).reduceOption.sum

@[simp] theorem leadingTotal_nil : leadingTotal [] = 0 := rfl

@[simp] theorem leadingTotal_none (values : List (Option Nat)) :
    leadingTotal (none :: values) = 0 := rfl

@[simp] theorem leadingTotal_some (value : Nat) (values : List (Option Nat)) :
    leadingTotal (some value :: values) = value + leadingTotal values := by
  simp [leadingTotal, List.reduceOption_cons_of_some]

/-- All values are known: the sum is the sum before the first unknown one. -/
theorem leadingTotal_eq_sum {values : List (Option Nat)} (h : none ∉ values) :
    leadingTotal values = values.reduceOption.sum := by
  have hall : ∀ value ∈ values, Option.isSome value = true := by
    intro value hmem
    exact Option.isSome_iff_ne_none.mpr (ne_of_mem_of_not_mem hmem h)
  rw [leadingTotal, List.takeWhile_eq_self_iff.mpr hall]

/-! ## The loops -/

/-- An unknown total stays unknown. -/
theorem inputTotal_none {values : List (Option Nat)} {start : Nat}
    (hlength : start + values.length ≤ 2 ^ 32) : inputTotal values start none = .ok none := by
  induction values generalizing start with
  | nil => rfl
  | cons value rest ih =>
    rw [List.length_cons] at hlength
    have hindex : ¬ u32Max < start := by
      unfold u32Max
      omega
    unfold inputTotal
    rw [if_neg hindex]
    exact ih (by omega)

theorem inputTotal_some {values : List (Option Nat)} {start total : Nat}
    (hlength : start + values.length ≤ 2 ^ 32) (htotal : total ≤ u64Max) :
    inputTotal values start (some total) =
      if total + leadingTotal values ≤ u64Max then
        .ok (if none ∈ values then none else some (total + values.reduceOption.sum))
      else .error ⟨"transparent input value exceeds the gRPC protocol's u64 range"⟩ := by
  induction values generalizing start total with
  | nil =>
    simp [inputTotal, htotal]
  | cons value rest ih =>
    rw [List.length_cons] at hlength
    have hindex : ¬ u32Max < start := by
      unfold u32Max
      omega
    unfold inputTotal
    rw [if_neg hindex]
    cases value with
    | none =>
      dsimp only
      rw [inputTotal_none (by omega)]
      simp [htotal]
    | some value =>
      dsimp only
      by_cases hfit : total + value ≤ u64Max
      · rw [if_pos hfit, ih (by omega) hfit, leadingTotal_some, ← Nat.add_assoc,
          List.reduceOption_cons_of_some, List.sum_cons, ← Nat.add_assoc]
        simp
      · rw [if_neg hfit, leadingTotal_some, if_neg (by omega)]

theorem outputTotal_eq {values : List Nat} {start total : Nat}
    (hlength : start + values.length ≤ 2 ^ 32) (htotal : total ≤ u64Max) :
    outputTotal values start total =
      if total + values.sum ≤ u64Max then .ok (total + values.sum)
      else .error ⟨"transparent output value exceeds the gRPC protocol's u64 range"⟩ := by
  induction values generalizing start total with
  | nil => simp [outputTotal, htotal]
  | cons value rest ih =>
    rw [List.length_cons] at hlength
    have hindex : ¬ u32Max < start := by
      unfold u32Max
      omega
    rw [outputTotal, if_neg hindex, List.sum_cons, ← Nat.add_assoc]
    by_cases hfit : total + value ≤ u64Max
    · rw [if_pos hfit, ih (by omega) hfit]
    · rw [if_neg hfit, if_neg (by omega)]

/-! ## Exact totals -/

/-- The totals of an encoded transaction: the input total is present when every
previous output is known, and no total is partial or out of range. -/
structure ExactTotals (previousOutputs : PreviousOutputs) (transaction : Transaction)
    (encoded : EncodedTransparentUpdates) : Prop where
  complete : (∀ entry ∈ transaction.inputs.zipIdx, previousOutputs.value entry ≠ none) →
    encoded.transparentInputValueZat =
      some (transaction.inputs.zipIdx.filterMap previousOutputs.value).sum
  incomplete : (∃ entry ∈ transaction.inputs.zipIdx, previousOutputs.value entry = none) →
    encoded.transparentInputValueZat = none
  outputs : encoded.transparentOutputValueZat = (transaction.outputs.map (·.value)).sum
  inputRange : ∀ total, encoded.transparentInputValueZat = some total → total ≤ u64Max
  outputRange : encoded.transparentOutputValueZat ≤ u64Max

/-- The totals of the known values are exact. -/
theorem exactTotals_of_known {previousOutputs : PreviousOutputs} {transaction : Transaction}
    {encoded : EncodedTransparentUpdates}
    (hin : leadingTotal (transaction.inputs.zipIdx.map previousOutputs.value) ≤ u64Max)
    (hout : (transaction.outputs.map (·.value)).sum ≤ u64Max)
    (hinput : encoded.transparentInputValueZat =
      if none ∈ transaction.inputs.zipIdx.map previousOutputs.value then none
      else some (transaction.inputs.zipIdx.map previousOutputs.value).reduceOption.sum)
    (houtput : encoded.transparentOutputValueZat = (transaction.outputs.map (·.value)).sum) :
    ExactTotals previousOutputs transaction encoded where
  complete hall := by
    have hnone : none ∉ transaction.inputs.zipIdx.map previousOutputs.value := by
      rintro hmem
      obtain ⟨entry, hentry, hvalue⟩ := List.mem_map.mp hmem
      exact hall entry hentry hvalue
    rw [hinput, if_neg hnone, List.reduceOption, List.filterMap_map]
    rfl
  incomplete hsome := by
    obtain ⟨entry, hentry, hvalue⟩ := hsome
    rw [hinput, if_pos (List.mem_map.mpr ⟨entry, hentry, hvalue⟩)]
  outputs := houtput
  inputRange total htotal := by
    rw [hinput] at htotal
    split at htotal
    · cases htotal
    · rename_i hnone
      cases htotal
      rwa [leadingTotal_eq_sum hnone] at hin
  outputRange := houtput ▸ hout

section
variable [ZakuraChain]

/-! ## The totals of a pass -/

theorem inputValuesFrom_eq (context : TransparentEncodingContext) (inputs : List Input)
    (start : Nat) : inputValuesFrom context inputs start =
      (inputs.zipIdx start).map context.previousOutputs.value := by
  have hvalue : ∀ (outpoint : OutPoint) (inputIndex : Nat),
      (encodePreviousOutput context outpoint inputIndex).valueZat =
        (context.previousOutputs.find outpoint inputIndex).map (·.value) := by
    intro outpoint inputIndex
    unfold encodePreviousOutput PreviousOutputs.find
    cases context.previousOutputs with
    | block outputs =>
      dsimp only
      cases outputs.lookup outpoint <;> rfl
    | mempool outputs =>
      dsimp only
      cases outputs[inputIndex]? <;> rfl
  unfold inputValuesFrom
  refine List.map_congr_left fun entry _ => ?_
  obtain ⟨input, inputIndex⟩ := entry
  cases input with
  | prevOut outpoint unlockScript sequence => exact hvalue outpoint inputIndex
  | coinbase height data sequence => rfl

/-- What a pass computes from the known values. -/
theorem encodeTransparentUpdates_cases (transaction : Transaction) (transactionIdString : String)
    (network : Network) (previousOutputs : PreviousOutputs) {transactionUpdates utxoUpdates : Bool}
    (hany : (transactionUpdates || utxoUpdates) = true)
    (hinputs : transaction.inputs.length < 2 ^ 32)
    (houtputs : transaction.outputs.length < 2 ^ 32) :
    let result := encodeTransparentUpdates transaction transactionIdString network
      previousOutputs transactionUpdates utxoUpdates
    let values := transaction.inputs.zipIdx.map previousOutputs.value
    let outputTotal := (transaction.outputs.map (·.value)).sum
    (u64Max < leadingTotal values ∨ u64Max < outputTotal) ∧ (∃ error, result = .error error) ∨
      leadingTotal values ≤ u64Max ∧ outputTotal ≤ u64Max ∧ ∃ encoded, result = .ok encoded ∧
        encoded.transparentInputValueZat =
          (if none ∈ values then none else some values.reduceOption.sum) ∧
        encoded.transparentOutputValueZat = outputTotal := by
  intro result values outputs
  have hresult : result = _ := encodeTransparentUpdates_eq _ _ _ _ _ _
  dsimp only at hresult
  rw [hany, if_pos rfl, inputValuesFrom_eq, inputTotal_some (by simp; omega) (Nat.zero_le _),
    outputTotal_eq (by simp; omega) (Nat.zero_le _), Nat.zero_add, Nat.zero_add,
    Nat.zero_add] at hresult
  by_cases hin : leadingTotal values ≤ u64Max
  · rw [if_pos hin] at hresult
    by_cases hout : outputs ≤ u64Max
    · rw [if_pos hout] at hresult
      exact .inr ⟨hin, hout, _, hresult, rfl, rfl⟩
    · rw [if_neg hout] at hresult
      exact .inl ⟨.inr (Nat.lt_of_not_le hout), _, hresult⟩
  · rw [if_neg hin] at hresult
    exact .inl ⟨.inl (Nat.lt_of_not_le hin), _, hresult⟩

/-- **The totals are exact**, and the pass fails exactly where the inputs before
the first unknown one, or the outputs, leave the `u64` range. -/
theorem encodeTransparentUpdates_totals (transaction : Transaction)
    (transactionIdString : String) (network : Network) (previousOutputs : PreviousOutputs)
    {transactionUpdates utxoUpdates : Bool} (hany : (transactionUpdates || utxoUpdates) = true)
    (hinputs : transaction.inputs.length < 2 ^ 32)
    (houtputs : transaction.outputs.length < 2 ^ 32) :
    let result := encodeTransparentUpdates transaction transactionIdString network
      previousOutputs transactionUpdates utxoUpdates
    (∀ encoded, result = .ok encoded → ExactTotals previousOutputs transaction encoded) ∧
      ((∃ error, result = .error error) ↔
        u64Max < leadingTotal (transaction.inputs.zipIdx.map previousOutputs.value) ∨
          u64Max < (transaction.outputs.map (·.value)).sum) := by
  intro result
  rcases encodeTransparentUpdates_cases transaction transactionIdString network previousOutputs
    hany hinputs houtputs with ⟨hover, error, herror⟩ | ⟨hin, hout, encoded, hok, hinput, houtput⟩
  · refine ⟨fun encoded hok => ?_, iff_of_true ⟨error, herror⟩ hover⟩
    rw [show result = _ from herror] at hok
    cases hok
  · refine ⟨fun encoded' hok' => ?_, iff_of_false ?_ ?_⟩
    · rw [show result = _ from hok] at hok'
      cases hok'
      exact exactTotals_of_known hin hout hinput houtput
    · rintro ⟨error, herror⟩
      rw [show result = _ from hok] at herror
      cases herror
    · rw [not_or, Nat.not_lt, Nat.not_lt]
      exact ⟨hin, hout⟩

end

/-- Two inputs, both with a previous output in the mempool context. -/
theorem encodeTransparentUpdates_totals_sample :
    let transaction := sampleTransaction 3
      [.prevOut ⟨⟨Vector.replicate 32 1⟩, 0⟩ [] 0, .prevOut ⟨⟨Vector.replicate 32 2⟩, 1⟩ [] 0]
      [⟨20, [1]⟩, ⟨30, [2]⟩]
    ∃ encoded, @encodeTransparentUpdates hexChain transaction "" .mainnet
        (.mempool [⟨50, [1]⟩, ⟨70, [2]⟩]) true false = .ok encoded ∧
      ExactTotals (.mempool [⟨50, [1]⟩, ⟨70, [2]⟩]) transaction encoded ∧
      encoded.transparentInputValueZat = some 120 :=
  ⟨_, rfl, (@encodeTransparentUpdates_totals hexChain _ "" .mainnet
    (.mempool [⟨50, [1]⟩, ⟨70, [2]⟩]) true false rfl (by decide) (by decide)).1 _ rfl, rfl⟩

end ZakuraGrpc
