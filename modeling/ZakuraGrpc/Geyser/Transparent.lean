import ZakuraGrpc.Geyser.Event

/-!
# The transparent pass, in closed form

`encodeTransparentUpdates` fills three lists and two totals in one pass over
the inputs and one over the outputs. Each list is a map over the positions of
the transaction, switched on or off by its flag, and the totals do not depend
on the flags (`encodeTransparentUpdates_eq`).
-/

namespace ZakuraGrpc

/-- The list of a switched-off view is empty. -/
def listIf {α : Type} (enabled : Bool) (list : List α) : List α := if enabled then list else []

@[simp] theorem listIf_true {α : Type} (list : List α) : listIf true list = list := rfl

@[simp] theorem listIf_false {α : Type} (list : List α) : listIf false list = [] := rfl

theorem listIf_append {α : Type} (enabled : Bool) (list list' : List α) :
    listIf enabled (list ++ list') = listIf enabled list ++ listIf enabled list' := by
  cases enabled <;> simp

section
variable [ZakuraChain]

open ZakuraChain

/-! ## One input, one output -/

def grpcOutpoint (outpoint : OutPoint) : Outpoint :=
  { transactionId := transactionHashToString outpoint.hash, outputIndex := outpoint.index }

/-- The input at a position, as a transaction update shows it. -/
def transactionInput (context : TransparentEncodingContext) (input : Input) (inputIndex : Nat) :
    TransparentInput :=
  match input with
  | .prevOut outpoint unlockScript sequence =>
    let previous := encodePreviousOutput context outpoint inputIndex
    { inputIndex := inputIndex
      sequence := sequence
      input := some (.prevout
        { previousOutput := some (grpcOutpoint outpoint)
          unlockScript := unlockScript
          previousValueZat := previous.valueZat
          previousLockScript := previous.lockScript
          previousAddress := previous.address
          previousHeight := previous.height
          previousFromCoinbase := previous.fromCoinbase }) }
  | .coinbase height data sequence =>
    { inputIndex := inputIndex
      sequence := sequence
      input := some (.coinbase { height := height, data := data }) }

/-- The change that an input makes; a coinbase input makes none. -/
def spentChange (context : TransparentEncodingContext) (input : Input) (inputIndex : Nat) :
    Option UtxoChange :=
  match input with
  | .prevOut outpoint unlockScript sequence =>
    let previous := encodePreviousOutput context outpoint inputIndex
    some { change := some (.spent
      { outpoint := some (grpcOutpoint outpoint)
        inputIndex := inputIndex
        unlockScript := unlockScript
        sequence := sequence
        previousValueZat := previous.valueZat
        previousLockScript := previous.lockScript
        previousAddress := previous.address
        previousHeight := previous.height
        previousFromCoinbase := previous.fromCoinbase }) }
  | .coinbase _ _ _ => none

/-- What an input adds to the total. -/
def inputValue (context : TransparentEncodingContext) (input : Input) (inputIndex : Nat) :
    Option Nat :=
  match input with
  | .prevOut outpoint _ _ => (encodePreviousOutput context outpoint inputIndex).valueZat
  | .coinbase _ _ _ => some 0

def transactionOutput (network : Network) (output : Output) (outputIndex : Nat) :
    TransparentOutput :=
  { outputIndex := outputIndex
    valueZat := output.value
    lockScript := output.lockScript
    address := outputAddress network output }

/-- The change that an output makes. -/
def createdChange (network : Network) (transactionId : String) (output : Output)
    (outputIndex : Nat) : UtxoChange :=
  { change := some (.created
      { outpoint := some { transactionId := transactionId, outputIndex := outputIndex }
        valueZat := output.value
        lockScript := output.lockScript
        address := outputAddress network output }) }

theorem encodeTransparentInput_eq (context : TransparentEncodingContext) (input : Input)
    (inputIndex : Nat) (lists : TransparentLists) :
    encodeTransparentInput context input inputIndex inputIndex lists =
      ({ transactionInputs := lists.transactionInputs ++
          listIf context.transactionUpdates [transactionInput context input inputIndex]
         transactionOutputs := lists.transactionOutputs
         utxoChanges := lists.utxoChanges ++
          listIf context.utxoUpdates (spentChange context input inputIndex).toList },
        inputValue context input inputIndex) := by
  unfold encodeTransparentInput
  cases input with
  | prevOut outpoint unlockScript sequence =>
    cases context.transactionUpdates <;> cases context.utxoUpdates <;>
      simp [transactionInput, spentChange, inputValue, grpcOutpoint]
  | coinbase height data sequence =>
    cases context.transactionUpdates <;> cases context.utxoUpdates <;>
      simp [transactionInput, spentChange, inputValue]

theorem encodeTransparentOutput_eq (context : TransparentEncodingContext) (output : Output)
    (outputIndex : Nat) (transactionId : String) (lists : TransparentLists) :
    encodeTransparentOutput context output outputIndex transactionId lists =
      ({ transactionInputs := lists.transactionInputs
         transactionOutputs := lists.transactionOutputs ++
          listIf context.transactionUpdates [transactionOutput context.network output outputIndex]
         utxoChanges := lists.utxoChanges ++
          listIf context.utxoUpdates
            [createdChange context.network transactionId output outputIndex] },
        output.value) := by
  unfold encodeTransparentOutput
  cases context.transactionUpdates <;> cases context.utxoUpdates <;>
    simp [transactionOutput, createdChange]

/-! ## The loops -/

def transactionInputsFrom (context : TransparentEncodingContext) (inputs : List Input)
    (start : Nat) : List TransparentInput :=
  (inputs.zipIdx start).map fun (input, inputIndex) => transactionInput context input inputIndex

def spentChangesFrom (context : TransparentEncodingContext) (inputs : List Input)
    (start : Nat) : List UtxoChange :=
  (inputs.zipIdx start).filterMap fun (input, inputIndex) => spentChange context input inputIndex

def inputValuesFrom (context : TransparentEncodingContext) (inputs : List Input) (start : Nat) :
    List (Option Nat) :=
  (inputs.zipIdx start).map fun (input, inputIndex) => inputValue context input inputIndex

def transactionOutputsFrom (network : Network) (outputs : List Output) (start : Nat) :
    List TransparentOutput :=
  (outputs.zipIdx start).map fun (output, outputIndex) =>
    transactionOutput network output outputIndex

def createdChangesFrom (network : Network) (transactionId : String) (outputs : List Output)
    (start : Nat) : List UtxoChange :=
  (outputs.zipIdx start).map fun (output, outputIndex) =>
    createdChange network transactionId output outputIndex

/-- The total of the input values, unknown once one of them is. -/
def inputTotal : List (Option Nat) → Nat → Option Nat → Except PluginError (Option Nat)
  | [], _, total => .ok total
  | value :: rest, inputIndex, total =>
    if u32Max < inputIndex then
      .error ⟨"input index exceeds the gRPC protocol's u32 range"⟩
    else
      match total, value with
      | some total, some value =>
        if total + value ≤ u64Max then inputTotal rest (inputIndex + 1) (some (total + value))
        else .error ⟨"transparent input value exceeds the gRPC protocol's u64 range"⟩
      | _, _ => inputTotal rest (inputIndex + 1) none

def outputTotal : List Nat → Nat → Nat → Except PluginError Nat
  | [], _, total => .ok total
  | value :: rest, outputIndex, total =>
    if u32Max < outputIndex then
      .error ⟨"output index exceeds the gRPC protocol's u32 range"⟩
    else if total + value ≤ u64Max then outputTotal rest (outputIndex + 1) (total + value)
    else .error ⟨"transparent output value exceeds the gRPC protocol's u64 range"⟩

theorem encodeTransparentInputs_eq (context : TransparentEncodingContext) (inputs : List Input)
    (start : Nat) (lists : TransparentLists) (total : Option Nat) :
    encodeTransparentInputs context inputs start lists total =
      (inputTotal (inputValuesFrom context inputs start) start total).map fun total =>
        ({ transactionInputs := lists.transactionInputs ++
            listIf context.transactionUpdates (transactionInputsFrom context inputs start)
           transactionOutputs := lists.transactionOutputs
           utxoChanges := lists.utxoChanges ++
            listIf context.utxoUpdates (spentChangesFrom context inputs start) }, total) := by
  induction inputs generalizing start lists total with
  | nil =>
    cases context.transactionUpdates <;> cases context.utxoUpdates <;>
      simp [encodeTransparentInputs, inputValuesFrom, inputTotal, transactionInputsFrom,
        spentChangesFrom, Except.map]
  | cons input rest ih =>
    have hvalues : inputValuesFrom context (input :: rest) start =
        inputValue context input start :: inputValuesFrom context rest (start + 1) := by
      simp [inputValuesFrom]
    have hinputs : transactionInputsFrom context (input :: rest) start =
        [transactionInput context input start] ++ transactionInputsFrom context rest (start + 1) := by
      simp [transactionInputsFrom]
    have hchanges : spentChangesFrom context (input :: rest) start =
        (spentChange context input start).toList ++ spentChangesFrom context rest (start + 1) := by
      cases h : spentChange context input start <;> simp [spentChangesFrom, h]
    rw [hvalues, hinputs, hchanges, listIf_append, listIf_append]
    unfold encodeTransparentInputs inputTotal
    split
    · rfl
    rw [encodeTransparentInput_eq]
    dsimp only
    cases total with
    | none =>
      dsimp only
      rw [ih, List.append_assoc, List.append_assoc]
    | some total =>
      cases inputValue context input start with
      | none =>
        dsimp only
        rw [ih, List.append_assoc, List.append_assoc]
      | some value =>
        dsimp only
        split
        · rw [ih, List.append_assoc, List.append_assoc]
        · rfl

theorem encodeTransparentOutputs_eq (context : TransparentEncodingContext)
    (transactionId : String) (outputs : List Output) (start : Nat) (lists : TransparentLists)
    (total : Nat) :
    encodeTransparentOutputs context transactionId outputs start lists total =
      (outputTotal (outputs.map (·.value)) start total).map fun total =>
        ({ transactionInputs := lists.transactionInputs
           transactionOutputs := lists.transactionOutputs ++
            listIf context.transactionUpdates
              (transactionOutputsFrom context.network outputs start)
           utxoChanges := lists.utxoChanges ++
            listIf context.utxoUpdates
              (createdChangesFrom context.network transactionId outputs start) }, total) := by
  induction outputs generalizing start lists total with
  | nil =>
    cases context.transactionUpdates <;> cases context.utxoUpdates <;>
      simp [encodeTransparentOutputs, outputTotal, transactionOutputsFrom, createdChangesFrom,
        Except.map]
  | cons output rest ih =>
    have houtputs : transactionOutputsFrom context.network (output :: rest) start =
        [transactionOutput context.network output start] ++
          transactionOutputsFrom context.network rest (start + 1) := by
      simp [transactionOutputsFrom]
    have hchanges : createdChangesFrom context.network transactionId (output :: rest) start =
        [createdChange context.network transactionId output start] ++
          createdChangesFrom context.network transactionId rest (start + 1) := by
      simp [createdChangesFrom]
    rw [houtputs, hchanges, listIf_append, listIf_append, List.map_cons]
    unfold encodeTransparentOutputs outputTotal
    split
    · rfl
    rw [encodeTransparentOutput_eq]
    dsimp only
    split
    · rw [ih, List.append_assoc, List.append_assoc]
    · rfl

/-! ## The pass -/

/-- The changes of a transaction: the spent outputs, then the created ones. -/
def transparentChanges (context : TransparentEncodingContext) (transaction : Transaction)
    (transactionId : String) : List UtxoChange :=
  spentChangesFrom context transaction.inputs 0 ++
    createdChangesFrom context.network transactionId transaction.outputs 0

/-- What one pass computes: the lists of the enabled views, and the totals. -/
theorem encodeTransparentUpdates_eq (transaction : Transaction) (transactionIdString : String)
    (network : Network) (previousOutputs : PreviousOutputs)
    (transactionUpdates utxoUpdates : Bool) :
    encodeTransparentUpdates transaction transactionIdString network previousOutputs
        transactionUpdates utxoUpdates =
      let context : TransparentEncodingContext :=
        { network, previousOutputs, transactionUpdates, utxoUpdates }
      inputTotal (inputValuesFrom context transaction.inputs 0) 0
          (if transactionUpdates || utxoUpdates then some 0 else none) >>= fun inputTotal =>
        outputTotal (transaction.outputs.map (·.value)) 0 0 >>= fun outputTotal =>
        .ok
          { transactionInputs := listIf transactionUpdates
              (transactionInputsFrom context transaction.inputs 0)
            transactionOutputs := listIf transactionUpdates
              (transactionOutputsFrom network transaction.outputs 0)
            utxoChanges := listIf utxoUpdates
              (transparentChanges context transaction transactionIdString)
            transparentInputValueZat := inputTotal
            transparentOutputValueZat := outputTotal } := by
  unfold encodeTransparentUpdates transparentChanges
  dsimp only
  rw [encodeTransparentInputs_eq, listIf_append]
  dsimp only
  cases inputTotal (inputValuesFrom
      { network, previousOutputs, transactionUpdates, utxoUpdates } transaction.inputs 0) 0
      (if transactionUpdates || utxoUpdates then some 0 else none) with
  | error error => rfl
  | ok inputTotal =>
    simp only [Except.map, bind, Except.bind]
    rw [encodeTransparentOutputs_eq]
    cases outputTotal (transaction.outputs.map (·.value)) 0 0 with
    | error error => rfl
    | ok outputTotal => rfl

/-- The views of a pass that are switched on. -/
def EncodedTransparentUpdates.restrict (encoded : EncodedTransparentUpdates)
    (transactionUpdates utxoUpdates : Bool) : EncodedTransparentUpdates :=
  { encoded with
    transactionInputs := listIf transactionUpdates encoded.transactionInputs
    transactionOutputs := listIf transactionUpdates encoded.transactionOutputs
    utxoChanges := listIf utxoUpdates encoded.utxoChanges }

/-- **A flag switches its own view only.** -/
theorem encodeTransparentUpdates_restrict {transaction : Transaction}
    {transactionIdString : String} {network : Network} {previousOutputs : PreviousOutputs}
    {encoded : EncodedTransparentUpdates}
    (h : encodeTransparentUpdates transaction transactionIdString network previousOutputs true
      true = .ok encoded)
    {transactionUpdates utxoUpdates : Bool} (hany : (transactionUpdates || utxoUpdates) = true) :
    encodeTransparentUpdates transaction transactionIdString network previousOutputs
        transactionUpdates utxoUpdates =
      .ok (encoded.restrict transactionUpdates utxoUpdates) := by
  rw [encodeTransparentUpdates_eq] at h ⊢
  dsimp only at h ⊢
  rw [hany, if_pos rfl]
  obtain ⟨inputTotal, hinput, h⟩ := Except.bind_eq_ok.mp h
  obtain ⟨outputTotal, houtput, h⟩ := Except.bind_eq_ok.mp h
  cases h
  refine Except.bind_eq_ok.mpr ⟨inputTotal, hinput, ?_⟩
  exact Except.bind_eq_ok.mpr ⟨outputTotal, houtput, rfl⟩

/-- The lists of a pass that succeeds. -/
theorem lists_encodeTransparentUpdates {transaction : Transaction} {transactionIdString : String}
    {network : Network} {previousOutputs : PreviousOutputs} {transactionUpdates utxoUpdates : Bool}
    {encoded : EncodedTransparentUpdates}
    (h : encodeTransparentUpdates transaction transactionIdString network previousOutputs
      transactionUpdates utxoUpdates = .ok encoded) :
    let context : TransparentEncodingContext :=
      { network, previousOutputs, transactionUpdates, utxoUpdates }
    encoded.transactionInputs = listIf transactionUpdates
        (transactionInputsFrom context transaction.inputs 0) ∧
      encoded.transactionOutputs = listIf transactionUpdates
        (transactionOutputsFrom network transaction.outputs 0) ∧
      encoded.utxoChanges = listIf utxoUpdates
        (transparentChanges context transaction transactionIdString) := by
  rw [encodeTransparentUpdates_eq] at h
  obtain ⟨inputTotal, -, h⟩ := Except.bind_eq_ok.mp h
  obtain ⟨outputTotal, -, h⟩ := Except.bind_eq_ok.mp h
  cases h
  exact ⟨rfl, rfl, rfl⟩

end

/-! ## A sample block -/

def sampleTransaction (id : UInt8) (inputs : List Input) (outputs : List Output) : Transaction :=
  { hash := ⟨Vector.replicate 32 id⟩
    authDigest := none
    serialized := .ok [id]
    inputs := inputs
    outputs := outputs
    version := 4
    rawLockTime := 0
    lockTimeIsTime := false
    expiryHeight := none
    isCoinbase := false
    hasTransparentInputsOrOutputs := !inputs.isEmpty || !outputs.isEmpty
    hasSaplingShieldedData := false
    hasOrchardShieldedData := false }

/-- A coinbase, a transaction without transparent effects, and one that spends
the coinbase. -/
def sampleBlockEvent : BlockEvent :=
  { block :=
      { serialized := .ok [7]
        transactions :=
          [sampleTransaction 1 [.coinbase 9 [] 0] [⟨50, [1]⟩], sampleTransaction 2 [] [],
            sampleTransaction 3 [.prevOut ⟨⟨Vector.replicate 32 1⟩, 0⟩ [] 0] [⟨20, [1]⟩, ⟨30, [2]⟩]] }
    height := 9
    hash := ⟨Vector.replicate 32 9⟩
    receiptOrder := none
    network := .mainnet
    spentOutputs := ∅ }

def sampleEvent : EventEnvelope :=
  { schemaVersion := 1
    sessionId := [1]
    sequence := 1
    observedAt := 0
    payload := .blockAccepted sampleBlockEvent }

/-- A block whose second transaction pays 40 zatoshis to `sampleKeyHash`. -/
def samplePaymentBlock : BlockEvent :=
  { sampleBlockEvent with
    block :=
      { serialized := .ok [7]
        transactions :=
          [sampleTransaction 1 [.coinbase 9 [] 0] [⟨50, [1]⟩],
            sampleTransaction 0xaa [.prevOut ⟨⟨Vector.replicate 32 1⟩, 0⟩ [] 0]
              [⟨40, sampleLockScript⟩]] } }

end ZakuraGrpc
