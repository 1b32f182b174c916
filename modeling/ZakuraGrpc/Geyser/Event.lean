import ZakuraGrpc.Chain
import ZakuraGrpc.Lib.Except

/-!
# Event encoding

`encodeEvent` turns one plugin event into its updates: the event's own update,
then one transaction and one UTXO update per block transaction, or one mempool
transaction update per admitted transaction.
-/

namespace ZakuraGrpc

/-- `block_height`: the height of a block-scoped update. -/
def blockHeight (update : SubscribeUpdate) : Option Nat :=
  match update.update with
  | some (.block block) => some block.height
  | some (.bestChain change) => some change.height
  | some (.transaction transaction) => some transaction.height
  | some (.utxo utxo) => some utxo.height
  | some (.mempool _) | some (.mempoolTransaction _) | some (.ping _) | some (.pong _)
  | some (.reconnect _) | some (.mempoolSnapshot _) | none => none

/-! ## Metadata -/

def u32Max : Nat := 2 ^ 32 - 1
def u64Max : Nat := 2 ^ 64 - 1
def i64Max : Int := 2 ^ 63 - 1

/-- `timestamp`: a time before the epoch counts as the epoch. -/
def timestamp (time : Int) : Timestamp :=
  { seconds := min (time.toNat / 1000000000 : Nat) i64Max
    nanos := (time.toNat % 1000000000 : Nat) }

structure UpdateMetadata where
  schemaVersion : Nat
  sessionId : Bytes
  observedAt : Timestamp
  sourceSequence : Nat

def UpdateMetadata.new (event : EventEnvelope) : UpdateMetadata :=
  { schemaVersion := event.schemaVersion
    sessionId := event.sessionId
    observedAt := timestamp event.observedAt
    sourceSequence := event.sequence }

def newUpdate (metadata : UpdateMetadata) (eventType : EventType) (update : Update) :
    SubscribeUpdate :=
  { schemaVersion := metadata.schemaVersion
    sessionId := metadata.sessionId
    sequence := 0
    observedAt := some metadata.observedAt
    eventType := eventType.toI32
    filters := []
    sourceSequence := metadata.sourceSequence
    mempoolRevision := none
    update := some update }

section
variable [chain : ZakuraChain]

open ZakuraChain

/-! ## Blocks and best-chain changes -/

def encodeBlock (block : BlockEvent) (finalized : Bool) : Except PluginError BlockUpdate :=
  match block.block.serialized with
  | .error error => .error ⟨s!"failed to encode block: {error}"⟩
  | .ok blockBytes => .ok
    { height := block.height
      hash := blockHashToString block.hash
      block := blockBytes
      receiptOrder := block.receiptOrder
      finalized := finalized
      payload := BlockPayload.full.toI32 }

def encodeCanonicalBlock (block : InterfaceCanonicalBlock) : CanonicalBlock :=
  { height := block.height
    hash := blockHashToString block.hash
    previousBlockHash := blockHashToString block.previousBlockHash }

def encodeBestChain : InterfaceBestChainChange → BestChainUpdate
  | .grow height hash previousBlockHash transactionIds =>
    { height := height
      hash := blockHashToString hash
      change := some (.grow
        { previousBlockHash := blockHashToString previousBlockHash
          transactionIds := transactionIds.map transactionHashToString }) }
  | .reset height hash disconnectedBlocks connectedBlocks diffComplete =>
    { height := height
      hash := blockHashToString hash
      change := some (.reset
        { disconnectedBlocks := disconnectedBlocks.map encodeCanonicalBlock
          connectedBlocks := connectedBlocks.map encodeCanonicalBlock
          diffComplete := diffComplete }) }

/-- `encode_unmined_transaction_id`: the transaction ID, followed by the
authorizing-data digest when there is one. -/
def encodeUnminedTransactionId (transactionId : TransactionHash)
    (authDigest : Option AuthDigest) : String :=
  match authDigest with
  | none => transactionHashToString transactionId
  | some digest => transactionHashToString transactionId ++ authDigestToString digest

/-! ## Transparent inputs and outputs -/

/-- Where the previous output of an input is looked up: by outpoint for a
block, by position for a mempool transaction. -/
inductive PreviousOutputs where
  | block (outputs : AList (fun _ : OutPoint => OrderedUtxo))
  | mempool (outputs : List Output)

structure TransparentEncodingContext where
  network : Network
  previousOutputs : PreviousOutputs
  transactionUpdates : Bool
  utxoUpdates : Bool

structure EncodedPreviousOutput where
  valueZat : Option Nat := none
  lockScript : Option Bytes := none
  address : Option String := none
  height : Option Nat := none
  fromCoinbase : Option Bool := none

def outputAddress (network : Network) (output : Output) : Option String :=
  (scriptAddress network output.lockScript).map addressToString

def encodePreviousOutput (context : TransparentEncodingContext) (outpoint : OutPoint)
    (inputIndex : Nat) : EncodedPreviousOutput :=
  let found : Option (Output × Option Nat × Option Bool) :=
    match context.previousOutputs with
    | .block outputs =>
      (outputs.lookup outpoint).map fun previous =>
        (previous.output, some previous.height, some previous.fromCoinbase)
    | .mempool outputs => outputs[inputIndex]?.map fun previous => (previous, none, none)
  match found with
  | none => {}
  | some (output, height, fromCoinbase) =>
    { valueZat := some output.value
      lockScript := some output.lockScript
      address := outputAddress context.network output
      height := height
      fromCoinbase := fromCoinbase }

/-- The three lists the combined pass fills. -/
structure TransparentLists where
  transactionInputs : List TransparentInput := []
  transactionOutputs : List TransparentOutput := []
  utxoChanges : List UtxoChange := []

/-- `encode_transparent_input`: the lists after one input, and the value the
input adds to the total. -/
def encodeTransparentInput (context : TransparentEncodingContext) (input : Input)
    (inputIndex grpcInputIndex : Nat) (lists : TransparentLists) :
    TransparentLists × Option Nat :=
  match input with
  | .prevOut outpoint unlockScript sequence =>
    let previous := encodePreviousOutput context outpoint inputIndex
    let grpcOutpoint : Outpoint :=
      { transactionId := transactionHashToString outpoint.hash, outputIndex := outpoint.index }
    let lists := if context.transactionUpdates then
        { lists with transactionInputs := lists.transactionInputs ++
            [{ inputIndex := grpcInputIndex
               sequence := sequence
               input := some (.prevout
                { previousOutput := some grpcOutpoint
                  unlockScript := unlockScript
                  previousValueZat := previous.valueZat
                  previousLockScript := previous.lockScript
                  previousAddress := previous.address
                  previousHeight := previous.height
                  previousFromCoinbase := previous.fromCoinbase }) }] }
      else lists
    let lists := if context.utxoUpdates then
        { lists with utxoChanges := lists.utxoChanges ++
            [{ change := some (.spent
                { outpoint := some grpcOutpoint
                  inputIndex := grpcInputIndex
                  unlockScript := unlockScript
                  sequence := sequence
                  previousValueZat := previous.valueZat
                  previousLockScript := previous.lockScript
                  previousAddress := previous.address
                  previousHeight := previous.height
                  previousFromCoinbase := previous.fromCoinbase }) }] }
      else lists
    (lists, previous.valueZat)
  | .coinbase height data sequence =>
    let lists := if context.transactionUpdates then
        { lists with transactionInputs := lists.transactionInputs ++
            [{ inputIndex := grpcInputIndex
               sequence := sequence
               input := some (.coinbase { height := height, data := data }) }] }
      else lists
    (lists, some 0)

/-- `encode_transparent_output`: the lists after one output, and its value. -/
def encodeTransparentOutput (context : TransparentEncodingContext) (output : Output)
    (outputIndex : Nat) (transactionId : String) (lists : TransparentLists) :
    TransparentLists × Nat :=
  let address := outputAddress context.network output
  let lists := if context.transactionUpdates then
      { lists with transactionOutputs := lists.transactionOutputs ++
          [{ outputIndex := outputIndex
             valueZat := output.value
             lockScript := output.lockScript
             address := address }] }
    else lists
  let lists := if context.utxoUpdates then
      { lists with utxoChanges := lists.utxoChanges ++
          [{ change := some (.created
              { outpoint := some { transactionId := transactionId, outputIndex := outputIndex }
                valueZat := output.value
                lockScript := output.lockScript
                address := address }) }] }
    else lists
  (lists, output.value)

/-- The loop over the inputs, from input `inputIndex` on. -/
def encodeTransparentInputs (context : TransparentEncodingContext) :
    List Input → Nat → TransparentLists → Option Nat →
      Except PluginError (TransparentLists × Option Nat)
  | [], _, lists, total => .ok (lists, total)
  | input :: rest, inputIndex, lists, total =>
    if u32Max < inputIndex then
      .error ⟨"input index exceeds the gRPC protocol's u32 range"⟩
    else
      let (lists, inputValueZat) :=
        encodeTransparentInput context input inputIndex inputIndex lists
      match total, inputValueZat with
      | some total, some value =>
        if total + value ≤ u64Max then
          encodeTransparentInputs context rest (inputIndex + 1) lists (some (total + value))
        else
          .error ⟨"transparent input value exceeds the gRPC protocol's u64 range"⟩
      | _, _ => encodeTransparentInputs context rest (inputIndex + 1) lists none

/-- The loop over the outputs, from output `outputIndex` on. -/
def encodeTransparentOutputs (context : TransparentEncodingContext) (transactionId : String) :
    List Output → Nat → TransparentLists → Nat → Except PluginError (TransparentLists × Nat)
  | [], _, lists, total => .ok (lists, total)
  | output :: rest, outputIndex, lists, total =>
    if u32Max < outputIndex then
      .error ⟨"output index exceeds the gRPC protocol's u32 range"⟩
    else
      let (lists, outputValueZat) :=
        encodeTransparentOutput context output outputIndex transactionId lists
      if total + outputValueZat ≤ u64Max then
        encodeTransparentOutputs context transactionId rest (outputIndex + 1) lists
          (total + outputValueZat)
      else
        .error ⟨"transparent output value exceeds the gRPC protocol's u64 range"⟩

structure EncodedTransparentUpdates where
  transactionInputs : List TransparentInput
  transactionOutputs : List TransparentOutput
  utxoChanges : List UtxoChange
  transparentInputValueZat : Option Nat
  transparentOutputValueZat : Nat

def encodeTransparentUpdates (transaction : Transaction) (transactionIdString : String)
    (network : Network) (previousOutputs : PreviousOutputs)
    (transactionUpdates utxoUpdates : Bool) : Except PluginError EncodedTransparentUpdates := do
  let context : TransparentEncodingContext :=
    { network, previousOutputs, transactionUpdates, utxoUpdates }
  let initialTotal := if transactionUpdates || utxoUpdates then some 0 else none
  let (lists, inputTotal) ←
    encodeTransparentInputs context transaction.inputs 0 {} initialTotal
  let (lists, outputTotal) ←
    encodeTransparentOutputs context transactionIdString transaction.outputs 0 lists 0
  return { transactionInputs := lists.transactionInputs
           transactionOutputs := lists.transactionOutputs
           utxoChanges := lists.utxoChanges
           transparentInputValueZat := inputTotal
           transparentOutputValueZat := outputTotal }

/-! ## Transactions -/

def serializeTransaction (transaction : Transaction) : Except PluginError Bytes :=
  match transaction.serialized with
  | .error error => .error ⟨s!"failed to encode transaction: {error}"⟩
  | .ok bytes => .ok bytes

def encodeMempoolTransactionUpdate (metadata : UpdateMetadata) (change : MempoolEvent)
    (verified : VerifiedUnminedTx) : Except PluginError SubscribeUpdate := do
  let transaction := verified.transaction
  let transactionIdString := transactionHashToString transaction.hash
  let encoded ← encodeTransparentUpdates transaction transactionIdString change.network
    (.mempool verified.spentOutputs) true false
  let transactionBytes ← serializeTransaction transaction
  return newUpdate metadata .mempoolTransaction (.mempoolTransaction
    { transactionId := transactionIdString
      unminedTransactionId := encodeUnminedTransactionId transaction.hash transaction.authDigest
      authDigest := transaction.authDigest.map authDigestToString
      transaction := transactionBytes
      network := networkToString change.network
      transparentInputs := encoded.transactionInputs
      transparentOutputs := encoded.transactionOutputs
      version := transaction.version
      lockTime := transaction.rawLockTime
      lockTimeIsTime := transaction.lockTimeIsTime
      expiryHeight := transaction.expiryHeight
      transparentInputValueZat := encoded.transparentInputValueZat
      transparentOutputValueZat := encoded.transparentOutputValueZat
      minerFeeZat := verified.minerFee
      admittedAt := verified.time.map fun time =>
        { seconds := time.timestamp, nanos := time.timestampSubsecNanos }
      admittedHeight := verified.height
      conventionalActions := verified.conventionalActions
      unpaidActions := verified.unpaidActions
      legacySigopCount := verified.legacySigopCount
      p2shSigopCount := verified.p2shSigopCount
      feeWeightRatio := verified.feeWeightRatio
      coinbase := transaction.isCoinbase
      hasTransparent := transaction.hasTransparentInputsOrOutputs
      hasSapling := transaction.hasSaplingShieldedData
      hasOrchard := transaction.hasOrchardShieldedData
      payload := TransactionPayload.full.toI32 })

/-- The transaction update of a block transaction. -/
def blockTransactionUpdate (metadata : UpdateMetadata) (block : BlockEvent)
    (blockHash network : String) (commitment : BlockCommitment) (transactionIndex : Nat)
    (transaction : Transaction) (encoded : EncodedTransparentUpdates)
    (transactionBytes : Bytes) : SubscribeUpdate :=
  newUpdate metadata .transaction (.transaction
    { transactionId := transactionHashToString transaction.hash
      unminedTransactionId := encodeUnminedTransactionId transaction.hash transaction.authDigest
      authDigest := transaction.authDigest.map authDigestToString
      transaction := transactionBytes
      height := block.height
      blockHash := blockHash
      transactionIndex := transactionIndex
      commitment := commitment.toI32
      coinbase := transaction.isCoinbase
      transparentInputs := encoded.transactionInputs
      transparentOutputs := encoded.transactionOutputs
      version := transaction.version
      lockTime := transaction.rawLockTime
      lockTimeIsTime := transaction.lockTimeIsTime
      expiryHeight := transaction.expiryHeight
      network := network
      transparentInputValueZat := encoded.transparentInputValueZat
      transparentOutputValueZat := encoded.transparentOutputValueZat
      hasTransparent := transaction.hasTransparentInputsOrOutputs
      hasSapling := transaction.hasSaplingShieldedData
      hasOrchard := transaction.hasOrchardShieldedData
      payload := TransactionPayload.full.toI32 })

/-- The UTXO update of a block transaction. -/
def blockUtxoUpdate (metadata : UpdateMetadata) (block : BlockEvent) (blockHash : String)
    (commitment : BlockCommitment) (transactionIndex : Nat) (transaction : Transaction)
    (encoded : EncodedTransparentUpdates) : SubscribeUpdate :=
  newUpdate metadata .utxo (.utxo
    { height := block.height
      blockHash := blockHash
      transactionId := transactionHashToString transaction.hash
      transactionIndex := transactionIndex
      commitment := commitment.toI32
      changes := encoded.utxoChanges
      coinbase := transaction.isCoinbase
      version := transaction.version
      hasTransparent := transaction.hasTransparentInputsOrOutputs
      hasSapling := transaction.hasSaplingShieldedData
      hasOrchard := transaction.hasOrchardShieldedData
      transparentInputValueZat := encoded.transparentInputValueZat
      transparentOutputValueZat := encoded.transparentOutputValueZat })

def encodeTransactionUpdates (metadata : UpdateMetadata) (block : BlockEvent)
    (blockHash network : String) (commitment : BlockCommitment)
    (transactionUpdates utxoUpdates : Bool) (transactionIndex : Nat) (transaction : Transaction) :
    Except PluginError (List SubscribeUpdate) :=
  if u32Max < transactionIndex then
    .error ⟨"transaction index exceeds the gRPC protocol's u32 range"⟩
  else do
    let encoded ← encodeTransparentUpdates transaction (transactionHashToString transaction.hash)
      block.network (.block block.spentOutputs) transactionUpdates utxoUpdates
    let utxo := if utxoUpdates && !encoded.utxoChanges.isEmpty then
        [blockUtxoUpdate metadata block blockHash commitment transactionIndex transaction encoded]
      else []
    if transactionUpdates then
      let transactionBytes ← serializeTransaction transaction
      return blockTransactionUpdate metadata block blockHash network commitment transactionIndex
        transaction encoded transactionBytes :: utxo
    else return utxo

/-! ## Events -/

/-- The encoding pool and the batch size from which it is used. -/
structure ParallelEncoding where
  encodingPool : Bool
  minTransactions : Nat

/-- Encodes every element of a batch in order. The pool's mode assumes what Rayon
documents of an indexed `collect`, that it keeps the order of the batch, and that a
batch with several failures reports the first; the source leaves open which. -/
def ParallelEncoding.collect {α β : Type} (parallel : ParallelEncoding)
    (encode : α → Except PluginError β) (batch : List α) : Except PluginError (List β) :=
  if parallel.encodingPool && parallel.minTransactions ≤ batch.length then
    batch.mapM encode
  else
    batch.mapM encode

def appendBlockUpdates (updates : List SubscribeUpdate) (metadata : UpdateMetadata)
    (block : BlockEvent) (commitment : BlockCommitment) (transactionUpdates utxoUpdates : Bool)
    (parallel : ParallelEncoding) : Except PluginError (List SubscribeUpdate) := do
  if !transactionUpdates && !utxoUpdates then
    return updates
  let blockHash := blockHashToString block.hash
  let network := networkToString block.network
  let encoded ← parallel.collect
    (fun (transaction, transactionIndex) => encodeTransactionUpdates metadata block blockHash
      network commitment transactionUpdates utxoUpdates transactionIndex transaction)
    block.block.transactions.zipIdx
  return updates ++ encoded.flatten

def appendMempoolTransactionUpdates (updates : List SubscribeUpdate) (metadata : UpdateMetadata)
    (change : MempoolEvent) (enabled : Bool) (parallel : ParallelEncoding) :
    Except PluginError (List SubscribeUpdate) := do
  if !enabled || change.kind != .added || change.transactions.isEmpty then
    return updates
  let encoded ← parallel.collect (encodeMempoolTransactionUpdate metadata change)
    change.transactions
  return updates ++ encoded

def MempoolEventKind.action : MempoolEventKind → MempoolAction
  | .added => .added
  | .invalidated => .invalidated
  | .mined => .mined

/-- The summary update of a mempool event. -/
def encodeMempoolChanged (metadata : UpdateMetadata) (change : MempoolEvent) : SubscribeUpdate :=
  newUpdate metadata .mempoolChanged (.mempool
    { action := change.kind.action.toI32
      transactionIds := change.transactionIds.map fun transactionId =>
        encodeUnminedTransactionId transactionId.minedId transactionId.authDigest })

def encodeEvent (event : EventEnvelope)
    (transactionUpdates utxoUpdates mempoolTransactionUpdates : Bool)
    (parallel : ParallelEncoding) : Except PluginError (List SubscribeUpdate) := do
  let metadata := UpdateMetadata.new event
  match event.payload with
  | .blockAccepted block =>
    let encoded ← encodeBlock block false
    appendBlockUpdates [newUpdate metadata .blockAccepted (.block encoded)] metadata block
      .accepted transactionUpdates utxoUpdates parallel
  | .blockFinalized block =>
    let encoded ← encodeBlock block true
    appendBlockUpdates [newUpdate metadata .blockFinalized (.block encoded)] metadata block
      .finalized transactionUpdates utxoUpdates parallel
  | .bestChainChanged change =>
    return [newUpdate metadata .bestChainChanged (.bestChain (encodeBestChain change))]
  | .mempoolChanged change =>
    appendMempoolTransactionUpdates [encodeMempoolChanged metadata change] metadata change
      mempoolTransactionUpdates parallel

/-! ## What a successful encoding is -/

omit chain in
/-- Both modes encode every element in order. -/
theorem ParallelEncoding.collect_eq {α β : Type} (parallel : ParallelEncoding)
    (encode : α → Except PluginError β) (batch : List α) :
    parallel.collect encode batch = batch.mapM encode := by
  unfold ParallelEncoding.collect
  exact ite_self _

theorem encodeBlock_height {block : BlockEvent} {finalized : Bool} {encoded : BlockUpdate}
    (h : encodeBlock block finalized = .ok encoded) : encoded.height = block.height := by
  unfold encodeBlock at h
  split at h
  · cases h
  · cases h
    rfl

/-- The UTXO view of a transaction: nothing where there is no change. -/
def blockUtxoView (metadata : UpdateMetadata) (block : BlockEvent) (blockHash : String)
    (commitment : BlockCommitment) (utxoUpdates : Bool) (transactionIndex : Nat)
    (transaction : Transaction) (encoded : EncodedTransparentUpdates) : List SubscribeUpdate :=
  if utxoUpdates && !encoded.utxoChanges.isEmpty then
    [blockUtxoUpdate metadata block blockHash commitment transactionIndex transaction encoded]
  else []

theorem eq_of_mem_blockUtxoView {metadata : UpdateMetadata} {block : BlockEvent}
    {blockHash : String} {commitment : BlockCommitment} {utxo : Bool} {index : Nat}
    {transaction : Transaction} {encoded : EncodedTransparentUpdates} {update : SubscribeUpdate}
    (h : update ∈ blockUtxoView metadata block blockHash commitment utxo index transaction
      encoded) :
    update = blockUtxoUpdate metadata block blockHash commitment index transaction encoded := by
  unfold blockUtxoView at h
  split at h
  · exact List.mem_singleton.mp h
  · cases h

/-- A transaction is encoded as its transaction view, where the flag is on, then
its UTXO view. -/
theorem encodeTransactionUpdates_eq_ok {metadata : UpdateMetadata} {block : BlockEvent}
    {blockHash network : String} {commitment : BlockCommitment} {tx utxo : Bool} {index : Nat}
    {transaction : Transaction} {updates : List SubscribeUpdate} :
    encodeTransactionUpdates metadata block blockHash network commitment tx utxo index
        transaction = .ok updates ↔
      ¬ u32Max < index ∧ ∃ encoded,
        encodeTransparentUpdates transaction (transactionHashToString transaction.hash)
          block.network (.block block.spentOutputs) tx utxo = .ok encoded ∧
        ((tx = true ∧ ∃ bytes, serializeTransaction transaction = .ok bytes ∧
            updates = blockTransactionUpdate metadata block blockHash network commitment index
                transaction encoded bytes ::
              blockUtxoView metadata block blockHash commitment utxo index transaction encoded) ∨
          (tx = false ∧ updates =
            blockUtxoView metadata block blockHash commitment utxo index transaction
              encoded)) := by
  unfold encodeTransactionUpdates
  by_cases hindex : u32Max < index
  · simp [hindex]
  · rw [if_neg hindex, Except.bind_eq_ok]
    cases tx with
    | true =>
      simp only [if_true, Except.bind_eq_ok, Except.pure_eq_ok, eq_comm (b := updates)]
      simp [hindex, blockUtxoView]
    | false =>
      simp only [Bool.false_eq_true, if_false, Except.pure_eq_ok, eq_comm (b := updates)]
      simp [hindex, blockUtxoView]

/-- The updates of a block's transactions come after the block's own, in the
order of the block. -/
theorem appendBlockUpdates_eq_ok {updates updates' : List SubscribeUpdate}
    {metadata : UpdateMetadata} {block : BlockEvent} {commitment : BlockCommitment}
    {tx utxo : Bool} {parallel : ParallelEncoding} :
    appendBlockUpdates updates metadata block commitment tx utxo parallel = .ok updates' ↔
      ((tx || utxo) = false ∧ updates' = updates) ∨
      ((tx || utxo) = true ∧ ∃ parts,
        block.block.transactions.zipIdx.mapM (fun (transaction, transactionIndex) =>
          encodeTransactionUpdates metadata block (blockHashToString block.hash)
            (networkToString block.network) commitment tx utxo transactionIndex transaction) =
          .ok parts ∧
        updates' = updates ++ parts.flatten) := by
  unfold appendBlockUpdates
  dsimp only
  rw [← Bool.not_or, ParallelEncoding.collect_eq]
  cases hany : tx || utxo with
  | true =>
    simp only [Bool.not_true, Bool.false_eq_true, if_false, Except.bind_eq_ok, Except.pure_eq_ok,
      eq_comm (b := updates')]
    simp
  | false =>
    simp only [Bool.not_false, if_true, Except.pure_eq_ok, eq_comm (b := updates')]
    simp

/-- An update is one of those before, or an update of the transaction at an
index. -/
theorem mem_of_appendBlockUpdates {updates updates' : List SubscribeUpdate}
    {metadata : UpdateMetadata} {block : BlockEvent} {commitment : BlockCommitment}
    {tx utxo : Bool} {parallel : ParallelEncoding}
    (h : appendBlockUpdates updates metadata block commitment tx utxo parallel = .ok updates')
    {update : SubscribeUpdate} (hmem : update ∈ updates') :
    update ∈ updates ∨ ∃ index transaction part,
      block.block.transactions[index]? = some transaction ∧
      encodeTransactionUpdates metadata block (blockHashToString block.hash)
        (networkToString block.network) commitment tx utxo index transaction = .ok part ∧
      update ∈ part := by
  rcases appendBlockUpdates_eq_ok.mp h with ⟨-, rfl⟩ | ⟨-, parts, hparts, rfl⟩
  · exact .inl hmem
  · rcases List.mem_append.mp hmem with hmem | hmem
    · exact .inl hmem
    · obtain ⟨part, hpart, hin⟩ := List.mem_flatten.mp hmem
      obtain ⟨⟨transaction, index⟩, hentry, hok⟩ := Except.mapM_mem hparts part hpart
      exact .inr ⟨index, transaction, part, List.mem_zipIdx_iff_getElem?.mp hentry, hok, hin⟩

/-- A block event is its block update, then the updates of its transactions. -/
theorem encodeEvent_block {event : EventEnvelope} {block : BlockEvent}
    (hblock : event.payload = .blockAccepted block ∨ event.payload = .blockFinalized block) :
    ∃ finalized eventType commitment, ∀ tx utxo mempool parallel,
      encodeEvent event tx utxo mempool parallel =
        encodeBlock block finalized >>= fun encoded =>
          appendBlockUpdates [newUpdate (UpdateMetadata.new event) eventType (.block encoded)]
            (UpdateMetadata.new event) block commitment tx utxo parallel := by
  unfold encodeEvent
  rcases hblock with hpayload | hpayload
  · rw [hpayload]
    exact ⟨false, .blockAccepted, .accepted, fun _ _ _ _ => rfl⟩
  · rw [hpayload]
    exact ⟨true, .blockFinalized, .finalized, fun _ _ _ _ => rfl⟩

/-- A mempool transaction is encoded as an update under its mined ID. -/
theorem exists_of_encodeMempoolTransactionUpdate {metadata : UpdateMetadata}
    {change : MempoolEvent} {verified : VerifiedUnminedTx} {update : SubscribeUpdate}
    (h : encodeMempoolTransactionUpdate metadata change verified = .ok update) :
    ∃ transaction, update = newUpdate metadata .mempoolTransaction
        (.mempoolTransaction transaction) ∧
      transaction.transactionId = transactionHashToString verified.transaction.hash := by
  unfold encodeMempoolTransactionUpdate at h
  obtain ⟨encoded, -, h⟩ := Except.bind_eq_ok.mp h
  obtain ⟨bytes, -, h⟩ := Except.bind_eq_ok.mp h
  rw [Except.pure_eq_ok] at h
  exact ⟨_, h.symm, rfl⟩

/-- An admission is followed by the updates of its transactions, in their
order. -/
theorem appendMempoolTransactionUpdates_eq_ok {updates updates' : List SubscribeUpdate}
    {metadata : UpdateMetadata} {change : MempoolEvent} {enabled : Bool}
    {parallel : ParallelEncoding} :
    appendMempoolTransactionUpdates updates metadata change enabled parallel = .ok updates' ↔
      ((!enabled || change.kind != .added || change.transactions.isEmpty) = true ∧
        updates' = updates) ∨
      ((!enabled || change.kind != .added || change.transactions.isEmpty) = false ∧
        ∃ encoded, change.transactions.mapM (encodeMempoolTransactionUpdate metadata change) =
            .ok encoded ∧
          updates' = updates ++ encoded) := by
  unfold appendMempoolTransactionUpdates
  rw [ParallelEncoding.collect_eq]
  cases hskip : !enabled || change.kind != .added || change.transactions.isEmpty with
  | true =>
    simp only [if_true, Except.pure_eq_ok, eq_comm (b := updates')]
    simp
  | false =>
    simp only [Bool.false_eq_true, if_false, Except.bind_eq_ok, Except.pure_eq_ok,
      eq_comm (b := updates')]
    simp

/-! ## One event, one height -/

/-- All updates are block-scoped at one height. -/
def AtHeight (height : Nat) (updates : List SubscribeUpdate) : Prop :=
  ∀ update ∈ updates, blockHeight update = some height

/-- No update is block-scoped. -/
def NotBlockScoped (updates : List SubscribeUpdate) : Prop :=
  ∀ update ∈ updates, blockHeight update = none

theorem encodeTransactionUpdates_atHeight {metadata : UpdateMetadata} {block : BlockEvent}
    {blockHash network : String} {commitment : BlockCommitment} {tx utxo : Bool} {index : Nat}
    {transaction : Transaction} {updates : List SubscribeUpdate}
    (h : encodeTransactionUpdates metadata block blockHash network commitment tx utxo index
      transaction = .ok updates) : AtHeight block.height updates := by
  obtain ⟨-, encoded, -, ⟨-, bytes, -, rfl⟩ | ⟨-, rfl⟩⟩ := encodeTransactionUpdates_eq_ok.mp h
  · intro update hmem
    rcases List.mem_cons.mp hmem with rfl | hmem
    · rfl
    · rw [eq_of_mem_blockUtxoView hmem]
      rfl
  · intro update hmem
    rw [eq_of_mem_blockUtxoView hmem]
    rfl

/-- The updates of a block event are at the height of the block. -/
theorem encodeEvent_atHeight {event : EventEnvelope} {block : BlockEvent}
    (hblock : event.payload = .blockAccepted block ∨ event.payload = .blockFinalized block)
    {tx utxo mempool : Bool} {parallel : ParallelEncoding} {updates : List SubscribeUpdate}
    (h : encodeEvent event tx utxo mempool parallel = .ok updates) :
    AtHeight block.height updates := by
  obtain ⟨finalized, eventType, commitment, hencode⟩ := encodeEvent_block hblock
  rw [hencode] at h
  obtain ⟨encoded, hencoded, h⟩ := Except.bind_eq_ok.mp h
  intro update hmem
  rcases mem_of_appendBlockUpdates h hmem with hmem | ⟨_, _, part, -, hpart, hin⟩
  · rw [List.mem_singleton.mp hmem]
    exact congrArg some (encodeBlock_height hencoded)
  · exact encodeTransactionUpdates_atHeight hpart update hin

/-- **One source event, one height.** The updates of an event are block-scoped
at one height, or none of them is. -/
theorem encodeEvent_oneHeight {event : EventEnvelope} {tx utxo mempool : Bool}
    {parallel : ParallelEncoding} {updates : List SubscribeUpdate}
    (h : encodeEvent event tx utxo mempool parallel = .ok updates) :
    (∃ height, AtHeight height updates) ∨ NotBlockScoped updates := by
  cases hpayload : event.payload with
  | blockAccepted block => exact .inl ⟨_, encodeEvent_atHeight (.inl hpayload) h⟩
  | blockFinalized block => exact .inl ⟨_, encodeEvent_atHeight (.inr hpayload) h⟩
  | bestChainChanged change =>
    have hsingle : ∀ {update : SubscribeUpdate} {height : Nat},
        blockHeight update = some height → AtHeight height [update] := by
      intro update height hheight u hu
      rw [List.mem_singleton.mp hu]
      exact hheight
    unfold encodeEvent at h
    simp only [hpayload, Except.pure_eq_ok] at h
    subst h
    cases change with
    | grow height _ _ _ => exact .inl ⟨height, hsingle rfl⟩
    | reset height _ _ _ _ => exact .inl ⟨height, hsingle rfl⟩
  | mempoolChanged change =>
    have hsummary : NotBlockScoped [encodeMempoolChanged (UpdateMetadata.new event) change] := by
      intro update hmem
      rw [List.mem_singleton.mp hmem]
      rfl
    unfold encodeEvent at h
    simp only [hpayload] at h
    rcases appendMempoolTransactionUpdates_eq_ok.mp h with ⟨-, rfl⟩ | ⟨-, encoded, hencoded, rfl⟩
    · exact .inr hsummary
    · refine .inr fun update hmem => ?_
      rcases List.mem_append.mp hmem with hmem | hmem
      · exact hsummary update hmem
      · obtain ⟨verified, -, hok⟩ := Except.mapM_mem hencoded update hmem
        obtain ⟨transaction, rfl, -⟩ := exists_of_encodeMempoolTransactionUpdate hok
        rfl

end

end ZakuraGrpc
