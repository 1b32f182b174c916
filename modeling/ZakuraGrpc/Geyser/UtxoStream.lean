import ZakuraGrpc.Lib.Ledger
import ZakuraGrpc.Geyser.Transparent

/-!
# The UTXO stream of a block

The changes of the UTXO updates of a block, folded in order over any map from
outpoints to outputs, are the block's transactions applied in order
(`encodeEvent_utxoStream`). A transaction is a ledger step: it erases the
outpoints of its inputs and inserts its outputs.
-/

namespace ZakuraGrpc

open Ledger

/-! ## Folding the stream -/

/-- An output as the stream shows it. -/
structure UtxoEntry where
  valueZat : Nat
  lockScript : Bytes
  address : Option String
  deriving DecidableEq

/-- A spent change removes its outpoint, a created one inserts it. -/
def applyChange (map : Outpoint → Option UtxoEntry) (change : UtxoChange) :
    Outpoint → Option UtxoEntry :=
  match change.change with
  | some (.spent spent) =>
    match spent.outpoint with
    | some outpoint => Ledger.erase map outpoint
    | none => map
  | some (.created created) =>
    match created.outpoint with
    | some outpoint => Ledger.insert map
      (outpoint, ⟨created.valueZat, created.lockScript, created.address⟩)
    | none => map
  | none => map

/-- The UTXO updates of a list of updates. -/
def utxoStream (updates : List SubscribeUpdate) : List UtxoUpdate :=
  updates.filterMap fun update =>
    match update.update with
    | some (.utxo utxo) => some utxo
    | _ => none

def applyStream (map : Outpoint → Option UtxoEntry) (stream : List UtxoUpdate) :
    Outpoint → Option UtxoEntry :=
  stream.foldl (fun map utxo => utxo.changes.foldl applyChange map) map

/-! ## The transactions as a ledger -/

/-- The outpoint that an input spends. -/
def Input.outpoint : Input → Option OutPoint
  | .prevOut outpoint _ _ => some outpoint
  | .coinbase _ _ _ => none

/-- The transition of a transaction: the outpoints of its inputs in order, then
its outputs by index. -/
def Transaction.step (transaction : Transaction) : Step OutPoint Output :=
  { erases := transaction.inputs.filterMap Input.outpoint
    inserts := transaction.outputs.zipIdx.map fun (output, outputIndex) =>
      (⟨transaction.hash, outputIndex⟩, output) }

section
variable [ZakuraChain]

open ZakuraChain

def utxoEntry (network : Network) (output : Output) : UtxoEntry :=
  ⟨output.value, output.lockScript, outputAddress network output⟩

/-- The transitions of a block, over the outpoints of the protocol. -/
def blockSteps (block : BlockEvent) : List (Step Outpoint UtxoEntry) :=
  block.block.transactions.map fun transaction =>
    transaction.step.rename grpcOutpoint (utxoEntry block.network)

/-- The context in which a block's transactions are encoded. -/
def blockContext (block : BlockEvent) (transactionUpdates : Bool) : TransparentEncodingContext :=
  { network := block.network
    previousOutputs := .block block.spentOutputs
    transactionUpdates := transactionUpdates
    utxoUpdates := true }

/-- The changes of a transaction, each at its position. -/
def blockChanges (block : BlockEvent) (transaction : Transaction) : List UtxoChange :=
  transparentChanges (blockContext block true) transaction
    (transactionHashToString transaction.hash)

/-- The flag of the other view does not show in the changes. -/
theorem transparentChanges_blockContext (block : BlockEvent) (transactionUpdates : Bool)
    (transaction : Transaction) (transactionId : String) :
    transparentChanges (blockContext block transactionUpdates) transaction transactionId =
      transparentChanges (blockContext block true) transaction transactionId := by
  have hspent : spentChange (blockContext block transactionUpdates) =
      spentChange (blockContext block true) := by
    funext input inputIndex
    cases input <;> rfl
  unfold transparentChanges spentChangesFrom
  rw [hspent]
  rfl

/-- The spent changes erase the outpoints of the inputs. -/
theorem foldl_spentChanges (context : TransparentEncodingContext) (inputs : List Input)
    (start : Nat) (map : Outpoint → Option UtxoEntry) :
    (spentChangesFrom context inputs start).foldl applyChange map =
      ((inputs.filterMap Input.outpoint).map grpcOutpoint).foldl Ledger.erase map := by
  induction inputs generalizing start map with
  | nil => rfl
  | cons input rest ih =>
    have hrest := ih (start + 1)
    unfold spentChangesFrom at hrest ⊢
    rw [List.zipIdx_cons]
    cases input with
    | prevOut outpoint unlockScript sequence =>
      exact hrest (Ledger.erase map (grpcOutpoint outpoint))
    | coinbase height data sequence => exact hrest map

/-- The created changes insert the outputs. -/
theorem foldl_createdChanges (network : Network) (hash : TransactionHash)
    (outputs : List Output) (start : Nat) (map : Outpoint → Option UtxoEntry) :
    (createdChangesFrom network (transactionHashToString hash) outputs start).foldl
        applyChange map =
      (((outputs.zipIdx start).map fun (output, outputIndex) =>
        ((⟨hash, outputIndex⟩ : OutPoint), output)).map fun entry =>
          (grpcOutpoint entry.1, utxoEntry network entry.2)).foldl Ledger.insert map := by
  induction outputs generalizing start map with
  | nil => rfl
  | cons output rest ih =>
    have hrest := ih (start + 1)
    unfold createdChangesFrom at hrest ⊢
    rw [List.zipIdx_cons]
    exact hrest (Ledger.insert map
      (grpcOutpoint ⟨hash, start⟩, utxoEntry network output))

/-- **The changes of a transaction are its step.** -/
theorem foldl_blockChanges (block : BlockEvent) (transaction : Transaction)
    (map : Outpoint → Option UtxoEntry) :
    (blockChanges block transaction).foldl applyChange map =
      Ledger.apply map (transaction.step.rename grpcOutpoint (utxoEntry block.network)) := by
  unfold blockChanges transparentChanges
  rw [List.foldl_append, foldl_spentChanges, foldl_createdChanges]
  rfl

/-! ## The stream of a block -/

/-- What the stream says of the transaction at an index: nothing where it has no
transparent effect. -/
def positioned (block : BlockEvent) (entry : Transaction × Nat) :
    Option (Nat × String × List UtxoChange) :=
  let changes := blockChanges block entry.1
  if changes.isEmpty then none
  else some (entry.2, transactionHashToString entry.1.hash, changes)

/-- Index, ID and changes of the stream's updates. -/
def positions (stream : List UtxoUpdate) : List (Nat × String × List UtxoChange) :=
  stream.map fun utxo => (utxo.transactionIndex, utxo.transactionId, utxo.changes)

theorem positions_encodeTransactionUpdates {metadata : UpdateMetadata} {block : BlockEvent}
    {blockHash network : String} {commitment : BlockCommitment} {transactionUpdates : Bool}
    {index : Nat} {transaction : Transaction} {updates : List SubscribeUpdate}
    (h : encodeTransactionUpdates metadata block blockHash network commitment transactionUpdates
      true index transaction = .ok updates) :
    positions (utxoStream updates) = (positioned block (transaction, index)).toList := by
  obtain ⟨-, encoded, hencoded, hupdates⟩ := encodeTransactionUpdates_eq_ok.mp h
  have hchanges : encoded.utxoChanges = blockChanges block transaction :=
    (lists_encodeTransparentUpdates hencoded).2.2.trans
      (transparentChanges_blockContext block transactionUpdates transaction _)
  have hutxo : positions (utxoStream (blockUtxoView metadata block blockHash commitment true
      index transaction encoded)) = (positioned block (transaction, index)).toList := by
    unfold positioned blockUtxoView
    dsimp only
    rw [← hchanges]
    cases encoded.utxoChanges.isEmpty <;> rfl
  rcases hupdates with ⟨-, bytes, -, rfl⟩ | ⟨-, rfl⟩
  · exact hutxo
  · exact hutxo

theorem positions_appendBlockUpdates {first : SubscribeUpdate} {metadata : UpdateMetadata}
    {block : BlockEvent} {commitment : BlockCommitment} {transactionUpdates : Bool}
    {parallel : ParallelEncoding} {updates : List SubscribeUpdate}
    (h : appendBlockUpdates [first] metadata block commitment transactionUpdates true parallel =
      .ok updates) (hfirst : utxoStream [first] = []) :
    positions (utxoStream updates) =
      block.block.transactions.zipIdx.filterMap (positioned block) := by
  obtain ⟨hoff, -⟩ | ⟨-, encoded, hencoded, rfl⟩ := appendBlockUpdates_eq_ok.mp h
  · rw [Bool.or_true] at hoff
    cases hoff
  rw [Except.mapM_eq_ok] at hencoded
  clear h
  have hparts : positions (utxoStream encoded.flatten) =
      block.block.transactions.zipIdx.filterMap (positioned block) := by
    generalize block.block.transactions.zipIdx = entries at hencoded ⊢
    induction hencoded with
    | nil => rfl
    | @cons entry part entries parts hpart hparts ih =>
      have hhead := positions_encodeTransactionUpdates hpart
      unfold positions utxoStream at hhead ih ⊢
      rw [List.flatten_cons, List.filterMap_append, List.map_append, hhead, ih]
      cases hposition : positioned block entry <;> simp [hposition]
  unfold utxoStream at hfirst hparts ⊢
  rw [List.filterMap_append, hfirst, List.nil_append]
  exact hparts

theorem grpcOutpoint_injective (hinjective : Function.Injective transactionHashToString) :
    Function.Injective grpcOutpoint := by
  intro outpoint outpoint' heq
  obtain ⟨hash, index⟩ := outpoint
  obtain ⟨hash', index'⟩ := outpoint'
  simp only [grpcOutpoint, Outpoint.mk.injEq] at heq
  obtain ⟨hhash, rfl⟩ := heq
  rw [hinjective hhash]

/-- Skipped transactions have no effect on the ledger. -/
theorem applyStream_of_positions {block : BlockEvent} {stream : List UtxoUpdate}
    (h : positions stream = block.block.transactions.zipIdx.filterMap (positioned block))
    (map : Outpoint → Option UtxoEntry) :
    applyStream map stream = Ledger.run (blockSteps block) map := by
  have hstream : applyStream map stream =
      (positions stream).foldl (fun map entry => entry.2.2.foldl applyChange map) map := by
    rw [positions, List.foldl_map]
    rfl
  have hskip : ∀ (entries : List (Transaction × Nat)) (map : Outpoint → Option UtxoEntry),
      (entries.filterMap (positioned block)).foldl
          (fun map entry => entry.2.2.foldl applyChange map) map =
        Ledger.run ((entries.map (·.1)).map fun transaction =>
          transaction.step.rename grpcOutpoint (utxoEntry block.network)) map := by
    intro entries
    induction entries with
    | nil => exact fun map => rfl
    | cons entry rest ih =>
      intro map
      have hstep := foldl_blockChanges block entry.1 map
      rw [List.map_cons, List.map_cons, Ledger.run, List.foldl_cons, ← hstep]
      cases hempty : (blockChanges block entry.1).isEmpty with
      | true =>
        have hposition : positioned block entry = none := by
          unfold positioned
          dsimp only
          rw [hempty]
          rfl
        rw [List.filterMap_cons_none hposition, ih, List.isEmpty_iff.mp hempty]
        rfl
      | false =>
        have hposition : positioned block entry =
            some (entry.2, transactionHashToString entry.1.hash, blockChanges block entry.1) := by
          unfold positioned
          dsimp only
          rw [hempty]
          rfl
        rw [List.filterMap_cons_some hposition, List.foldl_cons, ih]
        rfl
  rw [hstream, h, hskip, List.zipIdx_map_fst]
  rfl

/-- What the UTXO stream of a block is: each transaction with transparent
effects, at its index and with its changes at their positions; and the fold of
the stream is the block, over the outpoints of the protocol and over those of
the chain. -/
structure IsUtxoStream (block : BlockEvent) (stream : List UtxoUpdate) : Prop where
  positions : positions stream = block.block.transactions.zipIdx.filterMap (positioned block)
  ledger : ∀ map, applyStream map stream = Ledger.run (blockSteps block) map
  represents : Function.Injective transactionHashToString → ∀ (set : OutPoint → Option Output)
    (map : Outpoint → Option UtxoEntry),
    Represents grpcOutpoint (utxoEntry block.network) set map →
    Represents grpcOutpoint (utxoEntry block.network)
      (Ledger.run (block.block.transactions.map Transaction.step) set) (applyStream map stream)

/-- **The UTXO stream refines the block's transparent transition.** -/
theorem encodeEvent_utxoStream {event : EventEnvelope} {block : BlockEvent}
    (hblock : event.payload = .blockAccepted block ∨ event.payload = .blockFinalized block)
    {transactionUpdates mempoolTransactionUpdates : Bool} {parallel : ParallelEncoding}
    {updates : List SubscribeUpdate}
    (h : encodeEvent event transactionUpdates true mempoolTransactionUpdates parallel =
      .ok updates) : IsUtxoStream block (utxoStream updates) := by
  have hpositions : positions (utxoStream updates) =
      block.block.transactions.zipIdx.filterMap (positioned block) := by
    obtain ⟨finalized, eventType, commitment, hencode⟩ := encodeEvent_block hblock
    rw [hencode] at h
    obtain ⟨encoded, -, h⟩ := Except.bind_eq_ok.mp h
    exact positions_appendBlockUpdates h rfl
  refine ⟨hpositions, applyStream_of_positions hpositions, fun hinjective set map hset => ?_⟩
  rw [applyStream_of_positions hpositions, blockSteps]
  have hrun := hset.run (grpcOutpoint_injective hinjective)
    (block.block.transactions.map Transaction.step)
  rwa [List.map_map] at hrun

end

theorem encodeEvent_utxoStream_sample : ∃ updates,
    @encodeEvent hexChain sampleEvent true true true ⟨false, 1⟩ = .ok updates ∧
      @IsUtxoStream hexChain sampleBlockEvent (utxoStream updates) :=
  ⟨_, rfl, @encodeEvent_utxoStream hexChain sampleEvent sampleBlockEvent (.inl rfl) true true
    ⟨false, 1⟩ _ rfl⟩

end ZakuraGrpc
