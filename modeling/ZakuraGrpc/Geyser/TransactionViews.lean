import ZakuraGrpc.Geyser.NamedFilters
import ZakuraGrpc.Geyser.Transparent

/-!
# Two views of one transaction

A block transaction is published as a transaction update and as a UTXO update.
A named filter that selects both kinds gives them the same verdict
(`views_same_verdict`): the two updates have the same height, IDs, facts and
transparent addresses, the latter from different lists.
-/

namespace ZakuraGrpc

/-! ## Kinds -/

/-- The codes of the known event types. -/
theorem EventType.ofI32?_bound {code : Int} {eventType : EventType}
    (h : EventType.ofI32? code = some eventType) : 0 ≤ code ∧ code < 64 := by
  unfold EventType.ofI32? at h
  split at h <;> first | omega | cases h

/-- The bits of a kind mask are the listed event types. -/
theorem compileKinds_testBit {eventTypes : List Int} {start kinds : Nat}
    (h : compileKinds eventTypes start = .ok kinds) (bit : Nat) :
    kinds.testBit bit = true ↔ start.testBit bit = true ∨ (bit : Int) ∈ eventTypes := by
  induction eventTypes generalizing start with
  | nil =>
    cases h
    simp
  | cons kind rest ih =>
    unfold compileKinds at h
    split at h
    · cases h
    · cases h
    rename_i eventType _ htype
    obtain ⟨hlow, hhigh⟩ := EventType.ofI32?_bound htype
    have hbit : (eventTypeBit kind).getD 0 = 2 ^ kind.toNat := by
      rw [eventTypeBit, if_pos ⟨hlow, hhigh⟩, Option.getD_some]
    have hkind : kind.toNat = bit ↔ (bit : Int) = kind := by
      omega
    rw [ih h, hbit, Nat.testBit_or, Bool.or_eq_true, Nat.testBit_two_pow, decide_eq_true_eq,
      hkind, List.mem_cons, or_assoc]

/-- A mask of no event types, or of this one, selects its updates. -/
theorem kindMatches_of_mem {eventTypes : List Int} {kinds : Nat}
    (h : compileKinds eventTypes 0 = .ok kinds) {eventType : EventType}
    (hmem : eventTypes = [] ∨ eventType.toI32 ∈ eventTypes) :
    (kinds == 0 || (eventTypeBit eventType.toI32).any (kinds &&& · != 0)) = true := by
  rcases hmem with rfl | hmem
  · cases h
    rfl
  · have hcode : eventType.toI32 = (eventType.toI32.toNat : Int) ∧ eventType.toI32 < 64 := by
      cases eventType <;> decide
    have hbit : eventTypeBit eventType.toI32 = some (2 ^ eventType.toI32.toNat) := by
      rw [eventTypeBit, if_pos ⟨by omega, hcode.2⟩]
    have htest : kinds.testBit eventType.toI32.toNat = true := by
      rw [compileKinds_testBit h, ← hcode.1]
      exact .inr hmem
    have hand : kinds &&& 2 ^ eventType.toI32.toNat ≠ 0 := by
      intro hzero
      have hzero' := congrArg (Nat.testBit · eventType.toI32.toNat) hzero
      simp only [Nat.testBit_and, htest, Nat.testBit_two_pow_self, Nat.zero_testBit,
        Bool.and_self] at hzero'
      cases hzero'
    rw [hbit, Option.any_some, Bool.or_eq_true]
    exact .inr (by simpa using hand)

/-! ## Updates that filters cannot tell apart -/

/-- The updates agree in all that a filter reads beyond the event type. -/
structure SameView (update update' : SubscribeUpdate) : Prop where
  height : blockHeight update = blockHeight update'
  ids : ∀ transactionIds, updateMatchesTransactionId update transactionIds =
    updateMatchesTransactionId update' transactionIds
  addresses : updateTransparentAddresses update = updateTransparentAddresses update'
  facts : updateTransactionFacts update = updateTransactionFacts update'

theorem SameView.verdict {update update' : SubscribeUpdate} (h : SameView update update')
    {filter : CompiledFilter}
    (hkind : (filter.kinds == 0 || (eventTypeBit update.eventType).any
      (filter.kinds &&& · != 0)) = true)
    (hkind' : (filter.kinds == 0 || (eventTypeBit update'.eventType).any
      (filter.kinds &&& · != 0)) = true) :
    filter.verdict update = filter.verdict update' := by
  unfold CompiledFilter.verdict CompiledFilter.matches UpdateContext.new
  dsimp only
  rw [hkind, hkind', h.height, h.ids, h.addresses, h.facts]

section
variable [ZakuraChain]

open ZakuraChain

/-! ## The two views -/

/-- The addresses of the inputs and outputs are those of the changes. -/
theorem addresses_eq (context : TransparentEncodingContext) (transaction : Transaction)
    (transactionId : String) :
    (transactionInputsFrom context transaction.inputs 0).filterMap previousAddress ++
        (transactionOutputsFrom context.network transaction.outputs 0).filterMap (·.address) =
      (transparentChanges context transaction transactionId).filterMap changeAddress := by
  have hinput : ∀ entry : Input × Nat,
      previousAddress (transactionInput context entry.1 entry.2) =
        (spentChange context entry.1 entry.2).bind changeAddress := by
    intro entry
    obtain ⟨input, inputIndex⟩ := entry
    cases input <;> rfl
  unfold transparentChanges transactionInputsFrom transactionOutputsFrom spentChangesFrom
    createdChangesFrom
  rw [List.filterMap_append, List.filterMap_map, List.filterMap_map, List.filterMap_map,
    List.filterMap_filterMap]
  congr 1
  exact List.filterMap_congr fun entry _ => hinput entry

/-- The two updates of a transaction are views of the same thing. -/
theorem sameView_of_encoded {metadata : UpdateMetadata} {block : BlockEvent}
    {blockHash network : String} {commitment : BlockCommitment} {index : Nat}
    {transaction : Transaction} {encoded : EncodedTransparentUpdates}
    (h : encodeTransparentUpdates transaction (transactionHashToString transaction.hash)
      block.network (.block block.spentOutputs) true true = .ok encoded) (bytes : Bytes) :
    SameView
      (blockTransactionUpdate metadata block blockHash network commitment index transaction
        encoded bytes)
      (blockUtxoUpdate metadata block blockHash commitment index transaction encoded) := by
  obtain ⟨hinputs, houtputs, hchanges⟩ := lists_encodeTransparentUpdates h
  refine ⟨rfl, fun _ => rfl, ?_, rfl⟩
  simp only [updateTransparentAddresses, blockTransactionUpdate, blockUtxoUpdate, newUpdate]
  rw [hinputs, houtputs, hchanges, listIf_true, listIf_true, listIf_true]
  exact congrArg some (addresses_eq _ transaction _)

/-- Where an update of a block event comes from: the block, or one of the two
views of the transaction at an index. -/
def FromTransaction (event : EventEnvelope) (block : BlockEvent) (commitment : BlockCommitment)
    (update : SubscribeUpdate) : Prop :=
  ∃ index transaction encoded bytes,
    block.block.transactions[index]? = some transaction ∧
    encodeTransparentUpdates transaction (transactionHashToString transaction.hash)
      block.network (.block block.spentOutputs) true true = .ok encoded ∧
    (update = blockTransactionUpdate (UpdateMetadata.new event) block
        (blockHashToString block.hash) (networkToString block.network) commitment index
        transaction encoded bytes ∨
      update = blockUtxoUpdate (UpdateMetadata.new event) block (blockHashToString block.hash)
        commitment index transaction encoded)

theorem fromTransaction_of_mem {event : EventEnvelope} {block : BlockEvent}
    {commitment : BlockCommitment} {index : Nat} {transaction : Transaction}
    (hindex : block.block.transactions[index]? = some transaction)
    {updates : List SubscribeUpdate}
    (h : encodeTransactionUpdates (UpdateMetadata.new event) block
      (blockHashToString block.hash) (networkToString block.network) commitment true true index
      transaction = .ok updates) {update : SubscribeUpdate} (hmem : update ∈ updates) :
    FromTransaction event block commitment update := by
  obtain ⟨-, encoded, hencoded, ⟨-, bytes, -, rfl⟩ | ⟨⟨⟩, -⟩⟩ :=
    encodeTransactionUpdates_eq_ok.mp h
  refine ⟨index, transaction, encoded, bytes, hindex, hencoded, ?_⟩
  rcases List.mem_cons.mp hmem with rfl | hmem
  · exact .inl rfl
  · exact .inr (eq_of_mem_blockUtxoView hmem)

theorem mem_encodeEvent {event : EventEnvelope} {block : BlockEvent}
    (hblock : event.payload = .blockAccepted block ∨ event.payload = .blockFinalized block)
    {mempoolTransactionUpdates : Bool} {parallel : ParallelEncoding}
    {updates : List SubscribeUpdate}
    (h : encodeEvent event true true mempoolTransactionUpdates parallel = .ok updates) :
    ∃ commitment, ∀ update ∈ updates, (∃ encoded, update.update = some (.block encoded)) ∨
      FromTransaction event block commitment update := by
  obtain ⟨finalized, eventType, commitment, hencode⟩ := encodeEvent_block hblock
  rw [hencode] at h
  obtain ⟨encoded, -, h⟩ := Except.bind_eq_ok.mp h
  refine ⟨commitment, fun update hmem => ?_⟩
  rcases mem_of_appendBlockUpdates h hmem with hmem | ⟨index, transaction, part, hat, hok, hin⟩
  · rw [List.mem_singleton.mp hmem]
    exact .inl ⟨encoded, rfl⟩
  · exact .inr (fromTransaction_of_mem hat hok hin)

/-! ## The same verdict -/

/-- **Both views get the same verdict** from every named filter that selects
both kinds. -/
theorem views_same_verdict {event : EventEnvelope} {block : BlockEvent}
    (hblock : event.payload = .blockAccepted block ∨ event.payload = .blockFinalized block)
    {mempoolTransactionUpdates : Bool} {parallel : ParallelEncoding}
    {updates : List SubscribeUpdate}
    (h : encodeEvent event true true mempoolTransactionUpdates parallel = .ok updates)
    {request : SubscribeRequest} {limits : FilterLimits} {filter : EventFilter}
    (hfilter : EventFilter.new request limits = .ok filter) {name : String}
    {source : SubscribeRequestFilter} (hsource : request.filters.lookup name = some source)
    (htypes : source.eventTypes = [] ∨ EventType.transaction.toI32 ∈ source.eventTypes ∧
      EventType.utxo.toI32 ∈ source.eventTypes)
    {transactionUpdate utxoUpdate : SubscribeUpdate} (htransaction : transactionUpdate ∈ updates)
    (hutxo : utxoUpdate ∈ updates) {transaction : TransactionUpdate} {utxo : UtxoUpdate}
    (hview : transactionUpdate.update = some (.transaction transaction))
    (hview' : utxoUpdate.update = some (.utxo utxo))
    (hindex : transaction.transactionIndex = utxo.transactionIndex) :
    name ∈ filter.matchedNames transactionUpdate ↔ name ∈ filter.matchedNames utxoUpdate := by
  obtain ⟨compiled, hcompiles, hmatched⟩ :=
    (EventFilter.new_eq_ok.mp hfilter).mem_matchedNames_iff hsource
  obtain ⟨commitment, hmem⟩ := mem_encodeEvent hblock h
  have hkinds := (CompiledFilter.fromProto_isCompiled hcompiles.filter).kinds
  obtain ⟨_, source₁, encoded, bytes, hat, hencoded, rfl | rfl⟩ :=
    (hmem transactionUpdate htransaction).resolve_left (by
      rintro ⟨block, hother⟩
      rw [hview] at hother
      cases hother)
  · obtain ⟨_, source₂, encoded', _, hat', hencoded', rfl | rfl⟩ :=
      (hmem utxoUpdate hutxo).resolve_left (by
        rintro ⟨block, hother⟩
        rw [hview'] at hother
        cases hother)
    · cases hview'
    · -- The index fixes the transaction, and the transaction its encoding.
      cases hview
      cases hview'
      dsimp only at hindex
      subst hindex
      rw [hat] at hat'
      cases hat'
      rw [hencoded] at hencoded'
      cases hencoded'
      rw [hmatched, hmatched, (sameView_of_encoded hencoded bytes).verdict
        (kindMatches_of_mem hkinds (htypes.imp_right And.left))
        (kindMatches_of_mem hkinds (htypes.imp_right And.right))]
  · cases hview

end

/-- The block whose second transaction is a payment to the wallet. -/
def samplePaymentEvent : EventEnvelope :=
  { sampleEvent with payload := .blockAccepted samplePaymentBlock }

/-- A transaction and a UTXO update with one index. -/
def areViews (transactionUpdate utxoUpdate : SubscribeUpdate) : Bool :=
  match transactionUpdate.update, utxoUpdate.update with
  | some (.transaction transaction), some (.utxo utxo) =>
    transaction.transactionIndex == utxo.transactionIndex
  | _, _ => false

/-- The transaction and the UTXO update of the payment, and the wallet's filter. -/
theorem views_same_verdict_sample : ∃ updates transactionUpdate utxoUpdate filter,
    @encodeEvent addressChain samplePaymentEvent true true true ⟨false, 1⟩ = .ok updates ∧
      updates[3]? = some transactionUpdate ∧ updates[4]? = some utxoUpdate ∧
      @EventFilter.new addressChain sampleNamedRequest {} = .ok filter ∧
      "wallet" ∈ filter.matchedNames transactionUpdate ∧
      ("wallet" ∈ filter.matchedNames transactionUpdate ↔
        "wallet" ∈ filter.matchedNames utxoUpdate) := by
  obtain ⟨updates, hupdates, hviews⟩ : ∃ updates,
      @encodeEvent addressChain samplePaymentEvent true true true ⟨false, 1⟩ = .ok updates ∧
      ((updates[3]?).any fun transactionUpdate => (updates[4]?).any fun utxoUpdate =>
        areViews transactionUpdate utxoUpdate &&
          (@EventFilter.new addressChain sampleNamedRequest {}).toOption.any fun filter =>
            decide ("wallet" ∈ filter.matchedNames transactionUpdate)) = true :=
    Except.exists_of_any (by decide +kernel)
  obtain ⟨transactionUpdate, htransaction, hviews⟩ := (Option.any_eq_true _ _).mp hviews
  obtain ⟨utxoUpdate, hutxo, hviews⟩ := (Option.any_eq_true _ _).mp hviews
  obtain ⟨hviews, hfilter⟩ := Bool.and_eq_true_iff.mp hviews
  obtain ⟨filter, hnew, hmatched⟩ := Except.exists_of_any hfilter
  unfold areViews at hviews
  split at hviews
  · rename_i transaction utxo hview hview'
    exact ⟨updates, transactionUpdate, utxoUpdate, filter, hupdates, htransaction, hutxo, hnew,
      of_decide_eq_true hmatched,
      @views_same_verdict addressChain samplePaymentEvent samplePaymentBlock (.inl rfl) true
        ⟨false, 1⟩ updates hupdates sampleNamedRequest {} filter hnew "wallet" sampleWallet
        (by decide) (.inl rfl) transactionUpdate utxoUpdate (List.mem_of_getElem? htransaction)
        (List.mem_of_getElem? hutxo) transaction utxo hview hview' (beq_iff_eq.mp hviews)⟩
  · cases hviews

end ZakuraGrpc
