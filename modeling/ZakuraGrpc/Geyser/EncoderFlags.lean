import ZakuraGrpc.Geyser.Transparent

/-!
# The encoder switches

The three flags choose which updates an event has and nothing else: the encoded
list is the list of the encoder with all flags on, less the updates of the
kinds that are off (`encodeEvent_projection`).
-/

namespace ZakuraGrpc

/-- The flag of an update's kind is on. -/
def keepsUpdate (transactionUpdates utxoUpdates mempoolTransactionUpdates : Bool)
    (update : SubscribeUpdate) : Bool :=
  match update.update with
  | some (.transaction _) => transactionUpdates
  | some (.utxo _) => utxoUpdates
  | some (.mempoolTransaction _) => mempoolTransactionUpdates
  | _ => true

section
variable [ZakuraChain]

/-- The updates of one transaction. -/
theorem encodeTransactionUpdates_projection {metadata : UpdateMetadata} {block : BlockEvent}
    {blockHash network : String} {commitment : BlockCommitment} {index : Nat}
    {transaction : Transaction} {updates : List SubscribeUpdate}
    (h : encodeTransactionUpdates metadata block blockHash network commitment true true index
      transaction = .ok updates)
    {transactionUpdates utxoUpdates : Bool} (hany : (transactionUpdates || utxoUpdates) = true)
    (mempoolTransactionUpdates : Bool) :
    encodeTransactionUpdates metadata block blockHash network commitment transactionUpdates
        utxoUpdates index transaction =
      .ok (updates.filter
        (keepsUpdate transactionUpdates utxoUpdates mempoolTransactionUpdates)) := by
  obtain ⟨hindex, encoded, hencoded, ⟨-, bytes, hbytes, rfl⟩ | ⟨⟨⟩, -⟩⟩ :=
    encodeTransactionUpdates_eq_ok.mp h
  refine encodeTransactionUpdates_eq_ok.mpr
    ⟨hindex, encoded.restrict transactionUpdates utxoUpdates,
      encodeTransparentUpdates_restrict hencoded hany, ?_⟩
  -- The transaction view reads the transaction lists, the UTXO view the changes.
  have htransaction : keepsUpdate transactionUpdates utxoUpdates mempoolTransactionUpdates
      (blockTransactionUpdate metadata block blockHash network commitment index transaction
        encoded bytes) = transactionUpdates := rfl
  have hutxo : keepsUpdate transactionUpdates utxoUpdates mempoolTransactionUpdates
      (blockUtxoUpdate metadata block blockHash commitment index transaction encoded) =
        utxoUpdates := rfl
  have hview : (blockUtxoView metadata block blockHash commitment true index transaction
      encoded).filter
        (keepsUpdate transactionUpdates utxoUpdates mempoolTransactionUpdates) =
      blockUtxoView metadata block blockHash commitment utxoUpdates index transaction
        (encoded.restrict transactionUpdates utxoUpdates) := by
    unfold blockUtxoView
    rw [apply_ite (List.filter _), List.filter_cons, hutxo, List.filter_nil]
    cases utxoUpdates with
    | true => rfl
    | false => exact ite_self _
  rw [List.filter_cons, htransaction, hview]
  cases transactionUpdates with
  | true => exact .inl ⟨rfl, bytes, hbytes, rfl⟩
  | false => exact .inr ⟨rfl, rfl⟩

/-- The updates of a transaction are of the two kinds of views. -/
theorem encodeTransactionUpdates_dropped {metadata : UpdateMetadata} {block : BlockEvent}
    {blockHash network : String} {commitment : BlockCommitment} {index : Nat}
    {transaction : Transaction} {updates : List SubscribeUpdate}
    (h : encodeTransactionUpdates metadata block blockHash network commitment true true index
      transaction = .ok updates) (mempoolTransactionUpdates : Bool) :
    updates.filter (keepsUpdate false false mempoolTransactionUpdates) = [] := by
  obtain ⟨-, encoded, -, ⟨-, bytes, -, rfl⟩ | ⟨⟨⟩, -⟩⟩ := encodeTransactionUpdates_eq_ok.mp h
  refine List.filter_eq_nil_iff.mpr fun update hmem => ?_
  rcases List.mem_cons.mp hmem with rfl | hmem
  · exact Bool.false_ne_true
  · rw [eq_of_mem_blockUtxoView hmem]
    exact Bool.false_ne_true

theorem appendBlockUpdates_projection {first : SubscribeUpdate} {metadata : UpdateMetadata}
    {block : BlockEvent} {commitment : BlockCommitment} {parallel : ParallelEncoding}
    {updates : List SubscribeUpdate}
    (h : appendBlockUpdates [first] metadata block commitment true true parallel = .ok updates)
    (transactionUpdates utxoUpdates mempoolTransactionUpdates : Bool)
    (hfirst : keepsUpdate transactionUpdates utxoUpdates mempoolTransactionUpdates first = true)
    (parallel' : ParallelEncoding) :
    appendBlockUpdates [first] metadata block commitment transactionUpdates utxoUpdates
        parallel' =
      .ok (updates.filter
        (keepsUpdate transactionUpdates utxoUpdates mempoolTransactionUpdates)) := by
  obtain ⟨⟨⟩, -⟩ | ⟨-, encoded, hencoded, rfl⟩ := appendBlockUpdates_eq_ok.mp h
  rw [List.filter_append, List.filter_cons, hfirst, if_pos rfl, List.filter_nil,
    List.filter_flatten]
  by_cases hany : (transactionUpdates || utxoUpdates) = true
  · refine appendBlockUpdates_eq_ok.mpr (.inr ⟨hany, _, Except.mapM_ok_map ?_ hencoded, rfl⟩)
    intro entry part hpart
    exact encodeTransactionUpdates_projection hpart hany mempoolTransactionUpdates
  · -- With both flags off the block update stands alone.
    rw [Bool.not_eq_true, Bool.or_eq_false_iff] at hany
    obtain ⟨rfl, rfl⟩ := hany
    have hdropped : encoded.map
        (List.filter (keepsUpdate false false mempoolTransactionUpdates)) =
        encoded.map fun _ => [] := by
      refine List.map_congr_left fun part hpart => ?_
      obtain ⟨entry, -, hentry⟩ := Except.mapM_mem hencoded part hpart
      exact encodeTransactionUpdates_dropped hentry mempoolTransactionUpdates
    have hempty :
        (encoded.map fun _ : List SubscribeUpdate => ([] : List SubscribeUpdate)).flatten =
        [] := by
      simp
    rw [hdropped, hempty, List.append_nil]
    rfl

theorem appendMempoolTransactionUpdates_projection {first : SubscribeUpdate}
    {metadata : UpdateMetadata} {change : MempoolEvent} {parallel : ParallelEncoding}
    {updates : List SubscribeUpdate}
    (h : appendMempoolTransactionUpdates [first] metadata change true parallel = .ok updates)
    (transactionUpdates utxoUpdates mempoolTransactionUpdates : Bool)
    (hfirst : keepsUpdate transactionUpdates utxoUpdates mempoolTransactionUpdates first = true)
    (parallel' : ParallelEncoding) :
    appendMempoolTransactionUpdates [first] metadata change mempoolTransactionUpdates parallel' =
      .ok (updates.filter
        (keepsUpdate transactionUpdates utxoUpdates mempoolTransactionUpdates)) := by
  have hkeep : [first].filter
      (keepsUpdate transactionUpdates utxoUpdates mempoolTransactionUpdates) = [first] := by
    rw [List.filter_cons, hfirst, if_pos rfl, List.filter_nil]
  rcases appendMempoolTransactionUpdates_eq_ok.mp h with
    ⟨hskip, rfl⟩ | ⟨henabled, encoded, hencoded, rfl⟩
  · rw [Bool.not_true, Bool.false_or] at hskip
    refine appendMempoolTransactionUpdates_eq_ok.mpr (.inl ⟨?_, hkeep⟩)
    rw [Bool.or_assoc, hskip, Bool.or_true]
  · -- Every encoded update is a mempool transaction.
    have hkind : ∀ update ∈ encoded,
        keepsUpdate transactionUpdates utxoUpdates mempoolTransactionUpdates update =
          mempoolTransactionUpdates := by
      intro update hmem
      obtain ⟨verified, -, hverified⟩ := Except.mapM_mem hencoded update hmem
      obtain ⟨transaction, rfl, -⟩ := exists_of_encodeMempoolTransactionUpdate hverified
      rfl
    rw [List.filter_append, hkeep]
    cases mempoolTransactionUpdates with
    | true =>
      have hall : encoded.filter (keepsUpdate transactionUpdates utxoUpdates true) = encoded :=
        List.filter_eq_self.mpr fun update hmem => hkind update hmem
      rw [hall]
      exact appendMempoolTransactionUpdates_eq_ok.mpr (.inr ⟨henabled, encoded, hencoded, rfl⟩)
    | false =>
      have hnone : encoded.filter (keepsUpdate transactionUpdates utxoUpdates false) = [] := by
        refine List.filter_eq_nil_iff.mpr fun update hmem => ?_
        rw [hkind update hmem]
        exact Bool.false_ne_true
      rw [hnone]
      exact appendMempoolTransactionUpdates_eq_ok.mpr (.inl ⟨rfl, rfl⟩)

/-- **The switches are projections.** Where the encoder with all flags on
succeeds, an encoder with other flags and another encoding mode gives the same
list less the updates of the kinds that are off. -/
theorem encodeEvent_projection {event : EventEnvelope} {parallel : ParallelEncoding}
    {updates : List SubscribeUpdate}
    (h : encodeEvent event true true true parallel = .ok updates)
    (transactionUpdates utxoUpdates mempoolTransactionUpdates : Bool)
    (parallel' : ParallelEncoding) :
    encodeEvent event transactionUpdates utxoUpdates mempoolTransactionUpdates parallel' =
      .ok (updates.filter
        (keepsUpdate transactionUpdates utxoUpdates mempoolTransactionUpdates)) := by
  have hblocks : ∀ {block : BlockEvent},
      event.payload = .blockAccepted block ∨ event.payload = .blockFinalized block →
      encodeEvent event transactionUpdates utxoUpdates mempoolTransactionUpdates parallel' =
        .ok (updates.filter
          (keepsUpdate transactionUpdates utxoUpdates mempoolTransactionUpdates)) := by
    intro block hblock
    obtain ⟨finalized, eventType, commitment, hencode⟩ := encodeEvent_block hblock
    rw [hencode] at h ⊢
    obtain ⟨encoded, hencoded, h⟩ := Except.bind_eq_ok.mp h
    refine Except.bind_eq_ok.mpr ⟨encoded, hencoded, ?_⟩
    exact appendBlockUpdates_projection h _ _ _ rfl parallel'
  cases hpayload : event.payload with
  | blockAccepted block => exact hblocks (.inl hpayload)
  | blockFinalized block => exact hblocks (.inr hpayload)
  | bestChainChanged change =>
    unfold encodeEvent at h ⊢
    simp only [hpayload, Except.pure_eq_ok] at h ⊢
    subst h
    rfl
  | mempoolChanged change =>
    unfold encodeEvent at h ⊢
    simp only [hpayload] at h ⊢
    exact appendMempoolTransactionUpdates_projection h _ _ _ rfl parallel'

end

theorem encodeEvent_projection_sample : ∃ updates,
    @encodeEvent hexChain sampleEvent true true true ⟨false, 1⟩ = .ok updates ∧
      @encodeEvent hexChain sampleEvent false true false ⟨true, 2⟩ =
        .ok (updates.filter (keepsUpdate false true false)) :=
  ⟨_, rfl, @encodeEvent_projection hexChain sampleEvent ⟨false, 1⟩ _ rfl false true false ⟨true, 2⟩⟩

end ZakuraGrpc
