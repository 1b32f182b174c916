import ZakuraGrpc.Geyser.Filter

/-!
# Transaction-ID filters and the mempool

A transaction-ID filter compares mined transaction IDs. A mempool summary lists
unmined identifiers: the mined ID, followed by the authorizing-data digest for
a transaction that has one. So a summary matches through the transactions
without a digest only, while the admission update of every selected transaction
matches (`followsTransactions_iff`).
-/

namespace ZakuraGrpc

open ZakuraChain

/-- What the filter relies on of the identifiers' text forms: 64 digits each,
and a transaction hash is read back. -/
structure HexIds (chain : ZakuraChain) : Prop where
  parse_print : ∀ hash : TransactionHash,
    chain.parseTransactionHash (chain.transactionHashToString hash) = some hash
  hash_length : ∀ hash : TransactionHash, (chain.transactionHashToString hash).length = 64
  digest_length : ∀ digest : AuthDigest, (chain.authDigestToString digest).length = 64

section
variable [chain : ZakuraChain]

theorem HexIds.print_inj (hex : HexIds chain) {hash hash' : TransactionHash}
    (h : transactionHashToString hash = transactionHashToString hash') : hash = hash' := by
  have hparse := hex.parse_print hash
  rw [h, hex.parse_print hash'] at hparse
  exact (Option.some.inj hparse).symm

/-- The filter names the transaction. -/
def Selects (filter : SubscribeRequestFilter) (hash : TransactionHash) : Prop :=
  ∃ value ∈ filter.transactionIds, parseTransactionHash value = some hash

/-- Transaction IDs are the only constraint. -/
structure OnlyTransactionIds (filter : SubscribeRequestFilter) : Prop where
  transactionIds : filter.transactionIds ≠ []
  eventTypes : filter.eventTypes = []
  minHeight : filter.minHeight = none
  transparentAddresses : filter.transparentAddresses = []
  addressInclude : filter.addressInclude = []
  addressExclude : filter.addressExclude = []
  addressRequired : filter.addressRequired = []
  coinbase : filter.coinbase = none
  transactionVersion : filter.transactionVersion = none
  hasTransparent : filter.hasTransparent = none
  hasSapling : filter.hasSapling = none
  hasOrchard : filter.hasOrchard = none
  minValueZat : filter.minValueZat = none

theorem compileAddresses_nil {field : String} {maximum : Nat} {rejected : List String}
    {forms : Finset String} (h : compileAddresses field [] maximum rejected = .ok forms) :
    forms = ∅ := by
  obtain ⟨_, _, _, -, hvalues⟩ := compileAddresses_ok h
  cases hvalues
  rfl

theorem mem_compileTransactionIds {filter : SubscribeRequestFilter}
    {maximum : Nat} {rejected : List String} {ids : Finset String}
    (h : compileTransactionIds filter.transactionIds maximum rejected = .ok ids) (id : String) :
    id ∈ ids ↔ ∃ hash, Selects filter hash ∧ transactionHashToString hash = id := by
  obtain ⟨_, _, _, -, hvalues⟩ := compileTransactionIds_ok h
  rw [mem_compileValues hvalues]
  simp only [canonicalTransactionIdString, Option.map_eq_some_iff, Selects]
  constructor
  · rintro ⟨value, hmem, hash, hparse, rfl⟩
    exact ⟨hash, ⟨value, hmem, hparse⟩, rfl⟩
  · rintro ⟨hash, ⟨value, hmem, hparse⟩, rfl⟩
    exact ⟨value, hmem, hash, hparse, rfl⟩

theorem compileTransactionIds_ne_empty {values : List String} (hne : values ≠ []) {maximum : Nat}
    {rejected : List String} {ids : Finset String}
    (h : compileTransactionIds values maximum rejected = .ok ids) : ids ≠ ∅ := by
  obtain ⟨_, _, _, -, hvalues⟩ := compileTransactionIds_ok h
  obtain ⟨value, hvalue⟩ := List.exists_mem_of_ne_nil _ hne
  obtain ⟨form, hform, -⟩ := canonical_of_compileValues hvalues value hvalue
  exact Finset.ne_empty_of_mem hform

/-! ## Matching -/

/-- With transaction IDs as the only constraint, they alone decide. -/
theorem matches_iff {filter : SubscribeRequestFilter} {limits : FilterLimits}
    {compiled : CompiledFilter} (h : compiled.IsCompiled filter limits)
    (honly : OnlyTransactionIds filter) (update : SubscribeUpdate) (needsAddresses : Bool) :
    compiled.matches (UpdateContext.new update needsAddresses) =
      updateMatchesTransactionId update compiled.transactionIds := by
  have hkinds : compiled.kinds = 0 := by
    have := h.kinds
    rw [honly.eventTypes, compileKinds] at this
    exact (Except.ok.inj this).symm
  have hids : compiled.transactionIds ≠ ∅ :=
    compileTransactionIds_ne_empty honly.transactionIds h.transactionIds
  have hinclude : compiled.addressInclude = ∅ := by
    obtain ⟨legacy, included, hlegacy, hincluded, hunion⟩ := h.addressInclude
    rw [honly.transparentAddresses] at hlegacy
    rw [honly.addressInclude] at hincluded
    rw [hunion, compileAddresses_nil hlegacy, compileAddresses_nil hincluded,
      Finset.empty_union]
  have hexclude : compiled.addressExclude = ∅ := by
    have := h.addressExclude
    rw [honly.addressExclude] at this
    exact compileAddresses_nil this
  have hrequired : compiled.addressRequired = ∅ := by
    have := h.addressRequired
    rw [honly.addressRequired] at this
    exact compileAddresses_nil this
  have haddresses : compiled.addressesMatch (UpdateContext.new update needsAddresses).addresses =
      true := by
    simp [CompiledFilter.addressesMatch, CompiledFilter.usesAddresses, hinclude, hexclude,
      hrequired]
  have hmetadata : compiled.transactionMetadataMatches
      (UpdateContext.new update needsAddresses).transaction = true := by
    simp [CompiledFilter.transactionMetadataMatches, h.coinbase, honly.coinbase,
      h.transactionVersion, honly.transactionVersion, h.hasTransparent, honly.hasTransparent,
      h.hasSapling, honly.hasSapling, h.hasOrchard, honly.hasOrchard, h.minValueZat,
      honly.minValueZat]
  have hupdate : (UpdateContext.new update needsAddresses).update = update := rfl
  simp [CompiledFilter.matches, hkinds, h.minHeight, honly.minHeight, CompiledFilter.isNoneOr,
    hids, haddresses, hmetadata, hupdate]

theorem mined_mem_iff (hex : HexIds chain) {filter : SubscribeRequestFilter}
    {limits : FilterLimits} {compiled : CompiledFilter} (h : compiled.IsCompiled filter limits)
    (hash : TransactionHash) :
    transactionHashToString hash ∈ compiled.transactionIds ↔ Selects filter hash := by
  rw [mem_compileTransactionIds h.transactionIds]
  constructor
  · rintro ⟨hash', hselects, hprint⟩
    exact hex.print_inj hprint ▸ hselects
  · intro hselects
    exact ⟨hash, hselects, rfl⟩

/-- An unmined identifier is a filter's ID only without a digest: with one it
has 128 digits. -/
theorem unmined_mem_iff (hex : HexIds chain) {filter : SubscribeRequestFilter}
    {limits : FilterLimits} {compiled : CompiledFilter} (h : compiled.IsCompiled filter limits)
    (hash : TransactionHash) (digest : Option AuthDigest) :
    encodeUnminedTransactionId hash digest ∈ compiled.transactionIds ↔
      Selects filter hash ∧ digest = none := by
  cases digest with
  | none => simp [encodeUnminedTransactionId, mined_mem_iff hex h]
  | some digest =>
    simp only [reduceCtorEq, and_false, iff_false]
    intro hmem
    obtain ⟨hash', -, hprint⟩ := (mem_compileTransactionIds h.transactionIds _).mp hmem
    have hlength := congrArg String.length hprint
    simp only [encodeUnminedTransactionId, String.length_append, hex.hash_length,
      hex.digest_length] at hlength
    omega

/-- A summary matches through the transactions without a digest. -/
theorem summary_matches_iff (hex : HexIds chain) {filter : SubscribeRequestFilter}
    {limits : FilterLimits} {compiled : CompiledFilter} (h : compiled.IsCompiled filter limits)
    (honly : OnlyTransactionIds filter) (metadata : UpdateMetadata) (change : MempoolEvent)
    (needsAddresses : Bool) :
    compiled.matches (UpdateContext.new (encodeMempoolChanged metadata change)
        needsAddresses) = true ↔
      ∃ id ∈ change.transactionIds, Selects filter id.minedId ∧ id.authDigest = none := by
  rw [matches_iff h honly]
  simp only [updateMatchesTransactionId, encodeMempoolChanged, newUpdate, List.any_map,
    List.any_eq_true, Function.comp_apply, decide_eq_true_eq, unmined_mem_iff hex h]

/-! ## Following a transaction -/

/-- The filter follows transactions through the mempool: the summary of an event
matches when the filter names one of its transactions, as the admission update
of that transaction does. -/
structure FollowsTransactions (compiled : CompiledFilter) (filter : SubscribeRequestFilter)
    (metadata : UpdateMetadata) (change : MempoolEvent) (needsAddresses : Bool) : Prop where
  summary : compiled.matches (UpdateContext.new (encodeMempoolChanged metadata change)
      needsAddresses) = true ↔
    ∃ id ∈ change.transactionIds, Selects filter id.minedId
  admission : ∀ verified update,
    encodeMempoolTransactionUpdate metadata change verified = .ok update →
    (compiled.matches (UpdateContext.new update needsAddresses) = true ↔
      Selects filter verified.transaction.hash)

/-- **When the filter follows.** Exactly for the events that hold no selected
transaction, or a selected one without an authorizing digest. -/
theorem followsTransactions_iff (hex : HexIds chain) {filter : SubscribeRequestFilter}
    (honly : OnlyTransactionIds filter) {limits : FilterLimits} {compiled : CompiledFilter}
    (h : CompiledFilter.fromProto filter limits = .ok compiled) (metadata : UpdateMetadata)
    (change : MempoolEvent) (needsAddresses : Bool) :
    FollowsTransactions compiled filter metadata change needsAddresses ↔
      (∀ id ∈ change.transactionIds, ¬ Selects filter id.minedId) ∨
        ∃ id ∈ change.transactionIds, Selects filter id.minedId ∧ id.authDigest = none := by
  have hcompiled := CompiledFilter.fromProto_isCompiled h
  have hsummary := summary_matches_iff hex hcompiled honly metadata change needsAddresses
  have hadmission : ∀ verified update,
      encodeMempoolTransactionUpdate metadata change verified = .ok update →
      (compiled.matches (UpdateContext.new update needsAddresses) = true ↔
        Selects filter verified.transaction.hash) := by
    intro verified update hencode
    obtain ⟨transaction, rfl, hid⟩ := exists_of_encodeMempoolTransactionUpdate hencode
    rw [matches_iff hcompiled honly]
    simp only [updateMatchesTransactionId, newUpdate, hid, decide_eq_true_eq]
    exact mined_mem_iff hex hcompiled _
  constructor
  · intro hfollows
    by_cases hnone : ∀ id ∈ change.transactionIds, ¬ Selects filter id.minedId
    · exact .inl hnone
    · right
      push Not at hnone
      exact hsummary.mp (hfollows.summary.mpr hnone)
  · intro hcond
    refine ⟨hsummary.trans ⟨?_, ?_⟩, hadmission⟩
    · rintro ⟨id, hmem, hselects, -⟩
      exact ⟨id, hmem, hselects⟩
    · rintro ⟨id, hmem, hselects⟩
      exact hcond.resolve_left fun hnone => hnone id hmem hselects

end

/-! ## A transaction with a digest -/

theorem hexIds_hexChain : HexIds hexChain where
  parse_print hash := by
    show (parseDisplayOrder (printDisplayOrder hash.bytes)).map TransactionHash.mk = some hash
    rw [parse_printDisplayOrder]
    rfl
  hash_length hash := length_printDisplayOrder hash.bytes
  digest_length digest := length_printDisplayOrder digest.bytes

/-- The ID with every byte one. -/
def sampleHash : TransactionHash := ⟨Vector.replicate 32 1⟩

/-- The filter for that ID. -/
def sampleIdFilter : SubscribeRequestFilter :=
  { transactionIds := [printDisplayOrder sampleHash.bytes] }

theorem onlyTransactionIds_sampleIdFilter : OnlyTransactionIds sampleIdFilter := by
  constructor <;> first | rfl | exact List.cons_ne_nil _ _

/-- The transaction with that ID is mined; it has a digest when `witnessed`. -/
def minedEvent (witnessed : Bool) : MempoolEvent :=
  { network := .mainnet
    kind := .mined
    transactionIds := [if witnessed then .witnessed sampleHash ⟨Vector.replicate 32 2⟩
      else .legacy sampleHash]
    transactions := [] }

theorem fromProto_sampleIdFilter : ∃ compiled,
    @CompiledFilter.fromProto hexChain sampleIdFilter {} = .ok compiled :=
  Except.exists_of_isOk (by decide +kernel)

theorem selects_sampleHash : @Selects hexChain sampleIdFilter sampleHash :=
  ⟨_, List.mem_cons_self, hexIds_hexChain.parse_print sampleHash⟩

theorem followsTransactions_iff_legacy :
    HexIds hexChain ∧ OnlyTransactionIds sampleIdFilter ∧ ∃ compiled,
      @CompiledFilter.fromProto hexChain sampleIdFilter {} = .ok compiled ∧
      (@FollowsTransactions hexChain compiled sampleIdFilter ⟨1, [], {}, 1⟩ (minedEvent false)
          false ↔
        (∀ id ∈ (minedEvent false).transactionIds, ¬ @Selects hexChain sampleIdFilter id.minedId) ∨
          ∃ id ∈ (minedEvent false).transactionIds,
            @Selects hexChain sampleIdFilter id.minedId ∧ id.authDigest = none) := by
  obtain ⟨compiled, h⟩ := fromProto_sampleIdFilter
  exact ⟨hexIds_hexChain, onlyTransactionIds_sampleIdFilter, compiled, h,
    @followsTransactions_iff hexChain hexIds_hexChain sampleIdFilter
      onlyTransactionIds_sampleIdFilter {} compiled h ⟨1, [], {}, 1⟩ (minedEvent false) false⟩

/-- The summary of a mined transaction with a digest misses the filter for its
ID. -/
theorem witnessed_transaction_lost :
    ¬ ∀ (chain : ZakuraChain) (filter : SubscribeRequestFilter) (limits : FilterLimits)
        (compiled : CompiledFilter) (metadata : UpdateMetadata) (change : MempoolEvent)
        (needsAddresses : Bool),
      HexIds chain → OnlyTransactionIds filter →
      CompiledFilter.fromProto filter limits = .ok compiled →
      FollowsTransactions compiled filter metadata change needsAddresses := by
  intro hall
  obtain ⟨compiled, h⟩ := fromProto_sampleIdFilter
  have hfollows := hall hexChain sampleIdFilter {} compiled ⟨1, [], {}, 1⟩ (minedEvent true) false
    hexIds_hexChain onlyTransactionIds_sampleIdFilter h
  have hmatches := (@FollowsTransactions.summary hexChain _ _ _ _ _ hfollows).mpr
    ⟨_, List.mem_cons_self, selects_sampleHash⟩
  obtain ⟨id, hid, -, hdigest⟩ := (@summary_matches_iff hexChain hexIds_hexChain sampleIdFilter {}
    compiled (@CompiledFilter.fromProto_isCompiled hexChain _ _ _ h)
    onlyTransactionIds_sampleIdFilter _ _ _).mp hmatches
  rw [List.mem_singleton.mp hid] at hdigest
  exact nomatch hdigest

end ZakuraGrpc
