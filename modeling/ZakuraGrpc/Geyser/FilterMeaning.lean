import ZakuraGrpc.Geyser.FilterErrors
import ZakuraGrpc.Geyser.NamedFilters
import ZakuraGrpc.Geyser.TransactionViews

/-!
# What a request means

`SubscribeRequest.Selects` says what a request asks for in terms of its own fields:
no bit masks, no canonical sets, no shared context. Compilation keeps that meaning
(`matched_iff_selects`), and a server with validated limits accepts exactly the
well-formed requests (`accepts_iff_wellFormed`).
-/

namespace ZakuraGrpc

/-! ## What a filter reads of an update -/

/-- The transactions that an update is about. -/
def transactionIdsOf (update : SubscribeUpdate) : List String :=
  match update.update with
  | some (.transaction transaction) => [transaction.transactionId]
  | some (.mempoolTransaction transaction) => [transaction.transactionId]
  | some (.utxo utxo) => [utxo.transactionId]
  | some (.mempool mempool) => mempool.transactionIds
  | some (.bestChain bestChain) =>
    match bestChain.change with
    | some (.grow grow) => grow.transactionIds
    | some (.reset _) | none => []
  | some (.block _) | some (.ping _) | some (.pong _) | some (.reconnect _)
  | some (.mempoolSnapshot _) | none => []

theorem updateMatchesTransactionId_iff {update : SubscribeUpdate} {ids : Finset String} :
    updateMatchesTransactionId update ids = true ↔ ∃ id ∈ transactionIdsOf update, id ∈ ids := by
  unfold updateMatchesTransactionId transactionIdsOf
  cases update.update with
  | none => simp
  | some payload =>
    cases payload with
    | bestChain bestChain =>
      dsimp only
      cases bestChain.change with
      | none => simp
      | some change => cases change <;> simp
    | _ => simp

structure TransactionView where
  coinbase : Bool
  version : Nat
  hasTransparent : Bool
  hasSapling : Bool
  hasOrchard : Bool
  inputValueZat : Option Nat
  outputValueZat : Nat

/-- The transaction of an update that carries one. -/
def transactionView (update : SubscribeUpdate) : Option TransactionView :=
  match update.update with
  | some (.transaction transaction) => some
    ⟨transaction.coinbase, transaction.version, transaction.hasTransparent,
      transaction.hasSapling, transaction.hasOrchard, transaction.transparentInputValueZat,
      transaction.transparentOutputValueZat⟩
  | some (.mempoolTransaction transaction) => some
    ⟨transaction.coinbase, transaction.version, transaction.hasTransparent,
      transaction.hasSapling, transaction.hasOrchard, transaction.transparentInputValueZat,
      transaction.transparentOutputValueZat⟩
  | some (.utxo utxo) => some
    ⟨utxo.coinbase, utxo.version, utxo.hasTransparent, utxo.hasSapling, utxo.hasOrchard,
      utxo.transparentInputValueZat, utxo.transparentOutputValueZat⟩
  | some (.block _) | some (.bestChain _) | some (.mempool _) | some (.ping _) | some (.pong _)
  | some (.reconnect _) | some (.mempoolSnapshot _) | none => none

/-- The three flags come back out of the feature bits. -/
theorem hasFeature_transactionFeatureBits (facts : TransactionFacts)
    {hasTransparent hasSapling hasOrchard : Bool}
    (h : facts.features = transactionFeatureBits hasTransparent hasSapling hasOrchard) :
    facts.hasFeature hasTransparentBit = hasTransparent ∧
      facts.hasFeature hasSaplingBit = hasSapling ∧
      facts.hasFeature hasOrchardBit = hasOrchard := by
  unfold TransactionFacts.hasFeature
  rw [h]
  cases hasTransparent <;> cases hasSapling <;> cases hasOrchard <;> decide

/-- The facts a filter reads are those of the view. -/
structure TransactionFacts.Shows (facts : TransactionFacts) (view : TransactionView) : Prop where
  coinbase : facts.coinbase = view.coinbase
  version : facts.version = view.version
  hasTransparent : facts.hasFeature hasTransparentBit = view.hasTransparent
  hasSapling : facts.hasFeature hasSaplingBit = view.hasSapling
  hasOrchard : facts.hasFeature hasOrchardBit = view.hasOrchard
  inputValueZat : facts.transparentInputValueZat = view.inputValueZat
  outputValueZat : facts.transparentOutputValueZat = view.outputValueZat

theorem facts_of_view (update : SubscribeUpdate) :
    (updateTransactionFacts update = none ∧ transactionView update = none) ∨
      ∃ facts view, updateTransactionFacts update = some facts ∧
        transactionView update = some view ∧ facts.Shows view := by
  unfold updateTransactionFacts transactionView
  cases update.update with
  | none => exact .inl ⟨rfl, rfl⟩
  | some payload =>
    cases payload with
    | transaction transaction | mempoolTransaction transaction | utxo utxo =>
      refine .inr ⟨_, _, rfl, rfl, ?_⟩
      exact ⟨rfl, rfl, (hasFeature_transactionFeatureBits _ rfl).1,
        (hasFeature_transactionFeatureBits _ rfl).2.1,
        (hasFeature_transactionFeatureBits _ rfl).2.2, rfl, rfl⟩
    | _ => exact .inl ⟨rfl, rfl⟩

/-! ## The meaning of a filter -/

namespace SubscribeRequestFilter

/-- The filter asks something of the transparent addresses. -/
def UsesAddresses (filter : SubscribeRequestFilter) : Prop :=
  filter.addressInclude ≠ [] ∨ filter.transparentAddresses ≠ [] ∨ filter.addressExclude ≠ [] ∨
    filter.addressRequired ≠ []

/-- The filter asks something of the transaction. -/
def UsesTransaction (filter : SubscribeRequestFilter) : Prop :=
  filter.coinbase ≠ none ∨ filter.transactionVersion ≠ none ∨ filter.hasTransparent ≠ none ∨
    filter.hasSapling ≠ none ∨ filter.hasOrchard ≠ none ∨ filter.minValueZat ≠ none

/-- The transaction is as the filter asks. -/
structure Accepts (filter : SubscribeRequestFilter) (view : TransactionView) : Prop where
  coinbase : ∀ coinbase, filter.coinbase = some coinbase → view.coinbase = coinbase
  version : ∀ version, filter.transactionVersion = some version → view.version = version
  hasTransparent : ∀ expected, filter.hasTransparent = some expected →
    view.hasTransparent = expected
  hasSapling : ∀ expected, filter.hasSapling = some expected → view.hasSapling = expected
  hasOrchard : ∀ expected, filter.hasOrchard = some expected → view.hasOrchard = expected
  minValueZat : ∀ minimum, filter.minValueZat = some minimum →
    (∃ value, view.inputValueZat = some value ∧ minimum ≤ value) ∨ minimum ≤ view.outputValueZat

/-- The update pays to or spends from the address that the value names. -/
def Touches [ZakuraChain] (update : SubscribeUpdate) (value : String) : Prop :=
  ∃ addresses address, updateTransparentAddresses update = some addresses ∧
    canonicalTransparentAddressString value = some address ∧ address ∈ addresses

/-- Every constraint of the filter holds of the update. As in the source, and unlike the
schema's comments, a minimum height also fails an update that has no height, and the IDs
of a mempool change are compared as they are published, with their digests. -/
structure Selects [ZakuraChain] (filter : SubscribeRequestFilter) (update : SubscribeUpdate) :
    Prop where
  eventType : filter.eventTypes ≠ [] → update.eventType ∈ filter.eventTypes
  height : ∀ minimum, filter.minHeight = some minimum →
    ∃ height, blockHeight update = some height ∧ minimum ≤ height
  transaction : filter.transactionIds ≠ [] → ∃ value ∈ filter.transactionIds,
    ∃ id ∈ transactionIdsOf update, canonicalTransactionIdString value = some id
  addressed : filter.UsesAddresses → (updateTransparentAddresses update).isSome
  included : filter.addressInclude ++ filter.transparentAddresses ≠ [] →
    ∃ value ∈ filter.addressInclude ++ filter.transparentAddresses, Touches update value
  excluded : ∀ value ∈ filter.addressExclude, ¬ Touches update value
  required : ∀ value ∈ filter.addressRequired, Touches update value
  accepted : filter.UsesTransaction →
    ∃ view, transactionView update = some view ∧ filter.Accepts view

end SubscribeRequestFilter

/-- A request without constraints selects everything; otherwise a listed event type or
one of the named filters does. -/
def SubscribeRequest.Selects [ZakuraChain] (request : SubscribeRequest)
    (update : SubscribeUpdate) : Prop :=
  (request.eventTypes = [] ∧ request.filters.entries = []) ∨
    update.eventType ∈ request.eventTypes ∨
    ∃ name filter, request.filters.lookup name = some filter ∧ filter.Selects update

/-! ## Compilation keeps the meaning -/

/-- The event types that a mask is built from. -/
theorem compileKinds_isOk {eventTypes : List Int} {start : Nat} :
    (∃ kinds, compileKinds eventTypes start = .ok kinds) ↔
      ∀ kind ∈ eventTypes, ∃ eventType, EventType.ofI32? kind = some eventType ∧
        eventType ≠ .unspecified := by
  induction eventTypes generalizing start with
  | nil => exact iff_of_true ⟨start, rfl⟩ fun kind hmem => absurd hmem List.not_mem_nil
  | cons kind rest ih =>
    rw [List.forall_mem_cons]
    unfold compileKinds
    cases htype : EventType.ofI32? kind with
    | none => simp
    | some eventType =>
      cases eventType with
      | unspecified => simp
      | _ => simp [ih]

theorem kindMatches_iff {eventTypes : List Int} {kinds : Nat}
    (h : compileKinds eventTypes 0 = .ok kinds) (code : Int) :
    (kinds == 0 || (eventTypeBit code).any (kinds &&& · != 0)) = true ↔
      (eventTypes ≠ [] → code ∈ eventTypes) := by
  have hknown := compileKinds_isOk.mp ⟨kinds, h⟩
  have hbounds : ∀ kind ∈ eventTypes, 0 ≤ kind ∧ kind < 64 := by
    intro kind hmem
    obtain ⟨eventType, htype, -⟩ := hknown kind hmem
    exact EventType.ofI32?_bound htype
  have hbit : ∀ bit : Nat, kinds.testBit bit = true ↔ (bit : Int) ∈ eventTypes := by
    intro bit
    rw [compileKinds_testBit h, Nat.zero_testBit]
    simp
  have hzero : kinds = 0 ↔ eventTypes = [] := by
    constructor
    · intro hkinds
      by_contra hne
      obtain ⟨kind, hmem⟩ := List.exists_mem_of_ne_nil _ hne
      have htest := (hbit kind.toNat).mpr
        ((Int.toNat_of_nonneg (hbounds kind hmem).1).symm ▸ hmem)
      rw [hkinds, Nat.zero_testBit] at htest
      cases htest
    · rintro rfl
      cases h
      rfl
  have hany : (eventTypeBit code).any (kinds &&& · != 0) = true ↔ code ∈ eventTypes := by
    unfold eventTypeBit
    by_cases hrange : 0 ≤ code ∧ code < 64
    · have hcode := hbit code.toNat
      rw [Int.toNat_of_nonneg hrange.1] at hcode
      rw [if_pos hrange, Option.any_some, ← hcode, Nat.and_two_pow]
      cases kinds.testBit code.toNat <;> simp
    · rw [if_neg hrange]
      exact iff_of_false (by simp) fun hmem => hrange (hbounds code hmem)
  rw [Bool.or_eq_true, beq_iff_eq, hzero, hany]
  tauto

/-- The set that a list of values compiles to is empty when the list is. -/
theorem compileValues_eq_empty {canonical : String → Option String} {rejected : List String}
    {invalid refused : String → Status} {values : List String} {forms : Finset String}
    (h : compileValues canonical rejected invalid refused values = .ok forms) :
    forms = ∅ ↔ values = [] := by
  constructor
  · intro hempty
    by_contra hne
    obtain ⟨value, hmem⟩ := List.exists_mem_of_ne_nil _ hne
    obtain ⟨form, hform, -⟩ := canonical_of_compileValues h value hmem
    rw [hempty] at hform
    exact absurd hform (Finset.notMem_empty form)
  · rintro rfl
    cases h
    rfl

/-- An unset constraint holds of everything. -/
theorem isNoneOr_iff {α : Type} {constraint : Option α} {p : α → Bool} :
    CompiledFilter.isNoneOr constraint p = true ↔
      ∀ value, constraint = some value → p value = true := by
  cases constraint with
  | none => exact iff_of_true rfl fun value heq => absurd heq.symm (Option.some_ne_none value)
  | some expected =>
    rw [CompiledFilter.isNoneOr]
    exact ⟨fun h value heq => Option.some.inj heq ▸ h, fun h => h expected rfl⟩

section
variable [ZakuraChain]

variable {filter : SubscribeRequestFilter} {limits : FilterLimits} {compiled : CompiledFilter}

/-- What a field of addresses compiles to. -/
structure Canonical (values : List String) (addresses : Finset String) : Prop where
  empty : addresses = ∅ ↔ values = []
  mem : ∀ address, address ∈ addresses ↔
    ∃ value ∈ values, canonicalTransparentAddressString value = some address
  reads : ∀ value ∈ values, ∃ address, canonicalTransparentAddressString value = some address

theorem canonical_of_compileAddresses {field : String} {values : List String} {maximum : Nat}
    {rejected : List String} {addresses : Finset String}
    (h : compileAddresses field values maximum rejected = .ok addresses) :
    Canonical values addresses := by
  obtain ⟨_, _, _, -, hvalues⟩ := compileAddresses_ok h
  refine ⟨compileValues_eq_empty hvalues, mem_compileValues hvalues, fun value hmem => ?_⟩
  obtain ⟨address, -, haddress⟩ := canonical_of_compileValues hvalues value hmem
  exact ⟨address, haddress⟩

/-- The transaction part of a filter. -/
theorem metadataMatches_iff (h : compiled.IsCompiled filter limits) (update : SubscribeUpdate) :
    compiled.transactionMetadataMatches (updateTransactionFacts update) = true ↔
      (filter.UsesTransaction → ∃ view, transactionView update = some view ∧
        filter.Accepts view) := by
  have huses : (filter.coinbase.isSome || filter.transactionVersion.isSome ||
      filter.hasTransparent.isSome || filter.hasSapling.isSome || filter.hasOrchard.isSome ||
      filter.minValueZat.isSome) = true ↔ filter.UsesTransaction := by
    unfold SubscribeRequestFilter.UsesTransaction
    simp only [Bool.or_eq_true, Option.isSome_iff_ne_none, or_assoc]
  unfold CompiledFilter.transactionMetadataMatches
  rw [h.coinbase, h.transactionVersion, h.hasTransparent, h.hasSapling, h.hasOrchard,
    h.minValueZat]
  dsimp only
  by_cases hasks : filter.UsesTransaction
  · rw [huses.mpr hasks, Bool.not_true, if_neg Bool.false_ne_true, forall_prop_of_true hasks]
    rcases facts_of_view update with ⟨hfacts, hview⟩ | ⟨facts, view, hfacts, hview, hshows⟩
    · rw [hfacts, hview]
      exact iff_of_false Bool.false_ne_true fun ⟨_, hnone, _⟩ =>
        absurd hnone.symm (Option.some_ne_none _)
    · rw [hfacts, hview]
      simp only [Bool.and_eq_true, isNoneOr_iff, beq_iff_eq, Option.some.injEq, exists_eq_left',
        hshows.coinbase, hshows.version, hshows.hasTransparent, hshows.hasSapling,
        hshows.hasOrchard, hshows.inputValueZat, hshows.outputValueZat, Bool.or_eq_true,
        Option.any_eq_true, decide_eq_true_eq]
      constructor
      · rintro ⟨⟨⟨⟨⟨hcoinbase, hversion⟩, htransparent⟩, hsapling⟩, horchard⟩, hvalue⟩
        exact ⟨fun value heq => (hcoinbase value heq).symm,
          fun value heq => (hversion value heq).symm,
          fun value heq => (htransparent value heq).symm,
          fun value heq => (hsapling value heq).symm,
          fun value heq => (horchard value heq).symm, hvalue⟩
      · rintro ⟨hcoinbase, hversion, htransparent, hsapling, horchard, hvalue⟩
        exact ⟨⟨⟨⟨⟨fun value heq => (hcoinbase value heq).symm,
          fun value heq => (hversion value heq).symm⟩,
          fun value heq => (htransparent value heq).symm⟩,
          fun value heq => (hsapling value heq).symm⟩,
          fun value heq => (horchard value heq).symm⟩, hvalue⟩
  · have hnone : (filter.coinbase.isSome || filter.transactionVersion.isSome ||
        filter.hasTransparent.isSome || filter.hasSapling.isSome || filter.hasOrchard.isSome ||
        filter.minValueZat.isSome) = false := by
      rw [← Bool.not_eq_true, huses]
      exact hasks
    rw [hnone, Bool.not_false, if_pos rfl]
    exact iff_of_true rfl fun h => absurd h hasks

theorem Canonical.append {values values' : List String} {addresses addresses' : Finset String}
    (h : Canonical values addresses) (h' : Canonical values' addresses') :
    Canonical (values ++ values') (addresses ∪ addresses') := by
  refine ⟨?_, fun address => ?_, fun value hmem => ?_⟩
  · rw [Finset.union_eq_empty, h.empty, h'.empty, List.append_eq_nil_iff]
  · rw [Finset.mem_union, h.mem, h'.mem]
    simp only [List.mem_append, or_and_right, exists_or]
  · exact (List.mem_append.mp hmem).elim (h.reads value) (h'.reads value)

/-- One of the addresses touched is named. -/
theorem Canonical.exists_iff {values : List String} {addresses : Finset String}
    (h : Canonical values addresses) (touched : List String) :
    (∃ address ∈ touched, address ∈ addresses) ↔ ∃ value ∈ values, ∃ address ∈ touched,
      canonicalTransparentAddressString value = some address := by
  simp only [h.mem]
  constructor
  · rintro ⟨address, hmem, value, hvalue, hreads⟩
    exact ⟨value, hvalue, address, hmem, hreads⟩
  · rintro ⟨value, hvalue, address, hmem, hreads⟩
    exact ⟨address, hmem, value, hvalue, hreads⟩

/-- All the named addresses are touched. -/
theorem Canonical.forall_iff {values : List String} {addresses : Finset String}
    (h : Canonical values addresses) (touched : List String) :
    (∀ address ∈ addresses, address ∈ touched) ↔ ∀ value ∈ values, ∃ address ∈ touched,
      canonicalTransparentAddressString value = some address := by
  constructor
  · intro hall value hvalue
    obtain ⟨address, hreads⟩ := h.reads value hvalue
    exact ⟨address, hall address ((h.mem address).mpr ⟨value, hvalue, hreads⟩), hreads⟩
  · intro hall address hmem
    obtain ⟨value, hvalue, hreads⟩ := (h.mem address).mp hmem
    obtain ⟨address', htouched, hreads'⟩ := hall value hvalue
    rw [hreads] at hreads'
    exact Option.some.inj hreads' ▸ htouched

theorem touches_iff {update : SubscribeUpdate} {touched : List String}
    (h : updateTransparentAddresses update = some touched) (value : String) :
    SubscribeRequestFilter.Touches update value ↔
      ∃ address ∈ touched, canonicalTransparentAddressString value = some address := by
  unfold SubscribeRequestFilter.Touches
  rw [h]
  constructor
  · rintro ⟨_, address, heq, hreads, hmem⟩
    cases heq
    exact ⟨address, hmem, hreads⟩
  · rintro ⟨address, hmem, hreads⟩
    exact ⟨touched, address, rfl, hreads, hmem⟩

/-- The address part of a filter. -/
theorem addressesMatch_iff (h : compiled.IsCompiled filter limits) (update : SubscribeUpdate) :
    compiled.addressesMatch
        (if compiled.usesAddresses then updateTransparentAddresses update else none) = true ↔
      (filter.UsesAddresses → (updateTransparentAddresses update).isSome) ∧
      (filter.addressInclude ++ filter.transparentAddresses ≠ [] →
        ∃ value ∈ filter.addressInclude ++ filter.transparentAddresses,
          SubscribeRequestFilter.Touches update value) ∧
      (∀ value ∈ filter.addressExclude, ¬ SubscribeRequestFilter.Touches update value) ∧
      ∀ value ∈ filter.addressRequired, SubscribeRequestFilter.Touches update value := by
  obtain ⟨legacy, included, hlegacy, hincluded, hunion⟩ := h.addressInclude
  have hinclude : Canonical (filter.addressInclude ++ filter.transparentAddresses)
      compiled.addressInclude := by
    rw [hunion]
    exact (canonical_of_compileAddresses hincluded).append (canonical_of_compileAddresses hlegacy)
  have hexclude := canonical_of_compileAddresses h.addressExclude
  have hrequired := canonical_of_compileAddresses h.addressRequired
  have huses : compiled.usesAddresses = true ↔ filter.UsesAddresses := by
    unfold CompiledFilter.usesAddresses SubscribeRequestFilter.UsesAddresses
    simp only [Bool.or_eq_true, decide_eq_true_eq, Ne, hinclude.empty, hexclude.empty,
      hrequired.empty, List.append_eq_nil_iff, not_and_or, or_assoc]
  unfold CompiledFilter.addressesMatch
  by_cases hasks : filter.UsesAddresses
  · rw [huses.mpr hasks, Bool.not_true, if_neg Bool.false_ne_true, if_pos rfl,
      forall_prop_of_true hasks]
    cases htouched : updateTransparentAddresses update with
    | none => exact iff_of_false Bool.false_ne_true fun h => Bool.false_ne_true h.1
    | some touched =>
      have hnone : (∀ address ∈ touched, address ∉ compiled.addressExclude) ↔
          ∀ value ∈ filter.addressExclude, ¬ ∃ address ∈ touched,
            canonicalTransparentAddressString value = some address := by
        have hsome := not_congr (hexclude.exists_iff touched)
        push Not at hsome
        push Not
        exact hsome
      dsimp only
      rw [Bool.and_eq_true, Bool.and_eq_true, Bool.or_eq_true, decide_eq_true_eq,
        decide_eq_true_eq, List.any_eq_true, List.all_eq_true, Option.isSome_some, and_assoc]
      simp only [touches_iff htouched, decide_eq_true_eq, hinclude.exists_iff, hnone,
        hrequired.forall_iff, hinclude.empty, true_and, or_iff_not_imp_left, ne_eq]
  · have hnot : compiled.usesAddresses = false := by
      rw [← Bool.not_eq_true, huses]
      exact hasks
    simp only [SubscribeRequestFilter.UsesAddresses, not_or, ne_eq, not_not] at hasks
    obtain ⟨hnoInclude, hnoLegacy, hnoExclude, hnoRequired⟩ := hasks
    rw [hnot, Bool.not_false, if_pos rfl]
    simp [SubscribeRequestFilter.UsesAddresses, hnoInclude, hnoLegacy, hnoExclude, hnoRequired]

/-- The transaction IDs of a filter. -/
theorem transactionMatches_iff (h : compiled.IsCompiled filter limits)
    (update : SubscribeUpdate) :
    (decide (compiled.transactionIds = ∅) ||
        updateMatchesTransactionId update compiled.transactionIds) = true ↔
      (filter.transactionIds ≠ [] → ∃ value ∈ filter.transactionIds,
        ∃ id ∈ transactionIdsOf update, canonicalTransactionIdString value = some id) := by
  obtain ⟨_, _, _, -, hvalues⟩ := compileTransactionIds_ok h.transactionIds
  rw [Bool.or_eq_true, decide_eq_true_eq, compileValues_eq_empty hvalues, or_iff_not_imp_left,
    updateMatchesTransactionId_iff]
  refine imp_congr_right fun _ => ?_
  simp only [mem_compileValues hvalues]
  constructor
  · rintro ⟨id, hid, value, hvalue, hreads⟩
    exact ⟨value, hvalue, id, hid, hreads⟩
  · rintro ⟨value, hvalue, id, hid, hreads⟩
    exact ⟨id, hid, value, hvalue, hreads⟩

/-- **A compiled filter means what its source says.** -/
theorem verdict_iff_selects (hcompile : CompiledFilter.fromProto filter limits = .ok compiled)
    (update : SubscribeUpdate) : compiled.verdict update = true ↔ filter.Selects update := by
  have h := CompiledFilter.fromProto_isCompiled hcompile
  have hheight : CompiledFilter.isNoneOr compiled.minHeight
      (fun minimum => (blockHeight update).any (minimum ≤ ·)) = true ↔
        ∀ minimum, filter.minHeight = some minimum →
          ∃ height, blockHeight update = some height ∧ minimum ≤ height := by
    rw [h.minHeight, isNoneOr_iff]
    simp only [Option.any_eq_true, decide_eq_true_eq]
  have hverdict : compiled.verdict update = true ↔
      (filter.eventTypes ≠ [] → update.eventType ∈ filter.eventTypes) ∧
      (∀ minimum, filter.minHeight = some minimum →
        ∃ height, blockHeight update = some height ∧ minimum ≤ height) ∧
      (filter.transactionIds ≠ [] → ∃ value ∈ filter.transactionIds,
        ∃ id ∈ transactionIdsOf update, canonicalTransactionIdString value = some id) ∧
      compiled.addressesMatch
        (if compiled.usesAddresses then updateTransparentAddresses update else none) = true ∧
      compiled.transactionMetadataMatches (updateTransactionFacts update) = true := by
    rw [← kindMatches_iff h.kinds, ← hheight, ← transactionMatches_iff h, ← Bool.and_eq_true,
      ← Bool.and_eq_true, ← Bool.and_eq_true, ← Bool.and_eq_true, ← Bool.and_assoc,
      ← Bool.and_assoc, ← Bool.and_assoc]
    rfl
  rw [hverdict, addressesMatch_iff h, metadataMatches_iff h]
  constructor
  · rintro ⟨hkind, hheight, hids, ⟨haddressed, hincluded, hexcluded, hrequired⟩, haccepted⟩
    exact ⟨hkind, hheight, hids, haddressed, hincluded, hexcluded, hrequired, haccepted⟩
  · rintro ⟨hkind, hheight, hids, haddressed, hincluded, hexcluded, hrequired, haccepted⟩
    exact ⟨hkind, hheight, hids, ⟨haddressed, hincluded, hexcluded, hrequired⟩, haccepted⟩

/-! ## Requests -/

variable {request : SubscribeRequest} {compiledRequest : EventFilter}

/-- The filter of the listed event types. -/
theorem selects_eventTypes (eventTypes : List Int) (update : SubscribeUpdate) :
    SubscribeRequestFilter.Selects { eventTypes := eventTypes } update ↔
      (eventTypes ≠ [] → update.eventType ∈ eventTypes) := by
  refine ⟨fun h => h.eventType, fun h => ⟨h, ?_, ?_, ?_, ?_, ?_, ?_, ?_⟩⟩
  · intro minimum heq
    cases heq
  · exact fun hne => absurd rfl hne
  · simp [SubscribeRequestFilter.UsesAddresses]
  · exact fun hne => absurd rfl hne
  · exact fun value hmem => absurd hmem List.not_mem_nil
  · exact fun value hmem => absurd hmem List.not_mem_nil
  · simp [SubscribeRequestFilter.UsesTransaction]

/-- The legacy filter of an accepted request. -/
theorem legacy_iff (h : compiledRequest.IsCompiled request limits) (update : SubscribeUpdate) :
    (∃ compiled, compiledRequest.legacy = some compiled ∧ compiled.verdict update = true) ↔
      update.eventType ∈ request.eventTypes := by
  rcases compileLegacy_eq_ok.mp h.legacy with
    ⟨htypes, hlegacy⟩ | ⟨htypes, compiled, hlegacy, hcompile⟩
  · rw [hlegacy, htypes]
    exact iff_of_false (fun ⟨_, heq, _⟩ => absurd heq.symm (Option.some_ne_none _))
      List.not_mem_nil
  · rw [hlegacy]
    simp only [Option.some.injEq, exists_eq_left', verdict_iff_selects hcompile,
      selects_eventTypes]
    exact forall_prop_of_true htypes

/-- A named filter of an accepted request. -/
theorem named_iff (h : compiledRequest.IsCompiled request limits) (update : SubscribeUpdate)
    (name : String) :
    (∃ compiled, (name, compiled) ∈ compiledRequest.named ∧ compiled.verdict update = true) ↔
      ∃ source, request.filters.lookup name = some source ∧ source.Selects update := by
  simp only [h.mem_named]
  constructor
  · rintro ⟨compiled, ⟨source, hsource, hcompiles⟩, hverdict⟩
    exact ⟨source, hsource, (verdict_iff_selects hcompiles.filter update).mp hverdict⟩
  · rintro ⟨source, hsource, hselects⟩
    obtain ⟨-, compiled, hcompiles⟩ := h.compiles hsource
    exact ⟨compiled, ⟨source, hsource, hcompiles⟩,
      (verdict_iff_selects hcompiles.filter update).mpr hselects⟩

/-- **A request means what it says.** An accepted request's filter matches an update
exactly where the request selects it, under the names of the filters that do. -/
theorem matched_iff_selects (hnew : EventFilter.new request limits = .ok compiledRequest)
    (update : SubscribeUpdate) :
    (compiledRequest.matched update ≠ none ↔ request.Selects update) ∧
      ∀ name, name ∈ compiledRequest.matchedNames update ↔
        ∃ source, request.filters.lookup name = some source ∧ source.Selects update := by
  have h := EventFilter.new_eq_ok.mp hnew
  constructor
  · have hdefault : compiledRequest.defaultAll = true ↔
        request.eventTypes = [] ∧ request.filters.entries = [] := by
      rw [h.defaultAll, Bool.and_eq_true, List.isEmpty_iff, List.isEmpty_iff]
    have hmatched : compiledRequest.matched update ≠ none ↔
        compiledRequest.defaultAll = true ∨
        (∃ compiled, compiledRequest.legacy = some compiled ∧ compiled.verdict update = true) ∨
        ∃ name compiled, (name, compiled) ∈ compiledRequest.named ∧
          compiled.verdict update = true := by
      rw [Ne, h.matched_eq_none, not_and_or, not_and_or, Bool.not_eq_false]
      refine or_congr_right (or_congr ?_ ?_)
      · push Not
        exact exists_congr fun compiled => and_congr_right fun _ => Bool.not_eq_false _ ▸ Iff.rfl
      · push Not
        exact ⟨fun ⟨entry, hmem, hverdict⟩ => ⟨entry.1, entry.2, hmem, by simpa using hverdict⟩,
          fun ⟨name, compiled, hmem, hverdict⟩ => ⟨(name, compiled), hmem, by simpa using hverdict⟩⟩
    rw [hmatched, hdefault, legacy_iff h]
    simp only [named_iff h]
    exact Iff.rfl
  · intro name
    rw [h.matchedNames_eq, ← named_iff h]
    simp only [List.mem_map, List.mem_filter, Prod.exists, exists_and_right, exists_eq_right]

end

theorem matched_iff_selects_sample : ∃ filter,
    @EventFilter.new addressChain sampleNamedRequest {} = .ok filter ∧
      filter.matchedNames samplePayment = ["all", "wallet"] ∧
      (filter.matched samplePayment ≠ none ↔
        @SubscribeRequest.Selects addressChain sampleNamedRequest samplePayment) ∧
      ∀ name, name ∈ filter.matchedNames samplePayment ↔
        ∃ source, sampleNamedRequest.filters.lookup name = some source ∧
          @SubscribeRequestFilter.Selects addressChain source samplePayment := by
  obtain ⟨filter, h, hnames⟩ := new_sampleNamedRequest
  exact ⟨filter, h, of_decide_eq_true hnames,
    @matched_iff_selects addressChain _ _ _ h samplePayment⟩

/-! ## Accepted requests -/

section
variable [ZakuraChain]

variable {filter : SubscribeRequestFilter} {limits : FilterLimits}

/-- A list of values that the server takes. -/
structure Allowed (canonical : String → Option String) (values rejected : List String)
    (maximum : Nat) : Prop where
  size : values.length ≤ maximum
  reads : ∀ value ∈ values, ∃ form, canonical value = some form ∧
    ∀ entry ∈ rejected, canonical entry ≠ some form

/-- The event types are known, and not too many. -/
structure KnownEventTypes (limits : FilterLimits) (eventTypes : List Int) : Prop where
  size : eventTypes.length ≤ limits.maxEventTypes
  known : ∀ kind ∈ eventTypes, ∃ eventType, EventType.ofI32? kind = some eventType ∧
    eventType ≠ .unspecified

structure SubscribeRequestFilter.WellFormed (limits : FilterLimits)
    (filter : SubscribeRequestFilter) : Prop where
  eventTypes : KnownEventTypes limits filter.eventTypes
  transactionIds : Allowed canonicalTransactionIdString filter.transactionIds
    limits.transactionIdReject limits.maxTransactionIds
  transparentAddresses : Allowed canonicalTransparentAddressString filter.transparentAddresses
    limits.transparentAddressReject limits.maxTransparentAddresses
  addressInclude : Allowed canonicalTransparentAddressString filter.addressInclude
    limits.addressIncludeReject limits.maxAddressInclude
  addressExclude : Allowed canonicalTransparentAddressString filter.addressExclude
    limits.addressExcludeReject limits.maxAddressExclude
  addressRequired : Allowed canonicalTransparentAddressString filter.addressRequired
    limits.addressRequiredReject limits.maxAddressRequired
  blockPayload : (BlockPayload.ofI32? filter.blockPayload).isSome
  transactionPayload : (TransactionPayload.ofI32? filter.transactionPayload).isSome

/-- The filter has a constraint. -/
def SubscribeRequestFilter.Constrains (filter : SubscribeRequestFilter) : Prop :=
  filter.eventTypes ≠ [] ∨ filter.minHeight ≠ none ∨ filter.transactionIds ≠ [] ∨
    filter.UsesAddresses ∨ filter.UsesTransaction

structure SubscribeRequest.WellFormed (limits : FilterLimits) (request : SubscribeRequest) :
    Prop where
  size : request.filters.entries.length ≤ limits.maxNamedFilters
  constrains : limits.allowAll = true ∨ request.eventTypes ≠ [] ∨ request.filters.entries ≠ []
  eventTypes : KnownEventTypes limits request.eventTypes
  named : ∀ name filter, request.filters.lookup name = some filter →
    name ≠ "" ∧ name.utf8ByteSize ≤ limits.maxNameBytes ∧
      (limits.allowAll = true ∨ filter.Constrains) ∧ filter.WellFormed limits

omit [ZakuraChain] in
theorem compileValues_isOk {canonical : String → Option String} {rejected : List String}
    {invalid refused : String → Status} {values : List String} :
    (∃ forms, compileValues canonical rejected invalid refused values = .ok forms) ↔
      ∀ value ∈ values, ∃ form, canonical value = some form ∧ form ∉ rejected := by
  induction values with
  | nil => exact iff_of_true ⟨∅, rfl⟩ fun value hmem => absurd hmem List.not_mem_nil
  | cons value values ih =>
    rw [List.forall_mem_cons, ← ih]
    simp only [compileValues_cons]
    constructor
    · rintro ⟨_, form, others, hreads, hallowed, hothers, -⟩
      exact ⟨⟨form, hreads, hallowed⟩, others, hothers⟩
    · rintro ⟨⟨form, hreads, hallowed⟩, others, hothers⟩
      exact ⟨_, form, others, hreads, hallowed, hothers, rfl⟩

omit [ZakuraChain] in
/-- The canonical forms of a reject list that reads. -/
theorem mem_rejected {canonical : String → Option String} {entries forms : List String}
    (h : entries.mapM canonical = some forms) (form : String) :
    form ∈ forms ↔ ∃ entry ∈ entries, canonical entry = some form := by
  induction entries generalizing forms with
  | nil =>
    cases h
    simp
  | cons head rest ih =>
    rw [List.mapM_cons] at h
    obtain ⟨first, hfirst, h⟩ := Option.bind_eq_some_iff.mp h
    obtain ⟨others, hothers, h⟩ := Option.bind_eq_some_iff.mp h
    cases h
    simp only [List.mem_cons, ih hothers, exists_eq_or_imp, hfirst, Option.some.injEq,
      eq_comm (a := form)]

omit [ZakuraChain] in
/-- The three checks of a list of values. -/
theorem allowed_iff {canonical : String → Option String} {values rejected : List String}
    {maximum : Nat} (hreads : (rejected.mapM canonical).isSome) {field : String}
    {internal : Status} {invalid refused : String → Status} :
    (∃ forms, (do
        validateListSize field values.length maximum
        let rejected ← okOr (rejected.mapM canonical) internal
        compileValues canonical rejected invalid refused values) = .ok forms) ↔
      Allowed canonical values rejected maximum := by
  obtain ⟨entries, hentries⟩ := Option.isSome_iff_exists.mp hreads
  have hsize : (∃ done, validateListSize field values.length maximum = .ok done) ↔
      values.length ≤ maximum := by
    unfold validateListSize
    by_cases hlt : maximum < values.length
    · rw [if_pos hlt]
      exact iff_of_false (fun ⟨_, herror⟩ => by cases herror) (not_le.mpr hlt)
    · rw [if_neg hlt]
      exact iff_of_true ⟨(), rfl⟩ (not_lt.mp hlt)
  have hrest : (∃ forms, (okOr (rejected.mapM canonical) internal >>= fun rejected =>
      compileValues canonical rejected invalid refused values) = .ok forms) ↔
        ∀ value ∈ values, ∃ form, canonical value = some form ∧
          ∀ entry ∈ rejected, canonical entry ≠ some form := by
    rw [hentries]
    refine Iff.trans compileValues_isOk (forall₂_congr fun value _ => exists_congr fun form =>
      and_congr_right fun _ => ?_)
    rw [mem_rejected hentries]
    simp only [not_exists, not_and, ne_eq]
  rw [Except.exists_bind_ok fun _ _ => hrest, hsize]
  exact ⟨fun ⟨hsize, hreads⟩ => ⟨hsize, hreads⟩, fun h => ⟨h.size, h.reads⟩⟩

omit [ZakuraChain] in
theorem okOr_isOk {α ε : Type} {value : Option α} {error : ε} :
    (∃ result, okOr value error = .ok result) ↔ value.isSome := by
  simp only [okOr_eq_ok, Option.isSome_iff_exists]

omit [ZakuraChain] in
theorem validateName_eq_ok {name : String} :
    validateName name limits = .ok () ↔ name ≠ "" ∧ name.utf8ByteSize ≤ limits.maxNameBytes := by
  unfold validateName
  by_cases hempty : name.isEmpty
  · rw [if_pos hempty]
    exact iff_of_false (by simp) fun h => h.1 (String.isEmpty_iff.mp hempty)
  rw [if_neg hempty]
  rw [String.isEmpty_iff] at hempty
  by_cases hlong : limits.maxNameBytes < name.utf8ByteSize
  · rw [if_pos hlong]
    exact iff_of_false (by simp) fun h => absurd h.2 (not_le.mpr hlong)
  · rw [if_neg hlong]
    exact iff_of_true rfl ⟨hempty, not_lt.mp hlong⟩

omit [ZakuraChain] in
theorem filterIsEmpty_iff (filter : SubscribeRequestFilter) :
    filterIsEmpty filter = true ↔ ¬ filter.Constrains := by
  unfold filterIsEmpty SubscribeRequestFilter.Constrains SubscribeRequestFilter.UsesAddresses
    SubscribeRequestFilter.UsesTransaction
  simp only [Bool.and_eq_true, List.isEmpty_iff, Option.isNone_iff_eq_none, not_or, ne_eq,
    not_not]
  tauto

/-- A filter compiles when each of its fields is taken. -/
theorem fromProto_isOk (h : limits.Readable) :
    (∃ compiled, CompiledFilter.fromProto filter limits = .ok compiled) ↔
      filter.WellFormed limits := by
  have haddresses : ∀ {field : String} {values : List String} {maximum : Nat}
      {rejected : List String},
      (rejected.mapM canonicalTransparentAddressString).isSome →
      ((∃ addresses, compileAddresses field values maximum rejected = .ok addresses) ↔
        Allowed canonicalTransparentAddressString values rejected maximum) :=
    fun hreads => allowed_iff hreads
  unfold CompiledFilter.fromProto
  by_cases hsize : limits.maxEventTypes < filter.eventTypes.length
  · rw [if_pos hsize]
    exact iff_of_false (fun ⟨_, herror⟩ => by cases herror)
      fun hwf => absurd hwf.eventTypes.size (not_le.mpr hsize)
  rw [if_neg hsize]
  refine Iff.trans (Except.exists_bind_ok fun _ _ => Except.exists_bind_ok fun _ _ =>
    Except.exists_bind_ok fun _ _ => Except.exists_bind_ok fun _ _ =>
    Except.exists_bind_ok fun _ _ => Except.exists_bind_ok fun _ _ =>
    Except.exists_bind_ok fun _ _ => Except.exists_bind_ok fun _ _ =>
      iff_true_intro ⟨_, rfl⟩) ?_
  rw [compileKinds_isOk, haddresses h.transparentAddresses, haddresses h.addressInclude,
    haddresses h.addressExclude, haddresses h.addressRequired, okOr_isOk, okOr_isOk, and_true]
  constructor
  · rintro ⟨hknown, hids, hlegacy, hincluded, hexcluded, hrequired, hblock, htransaction⟩
    exact ⟨⟨not_lt.mp hsize, hknown⟩, (allowed_iff h.transactionIds).mp hids, hlegacy, hincluded,
      hexcluded, hrequired, hblock, htransaction⟩
  · intro hwf
    exact ⟨hwf.eventTypes.known, (allowed_iff h.transactionIds).mpr hwf.transactionIds,
      hwf.transparentAddresses, hwf.addressInclude, hwf.addressExclude, hwf.addressRequired,
      hwf.blockPayload, hwf.transactionPayload⟩

/-- The filter of a list of event types. -/
theorem wellFormed_eventTypes {eventTypes : List Int} :
    SubscribeRequestFilter.WellFormed limits { eventTypes := eventTypes } ↔
      KnownEventTypes limits eventTypes := by
  have hnone : ∀ (canonical : String → Option String) (rejected : List String) (maximum : Nat),
      Allowed canonical [] rejected maximum :=
    fun _ _ _ => ⟨Nat.zero_le _, fun value hmem => absurd hmem List.not_mem_nil⟩
  exact ⟨fun h => h.eventTypes,
    fun h => ⟨h, hnone _ _ _, hnone _ _ _, hnone _ _ _, hnone _ _ _, hnone _ _ _, rfl, rfl⟩⟩

theorem compileLegacy_isOk (h : limits.Readable) {eventTypes : List Int} :
    (∃ legacy, compileLegacy eventTypes limits = .ok legacy) ↔
      KnownEventTypes limits eventTypes := by
  rw [← wellFormed_eventTypes, ← fromProto_isOk h]
  simp only [compileLegacy_eq_ok]
  by_cases htypes : eventTypes = []
  · subst htypes
    refine iff_of_true ⟨none, .inl ⟨rfl, rfl⟩⟩ ((fromProto_isOk h).mpr ?_)
    exact wellFormed_eventTypes.mpr
      ⟨Nat.zero_le _, fun kind hmem => absurd hmem List.not_mem_nil⟩
  · constructor
    · rintro ⟨_, ⟨hempty, -⟩ | ⟨-, compiled, -, hcompile⟩⟩
      · exact absurd hempty htypes
      · exact ⟨compiled, hcompile⟩
    · rintro ⟨compiled, hcompile⟩
      exact ⟨some compiled, .inr ⟨htypes, compiled, rfl, hcompile⟩⟩

/-- A named filter compiles when its name is taken and its fields are. -/
theorem compilesAs_isOk (h : limits.Readable) {name : String} :
    (∃ compiled, CompilesAs limits name filter compiled) ↔
      name ≠ "" ∧ name.utf8ByteSize ≤ limits.maxNameBytes ∧
        (limits.allowAll = true ∨ filter.Constrains) ∧ filter.WellFormed limits := by
  have hempty : (filterIsEmpty filter && !limits.allowAll) = false ↔
      limits.allowAll = true ∨ filter.Constrains := by
    rw [← Bool.not_eq_true, Bool.and_eq_true, filterIsEmpty_iff, Bool.not_eq_true', not_and,
      not_imp_comm, Bool.not_eq_false, or_iff_not_imp_left]
  rw [← hempty, ← fromProto_isOk h, ← and_assoc, ← validateName_eq_ok]
  constructor
  · rintro ⟨compiled, hname, hnonempty, hfilter⟩
    exact ⟨hname, hnonempty, compiled, hfilter⟩
  · rintro ⟨hname, hnonempty, compiled, hfilter⟩
    exact ⟨compiled, hname, hnonempty, hfilter⟩

/-- **A server takes exactly the well-formed requests**, and blames the request for the
others: under validated limits no request meets an internal error. -/
theorem accepts_iff_wellFormed (hvalid : limits.validate = .ok ())
    (request : SubscribeRequest) :
    ((∃ compiledRequest, EventFilter.new request limits = .ok compiledRequest) ↔
        request.WellFormed limits) ∧
      ∀ status, EventFilter.new request limits = .error status →
        status.code = .invalidArgument := by
  refine ⟨?_, EventFilter.badRequest_new hvalid request⟩
  have h := FilterLimits.readable_of_validate hvalid
  rw [EventFilter.new_eq]
  dsimp only
  by_cases hsize : limits.maxNamedFilters < request.filters.entries.length
  · rw [if_pos hsize]
    exact iff_of_false (fun ⟨_, herror⟩ => by cases herror)
      fun hwf => absurd hwf.size (not_le.mpr hsize)
  rw [if_neg hsize]
  have hconstrains : (request.eventTypes.isEmpty && request.filters.entries.isEmpty &&
      !limits.allowAll) = false ↔
        limits.allowAll = true ∨ request.eventTypes ≠ [] ∨ request.filters.entries ≠ [] := by
    rw [← Bool.not_eq_true]
    simp only [Bool.and_eq_true, List.isEmpty_iff, Bool.not_eq_true', not_and, Bool.not_eq_false,
      ne_eq]
    tauto
  by_cases hall : request.eventTypes.isEmpty && request.filters.entries.isEmpty &&
      !limits.allowAll
  · rw [if_pos hall]
    refine iff_of_false (fun ⟨_, herror⟩ => by cases herror) fun hwf => ?_
    rw [hconstrains.mpr hwf.constrains] at hall
    exact Bool.false_ne_true hall
  rw [if_neg hall]
  refine Iff.trans (Except.exists_bind_ok fun _ _ => Except.exists_bind_ok fun _ _ =>
    iff_true_intro ⟨_, rfl⟩) ?_
  rw [compileLegacy_isOk h, compileNamed_isOk, and_true]
  have hnamed : (∀ entry ∈ request.filters.entries.map fun entry => (entry.1, entry.2),
      ∃ compiled, CompilesAs limits entry.1 entry.2 compiled) ↔
        ∀ name filter, request.filters.lookup name = some filter →
          name ≠ "" ∧ name.utf8ByteSize ≤ limits.maxNameBytes ∧
            (limits.allowAll = true ∨ filter.Constrains) ∧ filter.WellFormed limits := by
    simp only [compilesAs_isOk h, List.forall_mem_map]
    constructor
    · exact fun hentries name filter hlookup =>
        hentries ⟨name, filter⟩ (AList.mem_lookup_iff.mp hlookup)
    · exact fun hnames entry hmem => hnames entry.1 entry.2 (AList.mem_lookup_iff.mpr hmem)
  rw [hnamed]
  constructor
  · rintro ⟨htypes, hnames⟩
    exact ⟨not_lt.mp hsize, hconstrains.mp (Bool.not_eq_true _ ▸ hall), htypes, hnames⟩
  · exact fun hwf => ⟨hwf.eventTypes, hwf.named⟩

end

/-- Limits with one rejected transaction. -/
def sampleLimits : FilterLimits :=
  { transactionIdReject := [String.ofList (List.replicate 64 '0')] }

theorem accepts_iff_wellFormed_sample :
    ((∃ filter, @EventFilter.new addressChain sampleNamedRequest sampleLimits = .ok filter) ↔
        @SubscribeRequest.WellFormed addressChain sampleLimits sampleNamedRequest) ∧
      ∀ status, @EventFilter.new addressChain sampleNamedRequest sampleLimits = .error status →
        status.code = .invalidArgument :=
  @accepts_iff_wellFormed addressChain sampleLimits (by decide +kernel) sampleNamedRequest

end ZakuraGrpc
