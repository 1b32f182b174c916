import ZakuraGrpc.Geyser.Config
import ZakuraGrpc.Geyser.Event

/-!
# Subscription filters

`EventFilter.new` validates and compiles a request; `EventFilter.matched` gives
the names of the filters an update matches and the richest payload they ask
for. A compiled filter is a conjunction: event types, minimum height,
transaction IDs, transparent addresses and transaction metadata.
-/

namespace ZakuraGrpc

def invalidArgument (message : String) : Status := ⟨.invalidArgument, message⟩

/-- `Option::ok_or`. -/
def okOr {α ε : Type} (value : Option α) (error : ε) : Except ε α :=
  match value with
  | some value => .ok value
  | none => .error error

theorem okOr_eq_ok {α ε : Type} {value : Option α} {error : ε} {result : α} :
    okOr value error = .ok result ↔ value = some result := by
  cases value with
  | none => simp [okOr]
  | some value => simp [okOr]

/-! ## Update views -/

/-- `event_type_bit`: the bit of an event type in the `u64` kind mask. -/
def eventTypeBit (eventType : Int) : Option Nat :=
  if 0 ≤ eventType ∧ eventType < 64 then some (2 ^ eventType.toNat) else none

def hasTransparentBit : Nat := 1 <<< 0
def hasSaplingBit : Nat := 1 <<< 1
def hasOrchardBit : Nat := 1 <<< 2

def transactionFeatureBits (hasTransparent hasSapling hasOrchard : Bool) : Nat :=
  (hasTransparent.toNat * hasTransparentBit) ||| (hasSapling.toNat * hasSaplingBit) |||
    (hasOrchard.toNat * hasOrchardBit)

structure TransactionFacts where
  coinbase : Bool
  version : Nat
  features : Nat
  transparentInputValueZat : Option Nat
  transparentOutputValueZat : Nat
  deriving DecidableEq

def TransactionFacts.hasFeature (facts : TransactionFacts) (feature : Nat) : Bool :=
  facts.features &&& feature != 0

def updateTransactionFacts (update : SubscribeUpdate) : Option TransactionFacts :=
  match update.update with
  | some (.transaction transaction) => some
    { coinbase := transaction.coinbase
      version := transaction.version
      features := transactionFeatureBits transaction.hasTransparent transaction.hasSapling
        transaction.hasOrchard
      transparentInputValueZat := transaction.transparentInputValueZat
      transparentOutputValueZat := transaction.transparentOutputValueZat }
  | some (.mempoolTransaction transaction) => some
    { coinbase := transaction.coinbase
      version := transaction.version
      features := transactionFeatureBits transaction.hasTransparent transaction.hasSapling
        transaction.hasOrchard
      transparentInputValueZat := transaction.transparentInputValueZat
      transparentOutputValueZat := transaction.transparentOutputValueZat }
  | some (.utxo utxo) => some
    { coinbase := utxo.coinbase
      version := utxo.version
      features := transactionFeatureBits utxo.hasTransparent utxo.hasSapling utxo.hasOrchard
      transparentInputValueZat := utxo.transparentInputValueZat
      transparentOutputValueZat := utxo.transparentOutputValueZat }
  | some (.block _) | some (.bestChain _) | some (.mempool _) | some (.ping _) | some (.pong _)
  | some (.reconnect _) | some (.mempoolSnapshot _) | none => none

def previousAddress (input : TransparentInput) : Option String :=
  match input.input with
  | some (.prevout previous) => previous.previousAddress
  | some (.coinbase _) | none => none

def changeAddress (change : UtxoChange) : Option String :=
  match change.change with
  | some (.created created) => created.address
  | some (.spent spent) => spent.previousAddress
  | none => none

def updateTransparentAddresses (update : SubscribeUpdate) : Option (List String) :=
  match update.update with
  | some (.transaction transaction) => some
    (transaction.transparentInputs.filterMap previousAddress ++
      transaction.transparentOutputs.filterMap (·.address))
  | some (.mempoolTransaction transaction) => some
    (transaction.transparentInputs.filterMap previousAddress ++
      transaction.transparentOutputs.filterMap (·.address))
  | some (.utxo utxo) => some (utxo.changes.filterMap changeAddress)
  | some (.block _) | some (.bestChain _) | some (.mempool _) | some (.ping _) | some (.pong _)
  | some (.reconnect _) | some (.mempoolSnapshot _) | none => none

def updateMatchesTransactionId (update : SubscribeUpdate) (transactionIds : Finset String) :
    Bool :=
  match update.update with
  | some (.transaction transaction) => transaction.transactionId ∈ transactionIds
  | some (.mempoolTransaction transaction) => transaction.transactionId ∈ transactionIds
  | some (.utxo utxo) => utxo.transactionId ∈ transactionIds
  | some (.mempool mempool) => mempool.transactionIds.any (· ∈ transactionIds)
  | some (.bestChain bestChain) =>
    match bestChain.change with
    | some (.grow grow) => grow.transactionIds.any (· ∈ transactionIds)
    | some (.reset _) | none => false
  | some (.block _) | some (.ping _) | some (.pong _) | some (.reconnect _)
  | some (.mempoolSnapshot _) | none => false

/-- What the compiled filters of one request share about an update. -/
structure UpdateContext where
  update : SubscribeUpdate
  addresses : Option (List String)
  transaction : Option TransactionFacts

def UpdateContext.new (update : SubscribeUpdate) (needsAddresses : Bool) : UpdateContext :=
  { update := update
    addresses := if needsAddresses then updateTransparentAddresses update else none
    transaction := updateTransactionFacts update }

/-! ## Compiled filters -/

structure CompiledFilter where
  kinds : Nat
  minHeight : Option Nat
  transactionIds : Finset String
  addressInclude : Finset String
  addressExclude : Finset String
  addressRequired : Finset String
  coinbase : Option Bool
  transactionVersion : Option Nat
  hasTransparent : Option Bool
  hasSapling : Option Bool
  hasOrchard : Option Bool
  minValueZat : Option Nat
  blockPayload : BlockPayload
  transactionPayload : TransactionPayload

namespace CompiledFilter

/-- An unset constraint holds (`Option::is_none_or`). -/
def isNoneOr {α : Type} (constraint : Option α) (p : α → Bool) : Bool :=
  match constraint with
  | none => true
  | some expected => p expected

def usesAddresses (filter : CompiledFilter) : Bool :=
  decide (filter.addressInclude ≠ ∅) || decide (filter.addressExclude ≠ ∅) ||
    decide (filter.addressRequired ≠ ∅)

def addressesMatch (filter : CompiledFilter) (addresses : Option (List String)) : Bool :=
  if !filter.usesAddresses then true
  else
    match addresses with
    | none => false
    | some addresses =>
      (decide (filter.addressInclude = ∅) || addresses.any (· ∈ filter.addressInclude)) &&
        addresses.all (fun address => decide (address ∉ filter.addressExclude)) &&
        decide (∀ required ∈ filter.addressRequired, required ∈ addresses)

def transactionMetadataMatches (filter : CompiledFilter) (facts : Option TransactionFacts) :
    Bool :=
  let usesMetadata := filter.coinbase.isSome || filter.transactionVersion.isSome ||
    filter.hasTransparent.isSome || filter.hasSapling.isSome || filter.hasOrchard.isSome ||
    filter.minValueZat.isSome
  if !usesMetadata then true
  else
    match facts with
    | none => false
    | some facts =>
      isNoneOr filter.coinbase (· == facts.coinbase) &&
        isNoneOr filter.transactionVersion (· == facts.version) &&
        isNoneOr filter.hasTransparent (· == facts.hasFeature hasTransparentBit) &&
        isNoneOr filter.hasSapling (· == facts.hasFeature hasSaplingBit) &&
        isNoneOr filter.hasOrchard (· == facts.hasFeature hasOrchardBit) &&
        isNoneOr filter.minValueZat fun minimum =>
          facts.transparentInputValueZat.any (minimum ≤ ·) ||
            decide (minimum ≤ facts.transparentOutputValueZat)

def «matches» (filter : CompiledFilter) (context : UpdateContext) : Bool :=
  let update := context.update
  let kindMatches := filter.kinds == 0 ||
    (eventTypeBit update.eventType).any (filter.kinds &&& · != 0)
  let heightMatches := isNoneOr filter.minHeight fun minimum =>
    (blockHeight update).any (minimum ≤ ·)
  let transactionMatches := decide (filter.transactionIds = ∅) ||
    updateMatchesTransactionId update filter.transactionIds
  kindMatches && heightMatches && transactionMatches &&
    filter.addressesMatch context.addresses &&
    filter.transactionMetadataMatches context.transaction

end CompiledFilter

/-- `richest_transaction_payload`: the union of what the matching filters ask for. -/
def richestTransactionPayload (filters : List CompiledFilter) : TransactionPayload :=
  let (raw, transparent) := filters.foldl (fun (raw, transparent) filter =>
    match filter.transactionPayload with
    | .unspecified | .full => (true, true)
    | .metaOnly => (raw, transparent)
    | .rawOnly => (true, transparent)
    | .transparentOnly => (raw, true)) (false, false)
  match raw, transparent with
  | true, true => .full
  | true, false => .rawOnly
  | false, true => .transparentOnly
  | false, false => .metaOnly

/-! ## Compilation -/

def validateListSize (field : String) (actual maximum : Nat) : Except Status Unit :=
  if maximum < actual then
    .error (invalidArgument s!"at most {maximum} values are allowed in {field} per filter")
  else .ok ()

def validateName (name : String) (limits : FilterLimits) : Except Status Unit :=
  if name.isEmpty then
    .error (invalidArgument "filter names cannot be empty")
  else if limits.maxNameBytes < name.utf8ByteSize then
    .error (invalidArgument s!"filter name is longer than {limits.maxNameBytes} bytes")
  else .ok ()

def filterIsEmpty (filter : SubscribeRequestFilter) : Bool :=
  filter.eventTypes.isEmpty && filter.minHeight.isNone && filter.transactionIds.isEmpty &&
    filter.transparentAddresses.isEmpty && filter.addressInclude.isEmpty &&
    filter.addressExclude.isEmpty && filter.addressRequired.isEmpty && filter.coinbase.isNone &&
    filter.transactionVersion.isNone && filter.hasTransparent.isNone &&
    filter.hasSapling.isNone && filter.hasOrchard.isNone && filter.minValueZat.isNone

/-- A TEX address names the P2PKH address of its key hash. -/
def canonicalTransparentAddress : Address → Address
  | .tex networkKind validatingKeyHash => .payToPublicKeyHash networkKind validatingKeyHash
  | address => address

/-- The kind mask of a list of event types. -/
def compileKinds : List Int → Nat → Except Status Nat
  | [], kinds => .ok kinds
  | kind :: rest, kinds =>
    match EventType.ofI32? kind with
    | none => .error (invalidArgument s!"unknown event type {kind}")
    | some .unspecified =>
      .error (invalidArgument "EVENT_TYPE_UNSPECIFIED cannot be used as a filter")
    | some _ => compileKinds rest (kinds ||| (eventTypeBit kind).getD 0)

/-- Canonicalises a list of values, refusing unreadable and rejected ones. -/
def compileValues (canonical : String → Option String) (rejected : List String)
    (invalid refused : String → Status) : List String → Except Status (Finset String)
  | [] => .ok ∅
  | value :: rest =>
    match canonical value with
    | none => .error (invalid value)
    | some form =>
      if form ∈ rejected then .error (refused value)
      else do
        let forms ← compileValues canonical rejected invalid refused rest
        return insert form forms

/-- A list compiles value by value: each one reads and is not rejected. -/
theorem compileValues_cons {canonical : String → Option String} {rejected : List String}
    {invalid refused : String → Status} {value : String} {values : List String}
    {forms : Finset String} :
    compileValues canonical rejected invalid refused (value :: values) = .ok forms ↔
      ∃ form others, canonical value = some form ∧ form ∉ rejected ∧
        compileValues canonical rejected invalid refused values = .ok others ∧
        forms = insert form others := by
  simp only [compileValues]
  cases hcanonical : canonical value with
  | none => simp
  | some form =>
    dsimp only
    by_cases hrejected : form ∈ rejected
    · rw [if_pos hrejected]
      simp [hrejected]
    · rw [if_neg hrejected, Except.bind_eq_ok]
      simp [hrejected, Except.pure_eq_ok, eq_comm (b := forms)]

section
variable {canonical : String → Option String} {rejected : List String}
variable {invalid refused : String → Status} {values : List String} {forms : Finset String}

/-- The canonical forms of the values, as a set. -/
theorem mem_compileValues
    (h : compileValues canonical rejected invalid refused values = .ok forms) (form : String) :
    form ∈ forms ↔ ∃ value ∈ values, canonical value = some form := by
  induction values generalizing forms with
  | nil =>
    cases h
    simp
  | cons value values ih =>
    obtain ⟨head, others, hhead, -, hothers, rfl⟩ := compileValues_cons.mp h
    rw [Finset.mem_insert, ih hothers]
    simp only [List.mem_cons, exists_eq_or_imp, hhead, Option.some.injEq]
    rw [eq_comm (a := form)]

/-- Every value reads. -/
theorem canonical_of_compileValues
    (h : compileValues canonical rejected invalid refused values = .ok forms) :
    ∀ value ∈ values, ∃ form ∈ forms, canonical value = some form := by
  induction values generalizing forms with
  | nil => exact fun value hmem => nomatch hmem
  | cons head values ih =>
    obtain ⟨form, others, hhead, -, hothers, rfl⟩ := compileValues_cons.mp h
    intro value hmem
    rcases List.mem_cons.mp hmem with rfl | hmem
    · exact ⟨form, Finset.mem_insert_self form others, hhead⟩
    · obtain ⟨form', hform', hvalue⟩ := ih hothers value hmem
      exact ⟨form', Finset.mem_insert_of_mem hform', hvalue⟩

/-- No form is rejected. -/
theorem not_rejected_of_compileValues
    (h : compileValues canonical rejected invalid refused values = .ok forms) :
    ∀ form ∈ forms, form ∉ rejected := by
  induction values generalizing forms with
  | nil =>
    cases h
    exact fun form hmem => absurd hmem (Finset.notMem_empty form)
  | cons value values ih =>
    obtain ⟨head, others, -, hallowed, hothers, rfl⟩ := compileValues_cons.mp h
    intro form hmem
    rcases Finset.mem_insert.mp hmem with rfl | hmem
    · exact hallowed
    · exact ih hothers form hmem

end

/-- A bad request, or a bad reject-list in the configuration. -/
def Refusal (status : Status) : Prop := status.code = .invalidArgument ∨ status.code = .internal

theorem refusal_invalidArgument (message : String) : Refusal (invalidArgument message) := .inl rfl

theorem failsIn_okOr {α : Type} {status : Status} (h : Refusal status) (value : Option α) :
    Except.FailsIn Refusal (okOr value status) := by
  cases value with
  | none => exact Except.failsIn_error h
  | some value => exact Except.failsIn_ok value

theorem failsIn_validateListSize (field : String) (actual maximum : Nat) :
    Except.FailsIn Refusal (validateListSize field actual maximum) := by
  unfold validateListSize
  split
  · exact Except.failsIn_error (refusal_invalidArgument _)
  · exact Except.failsIn_ok ()

theorem failsIn_validateName (name : String) (limits : FilterLimits) :
    Except.FailsIn Refusal (validateName name limits) := by
  unfold validateName
  split
  · exact Except.failsIn_error (refusal_invalidArgument _)
  split
  · exact Except.failsIn_error (refusal_invalidArgument _)
  · exact Except.failsIn_ok ()

theorem failsIn_compileKinds (eventTypes : List Int) (kinds : Nat) :
    Except.FailsIn Refusal (compileKinds eventTypes kinds) := by
  induction eventTypes generalizing kinds with
  | nil => exact Except.failsIn_ok kinds
  | cons kind rest ih =>
    unfold compileKinds
    split
    · exact Except.failsIn_error (refusal_invalidArgument _)
    · exact Except.failsIn_error (refusal_invalidArgument _)
    · exact ih _

theorem failsIn_compileValues (canonical : String → Option String) (rejected : List String)
    {invalid refused : String → Status} (hinvalid : ∀ value, Refusal (invalid value))
    (hrefused : ∀ value, Refusal (refused value)) (values : List String) :
    Except.FailsIn Refusal (compileValues canonical rejected invalid refused values) := by
  induction values with
  | nil => exact Except.failsIn_ok _
  | cons value rest ih =>
    unfold compileValues
    split
    · exact Except.failsIn_error (hinvalid value)
    split
    · exact Except.failsIn_error (hrefused value)
    · exact ih.bind fun forms => Except.failsIn_ok _

section
variable [chain : ZakuraChain]

open ZakuraChain

def canonicalTransactionIdString (value : String) : Option String :=
  (parseTransactionHash value).map transactionHashToString

def canonicalTransparentAddressString (value : String) : Option String :=
  (parseAddress value).map fun address => addressToString (canonicalTransparentAddress address)

def compileTransactionIds (values : List String) (maximum : Nat) (rejected : List String) :
    Except Status (Finset String) := do
  validateListSize "transaction_ids" values.length maximum
  let rejected ← okOr (rejected.mapM canonicalTransactionIdString)
    ⟨.internal, "invalid configured transaction ID reject-list"⟩
  compileValues canonicalTransactionIdString rejected
    (fun value => invalidArgument s!"invalid transaction ID {debugQuote value}")
    (fun value => invalidArgument
      s!"transaction_ids contains rejected transaction ID {debugQuote value}") values

def compileAddresses (field : String) (values : List String) (maximum : Nat)
    (rejected : List String) : Except Status (Finset String) := do
  validateListSize field values.length maximum
  let rejected ← okOr (rejected.mapM canonicalTransparentAddressString)
    ⟨.internal, "invalid configured transparent address reject-list"⟩
  compileValues canonicalTransparentAddressString rejected
    (fun value => invalidArgument s!"invalid transparent address {debugQuote value}")
    (fun value => invalidArgument
      s!"{field} contains rejected transparent address {debugQuote value}") values

/-- The stages behind a set of transaction IDs. -/
theorem compileTransactionIds_ok {values : List String} {maximum : Nat} {rejected : List String}
    {ids : Finset String} (h : compileTransactionIds values maximum rejected = .ok ids) :
    ∃ forms invalid refused, rejected.mapM canonicalTransactionIdString = some forms ∧
      compileValues canonicalTransactionIdString forms invalid refused values = .ok ids := by
  obtain ⟨_, -, h⟩ := Except.bind_eq_ok.mp h
  obtain ⟨forms, hforms, h⟩ := Except.bind_eq_ok.mp h
  exact ⟨forms, _, _, okOr_eq_ok.mp hforms, h⟩

/-- The stages behind a set of addresses. -/
theorem compileAddresses_ok {field : String} {values : List String} {maximum : Nat}
    {rejected : List String} {addresses : Finset String}
    (h : compileAddresses field values maximum rejected = .ok addresses) :
    ∃ forms invalid refused, rejected.mapM canonicalTransparentAddressString = some forms ∧
      compileValues canonicalTransparentAddressString forms invalid refused values =
        .ok addresses := by
  obtain ⟨_, -, h⟩ := Except.bind_eq_ok.mp h
  obtain ⟨forms, hforms, h⟩ := Except.bind_eq_ok.mp h
  exact ⟨forms, _, _, okOr_eq_ok.mp hforms, h⟩

def CompiledFilter.fromProto (filter : SubscribeRequestFilter) (limits : FilterLimits) :
    Except Status CompiledFilter := do
  if limits.maxEventTypes < filter.eventTypes.length then
    throw (invalidArgument
      s!"at most {limits.maxEventTypes} event types are allowed per filter")
  let kinds ← compileKinds filter.eventTypes 0
  let transactionIds ← compileTransactionIds filter.transactionIds limits.maxTransactionIds
    limits.transactionIdReject
  let legacyAddresses ← compileAddresses "transparent_addresses" filter.transparentAddresses
    limits.maxTransparentAddresses limits.transparentAddressReject
  let addressInclude ← compileAddresses "address_include" filter.addressInclude
    limits.maxAddressInclude limits.addressIncludeReject
  let addressExclude ← compileAddresses "address_exclude" filter.addressExclude
    limits.maxAddressExclude limits.addressExcludeReject
  let addressRequired ← compileAddresses "address_required" filter.addressRequired
    limits.maxAddressRequired limits.addressRequiredReject
  let blockPayload ← okOr (BlockPayload.ofI32? filter.blockPayload)
    (invalidArgument s!"unknown block payload mode {filter.blockPayload}")
  let transactionPayload ← okOr (TransactionPayload.ofI32? filter.transactionPayload)
    (invalidArgument s!"unknown transaction payload mode {filter.transactionPayload}")
  return {
    kinds := kinds
    minHeight := filter.minHeight
    transactionIds := transactionIds
    addressInclude := addressInclude ∪ legacyAddresses
    addressExclude := addressExclude
    addressRequired := addressRequired
    coinbase := filter.coinbase
    transactionVersion := filter.transactionVersion
    hasTransparent := filter.hasTransparent
    hasSapling := filter.hasSapling
    hasOrchard := filter.hasOrchard
    minValueZat := filter.minValueZat
    blockPayload := match blockPayload with
      | .unspecified | .full => .full
      | .metaOnly => .metaOnly
    transactionPayload := match transactionPayload with
      | .unspecified | .full => .full
      | .metaOnly => .metaOnly
      | .rawOnly => .rawOnly
      | .transparentOnly => .transparentOnly }

/-- What a compiled filter is made of. -/
structure CompiledFilter.IsCompiled (filter : SubscribeRequestFilter) (limits : FilterLimits)
    (compiled : CompiledFilter) : Prop where
  kinds : compileKinds filter.eventTypes 0 = .ok compiled.kinds
  minHeight : compiled.minHeight = filter.minHeight
  transactionIds : compileTransactionIds filter.transactionIds limits.maxTransactionIds
    limits.transactionIdReject = .ok compiled.transactionIds
  addressInclude : ∃ legacy included,
    compileAddresses "transparent_addresses" filter.transparentAddresses
      limits.maxTransparentAddresses limits.transparentAddressReject = .ok legacy ∧
    compileAddresses "address_include" filter.addressInclude limits.maxAddressInclude
      limits.addressIncludeReject = .ok included ∧
    compiled.addressInclude = included ∪ legacy
  addressExclude : compileAddresses "address_exclude" filter.addressExclude
    limits.maxAddressExclude limits.addressExcludeReject = .ok compiled.addressExclude
  addressRequired : compileAddresses "address_required" filter.addressRequired
    limits.maxAddressRequired limits.addressRequiredReject = .ok compiled.addressRequired
  coinbase : compiled.coinbase = filter.coinbase
  transactionVersion : compiled.transactionVersion = filter.transactionVersion
  hasTransparent : compiled.hasTransparent = filter.hasTransparent
  hasSapling : compiled.hasSapling = filter.hasSapling
  hasOrchard : compiled.hasOrchard = filter.hasOrchard
  minValueZat : compiled.minValueZat = filter.minValueZat

theorem CompiledFilter.fromProto_isCompiled {filter : SubscribeRequestFilter}
    {limits : FilterLimits} {compiled : CompiledFilter}
    (h : CompiledFilter.fromProto filter limits = .ok compiled) :
    compiled.IsCompiled filter limits := by
  unfold CompiledFilter.fromProto at h
  split at h
  · cases h
  · obtain ⟨kinds, hkinds, h⟩ := Except.bind_eq_ok.mp h
    obtain ⟨ids, hids, h⟩ := Except.bind_eq_ok.mp h
    obtain ⟨legacy, hlegacy, h⟩ := Except.bind_eq_ok.mp h
    obtain ⟨included, hincluded, h⟩ := Except.bind_eq_ok.mp h
    obtain ⟨excluded, hexcluded, h⟩ := Except.bind_eq_ok.mp h
    obtain ⟨required, hrequired, h⟩ := Except.bind_eq_ok.mp h
    obtain ⟨blockPayload, -, h⟩ := Except.bind_eq_ok.mp h
    obtain ⟨transactionPayload, -, h⟩ := Except.bind_eq_ok.mp h
    rw [Except.pure_eq_ok] at h
    subst h
    exact
      { kinds := hkinds
        minHeight := rfl
        transactionIds := hids
        addressInclude := ⟨legacy, included, hlegacy, hincluded, rfl⟩
        addressExclude := hexcluded
        addressRequired := hrequired
        coinbase := rfl
        transactionVersion := rfl
        hasTransparent := rfl
        hasSapling := rfl
        hasOrchard := rfl
        minValueZat := rfl }

/-! ## Event filters -/

structure EventFilter where
  defaultAll : Bool
  legacy : Option CompiledFilter
  named : List (String × CompiledFilter)
  needsAddresses : Bool

/-- Compiles the named filters in the map's iteration order. -/
def compileNamed (limits : FilterLimits) :
    List (String × SubscribeRequestFilter) → Except Status (List (String × CompiledFilter))
  | [] => .ok []
  | (name, filter) :: rest => do
    validateName name limits
    if filterIsEmpty filter && !limits.allowAll then
      throw (invalidArgument s!"named filter {debugQuote name} must select at least one event type")
    let compiled ← CompiledFilter.fromProto filter limits
    let rest ← compileNamed limits rest
    return (name, compiled) :: rest

def EventFilter.new (request : SubscribeRequest) (limits : FilterLimits) :
    Except Status EventFilter := do
  if limits.maxNamedFilters < request.filters.entries.length then
    throw (invalidArgument s!"at most {limits.maxNamedFilters} named filters are allowed")
  let defaultAll := request.eventTypes.isEmpty && request.filters.entries.isEmpty
  if defaultAll && !limits.allowAll then
    throw (invalidArgument "an empty filter is disabled; select at least one event type")
  let legacy ← if request.eventTypes.isEmpty then pure none else
    some <$> CompiledFilter.fromProto { eventTypes := request.eventTypes } limits
  let named ← compileNamed limits (request.filters.entries.map fun entry => (entry.1, entry.2))
  let named := named.insertionSort fun left right => left.1 ≤ right.1
  return {
    defaultAll := defaultAll
    legacy := legacy
    named := named
    needsAddresses := legacy.any CompiledFilter.usesAddresses ||
      named.any fun (_, filter) => filter.usesAddresses }

/-! ## Refused requests -/

theorem failsIn_compileTransactionIds (values : List String) (maximum : Nat)
    (rejected : List String) :
    Except.FailsIn Refusal (compileTransactionIds values maximum rejected) := by
  refine (failsIn_validateListSize _ _ _).bind fun _ => ?_
  refine (failsIn_okOr (.inr rfl) _).bind fun rejected => ?_
  exact failsIn_compileValues _ _ (fun _ => refusal_invalidArgument _)
    (fun _ => refusal_invalidArgument _) values

theorem failsIn_compileAddresses (field : String) (values : List String) (maximum : Nat)
    (rejected : List String) :
    Except.FailsIn Refusal (compileAddresses field values maximum rejected) := by
  refine (failsIn_validateListSize _ _ _).bind fun _ => ?_
  refine (failsIn_okOr (.inr rfl) _).bind fun rejected => ?_
  exact failsIn_compileValues _ _ (fun _ => refusal_invalidArgument _)
    (fun _ => refusal_invalidArgument _) values

theorem CompiledFilter.failsIn_fromProto (filter : SubscribeRequestFilter)
    (limits : FilterLimits) : Except.FailsIn Refusal (CompiledFilter.fromProto filter limits) := by
  unfold CompiledFilter.fromProto
  split
  · exact Except.failsIn_error (refusal_invalidArgument _)
  refine (failsIn_compileKinds _ _).bind fun kinds => ?_
  refine (failsIn_compileTransactionIds _ _ _).bind fun transactionIds => ?_
  refine (failsIn_compileAddresses _ _ _ _).bind fun legacyAddresses => ?_
  refine (failsIn_compileAddresses _ _ _ _).bind fun addressInclude => ?_
  refine (failsIn_compileAddresses _ _ _ _).bind fun addressExclude => ?_
  refine (failsIn_compileAddresses _ _ _ _).bind fun addressRequired => ?_
  refine (failsIn_okOr (refusal_invalidArgument _) _).bind fun blockPayload => ?_
  refine (failsIn_okOr (refusal_invalidArgument _) _).bind fun transactionPayload => ?_
  exact Except.failsIn_ok _

theorem failsIn_compileNamed (limits : FilterLimits)
    (filters : List (String × SubscribeRequestFilter)) :
    Except.FailsIn Refusal (compileNamed limits filters) := by
  induction filters with
  | nil => exact Except.failsIn_ok _
  | cons entry rest ih =>
    obtain ⟨name, filter⟩ := entry
    unfold compileNamed
    refine (failsIn_validateName _ _).bind fun _ => ?_
    split
    · exact Except.failsIn_error (refusal_invalidArgument _)
    refine (CompiledFilter.failsIn_fromProto _ _).bind fun compiled => ?_
    exact ih.bind fun rest => Except.failsIn_ok _

/-- **A refused filter is the request's fault or the configuration's**; its status
never stands for a replay gap. -/
theorem EventFilter.failsIn_new (request : SubscribeRequest) (limits : FilterLimits) :
    Except.FailsIn Refusal (EventFilter.new request limits) := by
  have hnamed : ∀ (filters : List (String × SubscribeRequestFilter))
      (result : List (String × CompiledFilter) → EventFilter),
      Except.FailsIn Refusal (compileNamed limits filters >>= fun named => pure (result named)) :=
    fun filters result => (failsIn_compileNamed limits filters).bind fun _ => Except.failsIn_ok _
  unfold EventFilter.new
  dsimp only
  split
  · exact Except.failsIn_error (refusal_invalidArgument _)
  split
  · split <;> exact Except.failsIn_error (refusal_invalidArgument _)
  split
  · exact hnamed _ _
  · exact ((CompiledFilter.failsIn_fromProto _ _).map _).bind fun legacy => hnamed _ _

end

/-- Match attribution and the richest representations the filters request. -/
structure FilterMatch where
  names : List String
  blockPayload : BlockPayload
  transactionPayload : TransactionPayload
  deriving DecidableEq

def EventFilter.matched (filter : EventFilter) (update : SubscribeUpdate) : Option FilterMatch :=
  let context := UpdateContext.new update filter.needsAddresses
  let legacyMatches := filter.legacy.any (·.matches context)
  let matchedNamed := filter.named.filter fun (_, filter) => filter.matches context
  if !filter.defaultAll && !legacyMatches && matchedNamed.isEmpty then none
  else some
    { names := matchedNamed.map (·.1)
      blockPayload :=
        if filter.defaultAll || legacyMatches ||
            matchedNamed.any (fun (_, filter) => filter.blockPayload == .full) then .full
        else .metaOnly
      transactionPayload :=
        if filter.defaultAll || legacyMatches then .full
        else richestTransactionPayload (matchedNamed.map (·.2)) }

end ZakuraGrpc
