import ZakuraGrpc.Geyser.NamedFilters
import ZakuraGrpc.Geyser.Server

/-!
# What a subscriber receives

A delivered message is the published update with the subscriber's own filter
names and with the representations that some matching filter asked for
(`unionMessage`), whatever was delivered to others before (`sendAll_union`).
-/

namespace ZakuraGrpc

/-! ## What filters ask for -/

def asksBlock (filter : SubscribeRequestFilter) : Prop :=
  BlockPayload.ofI32? filter.blockPayload = some .full ∨
    BlockPayload.ofI32? filter.blockPayload = some .unspecified

def asksRaw (filter : SubscribeRequestFilter) : Prop :=
  TransactionPayload.ofI32? filter.transactionPayload = some .full ∨
    TransactionPayload.ofI32? filter.transactionPayload = some .rawOnly ∨
    TransactionPayload.ofI32? filter.transactionPayload = some .unspecified

def asksTransparent (filter : SubscribeRequestFilter) : Prop :=
  TransactionPayload.ofI32? filter.transactionPayload = some .full ∨
    TransactionPayload.ofI32? filter.transactionPayload = some .transparentOnly ∨
    TransactionPayload.ofI32? filter.transactionPayload = some .unspecified

/-- The payload that keeps the raw bytes and the transparent lists, or not. -/
def unionPayload (raw transparent : Bool) : TransactionPayload :=
  match raw, transparent with
  | true, true => .full
  | true, false => .rawOnly
  | false, true => .transparentOnly
  | false, false => .metaOnly

/-- The payload keeps the raw bytes. -/
def TransactionPayload.keepsRaw : TransactionPayload → Bool
  | .unspecified | .full | .rawOnly => true
  | .metaOnly | .transparentOnly => false

/-- The payload keeps the transparent inputs and outputs. -/
def TransactionPayload.keepsTransparent : TransactionPayload → Bool
  | .unspecified | .full | .transparentOnly => true
  | .metaOnly | .rawOnly => false

/-- One step of `richest_transaction_payload`. -/
def addPayload (kept : Bool × Bool) (filter : CompiledFilter) : Bool × Bool :=
  (kept.1 || filter.transactionPayload.keepsRaw,
    kept.2 || filter.transactionPayload.keepsTransparent)

theorem foldl_addPayload (filters : List CompiledFilter) (kept : Bool × Bool) :
    filters.foldl addPayload kept =
      (kept.1 || filters.any (·.transactionPayload.keepsRaw),
        kept.2 || filters.any (·.transactionPayload.keepsTransparent)) := by
  induction filters generalizing kept with
  | nil => simp
  | cons filter rest ih =>
    rw [List.foldl_cons, ih, List.any_cons, List.any_cons, addPayload, Bool.or_assoc,
      Bool.or_assoc]

/-- The richest payload is the union of what the filters keep. -/
theorem richestTransactionPayload_eq (filters : List CompiledFilter) :
    richestTransactionPayload filters =
      unionPayload (filters.any (·.transactionPayload.keepsRaw))
        (filters.any (·.transactionPayload.keepsTransparent)) := by
  have hfold : ∀ step : Bool × Bool → CompiledFilter → Bool × Bool,
      (∀ kept filter, step kept filter = addPayload kept filter) →
      filters.foldl step (false, false) =
        (filters.any (·.transactionPayload.keepsRaw),
          filters.any (·.transactionPayload.keepsTransparent)) := by
    intro step hstep
    rw [funext₂ hstep, foldl_addPayload, Bool.false_or, Bool.false_or]
  unfold richestTransactionPayload
  rw [hfold]
  · rfl
  · intro kept filter
    unfold addPayload
    cases filter.transactionPayload <;>
      simp [TransactionPayload.keepsRaw, TransactionPayload.keepsTransparent]

/-! ## The expected message -/

/-- The message with these names, and the block bytes, the raw transaction bytes
and the transparent lists kept or not. -/
def unionMessage (message : SubscribeUpdate) (names : List String)
    (block raw transparent : Bool) : SubscribeUpdate :=
  { message with
    filters := names
    update :=
      match message.update with
      | some (.block update) => some (.block
        { update with
          payload := (if block then BlockPayload.full else .metaOnly).toI32
          block := if block then update.block else [] })
      | some (.transaction transaction) => some (.transaction
        { transaction with
          payload := (unionPayload raw transparent).toI32
          transaction := if raw then transaction.transaction else []
          transparentInputs := if transparent then transaction.transparentInputs else []
          transparentOutputs := if transparent then transaction.transparentOutputs else [] })
      | some (.mempoolTransaction transaction) => some (.mempoolTransaction
        { transaction with
          payload := (unionPayload raw transparent).toI32
          transaction := if raw then transaction.transaction else []
          transparentInputs := if transparent then transaction.transparentInputs else []
          transparentOutputs := if transparent then transaction.transparentOutputs else [] })
      | other => other }

/-- The projection to a union. -/
theorem applyPayloadProjection_union (message : SubscribeUpdate) (names : List String)
    (block raw transparent : Bool) :
    { applyPayloadProjection message (if block then .full else .metaOnly)
        (unionPayload raw transparent) with filters := names } =
      unionMessage message names block raw transparent := by
  unfold applyPayloadProjection unionMessage
  cases hu : message.update with
  | none => simp [hu]
  | some kind =>
    cases kind with
    | block update => cases block <;> simp
    | transaction transaction =>
      cases raw <;> cases transparent <;> simp [unionPayload, projectTransaction]
    | mempoolTransaction transaction =>
      cases raw <;> cases transparent <;> simp [unionPayload, projectTransaction]
    | _ => simp [hu]

/-- The slot that is not filled stands for the whole message. -/
theorem applyPayloadProjection_of_none {update : PublishedUpdate} {blockPayload : BlockPayload}
    {transactionPayload : TransactionPayload} (hblock : blockPayload ≠ .unspecified)
    (htransaction : transactionPayload ≠ .unspecified)
    (h : update.projection blockPayload transactionPayload = none) :
    applyPayloadProjection update.message blockPayload transactionPayload =
      applyPayloadProjection update.message .full .full := by
  have hfull : transactionPayload.projection = none → transactionPayload = .full := by
    intro hnone
    cases transactionPayload with
    | unspecified => exact absurd rfl htransaction
    | full => rfl
    | _ => cases hnone
  unfold PublishedUpdate.projection at h
  unfold applyPayloadProjection
  cases hu : update.message.update with
  | none => rfl
  | some kind =>
    rw [hu] at h
    cases kind with
    | block block =>
      cases blockPayload with
      | unspecified => exact absurd rfl hblock
      | full => rfl
      | metaOnly => cases h
    | transaction transaction =>
      rw [hfull h]
    | mempoolTransaction transaction =>
      rw [hfull h]
    | _ => rfl

/-! ## Deliveries -/

section
variable [WireFormat]

/-- `send_filtered` on the shared update: what the subscriber gets, and the
projections behind it. -/
def sendFiltered (update : PublishedUpdate) (cache : PayloadProjectionCache)
    (filter : EventFilter) : Option SubscribeUpdate × PayloadProjectionCache :=
  match filter.matched update.message with
  | none => (none, cache)
  | some filterMatch =>
    let (prepared, cache) :=
      update.payload cache filterMatch.blockPayload filterMatch.transactionPayload
    (some { prepared.message with filters := filterMatch.names }, cache)

/-- What subscribers get that are served one after the other. -/
def sendAll (update : PublishedUpdate) :
    PayloadProjectionCache → List EventFilter → List (Option SubscribeUpdate)
  | _, [] => []
  | cache, filter :: rest =>
    (sendFiltered update cache filter).1 ::
      sendAll update (sendFiltered update cache filter).2 rest

/-- One delivery is fresh and keeps the cache valid. -/
theorem sendFiltered_eq {update : PublishedUpdate} {cache : PayloadProjectionCache}
    (hvalid : update.CacheValid cache) (filter : EventFilter) :
    (sendFiltered update cache filter).1 = deliver filter update ∧
      update.CacheValid (sendFiltered update cache filter).2 := by
  unfold sendFiltered deliver
  cases filter.matched update.message with
  | none => exact ⟨rfl, hvalid⟩
  | some filterMatch =>
    obtain ⟨hfresh, hvalid'⟩ := PublishedUpdate.payload_eq hvalid filterMatch.blockPayload
      filterMatch.transactionPayload
    refine ⟨?_, hvalid'⟩
    dsimp only
    rw [hfresh]
    rfl

theorem sendAll_eq {update : PublishedUpdate} {cache : PayloadProjectionCache}
    (hvalid : update.CacheValid cache) (filters : List EventFilter) :
    sendAll update cache filters = filters.map fun filter => deliver filter update := by
  induction filters generalizing cache with
  | nil => rfl
  | cons filter rest ih =>
    obtain ⟨hfresh, hvalid'⟩ := sendFiltered_eq hvalid filter
    rw [sendAll, hfresh, ih hvalid', List.map_cons]

/-- A published update is its own full projection, so a delivery is a
projection. -/
theorem freshPayload_new (source : SubscribeUpdate) {blockPayload : BlockPayload}
    {transactionPayload : TransactionPayload} (hblock : blockPayload ≠ .unspecified)
    (htransaction : transactionPayload ≠ .unspecified) :
    ((PublishedUpdate.new source).freshPayload blockPayload transactionPayload).message =
      applyPayloadProjection (PublishedUpdate.new source).message blockPayload
        transactionPayload := by
  unfold PublishedUpdate.freshPayload
  cases hslot : (PublishedUpdate.new source).projection blockPayload transactionPayload with
  | none =>
    rw [applyPayloadProjection_of_none hblock htransaction hslot]
    exact (applyPayloadProjection_full source).symm
  | some slot => rfl

end

section
variable [ZakuraChain]

/-- The payload modes of a compiled filter. -/
theorem CompiledFilter.payloads_of_fromProto {filter : SubscribeRequestFilter}
    {limits : FilterLimits} {compiled : CompiledFilter}
    (h : CompiledFilter.fromProto filter limits = .ok compiled) :
    (compiled.blockPayload = .full ↔ asksBlock filter) ∧
      (compiled.transactionPayload.keepsRaw = true ↔ asksRaw filter) ∧
      (compiled.transactionPayload.keepsTransparent = true ↔ asksTransparent filter) := by
  unfold CompiledFilter.fromProto at h
  split at h
  · cases h
  obtain ⟨kinds, -, h⟩ := Except.bind_eq_ok.mp h
  obtain ⟨ids, -, h⟩ := Except.bind_eq_ok.mp h
  obtain ⟨legacy, -, h⟩ := Except.bind_eq_ok.mp h
  obtain ⟨included, -, h⟩ := Except.bind_eq_ok.mp h
  obtain ⟨excluded, -, h⟩ := Except.bind_eq_ok.mp h
  obtain ⟨required, -, h⟩ := Except.bind_eq_ok.mp h
  obtain ⟨blockPayload, hblock, h⟩ := Except.bind_eq_ok.mp h
  obtain ⟨transactionPayload, htransaction, h⟩ := Except.bind_eq_ok.mp h
  rw [okOr_eq_ok] at hblock htransaction
  rw [Except.pure_eq_ok] at h
  subst h
  unfold asksBlock asksRaw asksTransparent
  rw [hblock, htransaction]
  refine ⟨?_, ?_, ?_⟩
  · cases blockPayload <;> simp
  · cases transactionPayload <;> simp [TransactionPayload.keepsRaw]
  · cases transactionPayload <;> simp [TransactionPayload.keepsTransparent]

/-! ## The union -/

/-- The request is the catch-all, its event types match, or a matching named
filter of it asks. -/
def Wants (limits : FilterLimits) (request : SubscribeRequest) (update : SubscribeUpdate)
    (asks : SubscribeRequestFilter → Prop) : Prop :=
  (request.eventTypes = [] ∧ request.filters.entries = []) ∨
    (request.eventTypes ≠ [] ∧ MatchesAlone limits (aloneLegacy request) update) ∨
    ∃ name source, request.filters.lookup name = some source ∧
      MatchesAlone limits (aloneNamed name source) update ∧ asks source

/-- The message is the published one with the union of what was asked for, or
nothing where nothing matches. -/
def IsUnion (limits : FilterLimits) (request : SubscribeRequest) (filter : EventFilter)
    (published : SubscribeUpdate) (message : Option SubscribeUpdate) : Prop :=
  if filter.matched published = none then message = none
  else ∃ block raw transparent : Bool,
    (block = true ↔ Wants limits request published asksBlock) ∧
    (raw = true ↔ Wants limits request published asksRaw) ∧
    (transparent = true ↔ Wants limits request published asksTransparent) ∧
    message = some
      (unionMessage published (filter.matchedNames published) block raw transparent)

/-- What a compiled request keeps is what its matching filters ask for. -/
theorem EventFilter.IsCompiled.wants_iff {request : SubscribeRequest} {limits : FilterLimits}
    {filter : EventFilter} (h : filter.IsCompiled request limits) (update : SubscribeUpdate)
    (keeps : CompiledFilter → Bool) {asks : SubscribeRequestFilter → Prop}
    (hkeeps : ∀ name source compiled, CompilesAs limits name source compiled →
      (keeps compiled = true ↔ asks source)) :
    (filter.defaultAll || filter.legacy.any (·.verdict update) ||
        (filter.named.filter fun entry => entry.2.verdict update).any (keeps ·.2)) = true ↔
      Wants limits request update asks := by
  have hdefault : filter.defaultAll = true ↔
      request.eventTypes = [] ∧ request.filters.entries = [] := by
    rw [h.defaultAll, Bool.and_eq_true, List.isEmpty_iff, List.isEmpty_iff]
  have hlegacy : filter.legacy.any (·.verdict update) = true ↔
      request.eventTypes ≠ [] ∧ MatchesAlone limits (aloneLegacy request) update := by
    rcases compileLegacy_eq_ok.mp h.legacy with ⟨hnil, hnone⟩ | ⟨htypes, compiled, hsome, hproto⟩
    · rw [hnone]
      exact iff_of_false (by simp) fun hboth => hboth.1 hnil
    · rw [hsome, matchesAlone_legacy htypes hproto]
      exact ⟨fun hverdict => ⟨htypes, hverdict⟩, fun hboth => hboth.2⟩
  have hnamed : (filter.named.filter fun entry => entry.2.verdict update).any (keeps ·.2) = true ↔
      ∃ name source, request.filters.lookup name = some source ∧
        MatchesAlone limits (aloneNamed name source) update ∧ asks source := by
    rw [List.any_eq_true]
    constructor
    · rintro ⟨⟨name, compiled⟩, hmem, hkept⟩
      obtain ⟨hentry, hverdict⟩ := List.mem_filter.mp hmem
      obtain ⟨source, hsource, hcompiles⟩ := h.mem_named.mp hentry
      exact ⟨name, source, hsource,
        (matchesAlone_named (h.compiles hsource).1 hcompiles update).mpr hverdict,
        (hkeeps name source compiled hcompiles).mp hkept⟩
    · rintro ⟨name, source, hsource, halone, hasks⟩
      obtain ⟨hsize, compiled, hcompiles⟩ := h.compiles hsource
      have hverdict := (matchesAlone_named hsize hcompiles update).mp halone
      exact ⟨(name, compiled),
        List.mem_filter.mpr ⟨h.mem_named.mpr ⟨source, hsource, hcompiles⟩, hverdict⟩,
        (hkeeps name source compiled hcompiles).mpr hasks⟩
  unfold Wants
  rw [Bool.or_eq_true, Bool.or_eq_true, hdefault, hlegacy, hnamed, or_assoc]

/-- **One delivery is the union** of what the matching filters asked for. -/
theorem EventFilter.IsCompiled.deliver_isUnion [WireFormat] {request : SubscribeRequest}
    {limits : FilterLimits} {filter : EventFilter} (h : filter.IsCompiled request limits)
    (source : SubscribeUpdate) :
    IsUnion limits request filter (PublishedUpdate.new source).message
      (deliver filter (PublishedUpdate.new source)) := by
  have hfresh := @freshPayload_new _ source
  generalize PublishedUpdate.new source = update at hfresh ⊢
  unfold IsUnion
  split
  · rename_i hnone
    rw [deliver, hnone]
    rfl
  rename_i hsome
  have hmatched := h.matched_eq update.message
  dsimp only at hmatched
  split at hmatched
  · exact absurd hmatched hsome
  have hpayload : ∀ (all : Bool) (filters : List CompiledFilter),
      (if all then TransactionPayload.full else richestTransactionPayload filters) =
        unionPayload (all || filters.any (·.transactionPayload.keepsRaw))
          (all || filters.any (·.transactionPayload.keepsTransparent)) := by
    intro all filters
    cases all with
    | true => rfl
    | false =>
      rw [if_neg Bool.false_ne_true, richestTransactionPayload_eq, Bool.false_or, Bool.false_or]
  rw [hpayload, List.any_map, List.any_map] at hmatched
  refine ⟨_, _, _,
    h.wants_iff update.message (·.blockPayload == .full)
      (fun name source compiled hcompiles => beq_iff_eq.trans
        (CompiledFilter.payloads_of_fromProto hcompiles.filter).1),
    h.wants_iff update.message (·.transactionPayload.keepsRaw)
      (fun name source compiled hcompiles =>
        (CompiledFilter.payloads_of_fromProto hcompiles.filter).2.1),
    h.wants_iff update.message (·.transactionPayload.keepsTransparent)
      (fun name source compiled hcompiles =>
        (CompiledFilter.payloads_of_fromProto hcompiles.filter).2.2), ?_⟩
  rw [← applyPayloadProjection_union, h.matchedNames_eq, ← hfresh, deliver, hmatched]
  · rfl
  · split <;> simp
  · unfold unionPayload
    split <;> simp

/-- **Every subscriber receives its own union**, whoever was served before it;
the cached projections are the fresh ones. -/
theorem sendAll_union [WireFormat] {limits : FilterLimits}
    {subscribers : List (SubscribeRequest × EventFilter)}
    (h : ∀ subscriber ∈ subscribers, EventFilter.new subscriber.1 limits = .ok subscriber.2)
    (source : SubscribeUpdate) :
    let update := PublishedUpdate.new source
    let messages := sendAll update (fun _ => none) (subscribers.map (·.2))
    List.Forall₂ (fun subscriber message =>
        IsUnion limits subscriber.1 subscriber.2 update.message message) subscribers messages ∧
      messages = subscribers.map fun subscriber => deliver subscriber.2 update := by
  intro update messages
  have hmessages : messages = subscribers.map fun subscriber => deliver subscriber.2 update := by
    have heq := sendAll_eq update.cacheValid_empty (subscribers.map (·.2))
    rwa [List.map_map] at heq
  refine ⟨?_, hmessages⟩
  rw [hmessages, List.forall₂_map_right_iff, List.forall₂_same]
  intro subscriber hmem
  exact (EventFilter.new_eq_ok.mp (h subscriber hmem)).deliver_isUnion source

end

/-- A filter that asks for neither the block bytes nor the transaction parts. -/
def sampleMetaRequest : SubscribeRequest :=
  { filters := AList.singleton "meta"
      { blockPayload := BlockPayload.metaOnly.toI32
        transactionPayload := TransactionPayload.metaOnly.toI32 } }

theorem sendAll_union_sample : ∃ subscribers : List (SubscribeRequest × EventFilter),
    subscribers.map (·.1) = [sampleMetaRequest, sampleNamedRequest, sampleMetaRequest] ∧
      let update := @PublishedUpdate.new protoWire sampleAccepted
      let messages := @sendAll protoWire update (fun _ => none) (subscribers.map (·.2))
      List.Forall₂ (fun subscriber message =>
          @IsUnion addressChain {} subscriber.1 subscriber.2 update.message message)
        subscribers messages ∧
      messages = subscribers.map fun subscriber => @deliver protoWire subscriber.2 update := by
  obtain ⟨filter, h⟩ : ∃ filter, @EventFilter.new addressChain sampleMetaRequest {} = .ok filter :=
    Except.exists_of_isOk (by decide +kernel)
  obtain ⟨filter', h', -⟩ := new_sampleNamedRequest
  refine ⟨[(sampleMetaRequest, filter), (sampleNamedRequest, filter'),
    (sampleMetaRequest, filter)], rfl, ?_⟩
  refine @sendAll_union addressChain protoWire {} _ ?_ sampleAccepted
  intro subscriber hmem
  simp only [List.mem_cons, List.not_mem_nil, or_false] at hmem
  rcases hmem with rfl | rfl | rfl
  · exact h
  · exact h'
  · exact h

end ZakuraGrpc
