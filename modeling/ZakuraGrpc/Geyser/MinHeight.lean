import ZakuraGrpc.Geyser.NamedFilters

/-!
# Minimum heights

`min_height` is documented to ignore block-scoped events below a height. The
match requires more: an update without a height never reaches a minimum, so a
filter with one matches no mempool update and no entry of a mempool snapshot,
whatever else it selects (`hidesOnlyBelow_iff`).
-/

namespace ZakuraGrpc

/-- The constraints of a filter other than its minimum height. -/
def CompiledFilter.otherConstraints (filter : CompiledFilter) (update : SubscribeUpdate) : Bool :=
  (filter.kinds == 0 || (eventTypeBit update.eventType).any (filter.kinds &&& · != 0)) &&
    (decide (filter.transactionIds = ∅) ||
      updateMatchesTransactionId update filter.transactionIds) &&
    filter.addressesMatch (UpdateContext.new update filter.usesAddresses).addresses &&
    filter.transactionMetadataMatches (updateTransactionFacts update)

/-- A filter matches when its constraints hold and the height reaches the
minimum. -/
theorem CompiledFilter.verdict_iff (filter : CompiledFilter) (update : SubscribeUpdate) :
    filter.verdict update = true ↔ filter.otherConstraints update = true ∧
      ∀ minimum, filter.minHeight = some minimum →
        ∃ height, blockHeight update = some height ∧ minimum ≤ height := by
  have hheight : isNoneOr filter.minHeight
        (fun minimum => (blockHeight update).any (minimum ≤ ·)) = true ↔
      ∀ minimum, filter.minHeight = some minimum →
        ∃ height, blockHeight update = some height ∧ minimum ≤ height := by
    cases filter.minHeight with
    | none => simp [isNoneOr]
    | some minimum => cases blockHeight update <;> simp [isNoneOr]
  unfold verdict CompiledFilter.matches otherConstraints
  dsimp only [UpdateContext.new]
  rw [← hheight]
  simp only [Bool.and_eq_true]
  tauto

/-- The minimum hides the block-scoped updates below it from a filter that would
match without it, and no other updates. -/
def HidesOnlyBelow (minimum : Nat) (update : SubscribeUpdate) (matched matchedWithout : Prop) :
    Prop :=
  matched ↔ matchedWithout ∧ ¬ ∃ height, blockHeight update = some height ∧ height < minimum

/-- The minimum of a compiled filter: an update that the other constraints
select is hidden when it has no height. -/
theorem CompiledFilter.hidesOnlyBelow {filter : CompiledFilter} {minimum : Nat}
    (h : filter.minHeight = some minimum) (update : SubscribeUpdate) :
    HidesOnlyBelow minimum update (filter.verdict update = true)
        (CompiledFilter.verdict { filter with minHeight := none } update = true) ↔
      (filter.otherConstraints update = true → blockHeight update ≠ none) := by
  have hwith : filter.verdict update = true ↔ filter.otherConstraints update = true ∧
      ∃ height, blockHeight update = some height ∧ minimum ≤ height := by
    rw [verdict_iff, h]
    simp
  have hwithout : CompiledFilter.verdict { filter with minHeight := none } update = true ↔
      filter.otherConstraints update = true := by
    rw [verdict_iff]
    exact and_iff_left fun minimum hnone => nomatch hnone
  unfold HidesOnlyBelow
  rw [hwith, hwithout]
  cases hscope : blockHeight update with
  | none => simp
  | some height => simp

section
variable [ZakuraChain]

/-- The minimum height is copied; nothing else of a compiled filter reads it. -/
theorem CompiledFilter.fromProto_minHeight {source : SubscribeRequestFilter}
    {limits : FilterLimits} {compiled : CompiledFilter}
    (h : CompiledFilter.fromProto source limits = .ok compiled) (minHeight : Option Nat) :
    CompiledFilter.fromProto { source with minHeight := minHeight } limits =
      .ok { compiled with minHeight := minHeight } := by
  unfold CompiledFilter.fromProto at h ⊢
  dsimp only at h ⊢
  split at h
  · cases h
  · rename_i hsize
    rw [if_neg hsize]
    obtain ⟨kinds, hkinds, h⟩ := Except.bind_eq_ok.mp h
    obtain ⟨ids, hids, h⟩ := Except.bind_eq_ok.mp h
    obtain ⟨legacy, hlegacy, h⟩ := Except.bind_eq_ok.mp h
    obtain ⟨included, hincluded, h⟩ := Except.bind_eq_ok.mp h
    obtain ⟨excluded, hexcluded, h⟩ := Except.bind_eq_ok.mp h
    obtain ⟨required, hrequired, h⟩ := Except.bind_eq_ok.mp h
    obtain ⟨blockPayload, hblock, h⟩ := Except.bind_eq_ok.mp h
    obtain ⟨transactionPayload, htransaction, h⟩ := Except.bind_eq_ok.mp h
    rw [Except.pure_eq_ok] at h
    subst h
    rw [hkinds, hids, hlegacy, hincluded, hexcluded, hrequired, hblock, htransaction]
    rfl

/-- **When a minimum hides only what is below it.** Exactly for the updates that
are block-scoped, or that the other constraints of the filter refuse. -/
theorem hidesOnlyBelow_iff {request : SubscribeRequest} {limits : FilterLimits}
    {filter : EventFilter} (h : EventFilter.new request limits = .ok filter) {name : String}
    {source : SubscribeRequestFilter} (hsource : request.filters.lookup name = some source)
    {minimum : Nat} (hminimum : source.minHeight = some minimum) (update : SubscribeUpdate) :
    ∃ compiled without, CompiledFilter.fromProto source limits = .ok compiled ∧
      CompiledFilter.fromProto { source with minHeight := none } limits = .ok without ∧
      (HidesOnlyBelow minimum update (name ∈ filter.matchedNames update)
          (without.verdict update = true) ↔
        (compiled.otherConstraints update = true → blockHeight update ≠ none)) := by
  obtain ⟨compiled, hcompiles, hmatched⟩ :=
    (EventFilter.new_eq_ok.mp h).mem_matchedNames_iff hsource
  have hproto := hcompiles.filter
  have hheight : compiled.minHeight = some minimum :=
    (CompiledFilter.fromProto_isCompiled hproto).minHeight.trans hminimum
  refine ⟨compiled, { compiled with minHeight := none }, hproto,
    CompiledFilter.fromProto_minHeight hproto none, ?_⟩
  rw [hmatched]
  exact CompiledFilter.hidesOnlyBelow hheight update

end

/-! ## A mempool filter with a minimum -/

/-- Mempool changes, with a minimum height that no mempool change has. -/
def mempoolFilter : SubscribeRequestFilter :=
  { eventTypes := [EventType.mempoolChanged.toI32], minHeight := some 10 }

def mempoolRequest : SubscribeRequest := { filters := AList.singleton "mempool" mempoolFilter }

/-- A mempool change of one admitted transaction. -/
def mempoolChange : SubscribeUpdate :=
  { eventType := EventType.mempoolChanged.toI32
    update := some (.mempool
      { action := MempoolAction.added.toI32
        transactionIds := [printDisplayOrder (Vector.replicate 32 1)] }) }

theorem new_mempoolRequest : ∃ filter,
    @EventFilter.new hexChain mempoolRequest {} = .ok filter :=
  Except.exists_of_isOk (by decide +kernel)

theorem hidesOnlyBelow_iff_mempool : ∃ filter compiled without,
    @EventFilter.new hexChain mempoolRequest {} = .ok filter ∧
      @CompiledFilter.fromProto hexChain mempoolFilter {} = .ok compiled ∧
      @CompiledFilter.fromProto hexChain { mempoolFilter with minHeight := none } {} =
        .ok without ∧
      (HidesOnlyBelow 10 mempoolChange ("mempool" ∈ filter.matchedNames mempoolChange)
          (without.verdict mempoolChange = true) ↔
        (compiled.otherConstraints mempoolChange = true → blockHeight mempoolChange ≠ none)) := by
  obtain ⟨filter, h⟩ := new_mempoolRequest
  obtain ⟨compiled, without, hcompiled, hwithout, hiff⟩ :=
    @hidesOnlyBelow_iff hexChain mempoolRequest {} filter h "mempool" mempoolFilter rfl 10 rfl
      mempoolChange
  exact ⟨filter, compiled, without, h, hcompiled, hwithout, hiff⟩

/-- The minimum hides the mempool change. -/
theorem mempool_hidden :
    ¬ ∀ (_ : ZakuraChain) (request : SubscribeRequest) (limits : FilterLimits)
        (filter : EventFilter) (name : String) (source : SubscribeRequestFilter) (minimum : Nat)
        (without : CompiledFilter) (update : SubscribeUpdate),
      EventFilter.new request limits = .ok filter →
      request.filters.lookup name = some source → source.minHeight = some minimum →
      CompiledFilter.fromProto { source with minHeight := none } limits = .ok without →
      HidesOnlyBelow minimum update (name ∈ filter.matchedNames update)
        (without.verdict update = true) := by
  intro hall
  obtain ⟨filter, h⟩ := new_mempoolRequest
  obtain ⟨compiled, hcompiles, hmatched⟩ :=
    @EventFilter.IsCompiled.mem_matchedNames_iff hexChain _ _ _
      ((@EventFilter.new_eq_ok hexChain _ _ _).mp h) "mempool" mempoolFilter rfl
  have hproto := @CompilesAs.filter hexChain _ _ _ _ hcompiles
  have hheight := @CompiledFilter.IsCompiled.minHeight hexChain _ _ _
    (@CompiledFilter.fromProto_isCompiled hexChain _ _ _ hproto)
  have hother : ((@CompiledFilter.fromProto hexChain mempoolFilter {}).toOption.map
      (·.otherConstraints mempoolChange)) = some true := by decide +kernel
  rw [hproto] at hother
  have hhides := hall hexChain mempoolRequest {} filter "mempool" mempoolFilter 10 _ mempoolChange
    h rfl rfl (@CompiledFilter.fromProto_minHeight hexChain _ _ _ hproto none)
  rw [hmatched] at hhides
  exact (CompiledFilter.hidesOnlyBelow hheight mempoolChange).mp hhides (Option.some.inj hother) rfl

end ZakuraGrpc
