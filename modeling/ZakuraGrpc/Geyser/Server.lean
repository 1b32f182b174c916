import ZakuraGrpc.Geyser.Mempool
import ZakuraGrpc.Geyser.ReplayGap

/-!
# The server

The parts of a publication and of a subscription, in the order the server runs
them: `prepareBatch`, `ReplayBuffer.pushBatchAt` and the sends of
`publish_batch`; `replayHeight`, `subscribeReplay` and `MempoolState.snapshot`
of `subscribe`; `initialUpdates` and `receiveLive` of `run_subscription`.

The live ring is the list of everything sent; a receiver is a position in it.
-/

namespace ZakuraGrpc

/-! ## Requests -/

/-- The height a request asks to replay from. -/
def replayHeight (request : SubscribeRequest) : Except Status (Option Nat) :=
  match request.resume with
  | none => .ok request.fromHeight
  | some checkpoint =>
    if checkpoint.finalizedBlockHash.isEmpty then
      .error (invalidArgument "resume.finalized_block_hash must not be empty")
    else if request.fromHeight.any (· ≠ checkpoint.finalizedHeight) then
      .error (invalidArgument
        "from_height must equal resume.finalized_height when both are set")
    else if checkpoint.partialBlocks.any (·.height ≤ checkpoint.finalizedHeight) then
      .error (invalidArgument
        "resume.partial_blocks must be above the finalized checkpoint")
    else .ok (some checkpoint.finalizedHeight)

/-- What `replay_height` checks of a checkpoint, and the height it returns. -/
theorem replayHeight_of_resume {request : SubscribeRequest} {resume : ResumeCheckpoint}
    (h : request.resume = some resume) {height : Option Nat} :
    replayHeight request = .ok height ↔
      (resume.finalizedBlockHash ≠ "" ∧
        (∀ height, request.fromHeight = some height → height = resume.finalizedHeight) ∧
        ∀ block ∈ resume.partialBlocks, resume.finalizedHeight < block.height) ∧
      height = some resume.finalizedHeight := by
  have hhash : resume.finalizedBlockHash.isEmpty = true ↔ resume.finalizedBlockHash = "" :=
    String.isEmpty_iff
  have hheight : request.fromHeight.any (· ≠ resume.finalizedHeight) = true ↔
      ¬ ∀ height, request.fromHeight = some height → height = resume.finalizedHeight := by
    cases request.fromHeight <;> simp
  have hblocks : resume.partialBlocks.any (·.height ≤ resume.finalizedHeight) = true ↔
      ¬ ∀ block ∈ resume.partialBlocks, resume.finalizedHeight < block.height := by
    simp
  unfold replayHeight
  rw [h]
  dsimp only
  split
  · rename_i hempty
    refine ⟨(by intro hok; cases hok), fun hall => ?_⟩
    exact absurd (hhash.mp hempty) hall.1.1
  rename_i hnonempty
  split
  · rename_i hdiffers
    refine ⟨(by intro hok; cases hok), fun hall => ?_⟩
    exact absurd hall.1.2.1 (hheight.mp hdiffers)
  rename_i hequal
  split
  · rename_i hbelow
    refine ⟨(by intro hok; cases hok), fun hall => ?_⟩
    exact absurd hall.1.2.2 (hblocks.mp hbelow)
  rename_i habove
  constructor
  · intro hok
    cases hok
    exact ⟨⟨fun heq => hnonempty (hhash.mpr heq), not_not.mp fun hno => hequal (hheight.mpr hno),
      not_not.mp fun hno => habove (hblocks.mpr hno)⟩, rfl⟩
  · rintro ⟨-, rfl⟩
    rfl

/-- What `replay_height` refuses is a bad request. -/
theorem failsIn_replayHeight (request : SubscribeRequest) :
    Except.FailsIn Refusal (replayHeight request) := by
  unfold replayHeight
  split
  · exact Except.failsIn_ok _
  split
  · exact Except.failsIn_error (refusal_invalidArgument _)
  split
  · exact Except.failsIn_error (refusal_invalidArgument _)
  split
  · exact Except.failsIn_error (refusal_invalidArgument _)
  · exact Except.failsIn_ok _

def reconnectUpdate (checkpoint : ResumeCheckpoint) : SubscribeUpdate :=
  { eventType := EventType.unspecified.toI32
    update := some (.reconnect
      { finalizedHeight := checkpoint.finalizedHeight
        finalizedBlockHash := checkpoint.finalizedBlockHash
        discardedBlocks := checkpoint.partialBlocks }) }

def mempoolSnapshotMarker (revision transactionCount : Nat) (phase : MempoolSnapshotPhase) :
    SubscribeUpdate :=
  { eventType := EventType.unspecified.toI32
    mempoolRevision := some revision
    update := some (.mempoolSnapshot
      { phase := phase.toI32, revision := revision, transactionCount := transactionCount }) }

def subscriptionPing (id : Int) : SubscribeUpdate :=
  { eventType := EventType.unspecified.toI32, update := some (.ping { id := id }) }

def subscriptionPong (id : Int) : SubscribeUpdate :=
  { eventType := EventType.unspecified.toI32, update := some (.pong { id := id }) }

/-- A filter replacement or, with the filter kept, the answer to a ping. -/
def applySubscriptionRequest [ZakuraChain] (filter : EventFilter) (request : SubscribeRequest)
    (limits : FilterLimits) : Except Status (EventFilter × Option SubscribeUpdate) :=
  match request.ping with
  | some ping => .ok (filter, some (subscriptionPong ping.id))
  | none => (EventFilter.new request limits).map fun filter => (filter, none)

/-- A request is a ping, which is answered, or installs its filter. -/
theorem applySubscriptionRequest_ok [ZakuraChain] {filter filter' : EventFilter}
    {request : SubscribeRequest} {limits : FilterLimits} {response : Option SubscribeUpdate}
    (h : applySubscriptionRequest filter request limits = .ok (filter', response)) :
    (∃ ping, request.ping = some ping ∧ filter' = filter ∧
        response = some (subscriptionPong ping.id)) ∨
      request.ping = none ∧ EventFilter.new request limits = .ok filter' ∧ response = none := by
  unfold applySubscriptionRequest at h
  split at h
  · rename_i ping hping
    cases h
    exact .inl ⟨ping, hping, rfl, rfl⟩
  · rename_i hping
    obtain ⟨compiled, hcompiled, heq⟩ := Except.map_eq_ok.mp h
    cases heq
    exact .inr ⟨hping, hcompiled, rfl⟩

/-- It is refused with its filter. -/
theorem applySubscriptionRequest_error [ZakuraChain] {filter : EventFilter}
    {request : SubscribeRequest} {limits : FilterLimits} {status : Status}
    (h : applySubscriptionRequest filter request limits = .error status) :
    request.ping = none ∧ EventFilter.new request limits = .error status := by
  unfold applySubscriptionRequest at h
  split at h
  · cases h
  · rename_i hping
    cases hnew : EventFilter.new request limits with
    | ok compiled =>
      rw [hnew] at h
      cases h
    | error refused =>
      rw [hnew] at h
      cases h
      exact ⟨hping, rfl⟩

/-! ## Filters that match everything -/

/-- The filter matches every update. -/
def EventFilter.MatchesAll (filter : EventFilter) : Prop :=
  ∀ update, (filter.matched update).isSome

/-- The filter matches every update and asks for the full payloads. -/
def EventFilter.CatchAll (filter : EventFilter) : Prop :=
  ∀ update, ∃ names, filter.matched update =
    some { names := names, blockPayload := .full, transactionPayload := .full }

theorem EventFilter.CatchAll.matchesAll {filter : EventFilter} (h : filter.CatchAll) :
    filter.MatchesAll := by
  intro update
  obtain ⟨names, hmatched⟩ := h update
  rw [hmatched]
  rfl

/-- The filter of an empty request. -/
theorem catchAll_of_defaultAll {filter : EventFilter} (h : filter.defaultAll = true) :
    filter.CatchAll := by
  intro update
  refine ⟨(filter.named.filter fun entry =>
    entry.2.matches (UpdateContext.new update filter.needsAddresses)).map (·.1), ?_⟩
  simp only [EventFilter.matched, h, Bool.not_true, Bool.false_and, Bool.false_eq_true, if_false,
    Bool.true_or, if_true]

/-! ## Subscribing -/

/-- The replay part of `subscribe`, under the replay lock. -/
def subscribeReplay (replay : ReplayBuffer) (request : SubscribeRequest) (now : Nat) :
    Option (ReplayBuffer × Except Status ReplaySnapshot) :=
  match replayHeight request with
  | .error status => some (replay, .error status)
  | .ok fromHeight =>
    match request.resume.map replay.verifyCheckpoint with
    | some (.error status) => some (replay, .error status)
    | some (.ok ()) | none => replay.snapshot fromHeight now

/-- The replay part of `subscribe` evicts; what it returns is read from the
evicted buffer. -/
theorem subscribeReplay_spec {replay replay' : ReplayBuffer} {request : SubscribeRequest}
    {now : Nat} {result : Except Status ReplaySnapshot}
    (h : subscribeReplay replay request now = some (replay', result)) :
    replay'.buckets <:+ replay.buckets ∧ replay'.limits = replay.limits ∧
      ∀ snapshot, result = .ok snapshot → ∃ fromHeight,
        replayHeight request = .ok fromHeight ∧
        snapshot =
          { updates := (fromHeight.map replay'.updatesFrom).getD []
            watermark := replay'.watermark } := by
  unfold subscribeReplay at h
  have hself : ∀ {status : Status}, some (replay, (.error status : Except Status ReplaySnapshot)) =
      some (replay', result) → replay'.buckets <:+ replay.buckets ∧
        replay'.limits = replay.limits ∧ ∀ snapshot, result = .ok snapshot → False := by
    intro status heq
    cases heq
    exact ⟨List.suffix_rfl, rfl, fun _ hok => nomatch hok⟩
  cases hheight : replayHeight request with
  | error status =>
    simp only [hheight] at h
    obtain ⟨hsuffix, hlimits, hno⟩ := hself h
    exact ⟨hsuffix, hlimits, fun snapshot hok => (hno snapshot hok).elim⟩
  | ok fromHeight =>
    simp only [hheight] at h
    have hsnapshot : replay.snapshot fromHeight now = some (replay', result) →
        replay'.buckets <:+ replay.buckets ∧ replay'.limits = replay.limits ∧
          ∀ snapshot, result = .ok snapshot → ∃ fromHeight',
            (.ok fromHeight : Except Status (Option Nat)) = .ok fromHeight' ∧
            snapshot =
              { updates := (fromHeight'.map replay'.updatesFrom).getD []
                watermark := replay'.watermark } := by
      intro hread
      simp only [ReplayBuffer.snapshot, Option.map_eq_some_iff, Prod.mk.injEq] at hread
      obtain ⟨evicted, hevict, rfl, rfl⟩ := hread
      obtain ⟨hsuffix, hlimits⟩ := ReplayBuffer.evict_suffix hevict
      refine ⟨hsuffix, hlimits, fun snapshot hok => ⟨fromHeight, rfl, ?_⟩⟩
      obtain ⟨_, -, hok⟩ := Except.bind_eq_ok.mp hok
      rw [Except.pure_eq_ok] at hok
      exact hok.symm
    split at h
    · obtain ⟨hsuffix, hlimits, hno⟩ := hself h
      exact ⟨hsuffix, hlimits, fun snapshot hok => (hno snapshot hok).elim⟩
    · exact hsnapshot h
    · exact hsnapshot h

/-! ## Refused replays -/

/-- The answer is the refusal of a replay gap. -/
def OutOfRange {α : Type} (result : Except Status α) : Prop :=
  ∃ status, result = .error status ∧ status.code = .outOfRange

instance {α : Type} (result : Except Status α) : Decidable (OutOfRange result) :=
  match result with
  | .ok _ => .isFalse fun ⟨_, heq, _⟩ => (by cases heq)
  | .error status =>
    decidable_of_iff (status.code = .outOfRange)
      ⟨fun hcode => ⟨status, rfl, hcode⟩, fun ⟨_, heq, hcode⟩ => (by cases heq; exact hcode)⟩

theorem not_outOfRange_ok {α : Type} (value : α) :
    ¬ OutOfRange (.ok value : Except Status α) := by
  rintro ⟨status, heq, -⟩
  cases heq

theorem not_outOfRange_of_refusal {α : Type} {status : Status} (h : Refusal status) :
    ¬ OutOfRange (.error status : Except Status α) := by
  rintro ⟨status', heq, hcode⟩
  cases heq
  unfold Refusal at h
  rw [hcode] at h
  rcases h with h | h <;> cases h

/-- Every retained height lies above the request. -/
theorem ReplayBuffer.Bounded.outOfRange_readSnapshot {buffer : ReplayBuffer} (h : buffer.Bounded)
    (fromHeight : Option Nat) : OutOfRange (buffer.readSnapshot fromHeight) ↔
      ∃ height, fromHeight = some height ∧ ∀ bucket ∈ buffer.buckets, height < bucket.height := by
  unfold ReplayBuffer.readSnapshot
  cases fromHeight with
  | none =>
    refine ⟨fun hrange => absurd hrange (not_outOfRange_ok _), fun ⟨height, hsome, _⟩ => ?_⟩
    cases hsome
  | some requested =>
    rcases h.checkAvailable requested with
      ⟨hok, bucket, hbucket, hle⟩ | ⟨⟨status, herror, hcode⟩, habove⟩
    · rw [hok]
      refine ⟨fun hrange => absurd hrange (not_outOfRange_ok _), fun ⟨height, hsome, hlt⟩ => ?_⟩
      cases hsome
      have := hlt bucket hbucket
      omega
    · rw [herror]
      exact ⟨fun _ => ⟨requested, rfl, habove⟩, fun _ => ⟨status, rfl, hcode⟩⟩

/-- A checkpoint at a retained height has the block's hash or another one. -/
theorem ReplayBuffer.not_outOfRange_verifyCheckpoint {buffer : ReplayBuffer}
    {checkpoint : ResumeCheckpoint}
    (h : ∃ bucket ∈ buffer.buckets, bucket.height = checkpoint.finalizedHeight) :
    ¬ OutOfRange (buffer.verifyCheckpoint checkpoint) := by
  have hretained : buffer.buckets.any
      (fun bucket => bucket.height == checkpoint.finalizedHeight) = true := by
    simpa using h
  rintro ⟨status, heq, hcode⟩
  unfold ReplayBuffer.verifyCheckpoint at heq
  rw [hretained] at heq
  dsimp only at heq
  split at heq
  · cases heq
  · cases heq
    cases hcode

/-- **When a subscription is refused for a gap.** Without a checkpoint, when its
height lies below the window; with a checkpoint whose height is retained, never. -/
theorem subscribeReplay_outOfRange {replay replay' : ReplayBuffer} (hbounded : replay.Bounded)
    {request : SubscribeRequest} {now : Nat} {result : Except Status ReplaySnapshot}
    (h : subscribeReplay replay request now = some (replay', result)) :
    replay'.Bounded ∧
      (request.resume = none → (OutOfRange result ↔ ∃ height, request.fromHeight = some height ∧
        ∀ bucket ∈ replay'.buckets, height < bucket.height)) ∧
      ∀ resume, request.resume = some resume →
        (∃ bucket ∈ replay'.buckets, bucket.height = resume.finalizedHeight) →
        ¬ OutOfRange result := by
  have hsnapshot : ∀ fromHeight, replay.snapshot fromHeight now = some (replay', result) →
      replay.evict now = some replay' ∧ result = replay'.readSnapshot fromHeight := by
    intro fromHeight hread
    obtain ⟨evicted, hevict, heq⟩ := Option.map_eq_some_iff.mp hread
    cases heq
    exact ⟨hevict, rfl⟩
  unfold subscribeReplay at h
  cases hresume : request.resume with
  | none =>
    have hheight : replayHeight request = .ok request.fromHeight := by
      rw [replayHeight, hresume]
    rw [hheight, hresume] at h
    obtain ⟨hevict, rfl⟩ := hsnapshot _ h
    have hbounded' := hbounded.evict hevict
    refine ⟨hbounded', fun _ => hbounded'.outOfRange_readSnapshot _, fun _ hsome => ?_⟩
    cases hsome
  | some checkpoint =>
    have hno : ∀ {P : Prop}, some checkpoint = none → P := by
      intro P heq
      cases heq
    cases hheight : replayHeight request with
    | error status =>
      rw [hheight] at h
      cases h
      refine ⟨hbounded, fun heq => hno heq, fun _ _ _ hrange => ?_⟩
      exact not_outOfRange_of_refusal (failsIn_replayHeight request status hheight) hrange
    | ok fromHeight =>
      have hfrom : fromHeight = some checkpoint.finalizedHeight :=
        ((replayHeight_of_resume hresume).mp hheight).2
      rw [hheight, hresume] at h
      dsimp only [Option.map_some] at h
      split at h
      · rename_i status hverify
        cases h
        refine ⟨hbounded, fun heq => hno heq, fun resume hsome hretained => ?_⟩
        cases hsome
        rintro ⟨status', heq, hcode⟩
        cases heq
        exact ReplayBuffer.not_outOfRange_verifyCheckpoint hretained
          ⟨status, Option.some.inj hverify, hcode⟩
      all_goals
        obtain ⟨hevict, rfl⟩ := hsnapshot _ h
        have hbounded' := hbounded.evict hevict
        refine ⟨hbounded', fun heq => hno heq, fun resume hsome ⟨bucket, hbucket, heq⟩ => ?_⟩
        cases hsome
        rw [hbounded'.outOfRange_readSnapshot]
        rintro ⟨height, hheight, habove⟩
        rw [hfrom] at hheight
        cases hheight
        have := habove bucket hbucket
        omega

section
variable [WireFormat]

/-! ## Publishing -/

def stampRevision (revision : Nat) (update : SubscribeUpdate) : SubscribeUpdate :=
  if isMempoolUpdate update then { update with mempoolRevision := some revision } else update

/-- The first part of `publish_batch`, under the mempool lock for a mempool
batch: the batch is stamped with the next revision, encoded and applied. -/
def prepareBatch (mempool : MempoolState) (updates : List SubscribeUpdate) :
    MempoolState × List PublishedUpdate :=
  if updates.any isMempoolUpdate then
    let revision := min (mempool.revision + 1) u64Max
    let published := updates.map fun update => PublishedUpdate.new (stampRevision revision update)
    (MempoolState.apply { mempool with revision := revision } published, published)
  else (mempool, updates.map PublishedUpdate.new)

/-! ## Delivery -/

/-- `send_filtered`: the message a subscriber gets, `none` where the filter
does not match. -/
def deliver (filter : EventFilter) (update : PublishedUpdate) : Option SubscribeUpdate :=
  (filter.matched update.message).map fun filterMatch =>
    { (update.freshPayload filterMatch.blockPayload filterMatch.transactionPayload).message with
      filters := filterMatch.names }

/-- What `send_initial_updates` sends. -/
def initialUpdates (filter : EventFilter) (replay : ReplaySnapshot)
    (mempool : Option MempoolSnapshot) (reconnect : Option SubscribeUpdate) :
    List SubscribeUpdate :=
  reconnect.toList ++
    (match mempool with
      | none => []
      | some snapshot =>
        mempoolSnapshotMarker snapshot.revision snapshot.transactionCount .begin ::
          snapshot.updates.filterMap (deliver filter) ++
          [mempoolSnapshotMarker snapshot.revision snapshot.transactionCount .end]) ++
    replay.updates.filterMap (deliver filter)

/-- A mempool update that the mempool snapshot already covers. -/
def suppressed (mempoolWatermark : Option Nat) (update : PublishedUpdate) : Bool :=
  mempoolWatermark.any fun revision => update.message.mempoolRevision.any (· ≤ revision)

/-- The live branch of `run_subscription`: the new watermark and the message
sent for a received update. -/
def receiveLive (filter : EventFilter) (replayWatermark : Nat) (mempoolWatermark : Option Nat)
    (update : PublishedUpdate) : Nat × Option SubscribeUpdate :=
  if update.message.sequence ≤ replayWatermark then (replayWatermark, none)
  else
    (update.message.sequence,
      if suppressed mempoolWatermark update then none else deliver filter update)

/-! ## What the parts keep -/

/-- The updates of a prepared batch, one by one. -/
theorem prepareBatch_batch (mempool : MempoolState) (updates : List SubscribeUpdate) :
    (prepareBatch mempool updates).2 = updates.map fun update =>
      PublishedUpdate.new (stampRevision (min (mempool.revision + 1) u64Max) update) := by
  unfold prepareBatch
  split
  · rfl
  · rename_i hnone
    refine List.map_congr_left fun update hmem => ?_
    have hfalse : isMempoolUpdate update = false := by
      simp only [List.any_eq_true, not_exists, not_and, Bool.not_eq_true] at hnone
      exact hnone update hmem
    rw [stampRevision, hfalse, if_neg Bool.false_ne_true]

theorem published_frame (revision : Nat) (update : SubscribeUpdate) :
    let message := (PublishedUpdate.new (stampRevision revision update)).message
    message.sessionId = update.sessionId ∧ message.sequence = update.sequence ∧
      blockHeight message = blockHeight update := by
  have hstamp : (stampRevision revision update).sessionId = update.sessionId ∧
      (stampRevision revision update).sequence = update.sequence ∧
      blockHeight (stampRevision revision update) = blockHeight update := by
    unfold stampRevision
    split <;> exact ⟨rfl, rfl, rfl⟩
  obtain ⟨hsession, hsequence, -, -, hheight⟩ :=
    applyPayloadProjection_frame (stampRevision revision update) .full .full
  exact ⟨hsession.trans hstamp.1, hsequence.trans hstamp.2.1, hheight.trans hstamp.2.2⟩

/-- A prepared batch keeps the sequences and the heights. -/
theorem prepareBatch_frame (mempool : MempoolState) (updates : List SubscribeUpdate) :
    (prepareBatch mempool updates).2.map (·.message.sequence) = updates.map (·.sequence) ∧
      (prepareBatch mempool updates).2.map (blockHeight ·.message) = updates.map blockHeight := by
  rw [prepareBatch_batch, List.map_map, List.map_map]
  exact ⟨List.map_congr_left fun update _ => (published_frame _ update).2.1,
    List.map_congr_left fun update _ => (published_frame _ update).2.2⟩

theorem mem_prepareBatch {mempool : MempoolState} {updates : List SubscribeUpdate}
    {update : PublishedUpdate} (h : update ∈ (prepareBatch mempool updates).2) :
    ∃ source ∈ updates, update.message.sequence = source.sequence ∧
      blockHeight update.message = blockHeight source := by
  rw [prepareBatch_batch] at h
  obtain ⟨source, hsource, rfl⟩ := List.mem_map.mp h
  exact ⟨source, hsource, (published_frame _ source).2⟩

theorem isMempoolUpdate_published (revision : Nat) (update : SubscribeUpdate) :
    isMempoolUpdate (PublishedUpdate.new (stampRevision revision update)).message =
      isMempoolUpdate update := by
  have hstamp : (stampRevision revision update).update = update.update := by
    unfold stampRevision
    split <;> rfl
  simp only [PublishedUpdate.new, preparedPayload, applyPayloadProjection, hstamp]
  cases hu : update.update with
  | none => simp [isMempoolUpdate, hu, hstamp]
  | some kind => cases kind <;> simp [isMempoolUpdate, hu, hstamp]

/-- A mempool batch: the state is folded over it, and its mempool updates carry
the new revision. -/
theorem prepareBatch_mempool {mempool : MempoolState} {updates : List SubscribeUpdate}
    (hany : updates.any isMempoolUpdate = true)
    (hvalid : MempoolState.EntriesValid mempool.entries) :
    MempoolState.EntriesValid (prepareBatch mempool updates).1.entries ∧
      (prepareBatch mempool updates).1.view =
        mempool.view.observeAll ((prepareBatch mempool updates).2.map (·.message)) ∧
      (prepareBatch mempool updates).1.revision = min (mempool.revision + 1) u64Max ∧
      ∀ update ∈ (prepareBatch mempool updates).2, isMempoolUpdate update.message = true →
        update.message.mempoolRevision = some (min (mempool.revision + 1) u64Max) := by
  simp only [prepareBatch, if_pos hany]
  generalize min (mempool.revision + 1) u64Max = revision
  have hvalid' : MempoolState.EntriesValid { mempool with revision := revision }.entries := hvalid
  refine ⟨hvalid'.apply ?_, MempoolState.view_apply _ _, MempoolState.revision_apply _ _, ?_⟩
  · intro update hmem
    obtain ⟨source, -, rfl⟩ := List.mem_map.mp hmem
    exact applyPayloadProjection_full _
  · intro update hmem hmempool
    obtain ⟨source, -, rfl⟩ := List.mem_map.mp hmem
    rw [isMempoolUpdate_published] at hmempool
    have hrevision :=
      (applyPayloadProjection_frame (stampRevision revision source) .full .full).2.2.1
    refine hrevision.trans ?_
    rw [stampRevision, if_pos hmempool]

/-- A batch without mempool updates leaves the mempool alone. -/
theorem prepareBatch_not_mempool (mempool : MempoolState) {updates : List SubscribeUpdate}
    (hnone : updates.any isMempoolUpdate = false) :
    (prepareBatch mempool updates).1 = mempool ∧
      ∀ update ∈ (prepareBatch mempool updates).2, isMempoolUpdate update.message = false := by
  constructor
  · simp only [prepareBatch, hnone, Bool.false_eq_true, if_false]
  · intro update hmem
    rw [prepareBatch_batch] at hmem
    obtain ⟨source, hsource, rfl⟩ := List.mem_map.mp hmem
    rw [isMempoolUpdate_published]
    simpa using List.any_eq_false.mp hnone source hsource

/-- A delivered message keeps the identity and the height of its update. -/
theorem deliver_frame {filter : EventFilter} {update : PublishedUpdate}
    {message : SubscribeUpdate} (h : deliver filter update = some message) :
    message.sessionId = update.message.sessionId ∧
      message.sequence = update.message.sequence ∧
      blockHeight message = blockHeight update.message := by
  simp only [deliver, Option.map_eq_some_iff] at h
  obtain ⟨filterMatch, -, rfl⟩ := h
  unfold PublishedUpdate.freshPayload
  split
  · exact ⟨rfl, rfl, rfl⟩
  · obtain ⟨hsession, hsequence, -, -, hheight⟩ := applyPayloadProjection_frame update.message
      filterMatch.blockPayload filterMatch.transactionPayload
    exact ⟨hsession, hsequence, hheight⟩

theorem deliver_of_matchesAll {filter : EventFilter} (h : filter.MatchesAll)
    (update : PublishedUpdate) : ∃ message, deliver filter update = some message := by
  obtain ⟨filterMatch, hmatched⟩ := Option.isSome_iff_exists.mp (h update.message)
  exact ⟨_, by rw [deliver, hmatched]; rfl⟩

/-- A catch-all filter delivers the update itself, up to the filter names. -/
theorem deliver_of_catchAll {filter : EventFilter} (h : filter.CatchAll)
    (update : PublishedUpdate) :
    ∃ names, deliver filter update = some { update.message with filters := names } := by
  obtain ⟨names, hmatched⟩ := h update.message
  refine ⟨names, ?_⟩
  have hprojection : update.projection .full .full = none := by
    unfold PublishedUpdate.projection
    split <;> simp [TransactionPayload.projection]
  simp only [deliver, hmatched, Option.map_some, PublishedUpdate.freshPayload, hprojection]

/-- The block-scoped ones of the initial messages are the replayed ones. -/
theorem blockScoped_initialUpdates {filter : EventFilter} {replay : ReplaySnapshot}
    {mempool : Option MempoolSnapshot} {checkpoint : Option ResumeCheckpoint}
    (hmempool : ∀ snapshot, mempool = some snapshot → ∀ update ∈ snapshot.updates,
      blockHeight update.message = none)
    {message : SubscribeUpdate} (hheight : blockHeight message ≠ none) :
    message ∈ initialUpdates filter replay mempool (checkpoint.map reconnectUpdate) ↔
      ∃ update ∈ replay.updates, deliver filter update = some message := by
  unfold initialUpdates
  rw [List.mem_append, List.mem_append, List.mem_filterMap]
  refine ⟨?_, .inr⟩
  rintro ((hmem | hmem) | hreplay)
  · obtain ⟨resume, -, rfl⟩ := Option.map_eq_some_iff.mp (Option.mem_toList.mp hmem)
    exact absurd rfl hheight
  · cases mempool with
    | none => cases hmem
    | some snapshot =>
      rcases List.mem_append.mp hmem with hmem | hmem
      · rcases List.mem_cons.mp hmem with rfl | hmem
        · exact absurd rfl hheight
        · obtain ⟨update, hupdate, hdeliver⟩ := List.mem_filterMap.mp hmem
          rw [(deliver_frame hdeliver).2.2, hmempool snapshot rfl update hupdate] at hheight
          exact absurd rfl hheight
      · rw [List.mem_singleton.mp hmem] at hheight
        exact absurd rfl hheight
  · exact hreplay

end

end ZakuraGrpc
