import ZakuraGrpc.Geyser.Event
import ZakuraGrpc.Geyser.Publication
import ZakuraGrpc.Geyser.Transparent

/-!
# The plugin

`on_event` as one call: the event is encoded, its updates are numbered and the
batch is published. A subscription between two calls evicts from the replay
buffer.

`published_in_order`: over whole runs the sequences are `1, 2, 3, …`, a bucket
holds all block-scoped updates of its batch, and the watermark of a snapshot is
the newest of them.
-/

namespace ZakuraGrpc

open Runs

/-! ## Configuration -/

/-- What `SharedState::new`, `on_load` and `on_event` read of the configuration. -/
structure Config where
  transactionUpdates : Bool := true
  mempoolTransactionUpdates : Bool := true
  utxoUpdates : Bool := true
  replayStoredBlocks : Nat := 150
  replayMaxEvents : Nat := 250000
  replayMaxBytes : Nat := 512 * 1024 * 1024
  replayMaxAgeSeconds : Option Nat := some (4 * 60 * 60)
  eventEncodingThreads : Nat := 1
  parallelEncodingMinTransactions : Nat := 32

/-- The limits `SharedState::new` installs; a duration is in nanoseconds. -/
def Config.replayLimits (config : Config) : ReplayLimits :=
  { heightCapacity := config.replayStoredBlocks
    eventCapacity := config.replayMaxEvents
    byteCapacity := config.replayMaxBytes
    maxAge := config.replayMaxAgeSeconds.map (· * 1000000000) }

/-! ## A whole bucket -/

/-- A push that loses none of the batch's block-scoped updates: they are the
bucket at the back when eviction starts. -/
def ReplayBuffer.PushesWhole (replay replay' : ReplayBuffer) (batch : List PublishedUpdate)
    (now : Nat) : Prop :=
  (blocks batch = [] ∧ replay.evict now = some replay') ∨
    ∃ bucket, bucket.updates = blocks batch ∧ bucket.updates ≠ [] ∧ bucket.insertedAt = now ∧
      (∀ update ∈ bucket.updates, blockHeight update.message = some bucket.height) ∧
      (replay.append bucket).evict now = some replay'

/-- The filter of `push_batch_at` drops nothing from a batch of one height. -/
theorem OneHeight.pushesWhole {batch : List PublishedUpdate} (hone : OneHeight batch)
    {replay replay' : ReplayBuffer} (hcap : 0 < replay.limits.heightCapacity) {now : Nat}
    (h : replay.pushBatchAt batch now = some replay') : replay.PushesWhole replay' batch now := by
  rw [ReplayBuffer.pushBatchAt_eq, if_neg (by omega)] at h
  cases hb : bucketOf batch now with
  | none =>
    rw [hb] at h
    exact .inl ⟨blocks_of_bucketOf_none hb, h⟩
  | some bucket =>
    rw [hb] at h
    obtain ⟨hinserted, hne, -, -⟩ := bucketOf_eq_some hb
    exact .inr ⟨bucket, hone.bucket_updates hb, hne, hinserted, height_bucketOf hb, h⟩

/-! ## The newest sequence -/

theorem Retains.increasing {updates : List PublishedUpdate} {window : List ReplayBucket}
    (h : Retains updates window) (hinc : Increasing updates) :
    Increasing (window.flatMap (·.updates)) :=
  hinc.sublist (h.suffix.sublist.trans List.filter_sublist)

/-- The watermark is `0` for an empty window, and otherwise the newest
block-scoped sequence of the stream, retained or not. -/
def ReplayBuffer.MarksNewest (replay : ReplayBuffer) (updates : List PublishedUpdate) : Prop :=
  (replay.buckets = [] ∧ replay.watermark = 0) ∨
    IsGreatest {sequence | ∃ update ∈ blocks updates, update.message.sequence = sequence}
      replay.watermark

theorem Retains.marksNewest {updates : List PublishedUpdate} {replay : ReplayBuffer}
    (h : Retains updates replay.buckets) (hinc : Increasing updates) :
    replay.MarksNewest updates := by
  cases hb : replay.buckets with
  | nil =>
    refine .inl ⟨hb, ?_⟩
    rw [ReplayBuffer.watermark, hb]
    rfl
  | cons bucket rest =>
    have hne : replay.buckets ≠ [] := by
      rw [hb]
      exact List.cons_ne_nil bucket rest
    obtain ⟨hmem, hmax⟩ := h.watermark hinc hne
    refine .inr ⟨hmem, ?_⟩
    rintro sequence ⟨update, hupdate, rfl⟩
    exact hmax update hupdate

theorem ReplayBuffer.watermark_readSnapshot {replay : ReplayBuffer} {fromHeight : Option Nat} :
    ∀ snapshot, replay.readSnapshot fromHeight = .ok snapshot →
      snapshot.watermark = replay.watermark := by
  intro snapshot h
  obtain ⟨_, -, h⟩ := Except.bind_eq_ok.mp h
  rw [Except.pure_eq_ok] at h
  exact h ▸ rfl

/-- A subscription always gets an answer. -/
theorem subscribeReplay_isSome {replay : ReplayBuffer} (h : replay.Bounded)
    (request : SubscribeRequest) (now : Nat) :
    ∃ replay' result, subscribeReplay replay request now = some (replay', result) := by
  obtain ⟨evicted, hevict⟩ := h.evict_isSome now
  unfold subscribeReplay
  split
  · exact ⟨_, _, rfl⟩
  split
  · exact ⟨_, _, rfl⟩
  all_goals
    rw [ReplayBuffer.snapshot, hevict]
    exact ⟨_, _, rfl⟩

/-! ## `publish_batch` as one call -/

namespace Publication

section
variable [WireFormat]

/-- `publish_batch` with nothing between its steps. -/
def publishBatch (publication : Publication) (updates : List SubscribeUpdate) (now : Nat) :
    Option Publication :=
  let (mempool, batch) := prepareBatch publication.mempool updates
  (publication.replay.pushBatchAt batch now).map fun replay =>
    { publication with
      sent := publication.sent ++ batch, replay := replay, mempool := mempool }

/-- The steps of one call. -/
def batchEvents (updates : List SubscribeUpdate) (now : Nat) : List PublishEvent :=
  .prepare updates :: .push now :: (List.replicate updates.length .send ++ [.finish])

theorem runs_send {locked : Bool} (batch : List PublishedUpdate) :
    ∀ {publication : Publication}, publication.publisher = .sending batch locked →
      runs step publication (List.replicate batch.length .send) = some
        { publication with
          sent := publication.sent ++ batch, publisher := .sending [] locked } := by
  induction batch with
  | nil =>
    intro publication hpub
    rw [List.append_nil, ← hpub]
    rfl
  | cons update rest ih =>
    intro publication hpub
    have hsend : publication.step .send = some
        { publication with
          sent := publication.sent ++ [update], publisher := .sending rest locked } := by
      rw [step, send, hpub]
    rw [List.length_cons, List.replicate_succ, runs_cons]
    refine ⟨_, hsend, ?_⟩
    rw [ih rfl, List.append_assoc]
    rfl

/-- **One call is a run of the publisher.** -/
theorem publishBatch_runs {publication publication' : Publication}
    {updates : List SubscribeUpdate} {now : Nat} (hidle : publication.publisher = .idle)
    (haccepts : publication.Accepts updates)
    (h : publication.publishBatch updates now = some publication') :
    runs step publication (batchEvents updates now) = some publication' := by
  have hlength : (prepareBatch publication.mempool updates).2.length = updates.length := by
    rw [prepareBatch_batch, List.length_map]
  unfold publishBatch at h
  generalize hprepared : prepareBatch publication.mempool updates = prepared at h hlength
  obtain ⟨mempool, batch⟩ := prepared
  obtain ⟨replay, hreplay, rfl⟩ := Option.map_eq_some_iff.mp h
  have hprepare : publication.step (.prepare updates) = some
      { publication with
        mempool := mempool, publisher := .prepared batch (updates.any isMempoolUpdate) } := by
    simp only [step, prepare, hidle, if_pos haccepts, hprepared]
  have hpush : step
      { publication with
        mempool := mempool, publisher := .prepared batch (updates.any isMempoolUpdate) }
      (.push now) = some
      { publication with
        mempool := mempool
        replay := replay
        publisher := .sending batch (updates.any isMempoolUpdate) } := by
    simp only [step, push, hreplay, Option.map_some]
  have hsends := @runs_send _ (updates.any isMempoolUpdate) batch
    { publication with
      mempool := mempool
      replay := replay
      publisher := .sending batch (updates.any isMempoolUpdate) } rfl
  rw [hlength] at hsends
  refine runs_cons.mpr ⟨_, hprepare, runs_cons.mpr ⟨_, hpush, runs_snoc.mpr ⟨_, hsends, ?_⟩⟩⟩
  rw [step, finish, ← hidle]

end

end Publication

/-! ## The plugin -/

structure GrpcPlugin where
  config : Config
  state : Publication
  nextSequence : Nat := 0
  encodingPool : Bool := false

/-- A call of the plugin, or a subscription served between two of them. -/
inductive PluginCall where
  | onEvent (event : EventEnvelope) (now : Nat)
  | subscribe (request : SubscribeRequest) (now : Nat)

namespace GrpcPlugin

def new (config : Config) : GrpcPlugin :=
  { config := config, state := { replay := .new config.replayLimits } }

/-- `on_load`: the encoding pool is built for more than one thread. -/
def onLoad (plugin : GrpcPlugin) : GrpcPlugin :=
  { plugin with
    encodingPool := plugin.encodingPool || decide (1 < plugin.config.eventEncodingThreads) }

/-- The numbering loop of `on_event`: the counter behind it, and the numbered
updates. An exhausted counter ends the loop inside the batch. -/
def assignSequences (nextSequence : Nat) :
    List SubscribeUpdate → Nat × Except PluginError (List SubscribeUpdate)
  | [] => (nextSequence, .ok [])
  | update :: rest =>
    if u64Max < nextSequence + 1 then
      (nextSequence, .error ⟨"Zakura gRPC update sequence exhausted"⟩)
    else
      let (lastSequence, numbered) := assignSequences (nextSequence + 1) rest
      (lastSequence, numbered.map ({ update with sequence := nextSequence + 1 } :: ·))

/-- Below the end of the counter the updates get the next sequences, and
keep their heights. -/
theorem assignSequences_spec (updates : List SubscribeUpdate) :
    ∀ {nextSequence : Nat}, nextSequence + updates.length ≤ u64Max → ∃ numbered,
      assignSequences nextSequence updates = (nextSequence + updates.length, .ok numbered) ∧
      numbered.map (·.sequence) = List.range' (nextSequence + 1) updates.length ∧
      numbered.map blockHeight = updates.map blockHeight := by
  induction updates with
  | nil =>
    intro nextSequence _
    exact ⟨[], rfl, rfl, rfl⟩
  | cons update rest ih =>
    intro nextSequence hfit
    rw [List.length_cons] at hfit
    obtain ⟨numbered, hassign, hsequences, hheights⟩ := @ih (nextSequence + 1) (by omega)
    refine ⟨{ update with sequence := nextSequence + 1 } :: numbered, ?_, ?_, ?_⟩
    · rw [assignSequences, if_neg (by omega), hassign, List.length_cons]
      simp only [Except.map, Prod.mk.injEq, and_true]
      omega
    · rw [List.map_cons, hsequences, List.length_cons, List.range'_succ]
    · rw [List.map_cons, List.map_cons, hheights]
      rfl

/-- The updates with the sequences behind the counter. -/
def numberedFrom (nextSequence : Nat) (updates : List SubscribeUpdate) : List SubscribeUpdate :=
  updates.mapIdx fun index update => { update with sequence := nextSequence + 1 + index }

/-- The loop numbers the updates in their order. -/
theorem assignSequences_ok {updates : List SubscribeUpdate} :
    ∀ {nextSequence lastSequence : Nat} {numbered : List SubscribeUpdate},
      assignSequences nextSequence updates = (lastSequence, .ok numbered) →
        numbered = numberedFrom nextSequence updates := by
  induction updates with
  | nil =>
    intro nextSequence lastSequence numbered h
    cases h
    rfl
  | cons update rest ih =>
    intro nextSequence lastSequence numbered h
    rw [assignSequences] at h
    split at h
    · cases h
    cases hrest : assignSequences (nextSequence + 1) rest with
    | mk last result =>
      rw [hrest] at h
      cases result with
      | error error => cases h
      | ok others =>
        cases h
        rw [ih hrest, numberedFrom, numberedFrom, List.mapIdx_cons]
        congr 2
        funext index other
        congr 1
        omega

/-- The counter `count` further on, with another shared state. -/
def advance (plugin : GrpcPlugin) (count : Nat) (state : Publication) : GrpcPlugin :=
  { plugin with nextSequence := plugin.nextSequence + count, state := state }

theorem advance_advance (plugin : GrpcPlugin) (count count' : Nat)
    (state state' : Publication) : (plugin.advance count state).advance count' state' =
      plugin.advance (count + count') state' := by
  unfold advance
  rw [Nat.add_assoc]

/-- A successful call: the batch of the encoded updates is sent, and pushed
whole. -/
structure Publishes (plugin plugin' : GrpcPlugin) (updates : List SubscribeUpdate) (now : Nat)
    (batch : List PublishedUpdate) : Prop where
  sent : plugin'.state.sent = plugin.state.sent ++ batch
  heights : batch.map (blockHeight ·.message) = updates.map blockHeight
  oneHeight : OneHeight batch
  pushed : plugin.state.replay.pushBatchAt batch now = some plugin'.state.replay
  whole : plugin.state.replay.PushesWhole plugin'.state.replay batch now

/-! ## The invariant -/

/-- Between two calls: the sequences sent are `1` to the counter, and the shared
state satisfies the publisher's invariant. -/
structure Sequenced (plugin : GrpcPlugin) : Prop where
  idle : plugin.state.publisher = .idle
  published : plugin.state.PublishInv
  bounded : plugin.state.replay.Bounded
  limits : plugin.state.replay.limits = plugin.config.replayLimits
  sequences : plugin.state.sent.map (·.message.sequence) = List.range' 1 plugin.nextSequence

theorem sequenced_new (config : Config) : (new config).onLoad.Sequenced :=
  ⟨rfl, Publication.publishInv_new _, ReplayBuffer.bounded_new _, rfl, rfl⟩

theorem Sequenced.pushed_eq {plugin : GrpcPlugin} (h : plugin.Sequenced) :
    plugin.state.pushed = plugin.state.sent :=
  Publication.pushed_eq_sent (by rw [h.idle]; rfl)

theorem Sequenced.retains {plugin : GrpcPlugin} (h : plugin.Sequenced) :
    Retains plugin.state.sent plugin.state.replay.buckets := by
  rw [← h.pushed_eq]
  exact h.published.retains

theorem Sequenced.increasing {plugin : GrpcPlugin} (h : plugin.Sequenced) :
    Increasing plugin.state.sent := by
  rw [← h.pushed_eq]
  exact h.published.increasing_pushed

theorem Sequenced.sequence_bounds {plugin : GrpcPlugin} (h : plugin.Sequenced)
    {update : PublishedUpdate} (hmem : update ∈ plugin.state.sent) :
    1 ≤ update.message.sequence ∧ update.message.sequence ≤ plugin.nextSequence := by
  have hin : update.message.sequence ∈ plugin.state.sent.map (·.message.sequence) :=
    List.mem_map.mpr ⟨update, hmem, rfl⟩
  rw [h.sequences, List.mem_range'_1] at hin
  omega

/-! ## The calls -/

/-- The replay part of `subscribe`. -/
def subscribe (plugin : GrpcPlugin) (request : SubscribeRequest) (now : Nat) :
    Option GrpcPlugin :=
  (subscribeReplay plugin.state.replay request now).map fun result =>
    { plugin with state := { plugin.state with replay := result.1 } }

/-- A subscription evicts and changes nothing else. -/
theorem Sequenced.subscribe {plugin : GrpcPlugin} (h : plugin.Sequenced)
    (request : SubscribeRequest) (now : Nat) :
    ∃ replay, plugin.subscribe request now = some
        { plugin with state := { plugin.state with replay := replay } } ∧
      Sequenced { plugin with state := { plugin.state with replay := replay } } := by
  obtain ⟨replay, result, hread⟩ := subscribeReplay_isSome h.bounded request now
  obtain ⟨hsuffix, hlimits, -⟩ := subscribeReplay_spec hread
  refine ⟨replay, ?_, h.idle, h.published.evict rfl rfl hsuffix hlimits,
    (subscribeReplay_outOfRange h.bounded hread).1, hlimits.trans h.limits, h.sequences⟩
  rw [GrpcPlugin.subscribe, hread]
  rfl

section
variable [ZakuraChain]

/-- The encoder call of `on_event`. -/
def encode (plugin : GrpcPlugin) (event : EventEnvelope) :
    Except PluginError (List SubscribeUpdate) :=
  encodeEvent event plugin.config.transactionUpdates plugin.config.utxoUpdates
    plugin.config.mempoolTransactionUpdates
    ⟨plugin.encodingPool, plugin.config.parallelEncodingMinTransactions⟩

/-- The numbered updates of an event are a batch the publisher accepts. -/
theorem Sequenced.accepts {plugin : GrpcPlugin} (h : plugin.Sequenced) {event : EventEnvelope}
    {updates numbered : List SubscribeUpdate} (hencode : plugin.encode event = .ok updates)
    (hsequences : numbered.map (·.sequence) =
      List.range' (plugin.nextSequence + 1) updates.length)
    (hheights : numbered.map blockHeight = updates.map blockHeight) :
    plugin.state.Accepts numbered := by
  refine ⟨?_, fun update hmem => ?_, fun update hmem update' hmem' hsome hsome' => ?_⟩
  · rw [hsequences]
    exact List.pairwise_lt_range' 1
  · have hin : update.sequence ∈ numbered.map (·.sequence) :=
      List.mem_map.mpr ⟨update, hmem, rfl⟩
    rw [hsequences, List.mem_range'_1] at hin
    refine ⟨by omega, fun earlier hearlier => ?_⟩
    have hbound := (h.sequence_bounds hearlier).2
    omega
  · have hsource : ∀ {u : SubscribeUpdate}, u ∈ numbered →
        ∃ source ∈ updates, blockHeight source = blockHeight u := by
      intro u hu
      have hin : blockHeight u ∈ numbered.map blockHeight := List.mem_map.mpr ⟨u, hu, rfl⟩
      rw [hheights] at hin
      exact List.mem_map.mp hin
    obtain ⟨source, hin, heq⟩ := hsource hmem
    obtain ⟨source', hin', heq'⟩ := hsource hmem'
    rw [← heq, ← heq']
    rcases encodeEvent_oneHeight hencode with ⟨height, hall⟩ | hnone
    · rw [hall source hin, hall source' hin']
    · rw [hnone source hin, hnone source' hin']

/-- How many updates a call encodes. -/
def updateCount (plugin : GrpcPlugin) : PluginCall → Nat
  | .onEvent event _ => ((plugin.encode event).toOption.getD []).length
  | .subscribe _ _ => 0

variable [WireFormat]

/-- `on_event`; `none` only where the eviction loop never exits. -/
def onEvent (plugin : GrpcPlugin) (event : EventEnvelope) (now : Nat) :
    Option (GrpcPlugin × Except PluginError Unit) :=
  match plugin.encode event with
  | .error error => some (plugin, .error error)
  | .ok updates =>
    match assignSequences plugin.nextSequence updates with
    | (nextSequence, .error error) =>
      some ({ plugin with nextSequence := nextSequence }, .error error)
    | (nextSequence, .ok numbered) =>
      (plugin.state.publishBatch numbered now).map fun state =>
        ({ plugin with nextSequence := nextSequence, state := state }, .ok ())

def step (plugin : GrpcPlugin) : PluginCall → Option GrpcPlugin
  | .onEvent event now => (plugin.onEvent event now).map (·.1)
  | .subscribe request now => plugin.subscribe request now

/-! ## Every call keeps the invariant -/

/-- An event that fails to encode changes nothing. -/
theorem onEvent_of_encode_error {plugin : GrpcPlugin} {event : EventEnvelope} {now : Nat}
    {error : PluginError} (h : plugin.encode event = .error error) :
    plugin.onEvent event now = some (plugin, .error error) := by
  rw [onEvent, h]

theorem step_of_encode_error {plugin : GrpcPlugin} {event : EventEnvelope} {now : Nat}
    {error : PluginError} (h : plugin.encode event = .error error) :
    plugin.step (.onEvent event now) = some plugin := by
  rw [step, onEvent_of_encode_error h]
  rfl

/-- **A call that encodes.** It publishes the whole batch and keeps the
invariant. -/
theorem Sequenced.onEvent {plugin : GrpcPlugin} (h : plugin.Sequenced)
    (hcap : 0 < plugin.config.replayStoredBlocks) {event : EventEnvelope} (now : Nat)
    {updates : List SubscribeUpdate} (hencode : plugin.encode event = .ok updates)
    (hfit : plugin.nextSequence + updates.length ≤ u64Max) :
    ∃ state batch, plugin.onEvent event now =
        some (plugin.advance updates.length state, .ok ()) ∧
      plugin.Publishes (plugin.advance updates.length state) updates now batch ∧
      (plugin.advance updates.length state).Sequenced := by
  obtain ⟨numbered, hassign, hsequences, hheights⟩ := assignSequences_spec updates hfit
  have haccepts := h.accepts hencode hsequences hheights
  obtain ⟨mempool, batch, hprepared⟩ : ∃ mempool batch,
      prepareBatch plugin.state.mempool numbered = (mempool, batch) := ⟨_, _, rfl⟩
  obtain ⟨replay, hreplay, -⟩ := h.bounded.call_isSome (.push batch now)
  change plugin.state.replay.pushBatchAt batch now = some replay at hreplay
  have hpublish : plugin.state.publishBatch numbered now = some
      { plugin.state with
        sent := plugin.state.sent ++ batch, replay := replay, mempool := mempool } := by
    simp only [Publication.publishBatch, hprepared, hreplay, Option.map_some]
  have hrun := Publication.publishBatch_runs h.idle haccepts hpublish
  have hbatch := prepareBatch_frame plugin.state.mempool numbered
  rw [hprepared] at hbatch
  have hone : OneHeight batch := by
    have hbatch' := haccepts.oneHeight_batch plugin.state.mempool
    rwa [hprepared] at hbatch'
  have hcap' : 0 < plugin.state.replay.limits.heightCapacity := by
    rw [h.limits]
    exact hcap
  refine ⟨{ plugin.state with
      sent := plugin.state.sent ++ batch, replay := replay, mempool := mempool }, batch, ?_,
    ⟨rfl, hbatch.2.trans hheights, hone, hreplay, hone.pushesWhole hcap' hreplay⟩,
    ⟨h.idle, ?_, ?_, ?_, ?_⟩⟩
  · rw [GrpcPlugin.onEvent, hencode]
    dsimp only
    rw [hassign]
    dsimp only
    rw [hpublish]
    rfl
  · exact runs_invariant (fun _ _ _ hstep hinv => hinv.step hstep) hrun h.published
  · exact runs_invariant (fun _ _ _ hstep hb => Publication.step_bounded hstep hb) hrun h.bounded
  · exact (ReplayBuffer.limits_call (c := .push batch now) hreplay).trans h.limits
  · show (plugin.state.sent ++ batch).map (·.message.sequence) =
      List.range' 1 (plugin.nextSequence + updates.length)
    rw [List.map_append, h.sequences, hbatch.1, hsequences, Nat.add_comm plugin.nextSequence 1]
    exact List.range'_append_1

/-- **Whole runs keep the invariant**, and count the updates encoded. -/
theorem sequenced_runs {config : Config} (hcap : 0 < config.replayStoredBlocks)
    {calls : List PluginCall}
    (htotal : (calls.map (new config).onLoad.updateCount).sum < 2 ^ 64) :
    ∃ state, runs step (new config).onLoad calls = some ((new config).onLoad.advance
        (calls.map (new config).onLoad.updateCount).sum state) ∧
      ((new config).onLoad.advance
        (calls.map (new config).onLoad.updateCount).sum state).Sequenced := by
  induction calls using List.reverseRecOn with
  | nil => exact ⟨_, rfl, sequenced_new config⟩
  | append_singleton calls call ih =>
    rw [List.map_append, List.sum_append, List.map_singleton, List.sum_singleton] at htotal ⊢
    obtain ⟨state, hrun, hinv⟩ := ih (by omega)
    cases call with
    | subscribe request now =>
      obtain ⟨replay, hstep, hinv'⟩ := hinv.subscribe request now
      exact ⟨{ state with replay := replay }, runs_snoc.mpr ⟨_, hrun, hstep⟩, hinv'⟩
    | onEvent event now =>
      cases hencode : (new config).onLoad.encode event with
      | error error =>
        have hcount : (new config).onLoad.updateCount (.onEvent event now) = 0 := by
          rw [updateCount, hencode]
          rfl
        rw [hcount, Nat.add_zero]
        exact ⟨state, runs_snoc.mpr ⟨_, hrun, step_of_encode_error hencode⟩, hinv⟩
      | ok updates =>
        have hcount : (new config).onLoad.updateCount (.onEvent event now) = updates.length := by
          rw [updateCount, hencode]
          rfl
        rw [hcount] at htotal ⊢
        have hfit : ((new config).onLoad.advance
            (calls.map (new config).onLoad.updateCount).sum state).nextSequence + updates.length ≤
              u64Max := by
          show 0 + (calls.map (new config).onLoad.updateCount).sum + updates.length ≤ u64Max
          rw [Nat.zero_add]
          exact Nat.le_sub_one_of_lt htotal
        obtain ⟨state', batch, hcall, -, hinv'⟩ := hinv.onEvent hcap now hencode hfit
        rw [advance_advance] at hcall hinv'
        refine ⟨state', runs_snoc.mpr ⟨_, hrun, ?_⟩, hinv'⟩
        rw [step, hcall]
        rfl

/-- **Sequence and bucket order.** After every run of fewer than `2 ^ 64` updates
the sequences sent are `1, 2, 3, …`; a further call pushes its batch whole; the
retained sequences increase; the watermark of a snapshot is the newest
block-scoped sequence ever sent; and an event that fails to encode changes
nothing. -/
theorem published_in_order (config : Config) (hcap : 0 < config.replayStoredBlocks)
    (calls : List PluginCall)
    (htotal : (calls.map (new config).onLoad.updateCount).sum < 2 ^ 64) :
    ∃ plugin, runs step (new config).onLoad calls = some plugin ∧
      plugin.nextSequence = (calls.map (new config).onLoad.updateCount).sum ∧
      plugin.state.sent.map (·.message.sequence) = List.range' 1 plugin.nextSequence ∧
      (∀ event now updates, plugin.encode event = .ok updates →
        plugin.nextSequence + updates.length < 2 ^ 64 →
        ∃ plugin' batch, plugin.onEvent event now = some (plugin', .ok ()) ∧
          plugin.Publishes plugin' updates now batch) ∧
      ((plugin.state.replay.buckets.flatMap (·.updates)).map (·.message.sequence)).Pairwise
        (· < ·) ∧
      plugin.state.replay.MarksNewest plugin.state.sent ∧
      (∀ fromHeight now, ∃ replay result,
        plugin.state.replay.snapshot fromHeight now = some (replay, result) ∧
        replay.MarksNewest plugin.state.sent ∧
        ∀ snapshot, result = .ok snapshot → snapshot.watermark = replay.watermark) ∧
      ∀ event now error, plugin.encode event = .error error →
        plugin.onEvent event now = some (plugin, .error error) := by
  obtain ⟨state, hrun, hinv⟩ := sequenced_runs hcap htotal
  have hretains := hinv.retains
  have hinc := hinv.increasing
  refine ⟨_, hrun, Nat.zero_add _, hinv.sequences, fun event now updates hencode hfit => ?_,
    List.pairwise_map.mpr (hretains.increasing hinc).order, hretains.marksNewest hinc,
    fun fromHeight now => ?_, fun event now error hencode => ?_⟩
  · obtain ⟨state', batch, hcall, hpublishes, -⟩ := hinv.onEvent hcap now hencode
      (Nat.le_sub_one_of_lt hfit)
    exact ⟨_, batch, hcall, hpublishes⟩
  · obtain ⟨replay, hevict⟩ := hinv.bounded.evict_isSome now
    refine ⟨replay, replay.readSnapshot fromHeight, ?_, ?_, ReplayBuffer.watermark_readSnapshot⟩
    · rw [ReplayBuffer.snapshot]
      exact Option.map_eq_some_iff.mpr ⟨replay, hevict, rfl⟩
    · exact (hretains.of_suffix (ReplayBuffer.evict_suffix hevict).1).marksNewest hinc
  · exact onEvent_of_encode_error hencode

end

/-! ## A sample run -/

/-- A block that does not serialize. -/
def unserializableEvent : EventEnvelope :=
  { sampleEvent with
    payload := .blockFinalized
      { sampleBlockEvent with
        block := { sampleBlockEvent.block with serialized := .error "truncated" } } }

/-- A block, a block that fails to encode, a subscription and the block again. -/
def sampleCalls : List PluginCall :=
  [.onEvent sampleEvent 5, .onEvent unserializableEvent 6, .subscribe {} 7,
   .onEvent sampleEvent 9]

/-- Each block gives a block, three transaction and two UTXO updates. -/
theorem published_in_order_sample :
    ∃ plugin, runs (@step hexChain protoWire) (new {}).onLoad sampleCalls = some plugin ∧
      plugin.state.sent.map (·.message.sequence) = List.range' 1 12 ∧
      plugin.state.replay.MarksNewest plugin.state.sent := by
  have htotal : (sampleCalls.map (@updateCount hexChain (new {}).onLoad)).sum = 12 := by
    decide +kernel
  obtain ⟨plugin, hrun, hnext, hsequences, -, -, hnewest, -⟩ :=
    @published_in_order hexChain protoWire {} (by decide) sampleCalls (by rw [htotal]; decide)
  rw [hnext, htotal] at hsequences
  exact ⟨plugin, hrun, hsequences, hnewest⟩

end GrpcPlugin

end ZakuraGrpc
