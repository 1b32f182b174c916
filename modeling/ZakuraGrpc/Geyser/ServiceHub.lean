import ZakuraGrpc.Geyser.Keepalive

/-!
# One subscriber of the service

To any one of its subscribers the whole service is a hub: every run of the service,
with all the others coming and going, is matched by a run of the publisher with
that subscriber alone (`hub_of_run`). The stream of its task is what the hub
delivered, once pings and pongs are left out. The bounded queue, the awaited sends
and a client that stops reading show as a shorter stream, never as a different one.
-/

namespace ZakuraGrpc

open Runs
open Publication (PublishEvent prepared pushed)

/-! ## The content of a stream -/

/-- The message, unless it is a ping or a pong. -/
def contentOf : SubscribeResult → Option SubscribeUpdate
  | .error _ => none
  | .ok message =>
    match message.update with
    | some (.ping _) | some (.pong _) => none
    | _ => some message

def content (stream : List SubscribeResult) : List SubscribeUpdate := stream.filterMap contentOf

theorem contentOf_of_quiet {message : SubscribeUpdate} (h : Quiet (.ok message)) :
    contentOf (.ok message) = some message := by
  obtain ⟨hping, hpong⟩ := h
  unfold contentOf
  unfold pingOf at hping
  unfold pongOf at hpong
  cases hu : message.update with
  | none => simp only [hu]
  | some kind => cases kind <;> simp_all

theorem content_append (stream stream' : List SubscribeResult) :
    content (stream ++ stream') = content stream ++ content stream' := List.filterMap_append

theorem content_quiet {messages : List SubscribeUpdate}
    (h : ∀ message ∈ messages, Quiet (.ok message)) : content (messages.map .ok) = messages := by
  rw [content, List.filterMap_map]
  calc messages.filterMap (contentOf ∘ .ok) = messages.filterMap some :=
        List.filterMap_congr fun message hmem => contentOf_of_quiet (h message hmem)
    _ = messages := List.filterMap_some

theorem content_optional {message : Option SubscribeUpdate}
    (h : ∀ result ∈ (message.map Except.ok).toList, Quiet result) :
    content ((message.map Except.ok).toList) = message.toList := by
  rw [Option.toList_map] at h ⊢
  exact content_quiet fun found hmem => h _ (List.mem_map_of_mem hmem)

/-- A first part of a stream has a first part of its content. -/
theorem content_le {stream stream' : List SubscribeResult} (h : stream <+: stream') :
    content stream <+: content stream' := List.IsPrefix.filterMap _ h

/-! ## Runs of the hub -/

namespace Hub

variable [WireFormat] {config : HubConfig} {hub : Hub}

/-- A step of the publisher behind the batch is one of the hub. -/
theorem step_publish {event : PublishEvent} (hnot : ∀ updates, event ≠ .prepare updates)
    {publication : Publication} (hstep : hub.toPublication.step event = some publication) :
    ∃ hubEvent, hub.step config hubEvent = some { hub with toPublication := publication } := by
  cases event with
  | prepare updates => exact absurd rfl (hnot updates)
  | push now =>
    refine ⟨.push now, ?_⟩
    show (hub.toPublication.push now).map _ = _
    have hpush : hub.toPublication.push now = some publication := hstep
    rw [hpush]
    rfl
  | send =>
    refine ⟨.send, ?_⟩
    show hub.toPublication.send.map _ = _
    have hsend : hub.toPublication.send = some publication := hstep
    rw [hsend]
    rfl
  | finish =>
    refine ⟨.finish, ?_⟩
    show hub.toPublication.finish.map _ = _
    have hfinish : hub.toPublication.finish = some publication := hstep
    rw [hfinish]
    rfl
  | evict now =>
    refine ⟨.evict now, ?_⟩
    show (hub.toPublication.evict now).map _ = _
    have hevict : hub.toPublication.evict now = some publication := hstep
    rw [hevict]
    rfl

/-- The next update of the ring is received. -/
theorem recv_of_get (hphase : hub.subscriber.phase = .streaming)
    (hpending : hub.subscriber.pending = [])
    (hlag : ¬ config.capacity < hub.sent.length - hub.subscriber.position)
    {update : PublishedUpdate} (hget : hub.sent[hub.subscriber.position]? = some update) :
    hub.step config .recv = some
      { hub with
        subscriber :=
          { hub.subscriber with
            position := hub.subscriber.position + 1
            watermark := (receiveLive config.filter hub.subscriber.watermark
              hub.subscriber.mempoolWatermark update).1
            delivered := hub.subscriber.delivered ++
              (receiveLive config.filter hub.subscriber.watermark
                hub.subscriber.mempoolWatermark update).2.toList }
        log :=
          { hub.log with
            live := hub.log.live ++ (receiveLive config.filter hub.subscriber.watermark
              hub.subscriber.mempoolWatermark update).2.toList } } := by
  show hub.recv config = _
  unfold recv
  rw [hphase, hpending]
  dsimp only
  rw [if_neg hlag, hget]
  rfl

/-- A subscriber that has not joined can join. -/
theorem attach_of_detached (hphase : hub.subscriber.phase = .detached) :
    hub.step config .attach = some
      { hub with
        subscriber := { hub.subscriber with phase := .attached, position := hub.sent.length }
        log := { hub.log with joined := hub.sent.length } } := by
  show hub.attach = _
  unfold attach
  rw [hphase]

/-- A replay that is there is taken. -/
theorem snapshotReplay_of_attached (hphase : hub.subscriber.phase = .attached) {now : Nat}
    {replay : ReplayBuffer} {snapshot : ReplaySnapshot}
    (hread : subscribeReplay hub.replay config.request now = some (replay, .ok snapshot)) :
    hub.step config (.snapshotReplay now) = some
      { hub with
        replay := replay
        subscriber :=
          { hub.subscriber with
            phase := .replayed
            replay := snapshot
            watermark := snapshot.watermark }
        log :=
          { hub.log with
            replay := some { window := replay.buckets, pushed := hub.pushed.length } } } := by
  show hub.snapshotReplay config now = _
  unfold snapshotReplay
  rw [hphase]
  dsimp only
  rw [hread]
  rfl

/-- Nothing keeps a subscriber from its start but the lock. -/
theorem snapshotMempool_of_replayed (hphase : hub.subscriber.phase = .replayed)
    (hlock : config.request.includeMempoolSnapshot = true → hub.publisher.isLocked = false) :
    ∃ log, (log.batches = hub.log.batches ∧ log.joined = hub.log.joined ∧
        log.replay = hub.log.replay ∧ ∀ record, log.mempool = some record →
          record = { state := hub.mempool, sent := hub.sent.length }) ∧
      hub.step config .snapshotMempool = some
      { hub with
        subscriber :=
          { hub.subscriber with
            phase := .streaming
            pending := initialUpdates config.filter hub.subscriber.replay
              (if config.request.includeMempoolSnapshot then some hub.mempool.snapshot else none)
              (config.request.resume.map reconnectUpdate)
            mempoolWatermark := (if config.request.includeMempoolSnapshot then
              some hub.mempool.snapshot else none).map (·.revision) }
        log := log } := by
  have hsome : ∃ hub', hub.snapshotMempool config = some hub' := by
    unfold snapshotMempool
    rw [hphase]
    dsimp only
    rw [if_neg (by rw [Bool.and_eq_true, not_and, Bool.not_eq_true]; exact hlock)]
    exact ⟨_, rfl⟩
  obtain ⟨hub', h⟩ := hsome
  obtain ⟨-, -, mempool, rfl, rfl⟩ := snapshotMempool_spec h
  refine ⟨_, ⟨?_, ?_, ?_, fun record hrecord => ?_⟩, h⟩
  · rfl
  · rfl
  · rfl
  · obtain ⟨_, -, hrecord⟩ := Option.map_eq_some_iff.mp hrecord
    exact hrecord.symm

/-- All that is pending goes out. -/
theorem runs_emit (hphase : hub.subscriber.phase = .streaming) :
    runs (step config) hub (List.replicate hub.subscriber.pending.length .emit) =
      some
        { hub with
          subscriber :=
            { hub.subscriber with
              pending := []
              delivered := hub.subscriber.delivered ++ hub.subscriber.pending } } := by
  generalize hpending : hub.subscriber.pending = pending
  induction pending generalizing hub with
  | nil =>
    rw [List.length_nil, List.replicate_zero, runs_nil, List.append_nil, ← hpending]
  | cons message rest ih =>
    have hemit : hub.step config .emit = some
        { hub with
          subscriber :=
            { hub.subscriber with
              pending := rest, delivered := hub.subscriber.delivered ++ [message] } } := by
      show hub.emit = _
      unfold emit
      rw [hphase, hpending]
    rw [List.length_cons, List.replicate_succ]
    refine runs_cons.mpr ⟨_, hemit, ?_⟩
    have hrest := @ih
      { hub with
        subscriber :=
          { hub.subscriber with
            pending := rest, delivered := hub.subscriber.delivered ++ [message] } } hphase rfl
    rw [hrest]
    simp

end Hub

/-! ## A task and its subscriber -/

/-- The subscriber of the hub is where the task is. It was delivered the task's
stream, or more where the task ended in the middle of a send. -/
structure Follows (filter : EventFilter) (task : SubscriptionTask) (subscriber : Subscriber) :
    Prop where
  filter : task.filter = filter
  phase : subscriber.phase = .streaming
  pending : subscriber.pending = []
  position : subscriber.position = task.position
  watermark : subscriber.watermark = task.replayWatermark
  mempoolWatermark : subscriber.mempoolWatermark = task.mempoolWatermark
  atMost : content task.stream <+: subscriber.delivered
  delivered : task.ending = none → subscriber.delivered = content task.stream

/-- A later request is a ping, is refused, or asks for the filter again. -/
def KeepsFilter [ZakuraChain] (limits : FilterLimits) (filter : EventFilter) : TaskEvent → Prop
  | .request later => later.ping = none →
    ∀ filter', EventFilter.new later limits = .ok filter' → filter' = filter
  | _ => True

section
variable {filter : EventFilter} {task task' : SubscriptionTask} {subscriber : Subscriber}

theorem Follows.congr (h : Follows filter task subscriber) (hfilter : task'.filter = task.filter)
    (hending : task'.ending = none → task.ending = none)
    (hposition : task'.position = task.position)
    (hwatermark : task'.replayWatermark = task.replayWatermark)
    (hmempool : task'.mempoolWatermark = task.mempoolWatermark)
    (hstream : content task'.stream = content task.stream) : Follows filter task' subscriber where
  filter := hfilter.trans h.filter
  phase := h.phase
  pending := h.pending
  position := h.position.trans hposition.symm
  watermark := h.watermark.trans hwatermark.symm
  mempoolWatermark := h.mempoolWatermark.trans hmempool.symm
  atMost := hstream ▸ h.atMost
  delivered hnone := (h.delivered (hending hnone)).trans hstream.symm

/-- A task that stops leaves a first part of what was delivered. -/
theorem Follows.stop (h : Follows filter task subscriber) (reason : DisconnectReason) :
    Follows filter (task.stop reason) subscriber :=
  { h with
    atMost := (content_le (SubscriptionTask.stream_stop reason)).trans h.atMost
    delivered := fun hnone => absurd hnone (SubscriptionTask.ending_stop reason) }

/-- A selecting task has put out all that was delivered. -/
theorem Follows.of_selecting (h : Follows filter task subscriber)
    (hselecting : task.isSelecting = true) :
    subscriber.delivered = content task.outbound.sent := by
  obtain ⟨houtgoing, hnone⟩ := SubscriptionTask.isSelecting_iff.mp hselecting
  rw [h.delivered hnone, SubscriptionTask.stream_of_selecting houtgoing]

variable [ZakuraChain] [WireFormat] {settings : SubscriptionTask.Settings} {ring : LiveRing}

omit [WireFormat] in
/-- The answer to such a request has no content, and the filter stays. -/
theorem KeepsFilter.applied {limits : FilterLimits} {request : SubscribeRequest}
    (hkeeps : KeepsFilter limits filter (.request request)) {filter' : EventFilter}
    {response : Option SubscribeUpdate}
    (happly : applySubscriptionRequest filter request limits = .ok (filter', response)) :
    filter' = filter ∧ content ((response.map Except.ok).toList) = [] := by
  rcases applySubscriptionRequest_ok happly with ⟨ping, -, rfl, rfl⟩ | ⟨hping, hcompiled, rfl⟩
  · exact ⟨rfl, rfl⟩
  · exact ⟨hkeeps hping _ hcompiled, rfl⟩

omit [ZakuraChain] in
/-- An update that the task receives is the subscriber's `recv`. -/
theorem Follows.receive {config : HubConfig} {hub : Hub} (h : Follows filter task hub.subscriber)
    (hfilter : config.filter = filter) (hselecting : task.isSelecting = true)
    (hlag : ¬ config.capacity < hub.sent.length - task.position) {update : PublishedUpdate}
    (hget : hub.sent[task.position]? = some update)
    (hdata : Hub.isData update.message = true) :
    ∃ subscriber log, (log.batches = hub.log.batches ∧ hub.log.SameRecords log) ∧
      hub.step config .recv = some { hub with subscriber := subscriber, log := log } ∧
      Follows filter
        { task with
          position := task.position + 1
          replayWatermark :=
            (receiveLive task.filter task.replayWatermark task.mempoolWatermark update).1
          outgoing := ((receiveLive task.filter task.replayWatermark task.mempoolWatermark
            update).2.map Except.ok).toList } subscriber := by
  have hrecv := @Hub.recv_of_get _ config hub h.phase h.pending (by rw [h.position]; exact hlag)
    update (by rw [h.position]; exact hget)
  rw [hfilter, h.watermark, h.mempoolWatermark, ← h.filter] at hrecv
  refine ⟨_, _, ?_, hrecv, ?_⟩
  · exact ⟨rfl, rfl, rfl, rfl⟩
  have hcontent : content (task.outbound.sent ++ ((receiveLive task.filter task.replayWatermark
      task.mempoolWatermark update).2.map Except.ok).toList) = hub.subscriber.delivered ++
        (receiveLive task.filter task.replayWatermark task.mempoolWatermark update).2.toList := by
    rw [content_append, h.of_selecting hselecting, content_optional (quiet_receiveLive hdata)]
  exact
    { filter := h.filter
      phase := h.phase
      pending := h.pending
      position := congrArg (· + 1) h.position
      watermark := rfl
      mempoolWatermark := h.mempoolWatermark
      atMost := hcontent ▸ List.prefix_rfl
      delivered := fun _ => hcontent.symm }

/-- **A move of the task** is a `recv` of the subscriber, or nothing to it. -/
theorem Follows.step {config : HubConfig} {hub : Hub} (h : Follows filter task hub.subscriber)
    (hfilter : config.filter = filter) (hsent : ring.sent = hub.sent)
    (hcapacity : ring.capacity = config.capacity)
    (hdata : ∀ update ∈ ring.sent, Hub.isData update.message = true) {event : TaskEvent}
    (hkeeps : KeepsFilter settings.filterLimits filter event)
    (hmoves : task.Moves settings ring event task') :
    ∃ fs hub', runs (Hub.step config) hub fs = some hub' ∧
      hub'.toPublication = hub.toPublication ∧
      (hub'.log.batches = hub.log.batches ∧ hub.log.SameRecords hub'.log) ∧
      Follows filter task' hub'.subscriber := by
  have hstays : Follows filter task' hub.subscriber → ∃ fs hub',
      runs (Hub.step config) hub fs = some hub' ∧
        hub'.toPublication = hub.toPublication ∧
        (hub'.log.batches = hub.log.batches ∧ hub.log.SameRecords hub'.log) ∧
        Follows filter task' hub'.subscriber := fun hfollows =>
    ⟨[], hub, rfl, rfl, ⟨rfl, rfl, rfl, rfl⟩, hfollows⟩
  cases hmoves with
  | sent houtgoing hsend =>
    exact hstays (h.congr rfl id rfl rfl rfl
      (by rw [SubscriptionTask.stream_sent houtgoing hsend]))
  | lost | requestsFailed | serverClosed | unpinged => exact hstays (h.stop _)
  | requestsClosed | skipped | dropped => exact hstays (h.congr rfl id rfl rfl rfl rfl)
  | taken htake =>
    exact hstays (h.congr rfl id rfl rfl rfl (by rw [SubscriptionTask.stream_taken htake]))
  | @applied request filter' response hselecting happly =>
    obtain ⟨houtgoing, -⟩ := SubscriptionTask.isSelecting_iff.mp hselecting
    rw [h.filter] at happly
    obtain ⟨hsame, hcontent⟩ := hkeeps.applied happly
    refine hstays (h.congr (hsame.trans h.filter.symm) id rfl rfl rfl ?_)
    rw [SubscriptionTask.stream, SubscriptionTask.stream_of_selecting houtgoing, content_append,
      hcontent, List.append_nil]
  | @rejected request status hselecting happly =>
    refine hstays
      { h with
        atMost := ?_
        delivered := fun hnone => absurd hnone (Option.some_ne_none _) }
    rw [SubscriptionTask.stream, content_append, ← h.of_selecting hselecting]
    exact (List.append_nil _) ▸ List.prefix_rfl
  | @received update hselecting hlag hget =>
    obtain ⟨subscriber, log, hlog, hrecv, hfollows⟩ := h.receive hfilter hselecting
      (by rw [← hcapacity, ← hsent]; exact hlag) (by rw [← hsent]; exact hget)
      (hdata update (List.mem_of_getElem? hget))
    exact ⟨[.recv], _, runs_cons.mpr ⟨_, hrecv, rfl⟩, rfl, hlog, hfollows⟩
  | lagged hselecting hlag =>
    obtain ⟨houtgoing, -⟩ := SubscriptionTask.isSelecting_iff.mp hselecting
    refine hstays
      { h with
        atMost := ?_
        delivered := fun hnone => absurd hnone (Option.some_ne_none _) }
    rw [h.of_selecting hselecting]
    rcases SubscriptionTask.stream_lagged houtgoing (.error (SubscriptionTask.lagStatus
      (ring.sent.length - task.position - ring.capacity))) (some .broadcastLag) with heq | heq
    · rw [heq]
    · rw [heq, content_append]
      exact (List.append_nil _) ▸ List.prefix_rfl
  | @pinged outbound hselecting hsend =>
    obtain ⟨houtgoing, -⟩ := SubscriptionTask.isSelecting_iff.mp hselecting
    refine hstays (h.congr rfl id rfl rfl rfl ?_)
    rw [SubscriptionTask.stream_pinged houtgoing hsend,
      SubscriptionTask.stream_of_selecting houtgoing, content_append]
    exact List.append_nil _

end

/-! ## The service and the hub -/

namespace GrpcService

variable {service service' : GrpcService} {config : ServerConfig} {request : SubscribeRequest}
  {filter : EventFilter}

/-- The hub of a subscriber with this request. -/
def hubConfig (config : ServerConfig) (request : SubscribeRequest) (filter : EventFilter) :
    HubConfig where
  limits := config.replayLimits
  capacity := config.ringCapacity
  request := request
  filter := filter

/-- Where a call is, what its subscriber is like. -/
def Mirrors (request : SubscribeRequest) (filter : EventFilter) :
    Option CallPhase → Subscriber → Prop
  | none, subscriber | some .opening, subscriber => subscriber = {}
  | some (.attached request' filter' live), subscriber =>
    request' = request ∧ filter' = filter ∧
      subscriber = { phase := .attached, position := live }
  | some (.replayed request' filter' live snapshot), subscriber =>
    request' = request ∧ filter' = filter ∧
      subscriber =
        { phase := .replayed
          position := live
          replay := snapshot
          watermark := snapshot.watermark }
  | some (.running task), subscriber => Follows filter task subscriber
  | some (.failed _), _ | some .cancelled, _ => True

/-- The hub has the publisher of the service and the subscriber of the call. -/
structure Matches (index : Nat) (request : SubscribeRequest) (filter : EventFilter)
    (service : GrpcService) (hub : Hub) : Prop where
  publication : hub.toPublication = service.plugin.state
  batches : hub.log.batches ≤ service.plugin.nextSequence
  subscriber : Mirrors request filter (service.phaseOf index) hub.subscriber

/-- The call opens with the request and keeps its filter. -/
def OpensWith [ZakuraChain] (config : ServerConfig) (index : Nat) (request : SubscribeRequest)
    (filter : EventFilter) : ServiceEvent → Prop
  | .first moved message => moved = index → message = .ok (some request)
  | .task moved event => moved = index → KeepsFilter config.filterLimits filter event
  | _ => True

theorem matches_new (config : ServerConfig) (index : Nat) (request : SubscribeRequest)
    (filter : EventFilter) :
    Matches index request filter (new config) (Hub.new (hubConfig config request filter)) where
  publication := rfl
  batches := le_rfl
  subscriber := rfl

section
variable [ZakuraChain] [WireFormat]

omit [WireFormat] in
/-- Every event is published as at least one update. -/
theorem encodeEvent_ne_nil {event : EventEnvelope} {tx utxo mempool : Bool}
    {parallel : ParallelEncoding} {updates : List SubscribeUpdate}
    (h : encodeEvent event tx utxo mempool parallel = .ok updates) : updates ≠ [] := by
  have happend : ∀ {first : SubscribeUpdate} {rest : List SubscribeUpdate},
      updates = [first] ++ rest → updates ≠ [] := fun heq hnil => by
    rw [hnil] at heq
    cases heq
  have hblock : ∀ {block : BlockEvent},
      event.payload = .blockAccepted block ∨ event.payload = .blockFinalized block →
      updates ≠ [] := by
    intro block hpayload
    obtain ⟨finalized, eventType, commitment, hencode⟩ := encodeEvent_block hpayload
    rw [hencode] at h
    obtain ⟨encoded, -, happended⟩ := Except.bind_eq_ok.mp h
    rcases appendBlockUpdates_eq_ok.mp happended with ⟨-, rfl⟩ | ⟨-, parts, -, rfl⟩
    · exact List.cons_ne_nil _ _
    · exact happend rfl
  cases hpayload : event.payload with
  | blockAccepted block => exact hblock (.inl hpayload)
  | blockFinalized block => exact hblock (.inr hpayload)
  | bestChainChanged change =>
    unfold encodeEvent at h
    simp only [hpayload, Except.pure_eq_ok] at h
    subst h
    exact List.cons_ne_nil _ _
  | mempoolChanged change =>
    unfold encodeEvent at h
    simp only [hpayload] at h
    rcases appendMempoolTransactionUpdates_eq_ok.mp h with ⟨-, rfl⟩ | ⟨-, encoded, -, rfl⟩
    · exact List.cons_ne_nil _ _
    · exact happend rfl

omit [ZakuraChain] in
/-- An eviction is one of the hub. -/
theorem evict_mirrored {hub : Hub} {hc : HubConfig} {replay : ReplayBuffer}
    (hpublication : hub.toPublication = service.plugin.state)
    (h : replay = service.plugin.state.replay ∨
      ∃ now, service.plugin.state.replay.evict now = some replay) :
    ∃ fs, runs (Hub.step hc) hub fs = some { hub with replay := replay } := by
  rw [← hpublication] at h
  rcases h with rfl | ⟨now, hevict⟩
  · exact ⟨[], rfl⟩
  · have hstep : hub.step hc (.evict now) = some { hub with replay := replay } := by
      show (hub.toPublication.evict now).map _ = _
      unfold Publication.evict
      rw [hevict]
      rfl
    exact ⟨[.evict now], runs_cons.mpr ⟨_, hstep, rfl⟩⟩

/-- An event is a batch of the hub where it is published, and nothing to it where it
is not. -/
theorem begin_mirrored {hc : HubConfig} {hub : Hub} (hsound : service.Sound)
    {envelope : EventEnvelope} {plugin : GrpcPlugin}
    (hbegin : service.plugin.beginEvent envelope = some plugin)
    (hpublication : hub.toPublication = service.plugin.state)
    (hbatches : hub.log.batches ≤ service.plugin.nextSequence) :
    ∃ fs hub', runs (Hub.step hc) hub fs = some hub' ∧ hub'.toPublication = plugin.state ∧
      (hub'.log.batches ≤ plugin.nextSequence ∧ hub.log.SameRecords hub'.log) ∧
      hub'.subscriber = hub.subscriber := by
  obtain ⟨-, -, -, ⟨hstate, hcounter | ⟨updates, error, -, hassign⟩⟩ |
    ⟨updates, numbered, hencode, hassign, hprepare⟩⟩ := GrpcPlugin.beginEvent_spec hbegin
  · exact ⟨[], hub, rfl, hpublication.trans hstate.symm, ⟨hcounter ▸ hbatches, rfl, rfl, rfl⟩, rfl⟩
  · have hle := GrpcPlugin.assignSequences_le updates hsound.numbered.counter_le
    rw [hassign] at hle
    exact ⟨[], hub, rfl, hpublication.trans hstate.symm, ⟨hbatches.trans hle.1, rfl, rfl, rfl⟩, rfl⟩
  · -- The counter moves by the updates of the batch, of which there is one at least.
    obtain ⟨-, hlast, -⟩ := hsound.numbered.accepts hencode hassign
    have hpos : 0 < updates.length := List.length_pos_iff.mpr (encodeEvent_ne_nil hencode)
    rw [← hpublication] at hprepare
    have hhub : hub.step hc (.prepare numbered) = some
        { hub with
          toPublication := plugin.state
          log := { hub.log with batches := hub.log.batches + 1 } } := by
      show (hub.toPublication.prepare numbered).map _ = _
      rw [hprepare]
      rfl
    refine ⟨[.prepare numbered], _, runs_cons.mpr ⟨_, hhub, rfl⟩, rfl, ⟨?_, rfl, rfl, rfl⟩, rfl⟩
    show hub.log.batches + 1 ≤ plugin.nextSequence
    omega

/-- **The publisher's side.** Whatever the service does, the hub's publisher follows,
and its subscriber stays. -/
theorem publication_mirrored {hc : HubConfig} {hub : Hub} (hsound : service.Sound)
    {event : ServiceEvent} (hstep : service.step config event = some service')
    (hpublication : hub.toPublication = service.plugin.state)
    (hbatches : hub.log.batches ≤ service.plugin.nextSequence) :
    ∃ fs hub', runs (Hub.step hc) hub fs = some hub' ∧
      hub'.toPublication = service'.plugin.state ∧
      (hub'.log.batches ≤ service'.plugin.nextSequence ∧ hub.log.SameRecords hub'.log) ∧
      hub'.subscriber = hub.subscriber := by
  have hstays : service'.plugin = service.plugin → ∃ fs hub',
      runs (Hub.step hc) hub fs = some hub' ∧
      hub'.toPublication = service'.plugin.state ∧
      (hub'.log.batches ≤ service'.plugin.nextSequence ∧ hub.log.SameRecords hub'.log) ∧
      hub'.subscriber = hub.subscriber := fun hplugin =>
    ⟨[], hub, rfl, by rw [hplugin]; exact hpublication,
      ⟨by rw [hplugin]; exact hbatches, rfl, rfl, rfl⟩, rfl⟩
  rcases step_cases hstep with
    ⟨-, -, plugin, rfl, ⟨envelope, -, hbegin⟩ | ⟨publish, hnot, hpublish⟩⟩ | ⟨request, -, hcall⟩ |
    ⟨index, call, phase, replay, -, hturn, hmoves⟩ | ⟨-, rfl⟩ | ⟨-, -, rfl⟩
  · exact begin_mirrored hsound hbegin hpublication hbatches
  · obtain ⟨state, hstate, rfl⟩ := Option.map_eq_some_iff.mp hpublish
    rw [← hpublication] at hstate
    obtain ⟨hubEvent, hhub⟩ := @Hub.step_publish _ hc hub publish hnot _ hstate
    exact ⟨[hubEvent], _, runs_cons.mpr ⟨_, hhub, rfl⟩, rfl, ⟨hbatches, rfl, rfl, rfl⟩, rfl⟩
  · rcases call_spec hcall with ⟨-, rfl⟩ | ⟨-, -, ⟨_, -, heq⟩ | ⟨_, -, heq⟩⟩
    · exact hstays rfl
    all_goals exact hstays (by rw [heq])
  · obtain ⟨fs, hrun⟩ := @evict_mirrored _ _ hub hc replay hpublication hturn.replay
    refine ⟨fs, _, hrun, ?_, ⟨?_, rfl, rfl, rfl⟩, rfl⟩
    · rw [hmoves.plugin, hpublication]
      rfl
    · rw [hmoves.plugin]
      exact hbatches
  · exact hstays rfl
  · exact hstays rfl

/-! ### The snapshots of the call -/

/-- The receiver of the call was attached behind so many updates. -/
def Attaches (config : ServerConfig) (index : Nat) (events : List ServiceEvent) (live : Nat) :
    Prop :=
  ∃ message service service',
    Takes (step config) (new config) events service (.first index message) service' ∧
      live = service.plugin.state.sent.length

/-- The call, its receiver at `live`, took its replay snapshot of this window, with so
many updates pushed. -/
def ReadsReplay (config : ServerConfig) (index : Nat) (events : List ServiceEvent) (live : Nat)
    (record : ReplayRecord) : Prop :=
  Attaches config index events live ∧ ∃ now service service' request filter,
    Takes (step config) (new config) events service (.snapshotReplay index now) service' ∧
      service.phaseOf index = some (.attached request filter live) ∧
      record =
        { window := service'.plugin.state.replay.buckets
          pushed := service.plugin.state.pushed.length }

/-- The call took its mempool snapshot of this state, with so many updates sent. -/
def ReadsMempool (config : ServerConfig) (index : Nat) (events : List ServiceEvent)
    (record : MempoolRecord) : Prop :=
  ∃ service service',
    Takes (step config) (new config) events service (.snapshotMempool index) service' ∧
      record =
        { state := service.plugin.state.mempool, sent := service.plugin.state.sent.length }

theorem Attaches.snoc {index : Nat} {events : List ServiceEvent} {live : Nat}
    (h : Attaches config index events live) (event : ServiceEvent) :
    Attaches config index (events ++ [event]) live := by
  obtain ⟨message, service, service', htakes, hlive⟩ := h
  exact ⟨message, service, service', htakes.snoc event, hlive⟩

/-- What a turn of the call puts on record. -/
structure Records (service : GrpcService) (index : Nat) (event : ServiceEvent)
    (phase phase' : CallPhase) (replay : ReplayBuffer) (log log' : HubLog) : Prop where
  joined : (log'.joined = log.joined ∧ ∀ request filter live,
      phase' ≠ .attached request filter live) ∨
    phase = .opening ∧ (∃ message, event = .first index message) ∧
      log'.joined = service.plugin.state.sent.length ∧ ∀ request filter live,
        phase' = .attached request filter live → log'.joined = live
  replay : log'.replay = log.replay ∨ ∃ now request filter live,
    event = .snapshotReplay index now ∧ phase = .attached request filter live ∧
      log'.replay =
        some { window := replay.buckets, pushed := service.plugin.state.pushed.length }
  mempool : log'.mempool = log.mempool ∨ event = .snapshotMempool index ∧
    ∀ record, log'.mempool = some record → record =
      { state := service.plugin.state.mempool, sent := service.plugin.state.sent.length }

omit [ZakuraChain] [WireFormat] in
theorem Records.of_same {index : Nat} {event : ServiceEvent} {phase phase' : CallPhase}
    {replay : ReplayBuffer} {log log' : HubLog} (h : log.SameRecords log')
    (hphase' : ∀ request filter live, phase' ≠ .attached request filter live) :
    Records service index event phase phase' replay log log' :=
  ⟨.inl ⟨h.joined, hphase'⟩, .inl h.replay, .inl h.mempool⟩

/-- The hub's log is what the call did. -/
structure Recalls (config : ServerConfig) (index : Nat) (events : List ServiceEvent)
    (service : GrpcService) (hub : Hub) : Prop where
  attached : ∀ request filter live, service.phaseOf index = some (.attached request filter live) →
    hub.log.joined = live ∧ Attaches config index events live
  unread : service.phaseOf index = none ∨ service.phaseOf index = some .opening →
    hub.log.replay = none
  replay : ∀ record, hub.log.replay = some record →
    ReadsReplay config index events hub.log.joined record
  mempool : ∀ record, hub.log.mempool = some record → ReadsMempool config index events record

theorem recalls_new (config : ServerConfig) (index : Nat) (hc : HubConfig) :
    Recalls config index [] (new config) (Hub.new hc) where
  attached _ _ _ h := nomatch h
  unread _ := rfl
  replay _ h := nomatch h
  mempool _ h := nomatch h

section
variable {index : Nat} {events : List ServiceEvent} {event : ServiceEvent} {hub hub' : Hub}

/-- A snapshot on record stays. -/
theorem Recalls.kept (h : Recalls config index events service hub) (event : ServiceEvent)
    (hlog : hub.log.SameRecords hub'.log) :
    (∀ record, hub'.log.replay = some record →
        ReadsReplay config index (events ++ [event]) hub'.log.joined record) ∧
      ∀ record, hub'.log.mempool = some record →
        ReadsMempool config index (events ++ [event]) record := by
  constructor
  · intro record hrecord
    obtain ⟨hattaches, now, before, after, request, filter, htakes, hrest⟩ :=
      h.replay record (hlog.replay ▸ hrecord)
    rw [hlog.joined]
    exact ⟨hattaches.snoc event, now, before, after, request, filter, htakes.snoc event, hrest⟩
  · intro record hrecord
    obtain ⟨before, after, htakes, heq⟩ := h.mempool record (hlog.mempool ▸ hrecord)
    exact ⟨before, after, htakes.snoc event, heq⟩

/-- Where the call does not move nothing is put on record. -/
theorem Recalls.stay (h : Recalls config index events service hub)
    (hphase : service'.phaseOf index = service.phaseOf index)
    (hlog : hub.log.SameRecords hub'.log) :
    Recalls config index (events ++ [event]) service' hub' := by
  obtain ⟨hreplay, hmempool⟩ := h.kept event hlog
  refine ⟨fun request filter live hattached => ?_, fun hunread => ?_, hreplay, hmempool⟩
  · rw [hphase] at hattached
    obtain ⟨hjoined, hattaches⟩ := h.attached request filter live hattached
    exact ⟨hlog.joined.trans hjoined, hattaches.snoc event⟩
  · rw [hphase] at hunread
    exact hlog.replay.trans (h.unread hunread)

/-- A call that arrives has nothing on record. -/
theorem Recalls.arrive (h : Recalls config index events service hub)
    (hnone : service.phaseOf index = none) (hopening : service'.phaseOf index = some .opening) :
    Recalls config index (events ++ [event]) service' hub := by
  have hsame : hub.log.SameRecords hub.log := ⟨rfl, rfl, rfl⟩
  obtain ⟨hreplay, hmempool⟩ := h.kept event hsame
  refine ⟨fun request filter live hattached => ?_, fun _ => h.unread (.inl hnone), hreplay,
    hmempool⟩
  rw [hopening] at hattached
  cases hattached

/-- A turn of the call puts on record what it read. -/
theorem Recalls.turn (h : Recalls config index events service hub)
    (hrun : runs (step config) (new config) events = some service)
    (hstep : service.step config event = some service') {phase phase' : CallPhase}
    {replay : ReplayBuffer} (hphase : service.phaseOf index = some phase)
    (hphase' : service'.phaseOf index = some phase') (hopening : phase' ≠ .opening)
    (hreplay : service'.plugin.state.replay = replay)
    (hrecords : Records service index event phase phase' replay hub.log hub'.log) :
    Recalls config index (events ++ [event]) service' hub' := by
  have hlast := takes_last hrun hstep
  refine ⟨fun request filter live hattached => ?_, fun hunread => ?_, fun record hrecord => ?_,
    fun record hrecord => ?_⟩
  · rw [hphase'] at hattached
    rcases hrecords.joined with ⟨-, hnot⟩ | ⟨-, ⟨message, rfl⟩, hjoined, hlive⟩
    · exact absurd (Option.some.inj hattached) (hnot request filter live)
    · have heq := hlive request filter live (Option.some.inj hattached)
      exact ⟨heq, message, service, service', hlast, heq.symm.trans hjoined⟩
  · rw [hphase'] at hunread
    rcases hunread with hnone | hfirst
    · cases hnone
    · exact absurd (Option.some.inj hfirst) hopening
  · rcases hrecords.replay with hsame | ⟨now, request, filter, live, rfl, rfl, hread⟩
    · rcases hrecords.joined with ⟨hjoined, -⟩ | ⟨rfl, -⟩
      · obtain ⟨hattaches, now, before, after, request, filter, htakes, hrest⟩ :=
          h.replay record (hsame ▸ hrecord)
        rw [hjoined]
        exact ⟨hattaches.snoc event, now, before, after, request, filter, htakes.snoc event, hrest⟩
      · rw [hsame, h.unread (.inr hphase)] at hrecord
        cases hrecord
    · obtain ⟨hjoined, hattaches⟩ := h.attached request filter live hphase
      rcases hrecords.joined with ⟨hsame, -⟩ | ⟨hopens, -⟩
      · rw [hread] at hrecord
        rw [hsame, hjoined]
        refine ⟨hattaches.snoc _, now, service, service', request, filter, hlast, hphase, ?_⟩
        rw [hreplay, ← Option.some.inj hrecord]
      · cases hopens
  · rcases hrecords.mempool with hsame | ⟨rfl, hread⟩
    · obtain ⟨before, after, htakes, heq⟩ := h.mempool record (hsame ▸ hrecord)
      exact ⟨before, after, htakes.snoc event, heq⟩
    · exact ⟨service, service', hlast, hread record hrecord⟩

end

/-! ### The turns of the call -/

variable {index : Nat} {hub : Hub}

/-- **The call's side.** A turn of the call is a run of the hub's subscriber. -/
theorem turn_mirrored (hsound : service.Sound) (hmatch : Matches index request filter service hub)
    (hfilter : EventFilter.new request config.filterLimits = .ok filter) {event : ServiceEvent}
    (hopens : OpensWith config index request filter event) {phase phase' : CallPhase}
    {replay : ReplayBuffer} (hturn : Turn config service index event phase phase' replay)
    (hphase : service.phaseOf index = some phase) :
    ∃ fs hub', runs (Hub.step (hubConfig config request filter)) hub fs = some hub' ∧
      hub'.toPublication = { service.plugin.state with replay := replay } ∧
      hub'.log.batches = hub.log.batches ∧
      Records service index event phase phase' replay hub.log hub'.log ∧
      Mirrors request filter (some phase') hub'.subscriber := by
  have hsubscriber := hmatch.subscriber
  rw [hphase] at hsubscriber
  have hevicts := hturn.replay
  cases hturn with
  | refused | cancelled =>
    exact ⟨[], hub, rfl, hmatch.publication, rfl,
      .of_same ⟨rfl, rfl, rfl⟩ (by simp), trivial⟩
  | @attached request' filter' hcompiled =>
    obtain rfl : request' = request := Option.some.inj (Except.ok.inj (hopens rfl))
    rw [hfilter] at hcompiled
    cases hcompiled
    have hattach := @Hub.attach_of_detached _ (hubConfig config request' filter) hub
      (by rw [hsubscriber])
    have hsent : hub.sent.length = service.plugin.state.sent.length := by
      rw [hmatch.publication]
    have hrecords : Records service index (.first index (.ok (some request'))) .opening
        (.attached request' filter service.plugin.state.sent.length) service.plugin.state.replay
        hub.log { hub.log with joined := hub.sent.length } := by
      refine ⟨.inr ⟨rfl, ⟨_, rfl⟩, hsent, fun _ _ live heq => ?_⟩, .inl rfl, .inl rfl⟩
      cases heq
      exact hsent
    refine ⟨[.attach], _, runs_cons.mpr ⟨_, hattach, rfl⟩, hmatch.publication, rfl, hrecords,
      rfl, rfl, ?_⟩
    dsimp only
    rw [hsubscriber, hsent]
  | @unavailable now live request' filter' status _ hread =>
    obtain ⟨fs, hrun⟩ := @evict_mirrored _ _ hub (hubConfig config request filter) replay
      hmatch.publication hevicts
    exact ⟨fs, _, hrun, by rw [← hmatch.publication], rfl,
      .of_same ⟨rfl, rfl, rfl⟩ (by simp), trivial⟩
  | @replayed now live request' filter' snapshot _ hread =>
    obtain ⟨rfl, rfl, hattached⟩ := hsubscriber
    rw [← hmatch.publication] at hread
    have hsnapshot := @Hub.snapshotReplay_of_attached _ (hubConfig config request' filter') hub
      (by rw [hattached]) now replay snapshot hread
    refine ⟨[.snapshotReplay now], _, runs_cons.mpr ⟨_, hsnapshot, rfl⟩, ?_, rfl,
      ⟨.inl ⟨rfl, by simp⟩, .inr ⟨now, request', filter', live, rfl, rfl, ?_⟩, .inl rfl⟩, rfl, rfl,
      ?_⟩
    · rw [← hmatch.publication]
    · rw [← hmatch.publication]
    · dsimp only
      rw [hattached]
  | @started request' filter' live snapshot hlock hcapacity =>
    obtain ⟨rfl, rfl, hreplayed⟩ := hsubscriber
    have hquiet := hsound.quiet_initial hphase
    obtain ⟨log, ⟨hbatches, hjoined, hreplay, hrecord⟩, hsnapshot⟩ :=
      @Hub.snapshotMempool_of_replayed _
      (hubConfig config request' filter') hub (by rw [hreplayed])
      (by rw [hmatch.publication]; exact hlock)
    have hmempool : hub.mempool = service.plugin.state.mempool :=
      congrArg Publication.mempool hmatch.publication
    have hdelivered : hub.subscriber.delivered ++ initialUpdates filter' hub.subscriber.replay
        (if request'.includeMempoolSnapshot then some hub.mempool.snapshot else none)
        (request'.resume.map reconnectUpdate) = initialUpdates filter' snapshot
          (if request'.includeMempoolSnapshot then
            some service.plugin.state.mempool.snapshot else none)
          (request'.resume.map reconnectUpdate) := by
      rw [hreplayed, hmempool]
      rfl
    have hcontent := hdelivered.trans (content_quiet hquiet).symm
    have hrecords : Records service index (.snapshotMempool index)
        (.replayed request' filter' live snapshot) (.running (.start filter'
          config.clientChannelCapacity
          { live := live
            replay := snapshot
            mempool := if request'.includeMempoolSnapshot then
              some service.plugin.state.mempool.snapshot else none
            reconnect := request'.resume.map reconnectUpdate }))
        service.plugin.state.replay hub.log log := by
      refine ⟨.inl ⟨hjoined, by simp⟩, .inl hreplay, .inr ⟨rfl, fun record hsome => ?_⟩⟩
      rw [hrecord record hsome, hmatch.publication]
    refine ⟨_, _, runs_cons.mpr ⟨_, hsnapshot, Hub.runs_emit rfl⟩, hmatch.publication, hbatches,
      hrecords, ?_⟩
    exact
      { filter := rfl
        phase := rfl
        pending := rfl
        position := by
          show hub.subscriber.position = live
          rw [hreplayed]
        watermark := by
          show hub.subscriber.watermark = snapshot.watermark
          rw [hreplayed]
        mempoolWatermark := by
          rw [hmempool]
          rfl
        atMost := hcontent ▸ List.prefix_rfl
        delivered := fun _ => hcontent }
  | @moved turn task task' hmoved =>
    have hsame : (hubConfig config request filter).filter = filter := rfl
    obtain ⟨fs, hub', hrun, hpublication, ⟨hbatches, hlog⟩, hfollows⟩ :=
      Follows.step hsubscriber hsame (congrArg Publication.sent hmatch.publication).symm rfl
        hsound.ring_data (hopens rfl) (SubscriptionTask.step_moves hmoved)
    exact ⟨fs, hub', hrun, hpublication.trans hmatch.publication, hbatches,
      .of_same hlog (by simp), hfollows⟩

/-- **A step of the service** is a run of the hub, and the hub's log stays what the
call did. -/
theorem simulates_hub (hfilter : EventFilter.new request config.filterLimits = .ok filter) :
    Simulates (step config) (Hub.step (hubConfig config request filter)) (new config)
      (OpensWith config index request filter) Sound fun events service hub =>
        Matches index request filter service hub ∧ Recalls config index events service hub := by
  rintro events service event service' hub hopens hsound hbefore hstep ⟨hmatch, hrecalls⟩
  rcases phase_step hstep index with ⟨-, hsame⟩ | ⟨-, hnone, hopening, hplugin, -⟩ |
    ⟨phase, phase', replay, -, hturn, hphase, hphase', hplugin, -⟩
  · obtain ⟨fs, hub', hrun, hpublication, ⟨hbatches, hlog⟩, hsubscriber⟩ :=
      @publication_mirrored _ _ config _ _ (hubConfig config request filter) hub hsound event hstep
        hmatch.publication hmatch.batches
    refine ⟨fs, hub', hrun, ⟨hpublication, hbatches, ?_⟩, hrecalls.stay hsame hlog⟩
    rw [hsame, hsubscriber]
    exact hmatch.subscriber
  · have hsubscriber := hmatch.subscriber
    rw [hnone] at hsubscriber
    refine ⟨[], hub, rfl, ⟨?_, ?_, ?_⟩, hrecalls.arrive hnone hopening⟩
    · rw [hplugin]
      exact hmatch.publication
    · rw [hplugin]
      exact hmatch.batches
    · rw [hopening]
      exact hsubscriber
  · obtain ⟨fs, hub', hrun, hpublication, hbatches, hrecords, hmirrors⟩ :=
      turn_mirrored hsound hmatch hfilter hopens hturn hphase
    have hnotOpening : phase' ≠ .opening := by
      cases hturn <;> exact nofun
    refine ⟨fs, hub', hrun, ⟨?_, ?_, ?_⟩, hrecalls.turn hbefore hstep hphase hphase' hnotOpening
      (by rw [hplugin]; rfl) hrecords⟩
    · rw [hplugin]
      exact hpublication
    · rw [hplugin, hbatches]
      exact hmatch.batches
    · rw [hphase']
      exact hmirrors

/-- **The hub of a call.** Every run of the service in which the call opens with the
request and keeps its filter is matched by a run of the hub. -/
theorem hub_of_run (hfilter : EventFilter.new request config.filterLimits = .ok filter)
    {events : List ServiceEvent}
    (hopens : ∀ event ∈ events, OpensWith config index request filter event)
    (hrun : runs (step config) (new config) events = some service) :
    ∃ fs hub, runs (Hub.step (hubConfig config request filter))
        (Hub.new (hubConfig config request filter)) fs = some hub ∧
      Matches index request filter service hub ∧ Recalls config index events service hub :=
  runs_simulate (simulates_hub hfilter) (fun _ _ _ hstep h => h.step hstep) hopens hrun
    (sound_new config)
    ⟨matches_new config index request filter, recalls_new config index _⟩

end

end GrpcService

end ZakuraGrpc
