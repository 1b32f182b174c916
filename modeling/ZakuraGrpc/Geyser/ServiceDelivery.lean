import ZakuraGrpc.Geyser.ServiceHub
import ZakuraGrpc.Geyser.MempoolView

/-!
# What a subscriber of the service receives

Read off the hub of the call: the block-scoped updates of its stream are the
replayed window and what was sent behind it, and a caught-up subscriber's view of
the mempool is the server's. Both hold with any number of other subscribers, a full
queue and a reader that stops.
-/

namespace ZakuraGrpc

open Runs

/-- The block-scoped messages. -/
def blockMessages (messages : List SubscribeUpdate) : List SubscribeUpdate :=
  messages.filter fun message => (blockHeight message).isSome

/-- Where the live part begins: behind what was pushed at the snapshot, or where the
receiver was attached, the watermark of an empty window being zero. -/
def ReplayRecord.cut (record : ReplayRecord) (live : Nat) : Nat :=
  if record.window = [] then live else record.pushed

/-- The updates of the window from a height on, then those sent behind it up to
`position`. -/
def replayThenLive (sent : List PublishedUpdate) (record : ReplayRecord)
    (fromHeight : Option Nat) (live position : Nat) : List PublishedUpdate :=
  (fromHeight.map (windowFrom record.window)).getD [] ++
    blocks ((sent.take position).drop (record.cut live))

/-! ## A subscriber of the hub -/

namespace Hub

variable {config : HubConfig} {hub hub' : Hub}

/-- What is retained is block-scoped. -/
theorem blocks_windowFrom {updates : List PublishedUpdate} {window : List ReplayBucket}
    (h : Retains updates window) (fromHeight : Option Nat) :
    blocks ((fromHeight.map (windowFrom window)).getD []) =
      (fromHeight.map (windowFrom window)).getD [] := by
  cases fromHeight with
  | none => rfl
  | some height =>
    refine List.filter_eq_self.mpr fun update hmem => ?_
    obtain ⟨bucket, hbucket, hupdate⟩ := List.mem_flatMap.mp hmem
    rw [h.height bucket (List.mem_filter.mp hbucket).1 update hupdate]
    rfl

section
variable [WireFormat]

/-- **The block-scoped part of the stream.** -/
theorem blocks_delivered (hpub : hub.PublishInv) (hsub : hub.SubscribeInv config)
    (hno : config.request.includeMempoolSnapshot = false)
    (hphase : hub.subscriber.phase = .streaming) (hpending : hub.subscriber.pending = []) :
    ∃ fromHeight record, replayHeight config.request = .ok fromHeight ∧
      hub.log.replay = some record ∧ hub.ReadsWindow config record ∧
      blockMessages hub.subscriber.delivered =
        (replayThenLive hub.sent record fromHeight hub.log.joined
          hub.subscriber.position).filterMap (deliver config.filter) := by
  have hbegun := hsub.begun hphase
  obtain ⟨record, hrecord⟩ := Option.isSome_iff_exists.mp hbegun.record
  have hreads := hsub.window record hrecord
  obtain ⟨fromHeight, hheight, hreplay⟩ := hreads.replay
  refine ⟨fromHeight, record, hheight, hrecord, hreads, ?_⟩
  have hstream := hsub.stream
  rw [hpending, List.append_nil] at hstream
  have hhead : blockMessages hub.log.head = [] :=
    List.filter_eq_nil_iff.mpr fun message hmem => by
      simp [(head_eq hsub hno message hmem).2]
  have htail : blockMessages hub.log.tail =
      ((fromHeight.map (windowFrom record.window)).getD []).filterMap (deliver config.filter) := by
    have hblocks := blocks_windowFrom hreads.retains fromHeight
    rw [blockMessages, hbegun.tail, filter_deliver_blocks, hreplay]
    dsimp only
    rw [hblocks]
  have hlive : blockMessages hub.log.live = (blocks ((hub.sent.take hub.subscriber.position).drop
      (record.cut hub.log.joined))).filterMap (deliver config.filter) := by
    rw [blockMessages, hsub.live, mempoolWatermark_eq_none hsub hno, filter_deliver_blocks,
      blocks_received hpub hsub hrecord, ReplayRecord.cut]
  calc blockMessages hub.subscriber.delivered
      = blockMessages hub.log.head ++ blockMessages hub.log.tail ++ blockMessages hub.log.live := by
        rw [hstream, blockMessages, List.filter_append, List.filter_append]
        rfl
    _ = _ := by
        rw [hhead, htail, hlive, List.nil_append, replayThenLive, List.filterMap_append]

/-- A subscriber that streams has its snapshot on record. -/
theorem recorded {events : List HubEvent}
    (hrun : runs (step config) (new config) events = some hub)
    (hphase : hub.subscriber.phase = .streaming)
    (hinclude : config.request.includeMempoolSnapshot = true) : hub.log.mempool.isSome := by
  revert hphase
  refine runs_invariant
    (I := fun hub : Hub => hub.subscriber.phase = .streaming → hub.log.mempool.isSome) ?_ hrun
    (fun h => by cases h)
  intro hub event hub' hstep h hphase
  cases event with
  | prepare updates =>
    obtain ⟨-, -, rfl⟩ := prepare_spec hstep
    exact h hphase
  | push now =>
    obtain ⟨_, _, _, -, -, rfl⟩ := push_spec hstep
    exact h hphase
  | send =>
    obtain ⟨_, _, _, -, rfl⟩ := send_spec hstep
    exact h hphase
  | finish =>
    obtain ⟨_, -, rfl⟩ := finish_spec hstep
    exact h hphase
  | evict now =>
    obtain ⟨_, -, rfl⟩ := evict_spec hstep
    exact h hphase
  | attach =>
    obtain ⟨-, rfl⟩ := attach_spec hstep
    cases hphase
  | snapshotReplay now =>
    obtain ⟨-, _, _, -, ⟨_, -, rfl⟩ | ⟨_, -, rfl⟩⟩ := snapshotReplay_spec hstep
    all_goals cases hphase
  | snapshotMempool =>
    obtain ⟨-, -, mempool, hmempool, rfl⟩ := snapshotMempool_spec hstep
    rw [if_pos hinclude] at hmempool
    rw [hmempool]
    rfl
  | emit =>
    obtain ⟨_, _, hbefore, -, rfl⟩ := emit_spec hstep
    exact h hbefore
  | recv =>
    obtain ⟨hbefore, -, rfl | ⟨_, -, rfl⟩⟩ := recv_spec hstep
    · cases hphase
    · exact h hbefore
  | disconnect =>
    cases hstep
    cases hphase

/-- **The view of the stream.** -/
theorem view_delivered (hcatch : config.filter.CatchAll) {events : List HubEvent}
    (hrun : runs (step config) (new config) events = some hub)
    (hbatches : hub.log.batches < 2 ^ 64) {record : MempoolRecord}
    (hrecord : hub.log.mempool = some record) (hpending : hub.subscriber.pending = []) :
    record.sent ≤ hub.sent.length ∧
      MempoolView.empty.observeAll hub.subscriber.delivered = MempoolView.empty.observeAll
        ((hub.sent.take (max hub.subscriber.position record.sent)).map (·.message)) := by
  obtain ⟨-, hsub⟩ := invariants hrun
  have hinv := (mempoolInvariant hrun hbatches).record record hrecord
  refine ⟨hinv.sent_le, ?_⟩
  have hstream := hsub.stream
  rw [hpending, List.append_nil] at hstream
  have htail := tail_not_mempool hsub (begun_of_record hsub hinv)
  have hlive : record.state.view.observeAll hub.log.live = record.state.view.observeAll
      (((hub.sent.take hub.subscriber.position).drop record.sent).map (·.message)) := by
    rw [hsub.live, MempoolView.observeAll_deliver hcatch, ← MempoolView.observeAll_filter,
      ← MempoolView.observeAll_filter _ (((hub.sent.take _).drop _).map _), List.filter_map,
      List.filter_map]
    congr 2
    exact mempool_received hsub hinv
  have hsplit : hub.sent.take record.sent ++
      (hub.sent.take hub.subscriber.position).drop record.sent =
        hub.sent.take (max hub.subscriber.position record.sent) := by
    rcases le_total hub.subscriber.position record.sent with hle | hle
    · rw [max_eq_right hle, List.drop_eq_nil_of_le, List.append_nil]
      rw [List.length_take]
      omega
    · have htake : (hub.sent.take hub.subscriber.position).take record.sent =
          hub.sent.take record.sent := by
        rw [List.take_take, min_eq_left hle]
      rw [max_eq_left hle, ← htake, List.take_append_drop]
  calc MempoolView.empty.observeAll hub.subscriber.delivered
      = record.state.view.observeAll hub.log.live := by
        rw [hstream, MempoolView.observeAll_append, MempoolView.observeAll_append,
          view_head hcatch hinv, MempoolView.observeAll_of_not_mempool _ htail]
    _ = MempoolView.empty.observeAll (((hub.sent.take record.sent ++
          (hub.sent.take hub.subscriber.position).drop record.sent)).map (·.message)) := by
        rw [hlive, hinv.view, ← MempoolView.observeAll_append, ← List.map_append]
    _ = _ := by rw [hsplit]

end

end Hub

/-! ## A call of the service -/

namespace GrpcService

variable {service : GrpcService} {config : ServerConfig} {request : SubscribeRequest}
  {filter : EventFilter} {index : Nat} {task : SubscriptionTask}

/-- The hub of a running call. -/
theorem Matches.follows {hub : Hub} (h : Matches index request filter service hub)
    (htask : service.taskOf index = some task) : Follows filter task hub.subscriber := by
  have hsubscriber := h.subscriber
  rw [taskOf_eq_some.mp htask] at hsubscriber
  exact hsubscriber

section
variable [ZakuraChain] [WireFormat]

/-- **Refinement.** To a call that keeps its filter the service is a hub with this one
subscriber: the same publisher, the same place in the ring, and the same stream. -/
theorem call_refines_hub (hfilter : EventFilter.new request config.filterLimits = .ok filter)
    {events : List ServiceEvent}
    (hopens : ∀ event ∈ events, OpensWith config index request filter event)
    (hrun : runs (step config) (new config) events = some service)
    (htask : service.taskOf index = some task) :
    ∃ fs hub, runs (Hub.step (hubConfig config request filter))
        (Hub.new (hubConfig config request filter)) fs = some hub ∧
      hub.toPublication = service.plugin.state ∧ hub.subscriber.phase = .streaming ∧
      hub.subscriber.position = task.position ∧
      hub.subscriber.watermark = task.replayWatermark ∧
      content task.stream <+: hub.subscriber.delivered ∧
      (task.ending = none → hub.subscriber.delivered = content task.stream) := by
  obtain ⟨fs, hub, hhub, hmatch, -⟩ := hub_of_run hfilter hopens hrun
  have hfollows := hmatch.follows htask
  exact ⟨fs, hub, hhub, hmatch.publication, hfollows.phase, hfollows.position,
    hfollows.watermark, hfollows.atMost, hfollows.delivered⟩

end

section
variable [ZakuraChain] [WireFormat]

/-- What the stream of the call holds of the blocks: the window its replay snapshot
found, and what was sent behind it. A task that ended in the middle of a send has lost
the rest of what it read. -/
structure DeliversBlocks (config : ServerConfig) (index : Nat) (events : List ServiceEvent)
    (service : GrpcService) (request : SubscribeRequest) (filter : EventFilter)
    (task : SubscriptionTask) : Prop where
  increasing : (((content task.stream).filter Hub.isData).map (·.sequence)).Pairwise (· < ·)
  blocks : ∃ fromHeight live record, replayHeight request = .ok fromHeight ∧
    ReadsReplay config index events live record ∧
    (live ≤ record.pushed ∧ record.pushed ≤ service.plugin.state.pushed.length ∧
      Retains (service.plugin.state.pushed.take record.pushed) record.window) ∧
    (blockMessages (content task.stream) <+:
      (replayThenLive service.plugin.state.sent record fromHeight live task.position).filterMap
        (deliver filter)) ∧
    (task.ending = none → blockMessages (content task.stream) =
      (replayThenLive service.plugin.state.sent record fromHeight live task.position).filterMap
        (deliver filter))

/-- **Delivery.** In every run of the service, to a call without a mempool snapshot
that keeps its filter: the data messages have increasing sequences, and the
block-scoped ones are the window its replay snapshot retained, from the requested height
on, then all that was pushed behind the snapshot up to the task's place in the ring. -/
theorem delivers_blocks (hfilter : EventFilter.new request config.filterLimits = .ok filter)
    (hno : request.includeMempoolSnapshot = false) {events : List ServiceEvent}
    (hopens : ∀ event ∈ events, OpensWith config index request filter event)
    (hrun : runs (step config) (new config) events = some service)
    (htask : service.taskOf index = some task) :
    DeliversBlocks config index events service request filter task := by
  obtain ⟨fs, hub, hhub, hmatch, hrecalls⟩ := hub_of_run hfilter hopens hrun
  have hfollows := hmatch.follows htask
  obtain ⟨hpub, hsub⟩ := Hub.invariants hhub
  refine ⟨?_, ?_⟩
  · have hincreasing := Hub.delivered_increasing hpub hsub hno
    exact hincreasing.sublist ((hfollows.atMost.filter _).sublist.map _)
  · obtain ⟨fromHeight, record, hheight, hrecord, ⟨hjoined, hpushed, hretains, -⟩, hblocks⟩ :=
      Hub.blocks_delivered hpub hsub hno hfollows.phase hfollows.pending
    rw [hmatch.publication] at hpushed hretains
    rw [congrArg Publication.sent hmatch.publication, hfollows.position] at hblocks
    refine ⟨fromHeight, hub.log.joined, record, hheight, hrecalls.replay record hrecord,
      ⟨hjoined, hpushed, hretains⟩, ?_, fun hnone => ?_⟩
    · obtain ⟨rest, hrest⟩ := hfollows.atMost.filter fun message => (blockHeight message).isSome
      exact ⟨rest, hrest.trans hblocks⟩
    · exact (congrArg blockMessages (hfollows.delivered hnone)).symm.trans hblocks

/-- **Mempool.** In every run of the service, of a call with a mempool snapshot that
keeps a catch-all filter and whose task goes on: the view its stream gives is that of
all that was sent up to its place in the ring, or up to its snapshot. Once it has read
all of an idle publisher, its view is the server's. -/
theorem mempool_converges (hfilter : EventFilter.new request config.filterLimits = .ok filter)
    (hcatch : filter.CatchAll) (hinclude : request.includeMempoolSnapshot = true)
    {events : List ServiceEvent}
    (hopens : ∀ event ∈ events, OpensWith config index request filter event)
    (hrun : runs (step config) (new config) events = some service)
    (htask : service.taskOf index = some task) (hgoes : task.ending = none) :
    (∃ record, ReadsMempool config index events record ∧
      record.sent ≤ service.plugin.state.sent.length ∧
      MempoolView.empty.observeAll (content task.stream) =
        MempoolView.empty.observeAll
          ((service.plugin.state.sent.take (max task.position record.sent)).map (·.message))) ∧
    (service.plugin.state.publisher = .idle →
      task.position = service.plugin.state.sent.length →
      MempoolView.empty.observeAll (content task.stream) = service.plugin.state.mempool.view) := by
  obtain ⟨fs, hub, hhub, hmatch, hrecalls⟩ := hub_of_run hfilter hopens hrun
  have hfollows := hmatch.follows htask
  have hcounter := (sound_runs hrun).numbered.counter_le
  have hbatches : hub.log.batches < 2 ^ 64 := by
    have hle := hmatch.batches.trans hcounter
    unfold u64Max at hle
    omega
  obtain ⟨record, hrecord⟩ := Option.isSome_iff_exists.mp
    (Hub.recorded hhub hfollows.phase hinclude)
  obtain ⟨hle, hview⟩ := Hub.view_delivered hcatch hhub hbatches hrecord hfollows.pending
  have hserver := (Hub.mempoolInvariant hhub hbatches).view
  rw [hfollows.delivered hgoes, hfollows.position] at hview
  have hsent : hub.sent = service.plugin.state.sent := congrArg Publication.sent hmatch.publication
  rw [hsent] at hle hview
  refine ⟨⟨record, hrecalls.mempool record hrecord, hle, hview⟩, fun hidle hread => ?_⟩
  have hprepared : hub.prepared = service.plugin.state.sent := by
    rw [hmatch.publication, Publication.prepared, Publication.pushed, hidle]
    exact (List.append_nil _).trans (List.append_nil _)
  rw [hprepared, congrArg Publication.mempool hmatch.publication] at hserver
  rw [hview, hread, max_eq_left hle, List.take_length, hserver]

end

/-- A block is published, a subscriber asks for it and takes the first message, and
the next block is half sent. -/
def sampleDelivery : List ServiceEvent :=
  [.onEvent sampleEvent, .push 5, .send, .send, .send, .send, .send, .send, .finish,
   .call sampleRpc, .first 0 (.ok (some { fromHeight := some 9 })), .snapshotReplay 0 6,
   .snapshotMempool 0, .task 0 .flush, .task 0 .take, .onEvent sampleEvent, .push 7, .send]

theorem sampleDelivery_task : ∃ service task filter,
    @EventFilter.new hexChain { fromHeight := some 9 } sampleServerConfig.filterLimits =
        .ok filter ∧
      runs (@step hexChain protoWire sampleServerConfig) (new sampleServerConfig)
        sampleDelivery = some service ∧
      (∀ event ∈ sampleDelivery,
        @OpensWith hexChain sampleServerConfig 0 { fromHeight := some 9 } filter event) ∧
      service.taskOf 0 = some task ∧ task.ending = none := by
  have hsome : ((runs (@step hexChain protoWire sampleServerConfig) (new sampleServerConfig)
      sampleDelivery).bind fun service => (service.taskOf 0).filter (·.ending = none)).isSome =
        true := by
    decide +kernel
  obtain ⟨task, htask⟩ := Option.isSome_iff_exists.mp hsome
  obtain ⟨service, hrun, htask⟩ := Option.bind_eq_some_iff.mp htask
  obtain ⟨htask, hgoes⟩ := Option.filter_eq_some_iff.mp htask
  refine ⟨service, task, _, rfl, hrun, ?_, htask, of_decide_eq_true hgoes⟩
  simp [sampleDelivery, OpensWith, KeepsFilter]

theorem call_refines_hub_sample : ∃ service task filter fs hub,
    runs (@step hexChain protoWire sampleServerConfig) (new sampleServerConfig) sampleDelivery =
        some service ∧
      service.taskOf 0 = some task ∧ task.ending = none ∧
      runs (@Hub.step protoWire (hubConfig sampleServerConfig { fromHeight := some 9 } filter))
        (Hub.new (hubConfig sampleServerConfig { fromHeight := some 9 } filter)) fs = some hub ∧
      hub.toPublication = service.plugin.state ∧ hub.subscriber.phase = .streaming ∧
      hub.subscriber.position = task.position ∧
      hub.subscriber.watermark = task.replayWatermark ∧
      content task.stream <+: hub.subscriber.delivered ∧
      (task.ending = none → hub.subscriber.delivered = content task.stream) := by
  obtain ⟨service, task, filter, hfilter, hrun, hopens, htask, hgoes⟩ := sampleDelivery_task
  obtain ⟨fs, hub, hrefines⟩ := @call_refines_hub service sampleServerConfig _ filter 0
    task hexChain protoWire hfilter _ hopens hrun htask
  exact ⟨service, task, filter, fs, hub, hrun, htask, hgoes, hrefines⟩

theorem delivers_blocks_sample : ∃ service task filter,
    runs (@step hexChain protoWire sampleServerConfig) (new sampleServerConfig) sampleDelivery =
        some service ∧
      service.taskOf 0 = some task ∧ task.ending = none ∧
      @DeliversBlocks hexChain protoWire sampleServerConfig 0 sampleDelivery service
        { fromHeight := some 9 } filter task := by
  obtain ⟨service, task, filter, hfilter, hrun, hopens, htask, hgoes⟩ := sampleDelivery_task
  exact ⟨service, task, filter, hrun, htask, hgoes, @delivers_blocks service sampleServerConfig _
    filter 0 task hexChain protoWire hfilter rfl _ hopens hrun htask⟩

/-- Two transactions enter the mempool, a subscriber takes the snapshot, and one of
them leaves. -/
def sampleMempoolEvent (kind : MempoolEventKind) (ids : List Nat) : EventEnvelope :=
  { sampleEvent with
    payload := .mempoolChanged
      { network := .mainnet
        kind := kind
        transactionIds := ids.map fun id => .legacy ⟨Vector.replicate 32 (UInt8.ofNat id)⟩
        transactions := [] } }

def sampleMempoolDelivery : List ServiceEvent :=
  [.onEvent (sampleMempoolEvent .added [1, 2]), .push 5, .send, .finish, .call sampleRpc,
   .first 0 (.ok (some { includeMempoolSnapshot := true })), .snapshotReplay 0 6,
   .snapshotMempool 0, .onEvent (sampleMempoolEvent .mined [1]), .push 7, .send, .finish,
   .task 0 .flush, .task 0 .take, .task 0 .flush, .task 0 .take, .task 0 .flush, .task 0 .take,
   .task 0 .receive]

theorem mempool_converges_sample : ∃ service : GrpcService, ∃ task : SubscriptionTask,
    service.taskOf 0 = some task ∧ task.ending = none ∧
    (∃ record,
      @ReadsMempool hexChain protoWire sampleServerConfig 0 sampleMempoolDelivery record ∧
      record.sent ≤ service.plugin.state.sent.length ∧
      MempoolView.empty.observeAll (content task.stream) =
        MempoolView.empty.observeAll
          ((service.plugin.state.sent.take (max task.position record.sent)).map (·.message))) ∧
    MempoolView.empty.observeAll (content task.stream) = service.plugin.state.mempool.view := by
  obtain ⟨filter, hfilter, hcatch⟩ : ∃ filter,
      @EventFilter.new hexChain { includeMempoolSnapshot := true }
        sampleServerConfig.filterLimits = .ok filter ∧ filter.CatchAll :=
    ⟨_, rfl, catchAll_of_defaultAll rfl⟩
  have hsome : ((runs (@step hexChain protoWire sampleServerConfig) (new sampleServerConfig)
      sampleMempoolDelivery).bind fun service => (service.taskOf 0).bind fun task =>
        match service.plugin.state.publisher with
        | .idle => if task.ending = none ∧ task.position = service.plugin.state.sent.length then
            some () else none
        | _ => none).isSome = true := by
    decide +kernel
  obtain ⟨_, hsome⟩ := Option.isSome_iff_exists.mp hsome
  obtain ⟨service, hrun, hsome⟩ := Option.bind_eq_some_iff.mp hsome
  obtain ⟨task, htask, hsome⟩ := Option.bind_eq_some_iff.mp hsome
  split at hsome
  · rename_i hidle
    split at hsome
    · rename_i hends
      obtain ⟨hview, hconverged⟩ := @mempool_converges service sampleServerConfig _ filter 0 task
        hexChain protoWire hfilter hcatch rfl sampleMempoolDelivery
        (by simp [sampleMempoolDelivery, OpensWith, KeepsFilter]) hrun htask hends.1
      exact ⟨service, task, htask, hends.1, hview, hconverged hidle hends.2⟩
    · cases hsome
  · cases hsome

end GrpcService

end ZakuraGrpc
