import ZakuraGrpc.Geyser.ServiceDelivery

/-!
# The order of a stream

Whatever requests a client sends in between, the block-scoped messages of its stream
have increasing sequences, never above the task's watermark, and each is the
projection of an update that was published. No filter that is installed later, no
snapshot and no queue brings one back.
-/

namespace ZakuraGrpc

open Runs

/-- The block-scoped message, if it is one. -/
def blockOf : SubscribeResult → Option SubscribeUpdate
  | .error _ => none
  | .ok message => if (blockHeight message).isSome then some message else none

theorem blockOf_eq_some {result : SubscribeResult} {message : SubscribeUpdate} :
    blockOf result = some message ↔ result = .ok message ∧ (blockHeight message).isSome := by
  cases result with
  | error status => exact ⟨nofun, fun ⟨h, _⟩ => absurd h nofun⟩
  | ok found =>
    rw [Except.ok.injEq]
    show (if (blockHeight found).isSome then some found else none) = some message ↔ _
    split
    · rename_i hsome
      rw [Option.some.injEq]
      exact ⟨fun h => ⟨h, h ▸ hsome⟩, And.left⟩
    · rename_i hnone
      exact ⟨nofun, fun ⟨h, hsome⟩ => absurd (h ▸ hsome) hnone⟩

/-- The block-scoped messages of a stream. -/
def blocksOf (stream : List SubscribeResult) : List SubscribeUpdate := stream.filterMap blockOf

theorem blocksOf_append (stream stream' : List SubscribeResult) :
    blocksOf (stream ++ stream') = blocksOf stream ++ blocksOf stream' := List.filterMap_append

theorem blocksOf_map_ok (messages : List SubscribeUpdate) :
    blocksOf (messages.map .ok) = messages.filter fun message => (blockHeight message).isSome := by
  rw [blocksOf, List.filterMap_map, ← List.filterMap_eq_filter]
  refine List.filterMap_congr fun message _ => ?_
  show (if (blockHeight message).isSome then some message else none) = _
  rw [Option.guard]

theorem blocksOf_of_no_height {messages : List SubscribeUpdate}
    (h : ∀ message ∈ messages, blockHeight message = none) : blocksOf (messages.map .ok) = [] := by
  rw [blocksOf_map_ok, List.filter_eq_nil_iff]
  intro message hmem
  rw [h message hmem]
  exact Bool.false_ne_true

namespace SubscriptionTask

variable {task task' : SubscriptionTask} {pushed : List PublishedUpdate} {ring : LiveRing}

/-- The block-scoped messages are published updates, in order. -/
structure BlocksInOrder (pushed : List PublishedUpdate) [WireFormat] (task : SubscriptionTask) :
    Prop where
  increasing : ((blocksOf task.stream).map (·.sequence)).Pairwise (· < ·)
  below : ∀ message ∈ blocksOf task.stream, message.sequence ≤ task.replayWatermark
  genuine : ∀ message ∈ blocksOf task.stream, ∃ update ∈ pushed, ∃ filter : EventFilter,
    deliver filter update = some message

section
variable [WireFormat]

/-- A move that adds no block-scoped message. -/
theorem BlocksInOrder.congr (h : task.BlocksInOrder pushed)
    (hstream : (blocksOf task'.stream).Sublist (blocksOf task.stream))
    (hwatermark : task'.replayWatermark = task.replayWatermark) : task'.BlocksInOrder pushed where
  increasing := h.increasing.sublist (hstream.map _)
  below message hmem := hwatermark ▸ h.below message (hstream.subset hmem)
  genuine message hmem := h.genuine message (hstream.subset hmem)

theorem BlocksInOrder.stop (h : task.BlocksInOrder pushed) (reason : DisconnectReason) :
    (task.stop reason).BlocksInOrder pushed :=
  h.congr ((stream_stop reason).sublist.filterMap _) rfl

/-- The selecting task puts out messages without a height, or none. -/
theorem BlocksInOrder.puts_out (h : task.BlocksInOrder pushed) {results : List SubscribeResult}
    (houtgoing : task.outgoing = []) (hnone : blocksOf results = [])
    (hstream : task'.stream = task.outbound.sent ++ results)
    (hwatermark : task'.replayWatermark = task.replayWatermark) : task'.BlocksInOrder pushed := by
  refine h.congr ?_ hwatermark
  rw [hstream, blocksOf_append, hnone, List.append_nil, stream_of_selecting houtgoing]

omit [WireFormat] in
/-- A pong has no height. -/
theorem pong_no_height [ZakuraChain] {filter filter' : EventFilter} {request : SubscribeRequest}
    {limits : FilterLimits} {response : Option SubscribeUpdate}
    (h : applySubscriptionRequest filter request limits = .ok (filter', response)) :
    blocksOf ((response.map Except.ok).toList) = [] := by
  rcases applySubscriptionRequest_ok h with ⟨ping, -, -, rfl⟩ | ⟨-, -, rfl⟩
  · rfl
  · rfl

/-- **A received update** comes behind all that was put out. -/
theorem BlocksInOrder.receive (h : task.BlocksInOrder pushed) (houtgoing : task.outgoing = [])
    {update : PublishedUpdate} (hpushed : update ∈ pushed) :
    BlocksInOrder pushed
      { task with
        position := task.position + 1
        replayWatermark := (receiveLive task.filter task.replayWatermark
          task.mempoolWatermark update).1
        outgoing := ((receiveLive task.filter task.replayWatermark
          task.mempoolWatermark update).2.map .ok).toList } := by
  have hbefore : blocksOf task.outbound.sent = blocksOf task.stream := by
    rw [stream_of_selecting houtgoing]
  unfold receiveLive
  split
  · exact h.puts_out houtgoing rfl rfl rfl
  rename_i hlt
  dsimp only
  have hraised : BlocksInOrder pushed
      { task with position := task.position + 1, replayWatermark := update.message.sequence } :=
    { increasing := h.increasing
      below := fun message hmem => (h.below message hmem).trans (Nat.le_of_not_le hlt)
      genuine := h.genuine }
  cases hdelivered : (if suppressed task.mempoolWatermark update = true then none
      else deliver task.filter update) with
  | none => exact hraised.puts_out houtgoing rfl rfl rfl
  | some message =>
    have hdeliver : deliver task.filter update = some message := by
      split at hdelivered
      · cases hdelivered
      · exact hdelivered
    have hsequence := (deliver_frame hdeliver).2.1
    by_cases hblock : (blockHeight message).isSome
    · have hblocks : ∀ stream, blocksOf (stream ++ ((some message).map Except.ok).toList) =
          blocksOf stream ++ [message] := fun stream => by
        rw [blocksOf_append, blocksOf, blocksOf]
        exact congrArg _ (List.filterMap_cons_some (blockOf_eq_some.mpr ⟨rfl, hblock⟩))
      refine ⟨?_, fun m hmem => ?_, fun m hmem => ?_⟩
      · rw [stream, hblocks, List.map_append, List.pairwise_append]
        refine ⟨hbefore ▸ h.increasing, List.pairwise_singleton _ _, fun sequence hin last hlast => ?_⟩
        obtain ⟨earlier, hearlier, rfl⟩ := List.mem_map.mp hin
        have hle := h.below earlier (hbefore ▸ hearlier)
        rw [List.map_singleton, List.mem_singleton] at hlast
        omega
      · rw [stream, hblocks] at hmem
        rcases List.mem_append.mp hmem with hin | hin
        · exact hraised.below m (hbefore ▸ hin)
        · rw [List.mem_singleton.mp hin, hsequence]
      · rw [stream, hblocks] at hmem
        rcases List.mem_append.mp hmem with hin | hin
        · exact h.genuine m (hbefore ▸ hin)
        · rw [List.mem_singleton.mp hin]
          exact ⟨update, hpushed, task.filter, hdeliver⟩
    · refine @BlocksInOrder.puts_out _ _ _ _ hraised _ houtgoing ?_ rfl rfl
      exact @blocksOf_of_no_height [message] fun m hm => by
        rw [List.mem_singleton.mp hm]
        simpa using hblock

/-- **Every move keeps the order.** -/
theorem BlocksInOrder.step [ZakuraChain] (h : task.BlocksInOrder pushed)
    (hsent : ∀ update ∈ ring.sent, update ∈ pushed) {settings : Settings} {event : TaskEvent}
    (hmoves : task.Moves settings ring event task') : task'.BlocksInOrder pushed := by
  cases hmoves with
  | sent houtgoing hsend =>
    exact h.congr (by rw [stream_sent houtgoing hsend]) rfl
  | lost | requestsFailed | serverClosed | unpinged => exact h.stop _
  | requestsClosed | skipped | dropped => exact h.congr (List.Sublist.refl _) rfl
  | taken htake =>
    exact h.congr (by rw [stream_taken htake]) rfl
  | applied hselecting happly =>
    exact h.puts_out (isSelecting_iff.mp hselecting).1 (pong_no_height happly) rfl rfl
  | rejected hselecting =>
    refine @BlocksInOrder.puts_out _ _ _ _ h [_] (isSelecting_iff.mp hselecting).1 ?_ rfl rfl
    rfl
  | received hselecting hlag hget =>
    exact h.receive (isSelecting_iff.mp hselecting).1 (hsent _ (List.mem_of_getElem? hget))
  | lagged hselecting hlag =>
    have houtgoing := (isSelecting_iff.mp hselecting).1
    rcases stream_lagged houtgoing (.error (lagStatus
      (ring.sent.length - task.position - ring.capacity))) (some .broadcastLag) with heq | heq
    · exact @BlocksInOrder.puts_out _ _ _ _ h [] houtgoing rfl
        (heq.trans (List.append_nil _).symm) rfl
    · refine h.puts_out houtgoing ?_ heq rfl
      rfl
  | @pinged outbound hselecting hsend =>
    have houtgoing := (isSelecting_iff.mp hselecting).1
    refine h.puts_out houtgoing ?_ (stream_pinged houtgoing hsend _) rfl
    rfl

end

end SubscriptionTask

/-! ## What a task starts with -/

/-- Of what is sent first only the replay is block-scoped. -/
theorem initialUpdates_split [WireFormat] {filter : EventFilter} {replay : ReplaySnapshot}
    {mempool : Option MempoolSnapshot} {checkpoint : Option ResumeCheckpoint}
    (hmempool : ∀ snapshot, mempool = some snapshot →
      ∀ update ∈ snapshot.updates, blockHeight update.message = none) :
    ∃ front, initialUpdates filter replay mempool (checkpoint.map reconnectUpdate) =
        front ++ replay.updates.filterMap (deliver filter) ∧
      ∀ message ∈ front, blockHeight message = none := by
  refine ⟨_, rfl, fun message hmem => ?_⟩
  rcases List.mem_append.mp hmem with hmem | hmem
  · obtain ⟨resume, -, rfl⟩ := Option.map_eq_some_iff.mp (Option.mem_toList.mp hmem)
    rfl
  · cases mempool with
    | none => cases hmem
    | some snapshot =>
      rcases List.mem_append.mp hmem with hmem | hmem
      · rcases List.mem_cons.mp hmem with rfl | hmem
        · rfl
        · obtain ⟨update, hupdate, hdelivered⟩ := List.mem_filterMap.mp hmem
          rw [(deliver_frame hdelivered).2.2]
          exact hmempool snapshot rfl update hupdate
      · rw [List.mem_singleton.mp hmem]
        rfl

theorem blocksOf_initialUpdates [WireFormat] {filter : EventFilter} {replay : ReplaySnapshot}
    {mempool : Option MempoolSnapshot} {checkpoint : Option ResumeCheckpoint}
    (hmempool : ∀ snapshot, mempool = some snapshot →
      ∀ update ∈ snapshot.updates, blockHeight update.message = none) :
    (blocksOf ((initialUpdates filter replay mempool
      (checkpoint.map reconnectUpdate)).map .ok)).Sublist
        (replay.updates.filterMap (deliver filter)) := by
  obtain ⟨front, heq, hfront⟩ := @initialUpdates_split _ filter replay mempool checkpoint hmempool
  rw [heq, List.map_append, blocksOf_append, blocksOf_of_no_height hfront, List.nil_append,
    blocksOf_map_ok]
  exact List.filter_sublist

namespace GrpcService

variable {service : GrpcService} {config : ServerConfig}

section
variable [ZakuraChain] [WireFormat]

/-- **The order of every stream.** In every run and for every subscriber, whatever it
requests: its block-scoped messages have increasing sequences, so none comes twice,
and each is the projection of a published update. -/
theorem blocks_in_order {events : List ServiceEvent}
    (hrun : runs (step config) (new config) events = some service) {index : Nat}
    {task : SubscriptionTask} (htask : service.taskOf index = some task) :
    task.BlocksInOrder service.plugin.state.pushed := by
  refine tasks_invariant
    (P := fun service task => task.BlocksInOrder service.plugin.state.pushed) ?_ ?_ ?_ hrun htask
  · intro service index request filter live snapshot hsound hphase
    have hreads := hsound.replays index _ _ _ _ hphase
    have hpushed := hsound.replayed index _ _ _ _ hphase
    have hsub := @blocksOf_initialUpdates _ filter snapshot
      (if request.includeMempoolSnapshot then some service.plugin.state.mempool.snapshot else none)
      request.resume fun mempool hmempool => by
        split at hmempool
        · cases hmempool
          exact MempoolState.snapshot_not_blockScoped hsound.data.entries
        · cases hmempool
    have hmem : ∀ message ∈ snapshot.updates.filterMap (deliver filter),
        ∃ update ∈ snapshot.updates, deliver filter update = some message :=
      fun message hin => List.mem_filterMap.mp hin
    refine ⟨?_, fun message hin => ?_, fun message hin => ?_⟩
    · exact (List.pairwise_map.mpr (Hub.pairwise_deliver hreads.increasing)).sublist (hsub.map _)
    · obtain ⟨update, hupdate, hdelivered⟩ := hmem message (hsub.subset hin)
      rw [(deliver_frame hdelivered).2.1]
      exact hreads.below update hupdate
    · obtain ⟨update, hupdate, hdelivered⟩ := hmem message (hsub.subset hin)
      exact ⟨update, hpushed update hupdate, filter, hdelivered⟩
  · intro service task turn task' hsound h hmoves
    exact h.step (fun update hmem => List.mem_append_left _ hmem) hmoves
  · intro service event service' task hstep h
    exact ⟨h.increasing, h.below, fun message hmem =>
      let ⟨update, hupdate, hfilter⟩ := h.genuine message hmem
      ⟨update, (pushed_step hstep).subset hupdate, hfilter⟩⟩

end

theorem blocks_in_order_sample : ∃ service : GrpcService, ∃ task : SubscriptionTask,
    service.taskOf 0 = some task ∧
      @SubscriptionTask.BlocksInOrder service.plugin.state.pushed protoWire task := by
  obtain ⟨service, task, filter, -, hrun, -, htask, -⟩ := sampleDelivery_task
  exact ⟨service, task, htask, @blocks_in_order service sampleServerConfig hexChain protoWire _
    hrun 0 task htask⟩

end GrpcService

end ZakuraGrpc
