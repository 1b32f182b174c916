import ZakuraGrpc.Geyser.Published

/-!
# Keepalive

What a response stream carries besides data: the pings of the timer, numbered down
from -1 (`pings_numbered`), and the answers to the client's pings, each once and in
their order (`pongs_answered`).
-/

namespace ZakuraGrpc

open Runs

/-! ## Pings and pongs of a stream -/

def pingOf : SubscribeResult → Option Int
  | .error _ => none
  | .ok message =>
    match message.update with
    | some (.ping ping) => some ping.id
    | _ => none

def pongOf : SubscribeResult → Option Int
  | .error _ => none
  | .ok message =>
    match message.update with
    | some (.pong pong) => some pong.id
    | _ => none

/-- The message is neither. -/
def Quiet (message : SubscribeResult) : Prop := pingOf message = none ∧ pongOf message = none

theorem quiet_of_isData {message : SubscribeUpdate} (h : Hub.isData message = true) :
    Quiet (.ok message) := by
  unfold Quiet pingOf pongOf
  unfold Hub.isData at h
  cases hu : message.update with
  | none => simp [hu] at h
  | some kind => cases kind <;> simp [hu] at h ⊢

theorem filterMap_of_quiet {messages : List SubscribeResult}
    (h : ∀ message ∈ messages, Quiet message) :
    messages.filterMap pingOf = [] ∧ messages.filterMap pongOf = [] :=
  ⟨List.filterMap_eq_nil_iff.mpr fun message hmem => (h message hmem).1,
    List.filterMap_eq_nil_iff.mpr fun message hmem => (h message hmem).2⟩

section
variable [WireFormat]

/-- What is sent first is neither. -/
theorem quiet_initialUpdates {filter : EventFilter} {replay : ReplaySnapshot}
    {mempool : Option MempoolSnapshot} {checkpoint : Option ResumeCheckpoint}
    (hreplay : ∀ update ∈ replay.updates, Hub.isData update.message = true)
    (hmempool : ∀ snapshot, mempool = some snapshot →
      ∀ update ∈ snapshot.updates, Hub.isData update.message = true) :
    ∀ message ∈ initialUpdates filter replay mempool (checkpoint.map reconnectUpdate),
      Quiet (.ok message) := by
  have hdeliver : ∀ {updates : List PublishedUpdate},
      (∀ update ∈ updates, Hub.isData update.message = true) →
      ∀ message ∈ updates.filterMap (deliver filter), Quiet (.ok message) := by
    intro updates hdata message hmem
    obtain ⟨update, hupdate, hdelivered⟩ := List.mem_filterMap.mp hmem
    refine quiet_of_isData ?_
    rw [isData_deliver hdelivered]
    exact hdata update hupdate
  intro message hmem
  unfold initialUpdates at hmem
  rcases List.mem_append.mp hmem with hmem | hmem
  · rcases List.mem_append.mp hmem with hmem | hmem
    · obtain ⟨resume, -, rfl⟩ := Option.map_eq_some_iff.mp (Option.mem_toList.mp hmem)
      exact ⟨rfl, rfl⟩
    · cases mempool with
      | none => cases hmem
      | some snapshot =>
        rcases List.mem_append.mp hmem with hmem | hmem
        · rcases List.mem_cons.mp hmem with rfl | hmem
          · exact ⟨rfl, rfl⟩
          · exact hdeliver (hmempool snapshot rfl) message hmem
        · rw [List.mem_singleton.mp hmem]
          exact ⟨rfl, rfl⟩
  · exact hdeliver hreplay message hmem

/-- What is received is neither. -/
theorem quiet_receiveLive {filter : EventFilter} {replayWatermark : Nat}
    {mempoolWatermark : Option Nat} {update : PublishedUpdate}
    (hdata : Hub.isData update.message = true) :
    ∀ message ∈ ((receiveLive filter replayWatermark mempoolWatermark update).2.map
      Except.ok).toList, Quiet message := by
  intro message hmem
  obtain ⟨delivered, hdelivered, rfl⟩ := Option.map_eq_some_iff.mp (Option.mem_toList.mp hmem)
  unfold receiveLive at hdelivered
  split at hdelivered
  · cases hdelivered
  dsimp only at hdelivered
  split at hdelivered
  · cases hdelivered
  · refine quiet_of_isData ?_
    rw [isData_deliver hdelivered]
    exact hdata

end

/-! ## The ids of the pings -/

/-- The id of the ping with `count` pings before it. -/
def pingIdAt (count : Nat) : Int := -1 - (count % 2 ^ 31 : Nat)

theorem nextPingId_pingIdAt (count : Nat) : nextPingId (pingIdAt count) = pingIdAt (count + 1) := by
  unfold nextPingId pingIdAt i32Min
  split <;> omega

theorem pingIdAt_range (count : Nat) : i32Min ≤ pingIdAt count ∧ pingIdAt count ≤ -1 := by
  unfold pingIdAt i32Min
  omega

/-! ## A task -/

namespace SubscriptionTask

/-- The pings sent are the first of the timer, and none is behind them. -/
structure Pings (task : SubscriptionTask) (count : Nat) : Prop where
  next : task.pingId = pingIdAt count
  sent : task.outbound.sent.filterMap pingOf = (List.range count).map pingIdAt
  outgoing : ∀ message ∈ task.outgoing, pingOf message = none

variable [ZakuraChain] [WireFormat] {task task' : SubscriptionTask} {settings : Settings}
  {ring : LiveRing}

omit [ZakuraChain] in
/-- A task starts without pings. -/
theorem pings_start {filter : EventFilter} {capacity : Nat} {initial : InitialSubscription}
    (hquiet : ∀ message ∈ initialUpdates filter initial.replay initial.mempool initial.reconnect,
      Quiet (.ok message)) : (start filter capacity initial).Pings 0 where
  next := rfl
  sent := rfl
  outgoing message hmem := by
    obtain ⟨update, hupdate, rfl⟩ := List.mem_map.mp hmem
    exact (hquiet update hupdate).1

/-- **A step of the timer sends the next ping;** the others send none. -/
theorem Pings.step {count : Nat} (h : task.Pings count) {event : TaskEvent}
    (hdata : ∀ update ∈ ring.sent, Hub.isData update.message = true)
    (hmoves : task.Moves settings ring event task') :
    ∃ count', task'.Pings count' := by
  obtain ⟨hnext, hsent, houtgoing⟩ := h
  cases hmoves with
  | @sent message outgoing outbound houtgoing' hsend =>
    rw [houtgoing'] at houtgoing
    refine ⟨count, hnext, ?_, fun message hmem => houtgoing message (List.mem_cons_of_mem _ hmem)⟩
    rw [(Channel.trySend_sent hsend).2.2.1, List.filterMap_append, hsent]
    simp [houtgoing message List.mem_cons_self]
  | lost | requestsFailed | serverClosed | unpinged =>
    exact ⟨count, hnext, hsent, fun _ hmem => (nomatch hmem)⟩
  | @applied request filter response hselecting happly =>
    refine ⟨count, hnext, hsent, fun message hmem => ?_⟩
    obtain ⟨update, rfl, rfl⟩ := Option.map_eq_some_iff.mp (Option.mem_toList.mp hmem)
    rcases applySubscriptionRequest_ok happly with ⟨ping, -, -, hpong⟩ | ⟨-, -, hnone⟩
    · cases hpong
      rfl
    · cases hnone
  | rejected =>
    refine ⟨count, hnext, hsent, fun message hmem => ?_⟩
    rw [List.mem_singleton.mp hmem]
    rfl
  | requestsClosed | skipped => exact ⟨count, hnext, hsent, houtgoing⟩
  | @received update hselecting hlag hget =>
    refine ⟨count, hnext, hsent, fun message hmem => ?_⟩
    exact (quiet_receiveLive (hdata update (List.mem_of_getElem? hget)) message hmem).1
  | lagged =>
    refine ⟨count, hnext, ?_, houtgoing⟩
    rcases offer_cases task.outbound (.error (lagStatus
      (ring.sent.length - task.position - ring.capacity))) with heq | ⟨-, -, -, -, heq⟩
    · rw [heq]
      exact hsent
    · rw [heq, List.filterMap_append, hsent]
      exact List.append_nil _
  | @pinged outbound hselecting hsend =>
    refine ⟨count + 1, ?_, ?_, houtgoing⟩
    · rw [← nextPingId_pingIdAt, ← hnext]
    · rw [(Channel.trySend_sent hsend).2.2.1, List.filterMap_append, hsent, List.range_succ,
        List.map_append, hnext]
      rfl
  | @taken outbound htake =>
    refine ⟨count, hnext, ?_, houtgoing⟩
    rw [(Channel.take_some htake).2.2.1]
    exact hsent
  | dropped => exact ⟨count, hnext, hsent, houtgoing⟩

omit [ZakuraChain] [WireFormat] in
/-- The awaited send moves a message inside the stream. -/
theorem stream_sent {message : SubscribeResult} {outgoing : List SubscribeResult}
    {outbound : Channel SubscribeResult} (houtgoing : task.outgoing = message :: outgoing)
    (hsend : task.outbound.trySend message = .sent outbound) :
    { task with outbound := outbound, outgoing := outgoing }.stream = task.stream := by
  rw [stream, stream, (Channel.trySend_sent hsend).2.2.1, houtgoing, List.append_assoc]
  rfl

omit [ZakuraChain] [WireFormat] in
/-- The transport takes from what is put out. -/
theorem stream_taken {outbound : Channel SubscribeResult}
    (htake : task.outbound.take = some outbound) :
    { task with outbound := outbound }.stream = task.stream := by
  rw [stream, stream, (Channel.take_some htake).2.2.1]

omit [ZakuraChain] [WireFormat] in
/-- A ping is put out at once. -/
theorem stream_pinged {message : SubscribeResult} {outbound : Channel SubscribeResult}
    (houtgoing : task.outgoing = []) (hsend : task.outbound.trySend message = .sent outbound)
    (pingId : Int) :
    { task with outbound := outbound, pingId := pingId }.stream =
      task.outbound.sent ++ [message] := by
  rw [stream, houtgoing, (Channel.trySend_sent hsend).2.2.1, List.append_nil]

omit [ZakuraChain] [WireFormat] in
/-- The error of a lag is put out where there is room. -/
theorem stream_lagged (houtgoing : task.outgoing = []) (message : SubscribeResult)
    (ending : Option DisconnectReason) :
    { task with outbound := offer task.outbound message, ending := ending }.stream =
        task.outbound.sent ∨
      { task with outbound := offer task.outbound message, ending := ending }.stream =
        task.outbound.sent ++ [message] := by
  rw [stream, houtgoing, List.append_nil]
  rcases offer_cases task.outbound message with heq | ⟨-, -, -, -, hsent⟩
  · exact .inl (congrArg Channel.sent heq)
  · exact .inr hsent

omit [ZakuraChain] [WireFormat] in
/-- A task that stops puts out what it has sent. -/
theorem stream_stop (reason : DisconnectReason) : (task.stop reason).stream <+: task.stream := by
  rw [stream, stop, List.append_nil]
  exact List.prefix_append _ _

omit [ZakuraChain] [WireFormat] in
theorem ending_stop (reason : DisconnectReason) : (task.stop reason).ending ≠ none := nofun

/-- The ping that the event asks an answer for. -/
def owes : TaskEvent → Option Int
  | .request request => request.ping.map (·.id)
  | _ => none

/-- The pongs of the stream answer `owed`, all of it while the task goes on. -/
structure Pongs (task : SubscriptionTask) (owed : List Int) : Prop where
  answered : task.stream.filterMap pongOf <+: owed
  all : task.ending = none → task.stream.filterMap pongOf = owed

omit [ZakuraChain] [WireFormat] in
theorem Pongs.stop {owed : List Int} (h : task.Pongs owed) (reason : DisconnectReason) :
    (task.stop reason).Pongs owed :=
  ⟨((stream_stop reason).filterMap pongOf).trans h.answered,
    fun hnone => absurd hnone (ending_stop reason)⟩

omit [ZakuraChain] [WireFormat] in
/-- A selecting task owes nothing: what it puts out next is all it adds. -/
theorem Pongs.of_selecting {owed : List Int} (h : task.Pongs owed)
    (hselecting : task.isSelecting = true) : task.outbound.sent.filterMap pongOf = owed := by
  obtain ⟨houtgoing, hnone⟩ := isSelecting_iff.mp hselecting
  rw [← stream_of_selecting houtgoing]
  exact h.all hnone

/-- **A request with a ping is answered;** nothing else adds a pong. -/
theorem Pongs.step {owed : List Int} (h : task.Pongs owed) {event : TaskEvent}
    (hdata : ∀ update ∈ ring.sent, Hub.isData update.message = true)
    (hmoves : task.Moves settings ring event task') :
    task'.Pongs (owed ++ (owes event).toList) := by
  have hof : ∀ {next : SubscriptionTask} {added : List Int},
      next.stream.filterMap pongOf = owed ++ added → next.Pongs (owed ++ added) :=
    fun heq => ⟨by rw [heq], fun _ => heq⟩
  have hsame : ∀ {next : SubscriptionTask}, next.Pongs owed → next.Pongs (owed ++ []) :=
    fun hnext => by rwa [List.append_nil]
  cases hmoves with
  | sent houtgoing hsend =>
    have hstream := stream_sent houtgoing hsend
    exact hsame ⟨by rw [hstream]; exact h.answered, fun hnone => by rw [hstream]; exact h.all hnone⟩
  | lost => exact hsame (h.stop _)
  | requestsFailed | serverClosed | unpinged => exact hsame (h.stop _)
  | requestsClosed | skipped | dropped => exact hsame ⟨h.answered, h.all⟩
  | @taken outbound htake =>
    have hstream := stream_taken htake
    exact hsame ⟨by rw [hstream]; exact h.answered, fun hnone => by rw [hstream]; exact h.all hnone⟩
  | @applied request filter response hselecting happly =>
    refine hof ?_
    rw [stream, List.filterMap_append, h.of_selecting hselecting]
    rcases applySubscriptionRequest_ok happly with ⟨ping, hping, -, rfl⟩ | ⟨hnone, -, rfl⟩
    · rw [owes, hping]
      rfl
    · rw [owes, hnone]
      rfl
  | @rejected request status hselecting happly =>
    refine hof ?_
    rw [stream, List.filterMap_append, h.of_selecting hselecting, owes,
      (applySubscriptionRequest_error happly).1]
    rfl
  | @received update hselecting hlag hget =>
    refine hof ?_
    have hquiet := @quiet_receiveLive _ task.filter task.replayWatermark task.mempoolWatermark _
      (hdata update (List.mem_of_getElem? hget))
    rw [stream, List.filterMap_append, h.of_selecting hselecting, (filterMap_of_quiet hquiet).2]
    rfl
  | lagged hselecting hlag =>
    obtain ⟨houtgoing, -⟩ := isSelecting_iff.mp hselecting
    refine hof ?_
    rcases stream_lagged houtgoing (.error (lagStatus
      (ring.sent.length - task.position - ring.capacity))) (some .broadcastLag) with heq | heq
    · rw [heq, h.of_selecting hselecting]
      exact (List.append_nil _).symm
    · rw [heq, List.filterMap_append, h.of_selecting hselecting]
      rfl
  | @pinged outbound hselecting hsend =>
    obtain ⟨houtgoing, -⟩ := isSelecting_iff.mp hselecting
    refine hof ?_
    rw [stream_pinged houtgoing hsend, List.filterMap_append, h.of_selecting hselecting]
    rfl

end SubscriptionTask

/-! ## Every call of the service -/

namespace GrpcService

variable {service service' : GrpcService} {config : ServerConfig}

/-- The pings that the client of the call at `index` asked an answer for. -/
def pongsOwed (index : Nat) (events : List ServiceEvent) : List Int :=
  events.filterMap fun
    | .task moved event => if moved = index then SubscriptionTask.owes event else none
    | _ => none

section
variable [ZakuraChain] [WireFormat]

omit [ZakuraChain] in
/-- What a call starts with is neither ping nor pong. -/
theorem Sound.quiet_initial (h : service.Sound) {index : Nat} {request : SubscribeRequest}
    {filter : EventFilter} {live : Nat} {snapshot : ReplaySnapshot}
    (hphase : service.phaseOf index = some (.replayed request filter live snapshot)) :
    ∀ message ∈ initialUpdates filter snapshot
        (if request.includeMempoolSnapshot then some service.plugin.state.mempool.snapshot
          else none) (request.resume.map reconnectUpdate),
      Quiet (.ok message) := by
  refine quiet_initialUpdates (h.replays index _ _ _ _ hphase).data fun mempool hmempool => ?_
  split at hmempool
  · cases hmempool
    exact MempoolState.isData_snapshot h.data.entries
  · cases hmempool

omit [ZakuraChain] [WireFormat] in
/-- What the ring holds is data. -/
theorem Sound.ring_data (h : service.Sound) :
    ∀ update ∈ (service.ring config).sent, Hub.isData update.message = true := fun update hmem =>
  h.data.prepared update (List.mem_append_left _ (List.mem_append_left _ hmem))

/-- Where a call is, what its stream carries besides data. -/
def Answers (owed : List Int) : Option CallPhase → Prop
  | some (.running task) => task.Pongs owed
  | _ => owed = []

omit [ZakuraChain] [WireFormat] in
theorem pongsOwed_of_ne {index : Nat} {event : ServiceEvent} (h : event.callIndex ≠ some index) :
    pongsOwed index [event] = [] := by
  unfold pongsOwed
  cases event with
  | task moved event =>
    have hne : moved ≠ index := fun heq => h (congrArg some heq)
    simp [hne]
  | _ => rfl

omit [ZakuraChain] [WireFormat] in
theorem pongsOwed_task (index : Nat) (event : TaskEvent) :
    pongsOwed index [.task index event] = (SubscriptionTask.owes event).toList := by
  unfold pongsOwed
  cases howes : SubscriptionTask.owes event <;> simp [howes]

/-- **Every step keeps the answers.** -/
theorem answers_step (hsound : service.Sound) {index : Nat} {owed : List Int}
    (h : Answers owed (service.phaseOf index)) {event : ServiceEvent}
    (hstep : service.step config event = some service') :
    Answers (owed ++ pongsOwed index [event]) (service'.phaseOf index) := by
  rcases phase_step hstep index with ⟨hevent, hsame⟩ | ⟨hevent, hnone, hopening, -⟩ |
    ⟨phase, phase', replay, hevent, hturn, hphase, hphase', -⟩
  · rw [pongsOwed_of_ne hevent, hsame, List.append_nil]
    exact h
  · rw [hnone] at h
    have howed : owed = [] := h
    rw [hopening, howed, pongsOwed_of_ne (by rw [hevent]; exact nofun)]
    rfl
  · rw [hphase] at h
    rw [hphase']
    cases hturn with
    | moved hmoved =>
      rw [pongsOwed_task]
      exact SubscriptionTask.Pongs.step h hsound.ring_data (SubscriptionTask.step_moves hmoved)
    | started =>
      have howed : owed = [] := h
      have hquiet := hsound.quiet_initial hphase
      have hstream := (filterMap_of_quiet (List.forall_mem_map.mpr hquiet)).2
      rw [howed]
      exact ⟨List.prefix_nil.mpr hstream, fun _ => hstream⟩
    | refused | attached | cancelled | unavailable | replayed =>
      have howed : owed = [] := h
      rw [howed]
      rfl

theorem answers_runs {index : Nat} {events : List ServiceEvent}
    (hrun : runs (step config) (new config) events = some service) :
    service.Sound ∧ Answers (pongsOwed index events) (service.phaseOf index) := by
  have hnew : Answers [] ((new config).phaseOf index) := rfl
  refine runs_history (J := fun events (service : GrpcService) =>
    service.Sound ∧ Answers (pongsOwed index events) (service.phaseOf index)) ?_ hrun
    ⟨sound_new config, hnew⟩
  intro events service event service' hstep ⟨hsound, h⟩
  refine ⟨hsound.step hstep, ?_⟩
  rw [pongsOwed, List.filterMap_append]
  exact answers_step hsound h hstep

/-- **Pings.** In every run the pings of a response stream are numbered down from -1
without a gap, and start over behind the smallest id. -/
theorem pings_numbered {events : List ServiceEvent}
    (hrun : runs (step config) (new config) events = some service) {index : Nat}
    {task : SubscriptionTask} (htask : service.taskOf index = some task) :
    ∃ count, task.stream.filterMap pingOf = (List.range count).map pingIdAt ∧
      ∀ id ∈ task.stream.filterMap pingOf, i32Min ≤ id ∧ id ≤ -1 := by
  obtain ⟨count, hpings⟩ := tasks_invariant (P := fun _ task => ∃ count, task.Pings count)
    (fun _ _ _ _ _ _ hsound hphase =>
      ⟨0, SubscriptionTask.pings_start (hsound.quiet_initial hphase)⟩)
    (fun _ _ _ _ hsound ⟨_, h⟩ hmoves => h.step hsound.ring_data hmoves)
    (fun _ _ _ _ _ h => h) hrun htask
  have hall : task.stream.filterMap pingOf = (List.range count).map pingIdAt := by
    rw [SubscriptionTask.stream, List.filterMap_append, hpings.sent,
      List.filterMap_eq_nil_iff.mpr hpings.outgoing, List.append_nil]
  refine ⟨count, hall, fun id hmem => ?_⟩
  rw [hall] at hmem
  obtain ⟨place, -, rfl⟩ := List.mem_map.mp hmem
  exact pingIdAt_range place

/-- **Pongs.** In every run the pongs of a response stream answer the pings that its
task took from the client, each once and in their order; while the task goes on
none is missing. -/
theorem pongs_answered {events : List ServiceEvent}
    (hrun : runs (step config) (new config) events = some service) {index : Nat}
    {task : SubscriptionTask} (htask : service.taskOf index = some task) :
    task.stream.filterMap pongOf <+: pongsOwed index events ∧
      (task.ending = none → task.stream.filterMap pongOf = pongsOwed index events) := by
  obtain ⟨-, hanswers⟩ := @answers_runs _ _ _ _ index _ hrun
  rw [taskOf_eq_some.mp htask] at hanswers
  exact ⟨hanswers.answered, hanswers.all⟩

end

/-- A subscriber that is pinged, pings twice and takes the first message. -/
def sampleKeepalive : List ServiceEvent :=
  [.call sampleRpc, .first 0 (.ok (some {})), .snapshotReplay 0 0, .snapshotMempool 0,
   .task 0 .tick, .task 0 (.request { ping := some { id := 7 } }), .task 0 .flush,
   .task 0 .take, .task 0 (.request { ping := some { id := 8 } })]

theorem sampleKeepalive_task : ∃ service task,
    runs (@step hexChain protoWire sampleServerConfig) (new sampleServerConfig)
        sampleKeepalive = some service ∧
      service.taskOf 0 = some task := by
  have hsome : ((runs (@step hexChain protoWire sampleServerConfig) (new sampleServerConfig)
      sampleKeepalive).bind (·.taskOf 0)).isSome = true := by
    decide +kernel
  obtain ⟨task, htask⟩ := Option.isSome_iff_exists.mp hsome
  obtain ⟨service, hrun, htask⟩ := Option.bind_eq_some_iff.mp htask
  exact ⟨service, task, hrun, htask⟩

theorem pings_numbered_sample : ∃ task : SubscriptionTask, ∃ count,
    task.stream.filterMap pingOf = (List.range count).map pingIdAt ∧
      ∀ id ∈ task.stream.filterMap pingOf, i32Min ≤ id ∧ id ≤ -1 := by
  obtain ⟨service, task, hrun, htask⟩ := sampleKeepalive_task
  exact ⟨task, @pings_numbered service sampleServerConfig hexChain protoWire _ hrun 0 task htask⟩

theorem pongs_answered_sample : ∃ task : SubscriptionTask,
    task.stream.filterMap pongOf <+: [7, 8] ∧
      (task.ending = none → task.stream.filterMap pongOf = [7, 8]) := by
  obtain ⟨service, task, hrun, htask⟩ := sampleKeepalive_task
  exact ⟨task, @pongs_answered service sampleServerConfig hexChain protoWire _ hrun 0 task htask⟩

end GrpcService

end ZakuraGrpc
