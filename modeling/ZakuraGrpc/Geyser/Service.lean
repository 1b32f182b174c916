import ZakuraGrpc.Geyser.ServerConfig
import ZakuraGrpc.Lib.Simulation

/-!
# The service

The running plugin with any number of subscribers: `on_event` at the grain of
`publish_batch`, the RPCs of `GrpcService` and the task of every accepted
subscription. All of them interleave.

A `subscribe` call checks its token, acquires a guard, awaits the first request,
attaches a receiver, takes its snapshots and starts its task. The guard is dropped
where the call fails or its task ends.
-/

namespace ZakuraGrpc

open Runs

/-! ## Authorization -/

/-- What the service reads of a call: metadata and peer. -/
structure RpcRequest extends SubscriptionRequest where
  xToken : Option Bytes := none

structure TokenAuth where
  expected : Option String

def TokenAuth.authorize (auth : TokenAuth) (request : RpcRequest) : Except Status Unit :=
  match auth.expected with
  | none => .ok ()
  | some expected =>
    if (request.xToken.bind metadataToStr?).any (· == expected) then .ok ()
    else .error ⟨.unauthenticated, "missing or invalid x-token"⟩

/-! ## Calls of `subscribe` -/

inductive CallPhase where
  /-- `receive_initial_filter` awaits the first request. -/
  | opening
  | attached (request : SubscribeRequest) (filter : EventFilter) (live : Nat)
  | replayed (request : SubscribeRequest) (filter : EventFilter) (live : Nat)
      (replay : ReplaySnapshot)
  | running (task : SubscriptionTask)
  | failed (status : Status)
  | cancelled

structure SubscribeCall where
  guard : SubscriptionGuard
  phase : CallPhase := .opening

def CallPhase.holdsGuard : CallPhase → Bool
  | opening | attached .. | replayed .. => true
  | running task => !task.isEnded
  | failed _ | cancelled => false

/-- The handler of the call has not returned; it keeps the shared state. -/
def CallPhase.inHandler : CallPhase → Bool
  | opening | attached .. | replayed .. => true
  | running _ | failed _ | cancelled => false

def receiveInitialFilter [ZakuraChain] (limits : FilterLimits)
    (message : Except Status (Option SubscribeRequest)) :
    Except Status (EventFilter × SubscribeRequest) :=
  match message with
  | .error status => .error status
  | .ok none => .error (invalidArgument "the first subscribe request is required")
  | .ok (some request) => (EventFilter.new request limits).map fun filter => (filter, request)

/-! ## State -/

/-- `closed` once the shared state is gone, and its tasks live on. -/
structure GrpcService where
  plugin : GrpcPlugin
  subscriptions : Subscriptions
  calls : List SubscribeCall := []
  closed : Bool := false

inductive ServiceEvent where
  | onEvent (event : EventEnvelope)
  | push (now : Nat)
  | send
  | finish
  /-- A `subscribe` call arrives. -/
  | call (request : RpcRequest)
  /-- The call's first request, the end of its request stream or an error. -/
  | first (index : Nat) (message : Except Status (Option SubscribeRequest))
  /-- The client gives a call up that awaits its first request. -/
  | cancel (index : Nat)
  | snapshotReplay (index : Nat) (now : Nat)
  | snapshotMempool (index : Nat)
  | task (index : Nat) (event : TaskEvent)
  | replayInfo (request : RpcRequest) (now : Nat)
  | shutdown

namespace GrpcPlugin

variable [ZakuraChain] [WireFormat]

/-- `on_event` as far as the first part of `publish_batch`. -/
def beginEvent (plugin : GrpcPlugin) (event : EventEnvelope) : Option GrpcPlugin :=
  match plugin.state.publisher with
  | .idle =>
    match plugin.encode event with
    | .error _ => some plugin
    | .ok updates =>
      match assignSequences plugin.nextSequence updates with
      | (nextSequence, .error _) => some { plugin with nextSequence := nextSequence }
      | (nextSequence, .ok numbered) =>
        (plugin.state.prepare numbered).map fun state =>
          { plugin with nextSequence := nextSequence, state := state }
  | .prepared _ _ | .sending _ _ => none

def publish (plugin : GrpcPlugin) (event : Publication.PublishEvent) : Option GrpcPlugin :=
  (plugin.state.step event).map fun state => { plugin with state := state }

end GrpcPlugin

namespace GrpcService

def new (config : ServerConfig) : GrpcService where
  plugin := (GrpcPlugin.new config.toConfig).onLoad
  subscriptions := .new config.subscriptionLimit config.subscriptionLimit_pos
    config.subscriptionLimitEnforce

def ring (config : ServerConfig) (service : GrpcService) : LiveRing where
  sent := service.plugin.state.sent
  capacity := config.ringCapacity
  closed := service.closed

def withReplay (service : GrpcService) (replay : ReplayBuffer) : GrpcService :=
  { service with
    plugin := { service.plugin with state := { service.plugin.state with replay := replay } } }

/-! ## Steps -/

/-- While the shared state is there. -/
def whileOpen (service : GrpcService) (next : Option GrpcService) : Option GrpcService :=
  if service.closed then none else next

def onPlugin (service : GrpcService) (turn : GrpcPlugin → Option GrpcPlugin) :
    Option GrpcService :=
  service.whileOpen ((turn service.plugin).map fun plugin => { service with plugin := plugin })

/-- A call moves on. Where it no longer holds its guard, the guard is dropped. -/
def onCall (service : GrpcService) (index : Nat)
    (turn : CallPhase → Option (CallPhase × ReplayBuffer)) : Option GrpcService :=
  (service.calls[index]?).bind fun call =>
    (turn call.phase).bind fun (phase, replay) =>
      let moved :=
        { service.withReplay replay with
          calls := service.calls.set index { call with phase := phase } }
      if call.phase.holdsGuard && !phase.holdsGuard then
        (service.subscriptions.step (.drop call.guard)).map fun subscriptions =>
          { moved with subscriptions := subscriptions }
      else some moved

/-- `authorize`, then `acquire`. -/
def call (config : ServerConfig) (service : GrpcService) (request : RpcRequest) :
    Option GrpcService :=
  match TokenAuth.authorize ⟨config.xToken⟩ request with
  | .error _ => some service
  | .ok () =>
    (service.subscriptions.step (.acquire request.toSubscriptionRequest)).map fun subscriptions =>
      match (service.subscriptions.tracker.acquire request.toSubscriptionRequest).1 with
      | .error _ => { service with subscriptions := subscriptions }
      | .ok guard =>
        { service with
          subscriptions := subscriptions
          calls := service.calls ++ [{ guard := guard }] }

/-- The first request is there, and the receiver is attached. -/
def firstTurn [ZakuraChain] (limits : FilterLimits) (sent : List PublishedUpdate)
    (message : Except Status (Option SubscribeRequest)) : CallPhase → Option CallPhase
  | .opening =>
    match receiveInitialFilter limits message with
    | .error status => some (.failed status)
    | .ok (filter, request) => some (.attached request filter sent.length)
  | .attached .. | .replayed .. | .running _ | .failed _ | .cancelled => none

def cancelTurn : CallPhase → Option CallPhase
  | .opening => some .cancelled
  | .attached .. | .replayed .. | .running _ | .failed _ | .cancelled => none

/-- The part of `SharedState::subscribe` under the replay lock. -/
def snapshotReplayTurn (buffer : ReplayBuffer) (now : Nat) :
    CallPhase → Option (CallPhase × ReplayBuffer)
  | .attached request filter live =>
    (subscribeReplay buffer request now).map fun (buffer, result) =>
      match result with
      | .error status => (.failed status, buffer)
      | .ok snapshot => (.replayed request filter live snapshot, buffer)
  | .opening | .replayed .. | .running _ | .failed _ | .cancelled => none

/-- The mempool part, and the spawned task. `mpsc::channel` panics without
capacity. -/
def snapshotMempoolTurn [WireFormat] (config : ServerConfig) (publication : Publication) :
    CallPhase → Option CallPhase
  | .replayed request filter live replay =>
    if request.includeMempoolSnapshot && publication.publisher.isLocked then none
    else if config.clientChannelCapacity = 0 then none
    else
      some (.running (.start filter config.clientChannelCapacity
        { live := live
          replay := replay
          mempool := if request.includeMempoolSnapshot then
            some publication.mempool.snapshot else none
          reconnect := request.resume.map reconnectUpdate }))
  | .opening | .attached .. | .running _ | .failed _ | .cancelled => none

def taskTurn [ZakuraChain] [WireFormat] (settings : SubscriptionTask.Settings) (ring : LiveRing)
    (event : TaskEvent) : CallPhase → Option CallPhase
  | .running task => (task.step settings ring event).map .running
  | .opening | .attached .. | .replayed .. | .failed _ | .cancelled => none

/-- A turn that leaves the replay buffer alone. -/
def keeping (service : GrpcService) (turn : CallPhase → Option CallPhase) (phase : CallPhase) :
    Option (CallPhase × ReplayBuffer) :=
  (turn phase).map fun phase => (phase, service.plugin.state.replay)

variable [ZakuraChain] [WireFormat]

def step (config : ServerConfig) (service : GrpcService) : ServiceEvent → Option GrpcService
  | .onEvent event => service.onPlugin (·.beginEvent event)
  | .push now => service.onPlugin (·.publish (.push now))
  | .send => service.onPlugin (·.publish .send)
  | .finish => service.onPlugin (·.publish .finish)
  | .call request => service.whileOpen (service.call config request)
  | .first index message => service.whileOpen (service.onCall index
      (service.keeping (firstTurn config.filterLimits service.plugin.state.sent message)))
  | .cancel index => service.onCall index (service.keeping cancelTurn)
  | .snapshotReplay index now => service.whileOpen (service.onCall index
      (snapshotReplayTurn service.plugin.state.replay now))
  | .snapshotMempool index => service.whileOpen (service.onCall index
      (service.keeping (snapshotMempoolTurn config service.plugin.state)))
  | .task index event => service.onCall index
      (service.keeping (taskTurn config.settings (service.ring config) event))
  | .replayInfo request now => service.whileOpen
      (match TokenAuth.authorize ⟨config.xToken⟩ request with
        | .error _ => some service
        | .ok () => service.onPlugin (·.publish (.evict now)))
  | .shutdown =>
    match service.plugin.state.publisher with
    | .idle =>
      if service.calls.any (·.phase.inHandler) then none else some { service with closed := true }
    | .prepared _ _ | .sending _ _ => none

end GrpcService

end ZakuraGrpc
