import ZakuraGrpc.Lib.Channel
import ZakuraGrpc.Geyser.Auth
import ZakuraGrpc.Geyser.Server

/-!
# The subscription task

`run_subscription` with its bounded response queue. The task awaits the sends in
`outgoing` one by one and selects between its inputs when none is left: a request,
the live ring, the keepalive timer. It ends with a `DisconnectReason`.

The requests and the ticks of the timer are events: when they come is left open.
-/

namespace ZakuraGrpc

/-- What a response stream carries. -/
abbrev SubscribeResult := Except Status SubscribeUpdate

inductive DisconnectReason where
  | responseClosed | invalidFilter | requestError | broadcastLag | serverClosed
  deriving DecidableEq, Repr

/-! ## The live ring -/

/-- The broadcast channel as a receiver sees it: the last `capacity` updates of
`sent` can be read. -/
structure LiveRing where
  sent : List PublishedUpdate
  capacity : Nat
  closed : Bool := false

inductive Received where
  | update (update : PublishedUpdate)
  | lagged (skipped : Nat)
  | closed

/-- `recv` of a receiver that is `position` updates past the start; `none` while
it waits. -/
def LiveRing.recv (ring : LiveRing) (position : Nat) : Option Received :=
  if ring.capacity < ring.sent.length - position then
    some (.lagged (ring.sent.length - position - ring.capacity))
  else
    match ring.sent[position]? with
    | some update => some (.update update)
    | none => if ring.closed then some .closed else none

/-! ## The keepalive timer -/

def i32Min : Int := -2 ^ 31

/-- `ping_id.checked_sub(1).unwrap_or(-1)`. -/
def nextPingId (pingId : Int) : Int := if pingId = i32Min then -1 else pingId - 1

inductive PingSend where
  | sent (outbound : Channel SubscribeResult) (pingId : Int)
  | skipped
  | closed

def sendSubscriptionPing (outbound : Channel SubscribeResult) (pingId : Int) : PingSend :=
  match outbound.trySend (.ok (subscriptionPing pingId)) with
  | .sent outbound => .sent outbound (nextPingId pingId)
  | .full => .skipped
  | .closed => .closed

/-! ## The task -/

/-- What `SharedState::subscribe` returns, with the receiver's place in the ring. -/
structure InitialSubscription where
  live : Nat
  replay : ReplaySnapshot
  mempool : Option MempoolSnapshot
  reconnect : Option SubscribeUpdate

/-- With nothing outgoing the task selects, unless `ending` says how it ended. -/
structure SubscriptionTask where
  filter : EventFilter
  outbound : Channel SubscribeResult
  outgoing : List SubscribeResult
  ending : Option DisconnectReason := none
  position : Nat
  replayWatermark : Nat
  mempoolWatermark : Option Nat
  pingId : Int := -1
  inboundOpen : Bool := true

inductive TaskEvent where
  /-- The send that is awaited gets its place, or learns that nobody receives. -/
  | flush
  | request (request : SubscribeRequest)
  | requestsClosed
  | requestsFailed
  /-- `live.recv()` is ready. -/
  | receive
  | tick
  /-- The client takes a response. -/
  | take
  /-- The client drops the response stream. -/
  | drop

namespace SubscriptionTask

def start [WireFormat] (filter : EventFilter) (capacity : Nat) (initial : InitialSubscription) :
    SubscriptionTask where
  filter := filter
  outbound := .new capacity
  outgoing := (initialUpdates filter initial.replay initial.mempool initial.reconnect).map .ok
  position := initial.live
  replayWatermark := initial.replay.watermark
  mempoolWatermark := initial.mempool.map (·.revision)

def isSelecting (task : SubscriptionTask) : Bool := task.outgoing.isEmpty && task.ending.isNone

/-- The function has returned and its guard is dropped. -/
def isEnded (task : SubscriptionTask) : Bool := task.outgoing.isEmpty && task.ending.isSome

/-- The task breaks out of its loop; a reason it already has stays. -/
def stop (task : SubscriptionTask) (reason : DisconnectReason) : SubscriptionTask :=
  { task with outgoing := [], ending := some (task.ending.getD reason) }

def flush (task : SubscriptionTask) : Option SubscriptionTask :=
  match task.outgoing with
  | [] => none
  | message :: outgoing =>
    match task.outbound.trySend message with
    | .sent outbound => some { task with outbound := outbound, outgoing := outgoing }
    | .full => none
    | .closed => some (task.stop .responseClosed)

/-- The request branch. -/
def takeRequest [ZakuraChain] (limits : FilterLimits) (task : SubscriptionTask)
    (request : SubscribeRequest) : Option SubscriptionTask :=
  if task.isSelecting && task.inboundOpen then
    match applySubscriptionRequest task.filter request limits with
    | .ok (filter, response) =>
      some { task with filter := filter, outgoing := (response.map .ok).toList }
    | .error status =>
      some { task with outgoing := [.error status], ending := some .invalidFilter }
  else none

def lagStatus (skipped : Nat) : Status :=
  resourceExhausted s!"subscriber lagged by {skipped} events; reconnect with from_height"

/-- The queue behind a `try_send` whose outcome is ignored. -/
def offer (outbound : Channel SubscribeResult) (message : SubscribeResult) :
    Channel SubscribeResult :=
  match outbound.trySend message with
  | .sent outbound => outbound
  | .full | .closed => outbound

/-- The live branch. -/
def receive [WireFormat] (ring : LiveRing) (task : SubscriptionTask) : Option SubscriptionTask :=
  if task.isSelecting then
    (ring.recv task.position).map fun
      | .update update =>
        let (watermark, message) := receiveLive task.filter task.replayWatermark
          task.mempoolWatermark update
        { task with
          position := task.position + 1
          replayWatermark := watermark
          outgoing := (message.map .ok).toList }
      | .lagged skipped =>
        { task with
          outbound := offer task.outbound (.error (lagStatus skipped))
          ending := some .broadcastLag }
      | .closed => task.stop .serverClosed
  else none

/-- The timer branch. -/
def tick (pingInterval : Option Nat) (task : SubscriptionTask) : Option SubscriptionTask :=
  if task.isSelecting && pingInterval.isSome then
    match sendSubscriptionPing task.outbound task.pingId with
    | .sent outbound pingId => some { task with outbound := outbound, pingId := pingId }
    | .skipped => some task
    | .closed => some (task.stop .responseClosed)
  else none

/-- What is fixed for the tasks of a server. -/
structure Settings where
  filterLimits : FilterLimits
  pingInterval : Option Nat

def step [ZakuraChain] [WireFormat] (settings : Settings) (ring : LiveRing)
    (task : SubscriptionTask) : TaskEvent → Option SubscriptionTask
  | .flush => task.flush
  | .request request => task.takeRequest settings.filterLimits request
  | .requestsClosed =>
    if task.isSelecting && task.inboundOpen then some { task with inboundOpen := false }
    else none
  | .requestsFailed =>
    if task.isSelecting && task.inboundOpen then some (task.stop .requestError) else none
  | .receive => task.receive ring
  | .tick => task.tick settings.pingInterval
  | .take => task.outbound.take.map fun outbound => { task with outbound := outbound }
  | .drop => some { task with outbound := task.outbound.close }

/-! ## What each step does -/

/-- All the task has put out or is about to put out. -/
def stream (task : SubscriptionTask) : List SubscribeResult :=
  task.outbound.sent ++ task.outgoing

variable {task task' : SubscriptionTask}

theorem isSelecting_iff : task.isSelecting = true ↔ task.outgoing = [] ∧ task.ending = none := by
  rw [isSelecting, Bool.and_eq_true, List.isEmpty_iff, Option.isNone_iff_eq_none]

/-- A selecting task has put out all of its stream. -/
theorem stream_of_selecting (h : task.outgoing = []) : task.stream = task.outbound.sent := by
  rw [stream, h, List.append_nil]

theorem flush_spec (h : task.flush = some task') :
    ∃ message outgoing, task.outgoing = message :: outgoing ∧
      ((∃ outbound, task.outbound.trySend message = .sent outbound ∧
          task' = { task with outbound := outbound, outgoing := outgoing }) ∨
        task.outbound.isOpen = false ∧ task' = task.stop .responseClosed) := by
  unfold flush at h
  split at h
  · cases h
  · rename_i message outgoing houtgoing
    refine ⟨message, outgoing, houtgoing, ?_⟩
    split at h
    · rename_i outbound hsent
      exact .inl ⟨outbound, hsent, (Option.some.inj h).symm⟩
    · cases h
    · rename_i hclosed
      exact .inr ⟨Channel.trySend_closed.mp hclosed, (Option.some.inj h).symm⟩

theorem tick_spec {pingInterval : Option Nat} (h : task.tick pingInterval = some task') :
    task.isSelecting = true ∧
      ((∃ outbound, task.outbound.trySend (.ok (subscriptionPing task.pingId)) = .sent outbound ∧
          task' = { task with outbound := outbound, pingId := nextPingId task.pingId }) ∨
        task' = task ∨
        task.outbound.isOpen = false ∧ task' = task.stop .responseClosed) := by
  unfold tick at h
  split at h
  · rename_i hselecting
    rw [Bool.and_eq_true] at hselecting
    refine ⟨hselecting.1, ?_⟩
    unfold sendSubscriptionPing at h
    cases hsend : task.outbound.trySend (.ok (subscriptionPing task.pingId)) with
    | sent outbound =>
      rw [hsend] at h
      exact .inl ⟨outbound, rfl, (Option.some.inj h).symm⟩
    | full =>
      rw [hsend] at h
      exact .inr (.inl (Option.some.inj h).symm)
    | closed =>
      rw [hsend] at h
      exact .inr (.inr ⟨Channel.trySend_closed.mp hsend, (Option.some.inj h).symm⟩)
  · cases h

theorem takeRequest_spec [ZakuraChain] {limits : FilterLimits} {request : SubscribeRequest}
    (h : task.takeRequest limits request = some task') :
    task.isSelecting = true ∧
      ((∃ filter response, applySubscriptionRequest task.filter request limits =
            .ok (filter, response) ∧
          task' = { task with filter := filter, outgoing := (response.map .ok).toList }) ∨
        ∃ status, applySubscriptionRequest task.filter request limits = .error status ∧
          task' =
            { task with outgoing := [.error status], ending := some .invalidFilter }) := by
  unfold takeRequest at h
  split at h
  · rename_i hselecting
    rw [Bool.and_eq_true] at hselecting
    refine ⟨hselecting.1, ?_⟩
    split at h
    · rename_i filter response happly
      exact .inl ⟨filter, response, happly, (Option.some.inj h).symm⟩
    · rename_i status happly
      exact .inr ⟨status, happly, (Option.some.inj h).symm⟩
  · cases h

/-- What the task received, or how the ring ended it. -/
theorem receive_spec [WireFormat] {ring : LiveRing} (h : task.receive ring = some task') :
    task.isSelecting = true ∧
      ((∃ update, ¬ ring.capacity < ring.sent.length - task.position ∧
          ring.sent[task.position]? = some update ∧ task' =
            { task with
              position := task.position + 1
              replayWatermark := (receiveLive task.filter task.replayWatermark
                task.mempoolWatermark update).1
              outgoing := ((receiveLive task.filter task.replayWatermark
                task.mempoolWatermark update).2.map .ok).toList }) ∨
        (ring.capacity < ring.sent.length - task.position ∧
          task' =
            { task with
              outbound := offer task.outbound
                (.error (lagStatus (ring.sent.length - task.position - ring.capacity)))
              ending := some .broadcastLag }) ∨
        (ring.closed = true ∧ ring.sent[task.position]? = none ∧
          task' = task.stop .serverClosed)) := by
  unfold receive at h
  split at h
  · rename_i hselecting
    refine ⟨hselecting, ?_⟩
    obtain ⟨received, hrecv, heq⟩ := Option.map_eq_some_iff.mp h
    unfold LiveRing.recv at hrecv
    split at hrecv
    · rename_i hlag
      cases hrecv
      exact .inr (.inl ⟨hlag, heq.symm⟩)
    rename_i hlag
    split at hrecv
    · rename_i update hget
      cases hrecv
      exact .inl ⟨update, hlag, hget, heq.symm⟩
    · rename_i hnone
      split at hrecv
      · rename_i hclosed
        cases hrecv
        exact .inr (.inr ⟨hclosed, hnone, heq.symm⟩)
      · cases hrecv
  · cases h

/-- The queue behind an offer has at most the message more. -/
theorem offer_cases (outbound : Channel SubscribeResult) (message : SubscribeResult) :
    offer outbound message = outbound ∨
      outbound.isOpen = true ∧ (offer outbound message).isOpen = true ∧
        (offer outbound message).capacity = outbound.capacity ∧
        (offer outbound message).taken = outbound.taken ∧
        (offer outbound message).sent = outbound.sent ++ [message] := by
  unfold offer
  cases hsend : outbound.trySend message with
  | sent outbound' =>
    obtain ⟨hopen, -, hsent, hopen', htaken, hcapacity⟩ := Channel.trySend_sent hsend
    exact .inr ⟨hopen, hopen', hcapacity, htaken, hsent⟩
  | full => exact .inl rfl
  | closed => exact .inl rfl

/-! ## The steps -/

/-- The ways a task moves. -/
inductive Moves [ZakuraChain] [WireFormat] (settings : Settings) (ring : LiveRing)
    (task : SubscriptionTask) : TaskEvent → SubscriptionTask → Prop where
  | sent {message : SubscribeResult} {outgoing : List SubscribeResult}
      {outbound : Channel SubscribeResult} (houtgoing : task.outgoing = message :: outgoing)
      (hsend : task.outbound.trySend message = .sent outbound) :
      Moves settings ring task .flush { task with outbound := outbound, outgoing := outgoing }
  | lost {message : SubscribeResult} {outgoing : List SubscribeResult}
      (houtgoing : task.outgoing = message :: outgoing) (hclosed : task.outbound.isOpen = false) :
      Moves settings ring task .flush (task.stop .responseClosed)
  | applied {request : SubscribeRequest} {filter : EventFilter} {response : Option SubscribeUpdate}
      (hselecting : task.isSelecting = true)
      (happly : applySubscriptionRequest task.filter request settings.filterLimits =
        .ok (filter, response)) :
      Moves settings ring task (.request request)
        { task with filter := filter, outgoing := (response.map .ok).toList }
  | rejected {request : SubscribeRequest} {status : Status} (hselecting : task.isSelecting = true)
      (happly : applySubscriptionRequest task.filter request settings.filterLimits =
        .error status) :
      Moves settings ring task (.request request)
        { task with outgoing := [.error status], ending := some .invalidFilter }
  | requestsClosed (hselecting : task.isSelecting = true) :
      Moves settings ring task .requestsClosed { task with inboundOpen := false }
  | requestsFailed (hselecting : task.isSelecting = true) :
      Moves settings ring task .requestsFailed (task.stop .requestError)
  | received {update : PublishedUpdate} (hselecting : task.isSelecting = true)
      (hlag : ¬ ring.capacity < ring.sent.length - task.position)
      (hget : ring.sent[task.position]? = some update) :
      Moves settings ring task .receive
        { task with
          position := task.position + 1
          replayWatermark := (receiveLive task.filter task.replayWatermark
            task.mempoolWatermark update).1
          outgoing := ((receiveLive task.filter task.replayWatermark
            task.mempoolWatermark update).2.map .ok).toList }
  | lagged (hselecting : task.isSelecting = true)
      (hlag : ring.capacity < ring.sent.length - task.position) :
      Moves settings ring task .receive
        { task with
          outbound := offer task.outbound
            (.error (lagStatus (ring.sent.length - task.position - ring.capacity)))
          ending := some .broadcastLag }
  | serverClosed (hselecting : task.isSelecting = true) (hclosed : ring.closed = true)
      (hread : ring.sent[task.position]? = none) :
      Moves settings ring task .receive (task.stop .serverClosed)
  | pinged {outbound : Channel SubscribeResult} (hselecting : task.isSelecting = true)
      (hsend : task.outbound.trySend (.ok (subscriptionPing task.pingId)) = .sent outbound) :
      Moves settings ring task .tick
        { task with outbound := outbound, pingId := nextPingId task.pingId }
  | skipped (hselecting : task.isSelecting = true) : Moves settings ring task .tick task
  | unpinged (hselecting : task.isSelecting = true) (hclosed : task.outbound.isOpen = false) :
      Moves settings ring task .tick (task.stop .responseClosed)
  | taken {outbound : Channel SubscribeResult} (htake : task.outbound.take = some outbound) :
      Moves settings ring task .take { task with outbound := outbound }
  | dropped : Moves settings ring task .drop { task with outbound := task.outbound.close }

/-- **A step is one of them.** -/
theorem step_moves [ZakuraChain] [WireFormat] {settings : Settings} {ring : LiveRing}
    {event : TaskEvent} (hstep : task.step settings ring event = some task') :
    task.Moves settings ring event task' := by
  cases event with
  | flush =>
    obtain ⟨message, outgoing, houtgoing, ⟨outbound, hsend, rfl⟩ | ⟨hclosed, rfl⟩⟩ :=
      flush_spec hstep
    · exact .sent houtgoing hsend
    · exact .lost houtgoing hclosed
  | request request =>
    obtain ⟨hselecting, ⟨filter, response, happly, rfl⟩ | ⟨status, happly, rfl⟩⟩ :=
      takeRequest_spec hstep
    · exact .applied hselecting happly
    · exact .rejected hselecting happly
  | requestsClosed =>
    unfold step at hstep
    dsimp only at hstep
    split at hstep
    · rename_i hselecting
      cases hstep
      exact .requestsClosed (Bool.and_eq_true _ _ ▸ hselecting).1
    · cases hstep
  | requestsFailed =>
    unfold step at hstep
    dsimp only at hstep
    split at hstep
    · rename_i hselecting
      cases hstep
      exact .requestsFailed (Bool.and_eq_true _ _ ▸ hselecting).1
    · cases hstep
  | receive =>
    obtain ⟨hselecting, ⟨update, hlag, hget, rfl⟩ | ⟨hlag, rfl⟩ | ⟨hclosed, hread, rfl⟩⟩ :=
      receive_spec hstep
    · exact .received hselecting hlag hget
    · exact .lagged hselecting hlag
    · exact .serverClosed hselecting hclosed hread
  | tick =>
    obtain ⟨hselecting, ⟨outbound, hsend, rfl⟩ | rfl | ⟨hclosed, rfl⟩⟩ := tick_spec hstep
    · exact .pinged hselecting hsend
    · exact .skipped hselecting
    · exact .unpinged hselecting hclosed
  | take =>
    obtain ⟨outbound, htake, rfl⟩ := Option.map_eq_some_iff.mp hstep
    exact .taken htake
  | drop =>
    cases hstep
    exact .dropped

end SubscriptionTask

end ZakuraGrpc
