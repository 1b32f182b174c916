import ZakuraGrpc.Client.Reconnect
import ZakuraGrpc.Geyser.Publication

/-!
# A session: one server and one reconnecting client

The publisher's steps are those of `Publication`, the client's those of
`Client`. Between them is at most one connection: the requests on their way to
the server, the messages on their way to the client, and the server's side of
the subscription. `subscribe` on the server is one step here; how its parts
interleave with a publication is the subject of the hub.
-/

namespace ZakuraGrpc

open Publication (pushed prepared PublishEvent)

/-! ## State -/

structure SessionConfig where
  limits : ReplayLimits
  capacity : Nat
  filterLimits : FilterLimits
  reconnect : ReconnectConfig
  initial : SubscribeRequest

/-- A connection. `replaying` holds the initial messages not yet received, `live`
those sent behind them; `serving` ends with the server's last message. -/
structure Connection where
  filter : EventFilter
  requests : List SubscribeRequest := []
  replaying : List SubscribeUpdate
  live : List (Except Status SubscribeUpdate) := []
  position : Nat
  watermark : Nat
  mempoolWatermark : Option Nat
  serving : Bool := true

/-- The history of a run, for its properties; no step reads it. `resumed` is the
client as it asked for the current connection, `none` for the first one. -/
structure SessionLog where
  firstJoin : Nat := 0
  joined : Nat := 0
  resumed : Option Client := none

structure Session extends Publication where
  client : Option Client := none
  connection : Option Connection := none
  log : SessionLog := {}

inductive SessionEvent where
  | publication (event : PublishEvent)
  /-- The application's first subscription reaches the server. -/
  | subscribe (now : Nat)
  /-- `connect_once` reaches the server. -/
  | attempt (now : Nat)
  /-- `connect_once` fails otherwise. -/
  | unreachable (error : ClientError)
  | serve
  | serverPing (id : Int)
  | takeRequest
  | command (request : SubscribeRequest) (sent : Bool)
  | commandsClosed
  | receive (accepted : Bool)
  | disconnect (cause : Disconnect)

namespace Session

def new (config : SessionConfig) : Session := { replay := .new config.limits }

section
variable [WireFormat] [ZakuraChain]

/-! ## The server's side -/

/-- The connection of an accepted request. -/
def connect (session : Session) (filter : EventFilter) (request : SubscribeRequest)
    (snapshot : ReplaySnapshot) : Connection :=
  let mempool := if request.includeMempoolSnapshot then some session.mempool.snapshot else none
  { filter := filter
    replaying := initialUpdates filter snapshot mempool (request.resume.map reconnectUpdate)
    position := session.sent.length
    watermark := snapshot.watermark
    mempoolWatermark := mempool.map (·.revision) }

/-- `subscribe`: the filter is compiled, the replay buffer read and the mempool
snapshot taken, the last one outside of a mempool batch. -/
def accept (config : SessionConfig) (session : Session) (request : SubscribeRequest) (now : Nat) :
    Option (ReplayBuffer × Except Status Connection) :=
  match EventFilter.new request config.filterLimits with
  | .error status => some (session.replay, .error status)
  | .ok filter =>
    if request.includeMempoolSnapshot && session.publisher.isLocked then none
    else
      (subscribeReplay session.replay request now).map fun (replay, result) =>
        (replay, result.map (session.connect filter request))

/-- One turn of the live branch: an update, or the end of a receiver that lags. -/
def serveNext (config : SessionConfig) (session : Session) (connection : Connection) :
    Option Connection :=
  if config.capacity < session.sent.length - connection.position then
    some
      { connection with
        live := connection.live ++ [.error ⟨.resourceExhausted,
          s!"subscriber lagged by {session.sent.length - connection.position - config.capacity} events; reconnect with from_height"⟩]
        serving := false }
  else
    (session.sent[connection.position]?).map fun update =>
      let (watermark, message) := receiveLive connection.filter connection.watermark
        connection.mempoolWatermark update
      { connection with
        position := connection.position + 1
        watermark := watermark
        live := connection.live ++ message.toList.map .ok }

/-- One turn of the request branch. -/
def takeNext (config : SessionConfig) (connection : Connection) : Option Connection :=
  match connection.requests with
  | [] => none
  | request :: requests =>
    match applySubscriptionRequest connection.filter request config.filterLimits with
    | .ok (filter, response) => some
      { connection with
        filter := filter
        requests := requests
        live := connection.live ++ response.toList.map .ok }
    | .error status => some
      { connection with
        requests := requests
        live := connection.live ++ [.error status]
        serving := false }

/-- The server's side of the connection takes a turn. -/
def serverTurn (session : Session) (turn : Connection → Option Connection) : Option Session :=
  session.connection.bind fun connection =>
    if connection.serving then
      (turn connection).map fun connection => { session with connection := some connection }
    else none

/-! ## The client's side -/

/-- The client takes a step; its connection goes with its activity. -/
def clientStep (config : SessionConfig) (session : Session) (connection : Option Connection)
    (event : ClientEvent) : Option Session :=
  session.client.bind fun client =>
    (client.step (some config.reconnect) event).map fun client =>
      { session with
        client := some client
        connection := if client.phase = .active then connection else none }

def enqueue (connection : Connection) (request : SubscribeRequest) : Connection :=
  { connection with requests := connection.requests ++ [request] }

/-- The request a command puts on the connection. -/
def command (config : SessionConfig) (session : Session) (request : SubscribeRequest)
    (sent : Bool) : Option Session :=
  session.client.bind fun client =>
    session.clientStep config
      (session.connection.map fun connection =>
        if sent then enqueue connection (client.commandRequest request) else connection)
      (.command request sent)

/-- The reply to a ping goes on the connection. -/
def enqueueReply (connection : Connection) (update : SubscribeUpdate) (accepted : Bool) :
    Connection :=
  match update.update with
  | some (.ping ping) =>
    if accepted then enqueue connection (Client.pingReply ping) else connection
  | _ => connection

/-- The client receives `update`. -/
def receiveUpdate (config : SessionConfig) (session : Session) (connection : Connection)
    (update : SubscribeUpdate) (accepted : Bool) : Option Session :=
  session.clientStep config (some (enqueueReply connection update accepted))
    (.message update accepted)

def receive (config : SessionConfig) (session : Session) (accepted : Bool) : Option Session :=
  session.connection.bind fun connection =>
    match connection.replaying, connection.live with
    | update :: rest, _ =>
      session.receiveUpdate config { connection with replaying := rest } update accepted
    | [], .ok update :: rest =>
      session.receiveUpdate config { connection with live := rest } update accepted
    | [], .error status :: _ => session.clientStep config none (.disconnect (.status status))
    | [], [] => none

/-! ## Connecting -/

/-- The first subscription. A refused one goes back to the application. -/
def subscribe (config : SessionConfig) (session : Session) (now : Nat) : Option Session :=
  match session.client with
  | some _ => none
  | none =>
    (session.accept config config.initial now).map fun (replay, result) =>
      match result with
      | .error _ => { session with replay := replay }
      | .ok connection =>
        { session with
          replay := replay
          client := some (.new (some config.reconnect) config.initial)
          connection := some connection
          log := { firstJoin := session.sent.length, joined := session.sent.length } }

/-- The answer to `connect_once`. -/
def answer (result : Except Status Connection) : Except ClientError Unit :=
  match result with
  | .ok _ => .ok ()
  | .error status => .error (.status status)

def attempt (config : SessionConfig) (session : Session) (now : Nat) : Option Session :=
  session.client.bind fun client =>
    match client.phase with
    | .connecting request _ _ =>
      (session.accept config request now).bind fun (replay, result) =>
        let log := match result with
          | .ok _ => { session.log with joined := session.sent.length, resumed := some client }
          | .error _ => session.log
        { session with replay := replay, log := log }.clientStep config result.toOption
          (.attempt (answer result))
    | .active | .stopped => none

/-- Only the replay window answers `OUT_OF_RANGE`. -/
def unreachable (config : SessionConfig) (session : Session) (error : ClientError) :
    Option Session :=
  if isOutOfRangeError error then none
  else session.clientStep config none (.attempt (.error error))

def step (config : SessionConfig) (session : Session) : SessionEvent → Option Session
  | .publication event =>
    (session.toPublication.step event).map fun publication =>
      { session with toPublication := publication }
  | .subscribe now => session.subscribe config now
  | .attempt now => session.attempt config now
  | .unreachable error => session.unreachable config error
  | .serve => session.serverTurn (session.serveNext config)
  | .serverPing id => session.serverTurn fun connection =>
    some { connection with live := connection.live ++ [.ok (subscriptionPing id)] }
  | .takeRequest => session.serverTurn (takeNext config)
  | .command request sent => session.command config request sent
  | .commandsClosed => session.clientStep config session.connection .commandsClosed
  | .receive accepted => session.receive config accepted
  | .disconnect cause => session.clientStep config none (.disconnect cause)

end

/-! ## What each step does -/

variable {config : SessionConfig} {session session' : Session}

theorem serverTurn_spec {turn : Connection → Option Connection}
    (h : session.serverTurn turn = some session') :
    ∃ connection connection', session.connection = some connection ∧
      turn connection = some connection' ∧
      session' = { session with connection := some connection' } := by
  obtain ⟨connection, hconnection, h⟩ := Option.bind_eq_some_iff.mp h
  split at h
  · obtain ⟨connection', hturn, rfl⟩ := Option.map_eq_some_iff.mp h
    exact ⟨connection, connection', hconnection, hturn, rfl⟩
  · cases h

theorem clientStep_spec {connection : Option Connection} {event : ClientEvent}
    (h : session.clientStep config connection event = some session') :
    ∃ client client', session.client = some client ∧
      client.step (some config.reconnect) event = some client' ∧
      session' =
        { session with
          client := some client'
          connection := if client'.phase = .active then connection else none } := by
  obtain ⟨client, hclient, h⟩ := Option.bind_eq_some_iff.mp h
  obtain ⟨client', hstep, rfl⟩ := Option.map_eq_some_iff.mp h
  exact ⟨client, client', hclient, hstep, rfl⟩

theorem unreachable_spec {error : ClientError}
    (h : session.unreachable config error = some session') :
    isOutOfRangeError error = false ∧
      session.clientStep config none (.attempt (.error error)) = some session' := by
  unfold unreachable at h
  split at h
  · cases h
  · rename_i hrange
    exact ⟨by simpa using hrange, h⟩

/-- A message received leaves one of the two queues. -/
theorem receive_spec {accepted : Bool} (h : session.receive config accepted = some session') :
    ∃ connection, session.connection = some connection ∧
      ((∃ update rest, connection.replaying = update :: rest ∧
          session.receiveUpdate config { connection with replaying := rest } update accepted =
            some session') ∨
        (∃ update rest, connection.replaying = [] ∧ connection.live = .ok update :: rest ∧
          session.receiveUpdate config { connection with live := rest } update accepted =
            some session') ∨
        ∃ status, (∃ rest, connection.replaying = [] ∧
            connection.live = .error status :: rest) ∧
          session.clientStep config none (.disconnect (.status status)) = some session') := by
  obtain ⟨connection, hconnection, h⟩ := Option.bind_eq_some_iff.mp h
  refine ⟨connection, hconnection, ?_⟩
  split at h
  · rename_i update rest hreplaying
    exact .inl ⟨update, rest, hreplaying, h⟩
  · rename_i update rest hreplaying hlive
    exact .inr (.inl ⟨update, rest, hreplaying, hlive, h⟩)
  · rename_i status rest hreplaying hlive
    exact .inr (.inr ⟨status, ⟨rest, hreplaying, hlive⟩, h⟩)
  · cases h

section
variable [WireFormat] [ZakuraChain]

/-- A request is refused by its filter, or answered by reading the replay
buffer. -/
theorem accept_cases {request : SubscribeRequest} {now : Nat} {replay : ReplayBuffer}
    {result : Except Status Connection}
    (h : session.accept config request now = some (replay, result)) :
    (∃ status, EventFilter.new request config.filterLimits = .error status ∧
      replay = session.replay ∧ result = .error status) ∨
    ∃ filter answer, EventFilter.new request config.filterLimits = .ok filter ∧
      subscribeReplay session.replay request now = some (replay, answer) ∧
      result = answer.map (session.connect filter request) := by
  unfold accept at h
  cases hfilter : EventFilter.new request config.filterLimits with
  | error status =>
    rw [hfilter] at h
    cases h
    exact .inl ⟨status, rfl, rfl, rfl⟩
  | ok filter =>
    rw [hfilter] at h
    dsimp only at h
    split at h
    · cases h
    obtain ⟨⟨replay', answer⟩, hreplay, hmap⟩ := Option.map_eq_some_iff.mp h
    cases hmap
    exact .inr ⟨filter, answer, rfl, hreplay, rfl⟩

/-- An accepted request is answered from the evicted buffer. -/
theorem accept_spec {request : SubscribeRequest} {now : Nat} {replay : ReplayBuffer}
    {result : Except Status Connection}
    (h : session.accept config request now = some (replay, result)) :
    replay.buckets <:+ session.replay.buckets ∧ replay.limits = session.replay.limits ∧
      ∀ connection, result = .ok connection → ∃ filter fromHeight,
        EventFilter.new request config.filterLimits = .ok filter ∧
        replayHeight request = .ok fromHeight ∧
        connection = session.connect filter request
          { updates := (fromHeight.map replay.updatesFrom).getD []
            watermark := replay.watermark } := by
  rcases accept_cases h with ⟨status, -, rfl, rfl⟩ | ⟨filter, answer, hfilter, hreplay, rfl⟩
  · exact ⟨List.suffix_rfl, rfl, fun _ hok => by cases hok⟩
  · obtain ⟨hsuffix, hlimits, hread⟩ := subscribeReplay_spec hreplay
    refine ⟨hsuffix, hlimits, fun connection hok => ?_⟩
    obtain ⟨snapshot, rfl, rfl⟩ := Except.map_eq_ok.mp hok
    obtain ⟨fromHeight, hheight, rfl⟩ := hread snapshot rfl
    exact ⟨filter, fromHeight, hfilter, hheight, rfl⟩

theorem subscribe_spec {now : Nat} (h : session.subscribe config now = some session') :
    session.client = none ∧ ∃ replay result,
      session.accept config config.initial now = some (replay, result) ∧
      ((∃ status, result = .error status ∧ session' = { session with replay := replay }) ∨
        ∃ connection, result = .ok connection ∧
          session' =
            { session with
              replay := replay
              client := some (.new (some config.reconnect) config.initial)
              connection := some connection
              log := { firstJoin := session.sent.length, joined := session.sent.length } }) := by
  unfold subscribe at h
  split at h
  · cases h
  · rename_i hnone
    obtain ⟨⟨replay, result⟩, haccept, hresult⟩ := Option.map_eq_some_iff.mp h
    refine ⟨hnone, replay, result, haccept, ?_⟩
    cases result with
    | error status => exact .inl ⟨status, rfl, hresult.symm⟩
    | ok connection => exact .inr ⟨connection, rfl, hresult.symm⟩

/-- An attempt that is accepted makes the client active; a refused one leaves it
without a connection. -/
theorem attempt_spec {now : Nat} (h : session.attempt config now = some session') :
    ∃ client request retries skipped replay result, session.client = some client ∧
      client.phase = .connecting request retries skipped ∧
      session.accept config request now = some (replay, result) ∧
      ((∃ status client', result = .error status ∧
          client.step (some config.reconnect) (.attempt (.error (.status status))) =
            some client' ∧
          session' =
            { session with replay := replay, client := some client', connection := none }) ∨
        ∃ connection, result = .ok connection ∧
          session' =
            { session with
              replay := replay
              client := some { client with phase := .active }
              connection := some connection
              log :=
                { session.log with
                  joined := session.sent.length, resumed := some client } }) := by
  obtain ⟨client, hclient, h⟩ := Option.bind_eq_some_iff.mp h
  split at h
  · rename_i request retries skipped hphase
    obtain ⟨⟨replay, result⟩, haccept, h⟩ := Option.bind_eq_some_iff.mp h
    obtain ⟨client0, client', hclient', hstep, rfl⟩ := clientStep_spec h
    change session.client = some client0 at hclient'
    rw [hclient] at hclient'
    cases hclient'
    refine ⟨client, request, retries, skipped, replay, result, hclient, hphase, haccept, ?_⟩
    cases result with
    | error status =>
      refine .inl ⟨status, client', rfl, hstep, ?_⟩
      simp [Except.toOption]
    | ok connection =>
      refine .inr ⟨connection, rfl, ?_⟩
      have hactive : client' = { client with phase := .active } := by
        unfold answer Client.step at hstep
        rw [hphase] at hstep
        exact (Option.some.inj hstep).symm
      subst hactive
      simp [Except.toOption]
  · cases h
  · cases h

end

end Session

end ZakuraGrpc
