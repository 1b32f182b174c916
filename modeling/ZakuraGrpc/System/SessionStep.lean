import ZakuraGrpc.Client.Application
import ZakuraGrpc.System.Session

/-!
# What a step of a session does

Each part of a session changes in few ways: the server's shared state by a
publisher's step or an eviction, the client by one step of its own, the
connection by joining or by what the two sides take from it and put on it. The
invariants of a session are derived from these.
-/

namespace ZakuraGrpc

open Publication (pushed PublishEvent)

def SessionEvent.isAttempt : SessionEvent → Bool
  | .attempt _ => true
  | .publication _ | .subscribe _ | .unreachable _ | .serve | .serverPing _ | .takeRequest
  | .command _ _ | .commandsClosed | .receive _ | .disconnect _ => false

namespace Session

variable {config : SessionConfig} {session session' : Session}

/-! ## The connection -/

theorem serveNext_frame [WireFormat] {connection connection' : Connection}
    (h : session.serveNext config connection = some connection') :
    connection'.filter = connection.filter ∧ connection'.requests = connection.requests ∧
      connection'.replaying = connection.replaying := by
  unfold serveNext at h
  split at h
  · cases h
    exact ⟨rfl, rfl, rfl⟩
  · obtain ⟨update, -, rfl⟩ := Option.map_eq_some_iff.mp h
    exact ⟨rfl, rfl, rfl⟩

/-- A ping leaves the filter alone. -/
theorem takeNext_frame [ZakuraChain] {connection connection' : Connection}
    (h : takeNext config connection = some connection') :
    connection'.replaying = connection.replaying ∧
      connection'.requests ⊆ connection.requests ∧
      (connection'.filter = connection.filter ∨
        ∃ request ∈ connection.requests, request.ping = none) := by
  unfold takeNext at h
  split at h
  · cases h
  · rename_i request requests hrequests
    have hsubset : requests ⊆ connection.requests := by
      rw [hrequests]
      exact List.subset_cons_self request requests
    split at h
    · rename_i filter response happly
      cases h
      refine ⟨rfl, hsubset, ?_⟩
      cases hping : request.ping with
      | some ping =>
        left
        rw [applySubscriptionRequest, hping] at happly
        cases happly
        rfl
      | none => exact .inr ⟨request, by rw [hrequests]; exact List.mem_cons_self, hping⟩
    · cases h
      exact ⟨rfl, hsubset, .inl rfl⟩

/-- The client's part of a step that keeps the connection: none, a step that
takes no replayed message, or one that takes the next. -/
inductive Receives (config : SessionConfig) (session session' : Session)
    (connection connection' : Connection) : Prop where
  | idle (client : session'.client = session.client)
      (replaying : connection'.replaying = connection.replaying)
  | live (client client' : Client) (event : ClientEvent) (before : session.client = some client)
      (step : client.step (some config.reconnect) event = some client')
      (after : session'.client = some client') (active : client'.phase = .active)
      (replaying : connection'.replaying = connection.replaying)
      (message : ∀ update accepted, event = .message update accepted →
        .ok update ∈ connection.live)
  | replayed (client client' : Client) (update : SubscribeUpdate) (accepted : Bool)
      (before : session.client = some client)
      (step : client.step (some config.reconnect) (.message update accepted) = some client')
      (after : session'.client = some client') (active : client'.phase = .active)
      (replaying : connection.replaying = update :: connection'.replaying)

/-- A step that keeps the connection. -/
structure KeepsConnection (config : SessionConfig) (session session' : Session)
    (event : SessionEvent) (connection connection' : Connection) : Prop where
  attempts : event.isAttempt = false
  log : session'.log = session.log
  filter : connection'.filter = connection.filter ∨
    ∃ request ∈ connection.requests, request.ping = none
  requests : ∀ request ∈ connection'.requests, request ∈ connection.requests ∨
    (∃ ping, request = Client.pingReply ping) ∨
    ∃ client command sent, event = .command command sent ∧
      request = Client.commandRequest client command
  receives : Receives config session session' connection connection'

theorem clientStep_connection {next : Option Connection} {clientEvent : ClientEvent}
    {connection' : Connection}
    (h : session.clientStep config next clientEvent = some session')
    (hconnection : session'.connection = some connection') :
    next = some connection' ∧ session'.log = session.log ∧ ∃ client client',
      session.client = some client ∧
      client.step (some config.reconnect) clientEvent = some client' ∧
      session'.client = some client' ∧ client'.phase = .active := by
  obtain ⟨client, client', hclient, hstep, rfl⟩ := clientStep_spec h
  dsimp only at hconnection
  split at hconnection
  · rename_i hactive
    exact ⟨hconnection, rfl, client, client', hclient, hstep, rfl, hactive⟩
  · cases hconnection

/-- A client's step on a connection whose replayed messages stay. -/
theorem KeepsConnection.of_clientStep {event : SessionEvent} (hevent : event.isAttempt = false)
    {next : Option Connection} {clientEvent : ClientEvent} {connection connection' : Connection}
    (h : session.clientStep config next clientEvent = some session')
    (hconnection : session'.connection = some connection')
    (hframe : ∀ connection', next = some connection' →
      connection'.filter = connection.filter ∧ connection'.replaying = connection.replaying ∧
      ∀ request ∈ connection'.requests, request ∈ connection.requests ∨
        (∃ ping, request = Client.pingReply ping) ∨
        ∃ client command sent, event = .command command sent ∧
          request = Client.commandRequest client command)
    (hmessage : ∀ update accepted, clientEvent = .message update accepted →
      .ok update ∈ connection.live) :
    KeepsConnection config session session' event connection connection' := by
  obtain ⟨hnext, hlog, client, client', hclient, hstep, hclient', hactive⟩ :=
    clientStep_connection h hconnection
  obtain ⟨hfilter, hreplaying, hrequests⟩ := hframe connection' hnext
  exact ⟨hevent, hlog, .inl hfilter, hrequests,
    .live client client' clientEvent hclient hstep hclient' hactive hreplaying hmessage⟩

theorem enqueueReply_frame (connection : Connection) (update : SubscribeUpdate)
    (accepted : Bool) :
    (enqueueReply connection update accepted).filter = connection.filter ∧
      (enqueueReply connection update accepted).replaying = connection.replaying ∧
      ∀ request ∈ (enqueueReply connection update accepted).requests,
        request ∈ connection.requests ∨ ∃ ping, request = Client.pingReply ping := by
  unfold enqueueReply
  split
  · rename_i ping hping
    split
    · refine ⟨rfl, rfl, fun request hmem => ?_⟩
      rcases List.mem_append.mp hmem with hmem | hmem
      · exact .inl hmem
      · exact .inr ⟨ping, List.mem_singleton.mp hmem⟩
    · exact ⟨rfl, rfl, fun request hmem => .inl hmem⟩
  · exact ⟨rfl, rfl, fun request hmem => .inl hmem⟩

/-- A step that joins: the first subscription, or an attempt of the client. -/
structure Joins [WireFormat] [ZakuraChain] (config : SessionConfig)
    (session session' : Session) (event : SessionEvent) (client : Option Client)
    (connection : Connection) : Prop where
  accepted : ∃ request now, session.accept config request now =
      some (session'.replay, .ok connection) ∧
    match client with
    | none => request = config.initial ∧
      session'.client = some (.new (some config.reconnect) config.initial)
    | some client => event = .attempt now ∧ session.client = some client ∧
      session'.client = some { client with phase := .active } ∧
      ∃ retries skipped, client.phase = .connecting request retries skipped
  publication : session'.toPublication = { session.toPublication with replay := session'.replay }
  joined : session'.log.joined = session.sent.length
  firstJoin : session'.log.firstJoin =
    if client.isNone then session.sent.length else session.log.firstJoin
  resumed : session'.log.resumed = client

/-- A command is queued behind the others. -/
theorem command_keepsConnection {request : SubscribeRequest} {sent : Bool}
    (h : session.command config request sent = some session') {connection' : Connection}
    (hconnection' : session'.connection = some connection') :
    ∃ connection, session.connection = some connection ∧
      KeepsConnection config session session' (.command request sent) connection connection' := by
  obtain ⟨client, -, hclientStep⟩ := Option.bind_eq_some_iff.mp h
  obtain ⟨hnext, -⟩ := clientStep_connection hclientStep hconnection'
  obtain ⟨connection, hconnection, -⟩ := Option.map_eq_some_iff.mp hnext
  refine ⟨connection, hconnection,
    .of_clientStep rfl hclientStep hconnection' (fun after hafter => ?_) ?_⟩
  · rw [hconnection] at hafter
    cases hafter
    split
    · refine ⟨rfl, rfl, fun queued hmem => ?_⟩
      rcases List.mem_append.mp hmem with hmem | hmem
      · exact .inl hmem
      · exact .inr (.inr ⟨client, request, sent, rfl, List.mem_singleton.mp hmem⟩)
    · exact ⟨rfl, rfl, fun queued hmem => .inl hmem⟩
  · intro update accepted heq
    cases heq

/-- A message comes off the front of the connection. -/
theorem receive_keepsConnection {accepted : Bool}
    (h : session.receive config accepted = some session') {connection' : Connection}
    (hconnection' : session'.connection = some connection') :
    ∃ connection, session.connection = some connection ∧
      KeepsConnection config session session' (.receive accepted) connection connection' := by
  obtain ⟨connection, hconnection, ⟨update, rest, hreplaying, hreceive⟩ |
    ⟨update, rest, -, hlive, hreceive⟩ | ⟨status, -, hclientStep⟩⟩ := receive_spec h
  · obtain ⟨hnext, hlog, client, client', hclient, hstep, hclient', hactive⟩ :=
      clientStep_connection hreceive hconnection'
    obtain ⟨hfilter, hrest, hrequests⟩ :=
      enqueueReply_frame { connection with replaying := rest } update accepted
    rw [Option.some.injEq] at hnext
    rw [hnext] at hfilter hrest hrequests
    refine ⟨connection, hconnection, rfl, hlog, .inl hfilter, fun request hmem => ?_,
      .replayed client client' update accepted hclient hstep hclient' hactive ?_⟩
    · rcases hrequests request hmem with hold | hping
      · exact .inl hold
      · exact .inr (.inl hping)
    · rw [hreplaying, hrest]
  · refine ⟨connection, hconnection,
      .of_clientStep rfl hreceive hconnection' (fun after hafter => ?_) ?_⟩
    · obtain ⟨hfilter, hreplaying, hrequests⟩ :=
        enqueueReply_frame { connection with live := rest } update accepted
      rw [Option.some.injEq] at hafter
      rw [hafter] at hfilter hreplaying hrequests
      refine ⟨hfilter, hreplaying, fun request hmem => ?_⟩
      rcases hrequests request hmem with hold | hping
      · exact .inl hold
      · exact .inr (.inl hping)
    · intro update' accepted' heq
      cases heq
      rw [hlive]
      exact List.mem_cons_self
  · obtain ⟨hnone, -⟩ := clientStep_connection hclientStep hconnection'
    cases hnone

/-! ## The turns of the client -/

/-- The message that the client takes next. -/
def next (session : Session) : Option SubscribeUpdate :=
  session.connection.bind fun connection =>
    match connection.replaying, connection.live with
    | update :: _, _ | [], .ok update :: _ => some update
    | [], .error _ :: _ | [], [] => none

/-- The message that the client takes by the event. -/
def hears (session : Session) : SessionEvent → Option SubscribeUpdate
  | .receive _ => session.next
  | .publication _ | .subscribe _ | .attempt _ | .unreachable _ | .serve | .serverPing _
  | .takeRequest | .command _ _ | .commandsClosed | .disconnect _ => none

theorem mem_of_next {update : SubscribeUpdate} (h : session.next = some update) :
    ∃ connection, session.connection = some connection ∧
      (update ∈ connection.replaying ∨ .ok update ∈ connection.live) := by
  obtain ⟨connection, hconnection, h⟩ := Option.bind_eq_some_iff.mp h
  refine ⟨connection, hconnection, ?_⟩
  split at h
  · rename_i update' rest hreplaying
    cases h
    exact .inl (hreplaying ▸ List.mem_cons_self)
  · rename_i update' rest hreplaying hlive
    cases h
    exact .inr (hlive ▸ List.mem_cons_self)
  · cases h
  · cases h

/-- The client takes a step of its own. A message comes off the connection, and
a command from the application. -/
def ClientTurn (config : SessionConfig) (session : Session) (event : SessionEvent)
    (session' : Session) : Prop :=
  ∃ client client' clientEvent, session.client = some client ∧
    client.step (some config.reconnect) clientEvent = some client' ∧
    session'.client = some client' ∧
    clientEvent.received = session.hears event ∧
    ∀ request sent, clientEvent = .command request sent → event = .command request sent

/-- A message of the client's turn comes off the connection. -/
theorem mem_of_hears {event : SessionEvent} {clientEvent : ClientEvent}
    (h : clientEvent.received = session.hears event) {update : SubscribeUpdate} {accepted : Bool}
    (hmessage : clientEvent = .message update accepted) :
    ∃ connection, session.connection = some connection ∧
      (update ∈ connection.replaying ∨ .ok update ∈ connection.live) := by
  rw [hmessage] at h
  cases event with
  | receive _ => exact mem_of_next h.symm
  | _ => cases h

/-- A turn without a message, which is no command either. -/
theorem clientStep_quiet {event : SessionEvent} {connection : Option Connection}
    {clientEvent : ClientEvent}
    (h : session.clientStep config connection clientEvent = some session')
    (hreceived : clientEvent.received = session.hears event)
    (hcommand : ∀ request sent, clientEvent ≠ .command request sent) :
    session.ClientTurn config event session' := by
  obtain ⟨client, client', hclient, hstep, rfl⟩ := clientStep_spec h
  exact ⟨client, client', clientEvent, hclient, hstep, rfl, hreceived,
    fun request sent heq => absurd heq (hcommand request sent)⟩

/-! ## One step -/

section
variable [WireFormat] [ZakuraChain]

/-- **What a step does to the connection**: it joins, or keeps the one there is. -/
theorem step_connection {event : SessionEvent} (h : session.step config event = some session')
    {connection' : Connection} (hconnection' : session'.connection = some connection') :
    (∃ client, Joins config session session' event client connection') ∨
    ∃ connection, session.connection = some connection ∧
      KeepsConnection config session session' event connection connection' := by
  cases event with
  | publication event =>
    obtain ⟨publication, -, rfl⟩ := Option.map_eq_some_iff.mp h
    exact .inr ⟨connection', hconnection', rfl, rfl, .inl rfl, fun _ hmem => .inl hmem,
      .idle rfl rfl⟩
  | subscribe now =>
    obtain ⟨hnone, replay, result, haccept, ⟨status, -, rfl⟩ | ⟨connection, rfl, rfl⟩⟩ :=
      subscribe_spec h
    · exact .inr ⟨connection', hconnection', rfl, rfl, .inl rfl, fun _ hmem => .inl hmem,
        .idle rfl rfl⟩
    · cases hconnection'
      exact .inl ⟨none, ⟨config.initial, now, haccept, rfl, rfl⟩, rfl, rfl, rfl, rfl⟩
  | attempt now =>
    obtain ⟨client, request, retries, skipped, replay, result, hclient, hphase, haccept,
      ⟨status, client', -, -, rfl⟩ | ⟨connection, rfl, rfl⟩⟩ := attempt_spec h
    · cases hconnection'
    · cases hconnection'
      exact .inl ⟨some client, ⟨request, now, haccept, rfl, hclient, rfl, retries, skipped, hphase⟩,
        rfl, rfl, rfl, rfl⟩
  | unreachable error =>
    obtain ⟨hnone, -⟩ := clientStep_connection (unreachable_spec h).2 hconnection'
    cases hnone
  | disconnect cause =>
    obtain ⟨hnone, -⟩ := clientStep_connection h hconnection'
    cases hnone
  | serve =>
    obtain ⟨connection, connection'', hconnection, hturn, rfl⟩ := serverTurn_spec h
    cases hconnection'
    obtain ⟨hfilter, hrequests, hreplaying⟩ := serveNext_frame hturn
    exact .inr ⟨connection, hconnection, rfl, rfl, .inl hfilter,
      fun request hmem => .inl (hrequests ▸ hmem), .idle rfl hreplaying⟩
  | serverPing id =>
    obtain ⟨connection, connection'', hconnection, hturn, rfl⟩ := serverTurn_spec h
    cases hconnection'
    cases hturn
    exact .inr ⟨connection, hconnection, rfl, rfl, .inl rfl, fun _ hmem => .inl hmem,
      .idle rfl rfl⟩
  | takeRequest =>
    obtain ⟨connection, connection'', hconnection, hturn, rfl⟩ := serverTurn_spec h
    cases hconnection'
    obtain ⟨hreplaying, hrequests, hfilter⟩ := takeNext_frame hturn
    exact .inr ⟨connection, hconnection, rfl, rfl, hfilter,
      fun request hmem => .inl (hrequests hmem), .idle rfl hreplaying⟩
  | command request sent => exact .inr (command_keepsConnection h hconnection')
  | commandsClosed =>
    obtain ⟨hconnection, -⟩ := clientStep_connection h hconnection'
    refine .inr ⟨connection', hconnection,
      .of_clientStep rfl h hconnection' (fun after hafter => ?_) ?_⟩
    · rw [hconnection] at hafter
      cases hafter
      exact ⟨rfl, rfl, fun queued hmem => .inl hmem⟩
    · intro update accepted heq
      cases heq
  | receive accepted => exact .inr (receive_keepsConnection h hconnection')

/-! ## The server and the client -/

/-- **What a step does to the server's shared state**: a publisher's step, a
subscription that evicts, or nothing. -/
theorem step_publication {event : SessionEvent} (h : session.step config event = some session') :
    (∃ publish, session.toPublication.step publish = some session'.toPublication) ∨
    (∃ request now result, session.accept config request now = some (session'.replay, result) ∧
      session'.toPublication = { session.toPublication with replay := session'.replay }) ∨
    session'.toPublication = session.toPublication := by
  have hclient : ∀ {connection clientEvent},
      session.clientStep config connection clientEvent = some session' →
        session'.toPublication = session.toPublication := by
    intro connection clientEvent hclientStep
    obtain ⟨client, client', -, -, rfl⟩ := clientStep_spec hclientStep
    rfl
  cases event with
  | publication event =>
    obtain ⟨publication, hpublication, rfl⟩ := Option.map_eq_some_iff.mp h
    exact .inl ⟨event, hpublication⟩
  | subscribe now =>
    obtain ⟨-, replay, result, haccept, ⟨status, -, rfl⟩ | ⟨connection, -, rfl⟩⟩ :=
      subscribe_spec h
    · exact .inr (.inl ⟨_, now, result, haccept, rfl⟩)
    · exact .inr (.inl ⟨_, now, result, haccept, rfl⟩)
  | attempt now =>
    obtain ⟨client, request, retries, skipped, replay, result, -, -, haccept,
      ⟨status, client', -, -, rfl⟩ | ⟨connection, -, rfl⟩⟩ := attempt_spec h
    · exact .inr (.inl ⟨request, now, result, haccept, rfl⟩)
    · exact .inr (.inl ⟨request, now, result, haccept, rfl⟩)
  | unreachable error => exact .inr (.inr (hclient (unreachable_spec h).2))
  | serve | serverPing id | takeRequest =>
    obtain ⟨connection, connection', -, -, rfl⟩ := serverTurn_spec h
    exact .inr (.inr rfl)
  | command request sent =>
    obtain ⟨client, -, hclientStep⟩ := Option.bind_eq_some_iff.mp h
    exact .inr (.inr (hclient hclientStep))
  | commandsClosed | disconnect cause => exact .inr (.inr (hclient h))
  | receive accepted =>
    obtain ⟨connection, -, ⟨update, rest, -, hreceive⟩ | ⟨update, rest, -, -, hreceive⟩ |
      ⟨status, -, hclientStep⟩⟩ := receive_spec h
    · exact .inr (.inr (hclient hreceive))
    · exact .inr (.inr (hclient hreceive))
    · exact .inr (.inr (hclient hclientStep))

/-- What is sent and pushed only grows. -/
theorem step_grows {event : SessionEvent} (h : session.step config event = some session') :
    session.sent <+: session'.sent ∧ session.pushed <+: session'.pushed := by
  rcases step_publication h with ⟨publish, hpublish⟩ | ⟨request, now, result, -, heq⟩ | heq
  · exact ⟨(Publication.step_grows hpublish).1, (Publication.step_grows hpublish).2.1⟩
  · rw [heq]
    exact ⟨List.prefix_rfl, List.prefix_rfl⟩
  · rw [heq]
    exact ⟨List.prefix_rfl, List.prefix_rfl⟩

/-- **What a step does to the client**: nothing, the first subscription, or one
of its own steps; its messages come off the connection. -/
theorem step_client {event : SessionEvent} (h : session.step config event = some session') :
    (session'.client = session.client ∧ session.hears event = none) ∨
    (session.client = none ∧ (∃ now, event = .subscribe now) ∧
      session'.client = some (.new (some config.reconnect) config.initial)) ∨
    session.ClientTurn config event session' := by
  cases event with
  | publication event =>
    obtain ⟨publication, -, rfl⟩ := Option.map_eq_some_iff.mp h
    exact .inl ⟨rfl, rfl⟩
  | subscribe now =>
    obtain ⟨hnone, replay, result, haccept, ⟨status, -, rfl⟩ | ⟨connection, rfl, rfl⟩⟩ :=
      subscribe_spec h
    · exact .inl ⟨rfl, rfl⟩
    · exact .inr (.inl ⟨hnone, ⟨now, rfl⟩, rfl⟩)
  | attempt now =>
    obtain ⟨client, request, retries, skipped, replay, result, hsome, hphase, -,
      ⟨status, client', -, hstep, rfl⟩ | ⟨connection, -, rfl⟩⟩ := attempt_spec h
    · exact .inr (.inr ⟨client, client', _, hsome, hstep, rfl, rfl, fun _ _ heq => nomatch heq⟩)
    · have hstep : client.step (some config.reconnect) (.attempt (.ok ())) =
          some { client with phase := .active } := by
        unfold Client.step
        rw [hphase]
        rfl
      exact .inr (.inr ⟨client, _, _, hsome, hstep, rfl, rfl, fun _ _ heq => nomatch heq⟩)
  | unreachable error =>
    exact .inr (.inr (clientStep_quiet (unreachable_spec h).2 rfl fun _ _ heq => nomatch heq))
  | serve | serverPing id | takeRequest =>
    obtain ⟨connection, connection', -, -, rfl⟩ := serverTurn_spec h
    exact .inl ⟨rfl, rfl⟩
  | command request sent =>
    obtain ⟨_, -, hclientStep⟩ := Option.bind_eq_some_iff.mp h
    obtain ⟨client, client', hclient, hstep, rfl⟩ := clientStep_spec hclientStep
    refine .inr (.inr ⟨client, client', _, hclient, hstep, rfl, rfl, ?_⟩)
    rintro _ _ ⟨rfl, rfl⟩
    rfl
  | commandsClosed | disconnect cause =>
    exact .inr (.inr (clientStep_quiet h rfl fun _ _ heq => nomatch heq))
  | receive accepted =>
    obtain ⟨connection, hconnection, ⟨update, rest, hreplaying, hreceive⟩ |
      ⟨update, rest, hreplaying, hlive, hreceive⟩ |
      ⟨status, ⟨rest, hreplaying, hlive⟩, hclientStep⟩⟩ := receive_spec h
    · refine .inr (.inr (clientStep_quiet hreceive ?_ fun _ _ heq => nomatch heq))
      rw [hears, next, hconnection, Option.bind_some, hreplaying]
      rfl
    · refine .inr (.inr (clientStep_quiet hreceive ?_ fun _ _ heq => nomatch heq))
      rw [hears, next, hconnection, Option.bind_some, hreplaying, hlive]
      rfl
    · refine .inr (.inr (clientStep_quiet hclientStep ?_ fun _ _ heq => nomatch heq))
      rw [hears, next, hconnection, Option.bind_some, hreplaying, hlive]
      rfl

end

end Session

end ZakuraGrpc
