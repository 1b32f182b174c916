import ZakuraGrpc.System.RequestLink
import ZakuraGrpc.System.SessionStep

/-!
# A session is a request link

The request side of a session takes the steps of a `RequestLink`
(`step_requestLink`), from the first subscription on (`runs_requestLink`). What
holds of every link therefore holds of every session (`session_mirrors`).
-/

namespace ZakuraGrpc

open Runs

/-! ## The request side -/

/-- The request side of a connection. -/
def Connection.requestStream (connection : Connection) : RequestStream :=
  { filter := connection.filter
    requests := connection.requests
    serving := connection.serving }

/-- The commands the client has taken. -/
def SessionEvent.taken : SessionEvent → Option SubscribeRequest
  | .command request _ => some request
  | .publication _ | .subscribe _ | .attempt _ | .unreachable _ | .serve | .serverPing _
  | .takeRequest | .commandsClosed | .receive _ | .disconnect _ => none

namespace Session

variable {config : SessionConfig} {session session' : Session} {link : RequestLink}

/-- The request side of a session with a client. -/
def requestLink (session : Session) : Option RequestLink :=
  session.client.map fun client =>
    { client := client, stream := session.connection.map (·.requestStream) }

theorem requestLink_eq_some : session.requestLink = some link ↔
    session.client = some link.client ∧
      link.stream = session.connection.map (·.requestStream) := by
  unfold Session.requestLink
  constructor
  · intro h
    obtain ⟨client, hclient, rfl⟩ := Option.map_eq_some_iff.mp h
    exact ⟨hclient, rfl⟩
  · rintro ⟨hclient, hstream⟩
    rw [hclient, Option.map_some, ← hstream]

/-- The client's step is the link's. -/
theorem clientStep_requestLink {connection : Option Connection} {event : ClientEvent}
    (h : session.clientStep config connection event = some session')
    (hlink : session.requestLink = some link) :
    ∃ link', session'.requestLink = some link' ∧ link.clientStep (some config.reconnect)
      (connection.map (·.requestStream)) event = some link' := by
  obtain ⟨hclient, -⟩ := requestLink_eq_some.mp hlink
  obtain ⟨client, client', hbefore, hstep, rfl⟩ := clientStep_spec h
  rw [hclient] at hbefore
  cases hbefore
  refine ⟨_, rfl, ?_⟩
  rw [RequestLink.clientStep, hstep, Option.map_some]
  dsimp only
  split <;> rfl

theorem clientStep_of_no_client (hnone : session.client = none) (connection : Option Connection)
    (event : ClientEvent) : session.clientStep config connection event = none := by
  rw [clientStep, hnone]
  rfl

theorem requestStream_enqueueReply (connection : Connection) (update : SubscribeUpdate)
    (accepted : Bool) : (enqueueReply connection update accepted).requestStream =
      connection.requestStream.enqueueReply update accepted := by
  unfold enqueueReply RequestStream.enqueueReply
  cases update.update with
  | none => rfl
  | some kind =>
    cases kind with
    | ping ping => cases accepted <;> rfl
    | _ => rfl

/-- A turn of the server's side is one on the request side. -/
theorem serverTurn_requestLink {turn : Connection → Option Connection}
    (h : session.serverTurn turn = some session') (hlink : session.requestLink = some link) :
    ∃ connection connection', turn connection = some connection' ∧
      link.stream = some connection.requestStream ∧
      session'.requestLink = some { link with stream := some connection'.requestStream } ∧
      ∀ streamTurn : RequestStream → Option RequestStream,
        streamTurn connection.requestStream = some connection'.requestStream →
        link.serverTurn streamTurn =
          some { link with stream := some connection'.requestStream } := by
  obtain ⟨hclient, hstream⟩ := requestLink_eq_some.mp hlink
  obtain ⟨connection, hconnection, h⟩ := Option.bind_eq_some_iff.mp h
  split at h
  · rename_i hserving
    obtain ⟨connection', hturn, rfl⟩ := Option.map_eq_some_iff.mp h
    rw [hconnection, Option.map_some] at hstream
    refine ⟨connection, connection', hturn, hstream, requestLink_eq_some.mpr ⟨hclient, rfl⟩,
      fun streamTurn hstreamTurn => ?_⟩
    have hserving' : connection.requestStream.serving = true := hserving
    rw [RequestLink.serverTurn, hstream, Option.bind_some, if_pos hserving', hstreamTurn]
    rfl
  · cases h

/-- A turn that leaves the requests alone serves on, or hangs up. -/
theorem requestStream_serveNext [WireFormat] {connection connection' : Connection}
    (h : session.serveNext config connection = some connection') :
    connection'.requestStream = connection.requestStream ∨
      connection'.requestStream = { connection.requestStream with serving := false } := by
  unfold serveNext at h
  split at h
  · rw [← Option.some.inj h]
    exact .inr rfl
  · obtain ⟨update, -, rfl⟩ := Option.map_eq_some_iff.mp h
    exact .inl rfl

section
variable [ZakuraChain]

theorem requestStream_takeNext {connection connection' : Connection}
    (h : takeNext config connection = some connection') :
    connection.requestStream.take config.filterLimits = some connection'.requestStream := by
  unfold takeNext at h
  unfold RequestStream.take
  cases hrequests : connection.requests with
  | nil =>
    rw [hrequests] at h
    cases h
  | cons request requests =>
    have hqueue : connection.requestStream.requests = request :: requests := hrequests
    rw [hrequests] at h
    rw [hqueue]
    dsimp only at h ⊢
    cases happly : applySubscriptionRequest connection.filter request config.filterLimits with
    | error status =>
      have happly' : applySubscriptionRequest connection.requestStream.filter request
          config.filterLimits = .error status := happly
      rw [happly] at h
      rw [happly', ← Option.some.inj h]
      rfl
    | ok applied =>
      have happly' : applySubscriptionRequest connection.requestStream.filter request
          config.filterLimits = .ok applied := happly
      rw [happly] at h
      rw [happly', ← Option.some.inj h]
      rfl

/-! ## Steps -/

/-- The link takes these steps where the session takes one. -/
def Follows (config : SessionConfig) (link : RequestLink) (event : SessionEvent)
    (session' : Session) : Prop :=
  ∃ linkEvents link',
    runs (RequestLink.step (some config.reconnect) config.filterLimits) link linkEvents =
      some link' ∧
    session'.requestLink = some link' ∧
    linkEvents.filterMap LinkEvent.taken = event.taken.toList

/-- A step on the side of the updates. -/
theorem Follows.idle {event : SessionEvent} (hlink : session'.requestLink = some link)
    (htaken : event.taken = none) : Follows config link event session' :=
  ⟨[], link, rfl, hlink, by rw [htaken]; rfl⟩

theorem Follows.single {event : SessionEvent} {link' : RequestLink} (linkEvent : LinkEvent)
    (hstep : link.step (some config.reconnect) config.filterLimits linkEvent = some link')
    (hlink : session'.requestLink = some link') (htaken : linkEvent.taken = event.taken) :
    Follows config link event session' := by
  refine ⟨[linkEvent], link', runs_cons.mpr ⟨link', hstep, rfl⟩, hlink, ?_⟩
  rw [← htaken]
  cases h : linkEvent.taken <;> simp [h]

variable [WireFormat]

theorem follows_serve (h : session.step config .serve = some session')
    (hlink : session.requestLink = some link) : Follows config link .serve session' := by
  obtain ⟨connection, connection', hturn, hstream, hlink', hstep⟩ :=
    serverTurn_requestLink h hlink
  rcases requestStream_serveNext hturn with heq | heq
  · rw [heq, ← hstream] at hlink'
    exact .idle hlink' rfl
  · exact .single .hangUp (hstep _ (congrArg some heq.symm)) hlink' rfl

theorem follows_attempt {now : Nat} (h : session.step config (.attempt now) = some session')
    (hlink : session.requestLink = some link) : Follows config link (.attempt now) session' := by
  obtain ⟨hclient, -⟩ := requestLink_eq_some.mp hlink
  obtain ⟨client, request, retries, skipped, replay, result, hbefore, hphase, haccept,
    ⟨status, client', rfl, hstep, rfl⟩ | ⟨connection, rfl, rfl⟩⟩ := attempt_spec h
  · rw [hclient] at hbefore
    cases hbefore
    refine .single (.refuse (.status status)) ?_ rfl rfl
    rw [RequestLink.step, RequestLink.clientStep, hstep, Option.map_some, ite_self]
    rfl
  · rw [hclient] at hbefore
    cases hbefore
    obtain ⟨-, -, hconnect⟩ := accept_spec haccept
    obtain ⟨filter, fromHeight, hfilter, -, rfl⟩ := hconnect connection rfl
    have hstream : link.newStream config.filterLimits = some { filter := filter } := by
      rw [RequestLink.newStream, hphase]
      dsimp only
      rw [hfilter]
      rfl
    have hstep : link.client.step (some config.reconnect) (.attempt (.ok ())) =
        some { link.client with phase := .active } := by
      unfold Client.step
      rw [hphase]
      rfl
    refine .single .connect ?_ rfl rfl
    rw [RequestLink.step, hstream, Option.bind_some, RequestLink.clientStep, hstep]
    rfl

theorem follows_receive {accepted : Bool}
    (h : session.step config (.receive accepted) = some session')
    (hlink : session.requestLink = some link) :
    Follows config link (.receive accepted) session' := by
  obtain ⟨-, hstream⟩ := requestLink_eq_some.mp hlink
  obtain ⟨connection, hconnection, hcases⟩ := receive_spec h
  rw [hconnection, Option.map_some] at hstream
  have hupdate : ∀ {taken : Connection} {update : SubscribeUpdate},
      session.receiveUpdate config taken update accepted = some session' →
      taken.requestStream = connection.requestStream →
      Follows config link (.receive accepted) session' := by
    intro taken update hreceive htaken
    obtain ⟨link', hlink', hstep⟩ := clientStep_requestLink hreceive hlink
    rw [Option.map_some, requestStream_enqueueReply, htaken] at hstep
    refine .single (.receive update accepted) ?_ hlink' rfl
    rw [RequestLink.step, hstream]
    exact hstep
  rcases hcases with ⟨update, rest, -, hreceive⟩ | ⟨update, rest, -, -, hreceive⟩ |
    ⟨status, -, hbroken⟩
  · exact hupdate hreceive rfl
  · exact hupdate hreceive rfl
  · obtain ⟨link', hlink', hstep⟩ := clientStep_requestLink hbroken hlink
    exact .single (.disconnect (.status status)) hstep hlink' rfl

/-- **One step of a session is a step of its link.** -/
theorem step_requestLink {event : SessionEvent} (h : session.step config event = some session')
    (hlink : session.requestLink = some link) : Follows config link event session' := by
  obtain ⟨hclient, hstream⟩ := requestLink_eq_some.mp hlink
  cases event with
  | publication event =>
    obtain ⟨publication, -, rfl⟩ := Option.map_eq_some_iff.mp h
    exact .idle hlink rfl
  | subscribe now =>
    obtain ⟨hnone, -⟩ := subscribe_spec h
    rw [hclient] at hnone
    cases hnone
  | attempt now => exact follows_attempt h hlink
  | unreachable error =>
    obtain ⟨-, h⟩ := unreachable_spec h
    obtain ⟨link', hlink', hstep⟩ := clientStep_requestLink h hlink
    exact .single (.refuse error) hstep hlink' rfl
  | serve => exact follows_serve h hlink
  | serverPing id =>
    obtain ⟨connection, connection', hturn, hbefore, hlink', -⟩ := serverTurn_requestLink h hlink
    cases hturn
    change session'.requestLink = some { link with stream := some connection.requestStream }
      at hlink'
    rw [← hbefore] at hlink'
    exact .idle hlink' rfl
  | takeRequest =>
    obtain ⟨connection, connection', hturn, -, hlink', hstep⟩ := serverTurn_requestLink h hlink
    exact .single .takeRequest (hstep _ (requestStream_takeNext hturn)) hlink' rfl
  | command request sent =>
    obtain ⟨client, hbefore, h⟩ := Option.bind_eq_some_iff.mp h
    rw [hclient] at hbefore
    cases hbefore
    obtain ⟨link', hlink', hstep⟩ := clientStep_requestLink h hlink
    refine .single (.command request sent) ?_ hlink' rfl
    rw [RequestLink.step, hstream, ← hstep]
    cases session.connection with
    | none => rfl
    | some connection => cases sent <;> rfl
  | commandsClosed =>
    obtain ⟨link', hlink', hstep⟩ := clientStep_requestLink h hlink
    refine .single .commandsClosed ?_ hlink' rfl
    rw [RequestLink.step, hstream]
    exact hstep
  | receive accepted => exact follows_receive h hlink
  | disconnect cause =>
    obtain ⟨link', hlink', hstep⟩ := clientStep_requestLink h hlink
    exact .single (.disconnect cause) hstep hlink' rfl

/-- Without a client only the first subscription makes one. -/
theorem step_of_no_client (hnone : session.client = none) {event : SessionEvent}
    (h : session.step config event = some session') :
    event.taken = none ∧ (session'.client = none ∨ ∃ filter,
      EventFilter.new config.initial config.filterLimits = .ok filter ∧
      session'.requestLink = some (.start (some config.reconnect) config.initial filter)) := by
  have hno : ∀ {connection : Option Connection} {clientEvent : ClientEvent} {P : Prop},
      session.clientStep config connection clientEvent = some session' → P := by
    intro connection clientEvent P hstep
    rw [clientStep_of_no_client hnone] at hstep
    cases hstep
  have hturn : ∀ {turn : Connection → Option Connection},
      session.serverTurn turn = some session' → session'.client = none := by
    intro turn hturn
    obtain ⟨_, _, -, -, rfl⟩ := serverTurn_spec hturn
    exact hnone
  cases event with
  | publication event =>
    obtain ⟨publication, -, rfl⟩ := Option.map_eq_some_iff.mp h
    exact ⟨rfl, .inl hnone⟩
  | subscribe now =>
    refine ⟨rfl, ?_⟩
    obtain ⟨-, replay, result, haccept, ⟨_, -, rfl⟩ | ⟨connection, rfl, rfl⟩⟩ := subscribe_spec h
    · exact .inl hnone
    · obtain ⟨-, -, hconnect⟩ := accept_spec haccept
      obtain ⟨filter, fromHeight, hfilter, -, rfl⟩ := hconnect connection rfl
      exact .inr ⟨filter, hfilter, rfl⟩
  | attempt now =>
    obtain ⟨client, _, _, _, _, _, hclient, -⟩ := attempt_spec h
    rw [hnone] at hclient
    cases hclient
  | unreachable error => exact hno (unreachable_spec h).2
  | serve => exact ⟨rfl, .inl (hturn h)⟩
  | serverPing id => exact ⟨rfl, .inl (hturn h)⟩
  | takeRequest => exact ⟨rfl, .inl (hturn h)⟩
  | command request sent =>
    obtain ⟨client, hclient, -⟩ := Option.bind_eq_some_iff.mp h
    rw [hnone] at hclient
    cases hclient
  | commandsClosed => exact hno h
  | receive accepted =>
    obtain ⟨connection, -, ⟨_, _, -, h⟩ | ⟨_, _, -, -, h⟩ | ⟨_, -, h⟩⟩ := receive_spec h
    all_goals exact hno h
  | disconnect cause => exact hno h

/-! ## Runs -/

/-- **A session is a link**, from its first subscription on. -/
theorem runs_requestLink {events : List SessionEvent}
    (hrun : runs (step config) (new config) events = some session) :
    (session.client = none ∧ events.filterMap SessionEvent.taken = []) ∨
      ∃ filter linkEvents link,
        EventFilter.new config.initial config.filterLimits = .ok filter ∧
        runs (RequestLink.step (some config.reconnect) config.filterLimits)
          (.start (some config.reconnect) config.initial filter) linkEvents = some link ∧
        session.requestLink = some link ∧
        linkEvents.filterMap LinkEvent.taken = events.filterMap SessionEvent.taken := by
  induction events using List.reverseRecOn generalizing session with
  | nil =>
    cases hrun
    exact .inl ⟨rfl, rfl⟩
  | append_singleton events event ih =>
    obtain ⟨before, hbefore, hstep⟩ := runs_snoc.mp hrun
    have hsplit : (events ++ [event]).filterMap SessionEvent.taken =
        events.filterMap SessionEvent.taken ++ event.taken.toList := by
      rw [List.filterMap_append]
      cases h : event.taken <;> simp [h]
    rw [hsplit]
    rcases ih hbefore with ⟨hnone, htaken⟩ |
      ⟨filter, linkEvents, link, hfilter, hlinkRun, hlink, htaken⟩
    · obtain ⟨hevent, hnone' | ⟨filter, hfilter, hlink⟩⟩ := step_of_no_client hnone hstep
      · exact .inl ⟨hnone', by rw [htaken, hevent]; rfl⟩
      · refine .inr ⟨filter, [], _, hfilter, rfl, hlink, ?_⟩
        rw [htaken, hevent]
        rfl
    · obtain ⟨more, link', hmore, hlink', htaken'⟩ := step_requestLink hstep hlink
      refine .inr ⟨filter, linkEvents ++ more, link', hfilter,
        runs_append.mpr ⟨link, hlinkRun, hmore⟩, hlink', ?_⟩
      rw [List.filterMap_append, htaken, htaken']

/-- A session's server with nothing queued applies the filter of the client's
current request. -/
theorem session_mirrors {events : List SessionEvent}
    (hrun : runs (step config) (new config) events = some session) {client : Client}
    {connection : Connection} (hclient : session.client = some client)
    (hconnection : session.connection = some connection) (hserving : connection.serving = true)
    (hnone : connection.requests = []) :
    EventFilter.new client.currentRequest config.filterLimits = .ok connection.filter ∧
      client.currentRequest.withoutReplay =
        ((latestFilter config.initial (events.filterMap SessionEvent.taken)).withSnapshot
          config.initial.includeMempoolSnapshot).withoutReplay := by
  obtain ⟨hno, -⟩ | ⟨filter, linkEvents, link, hfilter, hlinkRun, hlink, htaken⟩ :=
    runs_requestLink hrun
  · rw [hclient] at hno
    cases hno
  obtain ⟨hsame, hstream⟩ := requestLink_eq_some.mp hlink
  rw [hclient] at hsame
  cases hsame
  rw [hconnection, Option.map_some] at hstream
  obtain ⟨hasks, hinstalls⟩ := RequestLink.mirrors_runs hfilter hlinkRun
  have hcurrent := hasks.current
  refine ⟨?_, ?_⟩
  · rw [EventFilter.new_congr hcurrent]
    exact (hinstalls connection.requestStream hstream hserving).filter_eq hnone
  · rw [hcurrent, RequestLink.latestRequest, htaken]

end

end Session

end ZakuraGrpc
