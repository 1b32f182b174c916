import ZakuraGrpc.Client.Requests

/-!
# The client's request and the server's filter

The request side of a subscription: the client, with or without reconnecting,
and the server's filter behind the requests that are still queued. Everything
the server sends is arbitrary here.

`filter_mirrors`: a server that has consumed its requests applies the filter of
the client's current request, which is the last filter command.
-/

namespace ZakuraGrpc

open Runs

/-! ## The server's part -/

/-- The requests of a subscription on their way, and the filter applied to its
updates. -/
structure RequestStream where
  filter : EventFilter
  requests : List SubscribeRequest := []
  serving : Bool := true

namespace RequestStream

def enqueue (stream : RequestStream) (request : SubscribeRequest) : RequestStream :=
  { stream with requests := stream.requests ++ [request] }

/-- The reply to a ping is a request too. -/
def enqueueReply (stream : RequestStream) (update : SubscribeUpdate) (accepted : Bool) :
    RequestStream :=
  match update.update with
  | some (.ping ping) => if accepted then stream.enqueue (Client.pingReply ping) else stream
  | _ => stream

@[simp] theorem serving_enqueueReply (stream : RequestStream) (update : SubscribeUpdate)
    (accepted : Bool) : (stream.enqueueReply update accepted).serving = stream.serving := by
  unfold enqueueReply
  split
  · split <;> rfl
  · rfl

section
variable [ZakuraChain]

/-- The server takes the next request. A refused one ends the subscription. -/
def take (limits : FilterLimits) (stream : RequestStream) : Option RequestStream :=
  match stream.requests with
  | [] => none
  | request :: requests =>
    match applySubscriptionRequest stream.filter request limits with
    | .ok (filter, _) => some { stream with filter := filter, requests := requests }
    | .error _ => some { stream with requests := requests, serving := false }

/-- Behind the queued requests the server will apply the filter of `request`. -/
def Installs (limits : FilterLimits) (stream : RequestStream) (request : SubscribeRequest) :
    Prop :=
  ∃ installed, EventFilter.new installed limits = .ok stream.filter ∧
    (latestFilter installed stream.requests).withoutReplay = request.withoutReplay

variable {limits : FilterLimits} {stream stream' : RequestStream} {request : SubscribeRequest}

theorem Installs.congr {request' : SubscribeRequest} (h : stream.Installs limits request)
    (heq : request'.withoutReplay = request.withoutReplay) : stream.Installs limits request' := by
  obtain ⟨installed, hfilter, hlatest⟩ := h
  exact ⟨installed, hfilter, hlatest.trans heq.symm⟩

/-- With nothing queued the filter is in place. -/
theorem Installs.filter_eq (h : stream.Installs limits request) (hnone : stream.requests = []) :
    EventFilter.new request limits = .ok stream.filter := by
  obtain ⟨installed, hfilter, hlatest⟩ := h
  rw [hnone] at hlatest
  rw [← EventFilter.new_congr hlatest]
  exact hfilter

theorem Installs.enqueue (h : stream.Installs limits request) (next : SubscribeRequest) :
    (stream.enqueue next).Installs limits (latestFilter request [next]) := by
  obtain ⟨installed, hfilter, hlatest⟩ := h
  refine ⟨installed, hfilter, ?_⟩
  show (latestFilter installed (stream.requests ++ [next])).withoutReplay = _
  rw [latestFilter_append]
  cases hping : next.ping with
  | none => rw [latestFilter_of_filter hping, latestFilter_of_filter hping]
  | some ping =>
    rw [latestFilter_of_ping hping, latestFilter_of_ping hping]
    exact hlatest

theorem Installs.enqueueReply (h : stream.Installs limits request) (update : SubscribeUpdate)
    (accepted : Bool) : (stream.enqueueReply update accepted).Installs limits request := by
  unfold RequestStream.enqueueReply
  split
  · rename_i ping _
    split
    · have henqueue := h.enqueue (Client.pingReply ping)
      rwa [latestFilter_of_ping rfl] at henqueue
    · exact h
  · exact h

/-- **One turn of the request branch.** A ping leaves the filter, any other
request replaces it. -/
theorem Installs.take (h : stream.Installs limits request)
    (htake : stream.take limits = some stream') :
    stream'.serving = false ∨ stream'.Installs limits request := by
  obtain ⟨installed, hfilter, hlatest⟩ := h
  unfold RequestStream.take at htake
  cases hrequests : stream.requests with
  | nil =>
    rw [hrequests] at htake
    cases htake
  | cons next rest =>
    rw [hrequests] at htake hlatest
    rw [← List.singleton_append, latestFilter_append] at hlatest
    unfold applySubscriptionRequest at htake
    cases hping : next.ping with
    | some ping =>
      rw [latestFilter_of_ping hping] at hlatest
      dsimp only at htake
      rw [hping] at htake
      rw [← Option.some.inj htake]
      exact .inr ⟨installed, hfilter, hlatest⟩
    | none =>
      rw [latestFilter_of_filter hping] at hlatest
      dsimp only at htake
      rw [hping] at htake
      cases hnew : EventFilter.new next limits with
      | error status =>
        rw [hnew] at htake
        rw [← Option.some.inj htake]
        exact .inl rfl
      | ok filter =>
        rw [hnew] at htake
        rw [← Option.some.inj htake]
        exact .inr ⟨next, hnew, hlatest⟩

end

end RequestStream

/-! ## The link -/

/-- A client and its subscription, if it has one. -/
structure RequestLink where
  client : Client
  stream : Option RequestStream

inductive LinkEvent where
  /-- `connect_once` is answered by a stream. -/
  | connect
  /-- `connect_once` fails. -/
  | refuse (error : ClientError)
  | takeRequest
  /-- The server ends the subscription for another reason. -/
  | hangUp
  | command (request : SubscribeRequest) (sent : Bool)
  | commandsClosed
  | receive (update : SubscribeUpdate) (accepted : Bool)
  | disconnect (cause : Disconnect)

/-- The commands the client has taken. -/
def LinkEvent.taken : LinkEvent → Option SubscribeRequest
  | .command request _ => some request
  | .connect | .refuse _ | .takeRequest | .hangUp | .commandsClosed | .receive _ _
  | .disconnect _ => none

namespace RequestLink

/-- Behind the server's answer to the application's first request. -/
def start (reconnect : Option ReconnectConfig) (initial : SubscribeRequest) (filter : EventFilter) :
    RequestLink :=
  { client := .new reconnect initial, stream := some { filter := filter } }

/-! ### What is asked for -/

/-- What is asked for behind an event. -/
def nextRequest (request : SubscribeRequest) : LinkEvent → SubscribeRequest
  | .command command _ =>
    (latestFilter request [command]).withSnapshot request.includeMempoolSnapshot
  | .connect | .refuse _ | .takeRequest | .hangUp | .commandsClosed | .receive _ _
  | .disconnect _ => request

/-- The last filter command taken, with the initial request's choice of a
mempool snapshot. -/
def latestRequest (initial : SubscribeRequest) (events : List LinkEvent) : SubscribeRequest :=
  (latestFilter initial (events.filterMap LinkEvent.taken)).withSnapshot
    initial.includeMempoolSnapshot

theorem latestRequest_snoc (initial : SubscribeRequest) (events : List LinkEvent)
    (event : LinkEvent) :
    latestRequest initial (events ++ [event]) =
      nextRequest (latestRequest initial events) event := by
  unfold latestRequest
  rw [List.filterMap_append, latestFilter_append]
  cases event with
  | command command sent =>
    have htaken : [LinkEvent.command command sent].filterMap LinkEvent.taken = [command] := rfl
    rw [htaken, nextRequest]
    cases hping : command.ping with
    | none =>
      rw [latestFilter_of_filter hping, latestFilter_of_filter hping]
      rfl
    | some ping =>
      rw [latestFilter_of_ping hping, latestFilter_of_ping hping]
      rfl
  | connect | refuse _ | takeRequest | hangUp | commandsClosed | receive _ _ | disconnect _ => rfl

/-! ### Steps -/

/-- The client takes a step; its stream goes with its activity. -/
def clientStep (reconnect : Option ReconnectConfig) (link : RequestLink)
    (stream : Option RequestStream) (event : ClientEvent) : Option RequestLink :=
  (link.client.step reconnect event).map fun client =>
    { client := client, stream := if client.phase = .active then stream else none }

/-- The server's side takes a turn. -/
def serverTurn (link : RequestLink) (turn : RequestStream → Option RequestStream) :
    Option RequestLink :=
  link.stream.bind fun stream =>
    if stream.serving then (turn stream).map fun stream => { link with stream := some stream }
    else none

section
variable [ZakuraChain]

/-- The stream of the request in hand, when the server accepts it. -/
def newStream (limits : FilterLimits) (link : RequestLink) : Option RequestStream :=
  match link.client.phase with
  | .connecting request _ _ =>
    (EventFilter.new request limits).toOption.map fun filter => { filter := filter }
  | .active | .stopped => none

def step (reconnect : Option ReconnectConfig) (limits : FilterLimits) (link : RequestLink) :
    LinkEvent → Option RequestLink
  | .connect => (link.newStream limits).bind fun stream =>
    link.clientStep reconnect (some stream) (.attempt (.ok ()))
  | .refuse error => link.clientStep reconnect none (.attempt (.error error))
  | .takeRequest => link.serverTurn (·.take limits)
  | .hangUp => link.serverTurn fun stream => some { stream with serving := false }
  | .command request sent => link.clientStep reconnect
      (link.stream.map fun stream =>
        if sent then stream.enqueue (link.client.commandRequest request) else stream)
      (.command request sent)
  | .commandsClosed => link.clientStep reconnect link.stream .commandsClosed
  | .receive update accepted => link.clientStep reconnect
      (link.stream.map (·.enqueueReply update accepted)) (.message update accepted)
  | .disconnect cause => link.clientStep reconnect none (.disconnect cause)

/-! ## The invariant -/

/-- The client asks for `request`, and a server that goes on will apply its
filter. -/
structure Mirrors (limits : FilterLimits) (link : RequestLink) (request : SubscribeRequest) :
    Prop where
  asks : link.client.Asks request
  installs : ∀ stream, link.stream = some stream → stream.serving = true →
    stream.Installs limits request

variable {reconnect : Option ReconnectConfig} {limits : FilterLimits} {link link' : RequestLink}
  {request : SubscribeRequest}

theorem Mirrors.congr {request' : SubscribeRequest} (h : link.Mirrors limits request)
    (heq : request'.withoutReplay = request.withoutReplay) : link.Mirrors limits request' :=
  ⟨h.asks.congr heq, fun stream hstream hserving =>
    (h.installs stream hstream hserving).congr heq⟩

theorem Mirrors.clientStep (h : link.Mirrors limits request) {stream : Option RequestStream}
    {event : ClientEvent}
    (hstream : ∀ client' next, link.client.step reconnect event = some client' →
      client'.phase = .active → stream = some next → next.serving = true →
      next.Installs limits (link.client.requestAfter event))
    (hstep : link.clientStep reconnect stream event = some link') :
    link'.Mirrors limits (link.client.requestAfter event) := by
  obtain ⟨client', hclient, rfl⟩ := Option.map_eq_some_iff.mp hstep
  refine ⟨(h.asks.congr h.asks.current).step hclient, fun next hnext hserving => ?_⟩
  dsimp only at hnext
  split at hnext
  · rename_i hactive
    exact hstream client' next hclient hactive hnext hserving
  · cases hnext

/-- A reconnect that succeeds serves an empty queue. -/
theorem connect_spec (h : link.step reconnect limits .connect = some link') :
    ∃ stream, link'.stream = some stream ∧ stream.requests = [] ∧ stream.serving = true := by
  obtain ⟨stream, hstream, h⟩ := Option.bind_eq_some_iff.mp h
  obtain ⟨client', hclient, rfl⟩ := Option.map_eq_some_iff.mp h
  unfold newStream at hstream
  split at hstream
  · rename_i inHand retries skipped hphase
    obtain ⟨filter, -, rfl⟩ := Option.map_eq_some_iff.mp hstream
    refine ⟨_, if_pos ?_, rfl, rfl⟩
    unfold Client.step at hclient
    rw [hphase] at hclient
    obtain ⟨config, -, rfl⟩ := Option.map_eq_some_iff.mp hclient
    rfl
  · cases hstream
  · cases hstream

/-- The request in hand asks for the same filter. -/
theorem Mirrors.newStream (h : link.Mirrors limits request) {stream : RequestStream}
    (hstream : link.newStream limits = some stream) : stream.Installs limits request := by
  unfold RequestLink.newStream at hstream
  split at hstream
  · rename_i inHand retries skipped hphase
    obtain ⟨filter, hfilter, rfl⟩ := Option.map_eq_some_iff.mp hstream
    refine ⟨inHand, ?_, h.asks.connecting inHand retries skipped hphase⟩
    cases hnew : EventFilter.new inHand limits with
    | error status =>
      rw [hnew] at hfilter
      cases hfilter
    | ok filter' =>
      rw [hnew] at hfilter
      cases hfilter
      rfl
  · cases hstream
  · cases hstream

/-- A command that is sent is installed behind the others. -/
theorem Mirrors.enqueue (h : link.Mirrors limits request) {stream : RequestStream}
    (hstream : link.stream = some stream) (hserving : stream.serving = true)
    (command : SubscribeRequest) (sent : Bool) :
    (stream.enqueue (link.client.commandRequest command)).Installs limits
      (link.client.requestAfter (.command command sent)) := by
  have hinstalls := (h.installs stream hstream hserving).congr h.asks.current
  have henqueue := hinstalls.enqueue (link.client.commandRequest command)
  cases hping : command.ping with
  | none =>
    obtain ⟨hcommand, htake⟩ := link.client.takeCommand_of_filter hping
    have hfilter : (link.client.commandRequest command).ping = none := by
      rw [hcommand]
      exact hping
    rw [latestFilter_of_filter hfilter] at henqueue
    rw [Client.requestAfter, htake]
    exact henqueue
  | some ping =>
    obtain ⟨hcommand, htake⟩ := link.client.takeCommand_of_ping hping
    rw [hcommand, latestFilter_of_ping hping] at henqueue
    rw [Client.requestAfter, htake, hcommand]
    exact henqueue

/-- A turn of the server's side leaves the client alone. -/
theorem Mirrors.serverTurn (h : link.Mirrors limits request)
    {turn : RequestStream → Option RequestStream}
    (hturn : ∀ stream stream', turn stream = some stream' → stream.Installs limits request →
      stream'.serving = false ∨ stream'.Installs limits request)
    (hstep : link.serverTurn turn = some link') : link'.Mirrors limits request := by
  obtain ⟨stream, hstream, hstep⟩ := Option.bind_eq_some_iff.mp hstep
  split at hstep
  · rename_i hserving
    obtain ⟨stream', hstream', rfl⟩ := Option.map_eq_some_iff.mp hstep
    refine ⟨h.asks, ?_⟩
    rintro next hnext hserves
    cases hnext
    rcases hturn stream stream' hstream' (h.installs stream hstream hserving) with
      hended | hinstalls
    · rw [hended] at hserves
      cases hserves
    · exact hinstalls
  · cases hstep

/-- **One step of the link.** -/
theorem Mirrors.step (h : link.Mirrors limits request) {event : LinkEvent}
    (hstep : link.step reconnect limits event = some link') :
    link'.Mirrors limits (nextRequest request event) := by
  have hnone : ∀ {clientEvent : ClientEvent} (client' : Client) (next : RequestStream),
      link.client.step reconnect clientEvent = some client' → client'.phase = .active →
      none = some next → next.serving = true →
      next.Installs limits (link.client.requestAfter clientEvent) := by
    intro _ _ next _ _ hnext
    cases hnext
  have hcurrent := h.asks.current.symm
  cases event with
  | connect =>
    obtain ⟨stream, hstream, hstep⟩ := Option.bind_eq_some_iff.mp hstep
    refine (h.clientStep ?_ hstep).congr hcurrent
    rintro client' next - - hnext -
    cases hnext
    exact (h.newStream hstream).congr h.asks.current
  | refuse error => exact (h.clientStep hnone hstep).congr hcurrent
  | takeRequest => exact h.serverTurn (fun _ _ htake hinstalls => hinstalls.take htake) hstep
  | hangUp =>
    refine h.serverTurn (fun stream stream' hended _ => .inl ?_) hstep
    rw [← Option.some.inj hended]
  | command command sent =>
    refine (h.clientStep ?_ hstep).congr (h.asks.requestAfter_command command sent).symm
    intro client' next hclient hactive hnext hserving
    obtain ⟨stream, hstream, rfl⟩ := Option.map_eq_some_iff.mp hnext
    cases sent with
    | false => exact absurd hactive (Client.not_active_of_unsent hclient)
    | true => exact h.enqueue hstream hserving command true
  | commandsClosed =>
    refine (h.clientStep ?_ hstep).congr hcurrent
    intro client' next _ _ hnext hserving
    exact (h.installs next hnext hserving).congr h.asks.current
  | receive update accepted =>
    refine (h.clientStep ?_ hstep).congr hcurrent
    intro client' next _ _ hnext hserving
    obtain ⟨stream, hstream, rfl⟩ := Option.map_eq_some_iff.mp hnext
    rw [RequestStream.serving_enqueueReply] at hserving
    exact ((h.installs stream hstream hserving).enqueueReply update accepted).congr h.asks.current
  | disconnect cause => exact (h.clientStep hnone hstep).congr hcurrent

/-! ## Whole runs -/

theorem mirrors_start {initial : SubscribeRequest} {filter : EventFilter}
    (h : EventFilter.new initial limits = .ok filter) :
    (start reconnect initial filter).Mirrors limits initial := by
  refine ⟨Client.asks_of_not_connecting rfl (.inl rfl), ?_⟩
  rintro stream hstream -
  cases hstream
  exact ⟨initial, h, rfl⟩

/-- **Whole runs keep the mirror.** -/
theorem mirrors_runs {initial : SubscribeRequest} {filter : EventFilter}
    (h : EventFilter.new initial limits = .ok filter) {events : List LinkEvent}
    (hrun : runs (step reconnect limits) (start reconnect initial filter) events = some link) :
    link.Mirrors limits (latestRequest initial events) := by
  induction events using List.reverseRecOn generalizing link with
  | nil =>
    cases hrun
    exact mirrors_start h
  | append_singleton events event ih =>
    obtain ⟨before, hbefore, hstep⟩ := runs_snoc.mp hrun
    rw [latestRequest_snoc]
    exact (ih hbefore).step hstep

/-- **The client's request mirrors the server's filter.** In every run from an
accepted request: a server with nothing queued applies the filter of the current
request, which is the last filter command up to the replay fields; and what a
reconnect asks for, and installs, is that filter. -/
theorem filter_mirrors (reconnect : Option ReconnectConfig) {limits : FilterLimits}
    {initial : SubscribeRequest} {filter : EventFilter}
    (haccepted : EventFilter.new initial limits = .ok filter) {events : List LinkEvent}
    {link : RequestLink}
    (hrun : runs (step reconnect limits) (start reconnect initial filter) events = some link) :
    (∀ stream, link.stream = some stream → stream.serving = true → stream.requests = [] →
      EventFilter.new link.client.currentRequest limits = .ok stream.filter) ∧
    link.client.currentRequest.withoutReplay = (latestRequest initial events).withoutReplay ∧
    (∀ request retries skipped, link.client.phase = .connecting request retries skipped →
      request.withoutReplay = (latestRequest initial events).withoutReplay) ∧
    ∀ link', link.step reconnect limits .connect = some link' →
      ∃ stream, link'.stream = some stream ∧ stream.requests = [] ∧
        EventFilter.new (latestRequest initial events) limits = .ok stream.filter := by
  have hmirrors := mirrors_runs haccepted hrun
  refine ⟨fun stream hstream hserving hnone => ?_, hmirrors.asks.current,
    hmirrors.asks.connecting, fun link' hstep => ?_⟩
  · rw [EventFilter.new_congr hmirrors.asks.current]
    exact (hmirrors.installs stream hstream hserving).filter_eq hnone
  · obtain ⟨stream, hstream, hnone, hserving⟩ := connect_spec hstep
    have hafter := hmirrors.step hstep
    exact ⟨stream, hstream, hnone, (hafter.installs stream hstream hserving).filter_eq hnone⟩

end

/-! ### A sample run -/

/-- A new filter, a ping with a filter, and a filter that is lost with the
connection. -/
def sampleEvents : List LinkEvent :=
  [.command { eventTypes := [1], includeMempoolSnapshot := true } true, .takeRequest,
   .command { eventTypes := [2], ping := some { id := 4 } } true, .takeRequest,
   .command { eventTypes := [3], fromHeight := some 7 } false, .connect]

/-- The reconnect installs the lost filter. -/
theorem filter_mirrors_sample : ∃ filter link, @EventFilter.new hexChain {} {} = .ok filter ∧
    runs (@step hexChain (some {}) {}) (start (some {}) {} filter) sampleEvents = some link ∧
    link.client.currentRequest.withoutReplay = { eventTypes := [3] } ∧
    ∀ stream, link.stream = some stream → stream.serving = true → stream.requests = [] →
      @EventFilter.new hexChain link.client.currentRequest {} = .ok stream.filter := by
  obtain ⟨filter, hfilter⟩ : ∃ filter, @EventFilter.new hexChain {} {} = .ok filter := ⟨_, rfl⟩
  have hrun : (runs (@step hexChain (some {}) {}) (start (some {}) {} filter)
      sampleEvents).isSome = true := by
    rfl
  obtain ⟨link, hlink⟩ := Option.isSome_iff_exists.mp hrun
  obtain ⟨hfilters, hcurrent, -⟩ := @filter_mirrors hexChain (some {}) {} {} filter hfilter
    sampleEvents link hlink
  exact ⟨filter, link, hfilter, hlink, hcurrent, hfilters⟩

end RequestLink

end ZakuraGrpc
