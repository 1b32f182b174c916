import ZakuraGrpc.Client.Reconnect

/-!
# What the client asks for

The filter of the client's current request, and of the one in hand while it is
connecting, is that of the last filter command: only a command changes it
(`Asks.step`). A ping is passed on, whatever else it carries.
-/

namespace ZakuraGrpc

/-! ## Requests and filters -/

/-- The request without its replay fields. -/
def SubscribeRequest.withoutReplay (request : SubscribeRequest) : SubscribeRequest :=
  { request with fromHeight := none, resume := none }

def SubscribeRequest.withSnapshot (request : SubscribeRequest) (includeMempoolSnapshot : Bool) :
    SubscribeRequest :=
  { request with includeMempoolSnapshot := includeMempoolSnapshot }

/-- The last request that is not a ping. -/
def latestFilter (initial : SubscribeRequest) (requests : List SubscribeRequest) :
    SubscribeRequest :=
  requests.foldl (fun latest request => if request.ping.isNone then request else latest) initial

theorem latestFilter_append (initial : SubscribeRequest)
    (requests requests' : List SubscribeRequest) : latestFilter initial (requests ++ requests') =
      latestFilter (latestFilter initial requests) requests' :=
  List.foldl_append

theorem latestFilter_of_ping {request : SubscribeRequest} {ping : SubscribeRequestPing}
    (h : request.ping = some ping) (initial : SubscribeRequest) :
    latestFilter initial [request] = initial := by
  rw [latestFilter, List.foldl_cons, h]
  rfl

theorem latestFilter_of_filter {request : SubscribeRequest} (h : request.ping = none)
    (initial : SubscribeRequest) : latestFilter initial [request] = request := by
  rw [latestFilter, List.foldl_cons, h]
  rfl

section
variable [ZakuraChain]

/-- Compiling a filter does not read the replay fields. -/
theorem EventFilter.new_congr {request request' : SubscribeRequest}
    (h : request.withoutReplay = request'.withoutReplay) (limits : FilterLimits) :
    EventFilter.new request limits = EventFilter.new request' limits := by
  have hfields : ∀ request : SubscribeRequest,
      EventFilter.new request.withoutReplay limits = EventFilter.new request limits :=
    fun _ => rfl
  rw [← hfields request, h, hfields request']

end

/-! ## The client's part -/

namespace Client

variable {reconnect : Option ReconnectConfig} {client client' : Client}

/-- A filter command replaces the current request. -/
theorem takeCommand_of_filter (client : Client) {request : SubscribeRequest}
    (h : request.ping = none) :
    client.commandRequest request =
        { request with
          fromHeight := none
          resume := none
          includeMempoolSnapshot := client.currentRequest.includeMempoolSnapshot } ∧
      (client.takeCommand request).currentRequest = client.commandRequest request := by
  have hnone : request.ping.isNone = true := by
    rw [h]
    rfl
  rw [takeCommand, commandRequest, if_pos hnone, if_pos hnone]
  exact ⟨rfl, rfl⟩

/-- A ping is passed on, whatever else the request carries. -/
theorem takeCommand_of_ping (client : Client) {request : SubscribeRequest}
    {ping : SubscribeRequestPing} (h : request.ping = some ping) :
    client.commandRequest request = request ∧ client.takeCommand request = client := by
  have hsome : ¬ request.ping.isNone = true := by
    rw [h]
    exact Bool.false_ne_true
  rw [takeCommand, commandRequest, if_neg hsome, if_neg hsome]
  exact ⟨rfl, rfl⟩

theorem disconnected_not_active (reconnect : Option ReconnectConfig) (client : Client)
    (cause : Disconnect) : (client.disconnected reconnect cause).phase ≠ .active := by
  intro hactive
  cases reconnect with
  | none => cases cause <;> cases hactive
  | some config =>
    rcases disconnected_spec config client cause with ⟨_, -, heq⟩ | heq | ⟨-, -, heq⟩
    all_goals
      rw [heq] at hactive
      cases hactive

/-- A command that is not sent ends the subscription. -/
theorem not_active_of_unsent {request : SubscribeRequest}
    (h : client.step reconnect (.command request false) = some client') :
    client'.phase ≠ .active := by
  unfold Client.step at h
  split at h
  · rename_i hevent
    cases hevent
    split at h
    · dsimp only at h
      rw [if_neg Bool.false_ne_true] at h
      rw [← Option.some.inj h]
      exact disconnected_not_active reconnect _ _
    · cases h
  all_goals first | (rename_i hevent; cases hevent) | cases h

/-- The current request behind an event. -/
def requestAfter (client : Client) : ClientEvent → SubscribeRequest
  | .command request _ => (client.takeCommand request).currentRequest
  | .commandsClosed | .message _ _ | .disconnect _ | .attempt _ => client.currentRequest

/-- The current request, and the one in hand while connecting, are `request` up
to the replay fields. -/
structure Asks (client : Client) (request : SubscribeRequest) : Prop where
  current : client.currentRequest.withoutReplay = request.withoutReplay
  connecting : ∀ inHand retries skipped, client.phase = .connecting inHand retries skipped →
    inHand.withoutReplay = request.withoutReplay

theorem Asks.congr {request request' : SubscribeRequest} (h : client.Asks request)
    (heq : request'.withoutReplay = request.withoutReplay) : client.Asks request' :=
  ⟨h.current.trans heq.symm, fun inHand retries skipped hphase =>
    (h.connecting inHand retries skipped hphase).trans heq.symm⟩

theorem asks_of_not_connecting {request : SubscribeRequest}
    (hcurrent : client.currentRequest.withoutReplay = request.withoutReplay)
    (hphase : client.phase = .active ∨ client.phase = .stopped) : client.Asks request := by
  refine ⟨hcurrent, fun inHand retries skipped hconnecting => ?_⟩
  rw [hconnecting] at hphase
  rcases hphase with h | h <;> cases h

theorem withoutReplay_reconnectRequest (config : ReconnectConfig) (client : Client) :
    (client.reconnectRequest config).withoutReplay = client.currentRequest.withoutReplay := by
  unfold reconnectRequest
  split <;> rfl

theorem asks_beginReconnect (config : ReconnectConfig) (client : Client) :
    (client.beginReconnect config).Asks client.currentRequest := by
  refine ⟨rfl, fun inHand retries skipped h => ?_⟩
  cases h
  exact withoutReplay_reconnectRequest config client

/-- A broken stream leaves the filter of the current request. -/
theorem asks_disconnected (reconnect : Option ReconnectConfig) (client : Client)
    (cause : Disconnect) : (client.disconnected reconnect cause).Asks client.currentRequest := by
  cases reconnect with
  | none => cases cause <;> exact asks_of_not_connecting rfl (.inr rfl)
  | some config =>
    rcases disconnected_spec config client cause with ⟨_, -, heq⟩ | heq | ⟨-, -, heq⟩
    · rw [heq]
      exact asks_of_not_connecting rfl (.inr rfl)
    · rw [heq]
      exact asks_beginReconnect config client
    · rw [heq]
      obtain ⟨hcurrent, hconnecting⟩ := asks_beginReconnect config client.forgetReplayPoint
      exact ⟨hcurrent, hconnecting⟩

theorem asks_handleUpdate (reconnect : Option ReconnectConfig) (hactive : client.phase = .active)
    (update : SubscribeUpdate) (accepted : Bool) :
    (client.handleUpdate reconnect update accepted).Asks client.currentRequest := by
  have hforward : (handleUpdate.forward client update accepted).Asks client.currentRequest := by
    have hcurrent := congrArg SubscribeRequest.withoutReplay (currentRequest_observe client update)
    have hphase : (client.observe update).1.phase = .active :=
      (phase_observe client update).trans hactive
    unfold handleUpdate.forward
    dsimp only
    split
    · exact asks_of_not_connecting hcurrent (.inl hphase)
    split
    · exact asks_of_not_connecting hcurrent (.inl hphase)
    · exact asks_of_not_connecting rfl (.inr rfl)
  unfold handleUpdate
  split
  · split
    · exact asks_of_not_connecting rfl (.inl hactive)
    · exact asks_disconnected reconnect client _
  · split
    · exact asks_of_not_connecting rfl (.inl hactive)
    · exact hforward
  · exact hforward

theorem asks_attempted (config : ReconnectConfig) {inHand : SubscribeRequest}
    (h : inHand.withoutReplay = client.currentRequest.withoutReplay) (retries : Nat)
    (skipped : Bool) (result : Except ClientError Unit) :
    (client.attempted config inHand retries skipped result).Asks client.currentRequest := by
  rcases attempted_spec config client inHand retries skipped result with
    ⟨-, heq⟩ | ⟨_, _, -, -, -, heq⟩ | ⟨_, -, heq⟩ | ⟨_, -, -, -, -, heq⟩ |
    ⟨_, _, -, -, -, -, heq⟩
  · rw [heq]
    exact asks_of_not_connecting rfl (.inl rfl)
  · rw [heq]
    refine ⟨rfl, fun inHand' retries' skipped' hphase => ?_⟩
    cases hphase
    exact h
  · rw [heq]
    exact asks_of_not_connecting rfl (.inr rfl)
  · rw [heq]
    refine ⟨rfl, fun inHand' retries' skipped' hphase => ?_⟩
    cases hphase
    exact h
  · rw [heq]
    exact asks_of_not_connecting rfl (.inr rfl)

/-- The choice of a mempool snapshot is part of what is asked for. -/
theorem Asks.includeMempoolSnapshot_eq {request : SubscribeRequest} (h : client.Asks request) :
    client.currentRequest.includeMempoolSnapshot = request.includeMempoolSnapshot := by
  show client.currentRequest.withoutReplay.includeMempoolSnapshot = _
  rw [h.current]
  rfl

/-- A command asks for its filter, with the snapshot choice kept; a ping asks
for nothing new. -/
theorem Asks.requestAfter_command {request : SubscribeRequest} (h : client.Asks request)
    (command : SubscribeRequest) (sent : Bool) :
    (client.requestAfter (.command command sent)).withoutReplay =
      ((latestFilter request [command]).withSnapshot
        request.includeMempoolSnapshot).withoutReplay := by
  cases hping : command.ping with
  | none =>
    obtain ⟨hcommand, htake⟩ := takeCommand_of_filter client hping
    rw [latestFilter_of_filter hping, requestAfter, htake, hcommand, h.includeMempoolSnapshot_eq]
    rfl
  | some ping =>
    obtain ⟨-, htake⟩ := takeCommand_of_ping client hping
    rw [latestFilter_of_ping hping, requestAfter, htake]
    exact h.current

/-- **One step of the client.** Only a command changes what it asks for. -/
theorem Asks.step (h : client.Asks client.currentRequest) {event : ClientEvent}
    (hstep : client.step reconnect event = some client') :
    client'.Asks (client.requestAfter event) := by
  unfold Client.step at hstep
  split at hstep
  · rename_i request sent hphase
    split at hstep
    · have hactive : (client.takeCommand request).phase = .active :=
        (takeCommand_moves client request).2.1.trans hphase
      dsimp only at hstep
      split at hstep
      · rw [← Option.some.inj hstep]
        exact asks_of_not_connecting rfl (.inl hactive)
      · rw [← Option.some.inj hstep]
        exact asks_disconnected reconnect (client.takeCommand request) _
    · cases hstep
  · rename_i hphase
    split at hstep
    · rw [← Option.some.inj hstep]
      exact asks_of_not_connecting rfl (.inl hphase)
    · cases hstep
  · rename_i update accepted hphase
    rw [← Option.some.inj hstep]
    exact asks_handleUpdate reconnect hphase update accepted
  · rename_i cause hphase
    rw [← Option.some.inj hstep]
    exact asks_disconnected reconnect client cause
  · rename_i inHand retries skipped result hphase
    obtain ⟨config, -, rfl⟩ := Option.map_eq_some_iff.mp hstep
    exact asks_attempted config (h.connecting inHand retries skipped hphase) retries skipped result
  · cases hstep

end Client

end ZakuraGrpc
