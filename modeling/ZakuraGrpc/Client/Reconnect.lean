import ZakuraGrpc.Client.Backoff
import ZakuraGrpc.Client.Dedup
import ZakuraGrpc.Client.Resume
import ZakuraGrpc.Geyser.Server
import ZakuraGrpc.Lib.Runs

/-!
# The reconnecting client

`run_subscription` as a step function: each event is one turn of the loop's
`select!`, or one answer to `connect_once` while `reconnect_subscription` waits
for a connection. No time passes in the model, but the delays before the retries
are computed, and the task ends where their computation panics. What goes to the
application is appended to `output`.
-/

namespace ZakuraGrpc

open Runs

/-! ## Configuration -/

inductive ReconnectionPolicy where
  | skipMissedData
  | recoverMissedData (heightRetention : Nat)
  deriving DecidableEq, Repr

inductive ReplayGapPolicy where
  | fail | skipToLive
  deriving DecidableEq, Repr

structure ReconnectConfig where
  backoff : Backoff := {}
  policy : ReconnectionPolicy := .recoverMissedData DedupState.defaultHeightRetention
  checkpointHeightBuffer : Nat := 2
  replayGapPolicy : ReplayGapPolicy := .fail
  deriving DecidableEq, Repr

inductive ClientError where
  | transport (error : String)
  | status (status : Status)
  deriving DecidableEq, Repr

inductive Disconnect where
  | ended
  | status (status : Status)
  deriving DecidableEq, Repr

def unavailable (message : String) : Status := ⟨.unavailable, message⟩

def isRecoverableStatus : Code → Bool
  | .cancelled | .unknown | .deadlineExceeded | .resourceExhausted | .aborted | .internal
  | .unavailable | .dataLoss | .outOfRange => true
  | .ok | .invalidArgument | .notFound | .alreadyExists | .permissionDenied
  | .failedPrecondition | .unimplemented | .unauthenticated => false

def isRecoverableClientError : ClientError → Bool
  | .transport _ => true
  | .status status => status.code != .outOfRange && isRecoverableStatus status.code

def isOutOfRangeError : ClientError → Bool
  | .transport _ => false
  | .status status => status.code == .outOfRange

/-- The status the application gets when reconnecting fails. -/
def reconnectFailure : ClientError → Status
  | .status status => status
  | .transport error => unavailable s!"subscription reconnect failed: {error}"

/-! ## State -/

/-- `connecting` is a call of `connect_with_backoff`: its request and the retries
left. `skipped` holds in the second call, behind a skipped gap. -/
inductive ClientPhase where
  | active
  | connecting (request : SubscribeRequest) (retries : Nat) (skipped : Bool)
  | stopped
  deriving DecidableEq

structure Client where
  currentRequest : SubscribeRequest
  checkpoint : Option Nat
  chain : ChainResumeState
  dedup : Option DedupState
  commandsOpen : Bool := true
  phase : ClientPhase := .active
  output : List (Except Status SubscribeUpdate) := []

inductive ClientEvent where
  /-- The application's next command; `sent` unless the request channel is closed. -/
  | command (request : SubscribeRequest) (sent : Bool)
  | commandsClosed
  /-- The next message; `accepted` unless the channel that the reply or the
  update goes to is closed. -/
  | message (update : SubscribeUpdate) (accepted : Bool)
  | disconnect (disconnect : Disconnect)
  /-- The answer to `connect_once`. -/
  | attempt (result : Except ClientError Unit)

namespace Client

/-- The locals of `run_subscription`, with `initial` accepted by the server. -/
def new (reconnect : Option ReconnectConfig) (initial : SubscribeRequest) : Client where
  currentRequest := initial
  checkpoint := initial.fromHeight
  chain := .fromRequest initial
  dedup := reconnect.bind fun config =>
    match config.policy with
    | .skipMissedData => none
    | .recoverMissedData heightRetention => some (.withHeightRetention heightRetention)

/-- A terminal status for the application. -/
def fail (client : Client) (status : Status) : Client :=
  { client with output := client.output ++ [.error status], phase := .stopped }

/-- The resets of the `SkipToLive` paths. -/
def forgetReplayPoint (client : Client) : Client :=
  { client with
    checkpoint := none
    chain := client.chain.clear
    currentRequest := { client.currentRequest with fromHeight := none, resume := none } }

/-! ## Reconnecting -/

/-- The first request of `reconnect_subscription`. -/
def reconnectRequest (config : ReconnectConfig) (client : Client) : SubscribeRequest :=
  match config.policy with
  | .skipMissedData => { client.currentRequest with fromHeight := none, resume := none }
  | .recoverMissedData _ =>
    let resume := client.chain.checkpoint
    { client.currentRequest with
      resume := resume
      fromHeight := (resume.map (·.finalizedHeight)).or
        ((client.checkpoint.map (· - config.checkpointHeightBuffer)).or
          client.currentRequest.fromHeight) }

/-- The request of the follow-up connection behind a skipped gap. -/
def skipRequest (request : SubscribeRequest) : SubscribeRequest :=
  { request with fromHeight := none }

def beginReconnect (config : ReconnectConfig) (client : Client) : Client :=
  { client with phase := .connecting (client.reconnectRequest config) config.backoff.maxRetries false }

/-- The part of `reconnect_subscription` behind a failed `connect_with_backoff`. -/
def connectFailed (config : ReconnectConfig) (client : Client) (request : SubscribeRequest)
    (skipped : Bool) (error : ClientError) : Client :=
  if skipped || !isOutOfRangeError error || config.replayGapPolicy == .fail then
    client.fail (reconnectFailure error)
  else
    { client.forgetReplayPoint with
      phase := .connecting (skipRequest request) config.backoff.maxRetries true }

/-- One turn of the loop of `connect_with_backoff`, and the delay in front of the
next. -/
def attempted (config : ReconnectConfig) (client : Client) (request : SubscribeRequest)
    (retries : Nat) (skipped : Bool) : Except ClientError Unit → Client
  | .ok () => { client with phase := .active }
  | .error error =>
    if isRecoverableClientError error then
      match retries with
      | 0 => client.connectFailed config request skipped error
      | retries + 1 =>
        match config.backoff.delay (config.backoff.maxRetries - retries) with
        | some _ => { client with phase := .connecting request retries skipped }
        -- `Duration::mul_f64` panics: the task is gone, and the application's stream ends.
        | none => { client with phase := .stopped }
    else client.connectFailed config request skipped error

/-- The second half of the loop of `run_subscription`. -/
def disconnected (reconnect : Option ReconnectConfig) (client : Client) (cause : Disconnect) :
    Client :=
  match reconnect, cause with
  | none, .ended => { client with phase := .stopped }
  | none, .status status => client.fail status
  | some config, .ended => client.beginReconnect config
  | some config, .status status =>
    if !isRecoverableStatus status.code then client.fail status
    else if status.code = .outOfRange then
      match config.replayGapPolicy with
      | .fail => client.fail status
      | .skipToLive => client.forgetReplayPoint.beginReconnect config
    else client.beginReconnect config

/-! ## The two channels of an active subscription -/

/-- A command as it is sent to the server. -/
def commandRequest (client : Client) (request : SubscribeRequest) : SubscribeRequest :=
  if request.ping.isNone then
    { request with
      fromHeight := none
      resume := none
      includeMempoolSnapshot := client.currentRequest.includeMempoolSnapshot }
  else request

def takeCommand (client : Client) (request : SubscribeRequest) : Client :=
  if request.ping.isNone then { client with currentRequest := client.commandRequest request }
  else client

def pingReply (ping : PingUpdate) : SubscribeRequest := { ping := some { id := ping.id } }

/-- The state behind an update that is not a keepalive, and whether it goes to
the application. -/
def observe (client : Client) (update : SubscribeUpdate) : Client × Bool :=
  let observed :=
    { client with
      chain := client.chain.observe update
      checkpoint := (updateHeight update).or client.checkpoint }
  match client.dedup with
  | none => (observed, true)
  | some dedup =>
    let (dedup, fresh) := dedup.observe update
    ({ observed with dedup := some dedup }, fresh)

/-- `handle_update` and its caller. When the application has dropped the stream
the loop ends, and its state is gone. -/
def handleUpdate (reconnect : Option ReconnectConfig) (client : Client) (update : SubscribeUpdate)
    (accepted : Bool) : Client :=
  match update.update with
  | some (.ping _) =>
    if accepted then client
    else client.disconnected reconnect (.status
      (unavailable "subscription request stream closed while replying to server ping"))
  | some (.pong pong) => if pong.id < 0 then client else forward
  | _ => forward
where
  forward : Client :=
    let (observed, fresh) := client.observe update
    if !fresh then observed
    else if accepted then { observed with output := observed.output ++ [.ok update] }
    else { client with phase := .stopped }

def step (reconnect : Option ReconnectConfig) (client : Client) (event : ClientEvent) :
    Option Client :=
  match client.phase, event with
  | .active, .command request sent =>
    if client.commandsOpen then
      let client := client.takeCommand request
      if sent then some client
      else some (client.disconnected reconnect
        (.status (unavailable "subscription request stream closed")))
    else none
  | .active, .commandsClosed =>
    if client.commandsOpen then some { client with commandsOpen := false } else none
  | .active, .message update accepted => some (client.handleUpdate reconnect update accepted)
  | .active, .disconnect cause => some (client.disconnected reconnect cause)
  | .connecting request retries skipped, .attempt result =>
    reconnect.map fun config => client.attempted config request retries skipped result
  | _, _ => none

/-! ## Frames -/

@[simp] theorem chain_observe (client : Client) (update : SubscribeUpdate) :
    (client.observe update).1.chain = client.chain.observe update := by
  unfold observe
  cases client.dedup <;> rfl

@[simp] theorem checkpoint_observe (client : Client) (update : SubscribeUpdate) :
    (client.observe update).1.checkpoint = (updateHeight update).or client.checkpoint := by
  unfold observe
  cases client.dedup <;> rfl

@[simp] theorem output_observe (client : Client) (update : SubscribeUpdate) :
    (client.observe update).1.output = client.output := by
  unfold observe
  cases client.dedup <;> rfl

@[simp] theorem phase_observe (client : Client) (update : SubscribeUpdate) :
    (client.observe update).1.phase = client.phase := by
  unfold observe
  cases client.dedup <;> rfl

@[simp] theorem currentRequest_observe (client : Client) (update : SubscribeUpdate) :
    (client.observe update).1.currentRequest = client.currentRequest := by
  unfold observe
  cases client.dedup <;> rfl

/-- The updates that went to the application. -/
def forwarded (client : Client) : List SubscribeUpdate :=
  client.output.filterMap Except.toOption

@[simp] theorem forwarded_fail (client : Client) (status : Status) :
    (client.fail status).forwarded = client.forwarded := by
  simp [forwarded, fail, Except.toOption]

/-! ## What each step does -/

variable {config : ReconnectConfig} {client client' : Client}

theorem command_spec {request : SubscribeRequest} {sent : Bool}
    (h : client.step (some config) (.command request sent) = some client') :
    client.phase = .active ∧
      (client' = client.takeCommand request ∨
        client' = (client.takeCommand request).disconnected (some config)
          (.status (unavailable "subscription request stream closed"))) := by
  unfold step at h
  split at h
  · rename_i hphase hevent
    cases hevent
    refine ⟨hphase, ?_⟩
    split at h
    · dsimp only at h
      split at h
      · exact .inl (Option.some.inj h).symm
      · exact .inr (Option.some.inj h).symm
    · cases h
  all_goals first | (rename_i hevent; cases hevent) | cases h

theorem commandsClosed_spec (h : client.step (some config) .commandsClosed = some client') :
    client.phase = .active ∧ client' = { client with commandsOpen := false } := by
  unfold step at h
  split at h
  · rename_i hevent
    cases hevent
  · rename_i hphase hevent
    split at h
    · exact ⟨hphase, (Option.some.inj h).symm⟩
    · cases h
  all_goals first | (rename_i hevent; cases hevent) | cases h

theorem message_spec {update : SubscribeUpdate} {accepted : Bool}
    (h : client.step (some config) (.message update accepted) = some client') :
    client.phase = .active ∧ client' = client.handleUpdate (some config) update accepted := by
  unfold step at h
  split at h
  case h_3 hphase hevent =>
    cases hevent
    exact ⟨hphase, (Option.some.inj h).symm⟩
  all_goals first | (rename_i hevent; cases hevent) | cases h

theorem disconnect_spec {cause : Disconnect}
    (h : client.step (some config) (.disconnect cause) = some client') :
    client.phase = .active ∧ client' = client.disconnected (some config) cause := by
  unfold step at h
  split at h
  case h_4 hphase hevent =>
    cases hevent
    exact ⟨hphase, (Option.some.inj h).symm⟩
  all_goals first | (rename_i hevent; cases hevent) | cases h

theorem attempt_spec {result : Except ClientError Unit}
    (h : client.step (some config) (.attempt result) = some client') :
    ∃ request retries skipped, client.phase = .connecting request retries skipped ∧
      client' = client.attempted config request retries skipped result := by
  unfold step at h
  split at h
  case h_5 request retries skipped _ hphase hevent =>
    cases hevent
    exact ⟨request, retries, skipped, hphase, (Option.some.inj h).symm⟩
  all_goals first | (rename_i hevent; cases hevent) | cases h

/-- A stopped client takes no step. -/
theorem active_of_step {event : ClientEvent}
    (h : client.step (some config) event = some client') : client.phase ≠ .stopped := by
  intro hstopped
  unfold step at h
  rw [hstopped] at h
  cases h

/-- A broken stream ends the client, begins a reconnect, or begins one behind a
skipped gap. -/
theorem disconnected_spec (config : ReconnectConfig) (client : Client) (cause : Disconnect) :
    (∃ status, cause = .status status ∧
      client.disconnected (some config) cause = client.fail status) ∨
    client.disconnected (some config) cause = client.beginReconnect config ∨
    (config.replayGapPolicy = .skipToLive ∧
      (∃ status, cause = .status status ∧ status.code = .outOfRange) ∧
      client.disconnected (some config) cause =
        client.forgetReplayPoint.beginReconnect config) := by
  cases cause with
  | ended => exact .inr (.inl rfl)
  | status status =>
    unfold disconnected
    dsimp only
    split
    · exact .inl ⟨status, rfl, rfl⟩
    split
    · rename_i hcode
      split
      · exact .inl ⟨status, rfl, rfl⟩
      · rename_i hpolicy
        exact .inr (.inr ⟨hpolicy, ⟨status, rfl, hcode⟩, rfl⟩)
    · exact .inr (.inl rfl)

/-- An answer to a connection attempt makes the client active, leads to a retry,
ends it, begins the follow-up connection behind a skipped gap, or leads to a retry
that has no delay. -/
theorem attempted_spec (config : ReconnectConfig) (client : Client) (request : SubscribeRequest)
    (retries : Nat) (skipped : Bool) (result : Except ClientError Unit) :
    (result = .ok () ∧
      client.attempted config request retries skipped result = { client with phase := .active }) ∨
    (∃ error retries', result = .error error ∧ isRecoverableClientError error = true ∧
      retries = retries' + 1 ∧ client.attempted config request retries skipped result =
        { client with phase := .connecting request retries' skipped }) ∨
    (∃ error, result = .error error ∧
      client.attempted config request retries skipped result =
        client.fail (reconnectFailure error)) ∨
    (∃ error, result = .error error ∧ config.replayGapPolicy = .skipToLive ∧
      isOutOfRangeError error = true ∧ skipped = false ∧
      client.attempted config request retries skipped result =
        { client.forgetReplayPoint with
          phase := .connecting (skipRequest request) config.backoff.maxRetries true }) ∨
    (∃ error retries', result = .error error ∧ isRecoverableClientError error = true ∧
      retries = retries' + 1 ∧
      config.backoff.delay (config.backoff.maxRetries - retries') = none ∧
      client.attempted config request retries skipped result =
        { client with phase := .stopped }) := by
  have hfailed : ∀ error, client.connectFailed config request skipped error =
        client.fail (reconnectFailure error) ∨
      (config.replayGapPolicy = .skipToLive ∧ isOutOfRangeError error = true ∧ skipped = false ∧
        client.connectFailed config request skipped error =
          { client.forgetReplayPoint with
            phase := .connecting (skipRequest request) config.backoff.maxRetries true }) := by
    intro error
    unfold connectFailed
    split
    · exact .inl rfl
    · rename_i hskip
      right
      simp only [Bool.or_eq_true, Bool.not_eq_true', beq_iff_eq, not_or, Bool.not_eq_true,
        Bool.not_eq_false] at hskip
      obtain ⟨⟨hskipped, hrange⟩, hpolicy⟩ := hskip
      refine ⟨?_, hrange, hskipped, rfl⟩
      cases hp : config.replayGapPolicy with
      | fail => exact absurd hp hpolicy
      | skipToLive => rfl
  cases result with
  | ok value => exact .inl ⟨rfl, rfl⟩
  | error error =>
    right
    unfold attempted
    dsimp only
    split
    · rename_i hrecoverable
      cases retries with
      | zero =>
        rcases hfailed error with hfail | ⟨hpolicy, hrange, hskipped, hskip⟩
        · exact .inr (.inl ⟨error, rfl, hfail⟩)
        · exact .inr (.inr (.inl ⟨error, rfl, hpolicy, hrange, hskipped, hskip⟩))
      | succ retries =>
        cases hdelay : config.backoff.delay (config.backoff.maxRetries - retries) with
        | some delay => exact .inl ⟨error, retries, rfl, hrecoverable, rfl, by simp only [hdelay]⟩
        | none =>
          exact .inr (.inr (.inr ⟨error, retries, rfl, hrecoverable, rfl, hdelay,
            by simp only [hdelay]⟩))
    · rcases hfailed error with hfail | ⟨hpolicy, hrange, hskipped, hskip⟩
      · exact .inr (.inl ⟨error, rfl, hfail⟩)
      · exact .inr (.inr (.inl ⟨error, rfl, hpolicy, hrange, hskipped, hskip⟩))

/-- A message is a keepalive, or it is observed. -/
theorem handleUpdate_spec (config : ReconnectConfig) (client : Client) (update : SubscribeUpdate)
    (accepted : Bool) :
    (updateHeight update = none ∧
      (client.handleUpdate (some config) update accepted = client ∨
        client.handleUpdate (some config) update accepted =
          client.disconnected (some config) (.status (unavailable
            "subscription request stream closed while replying to server ping")))) ∨
    ((client.observe update).2 = false ∧
      client.handleUpdate (some config) update accepted = (client.observe update).1) ∨
    (accepted = true ∧ (client.observe update).2 = true ∧
      client.handleUpdate (some config) update accepted =
        { (client.observe update).1 with
          output := (client.observe update).1.output ++ [.ok update] }) ∨
    (accepted = false ∧ (client.observe update).2 = true ∧
      client.handleUpdate (some config) update accepted = { client with phase := .stopped }) := by
  have hforward : ((client.observe update).2 = false ∧
        handleUpdate.forward client update accepted = (client.observe update).1) ∨
      (accepted = true ∧ (client.observe update).2 = true ∧
        handleUpdate.forward client update accepted =
          { (client.observe update).1 with
            output := (client.observe update).1.output ++ [.ok update] }) ∨
      (accepted = false ∧ (client.observe update).2 = true ∧
        handleUpdate.forward client update accepted = { client with phase := .stopped }) := by
    unfold handleUpdate.forward
    cases hfresh : (client.observe update).2 with
    | false => exact .inl ⟨rfl, by simp [hfresh]⟩
    | true =>
      right
      cases accepted with
      | false => exact .inr ⟨rfl, rfl, by simp [hfresh]⟩
      | true => exact .inl ⟨rfl, rfl, by simp [hfresh]⟩
  unfold handleUpdate
  split
  · rename_i hping
    refine .inl ⟨by rw [updateHeight, hping], ?_⟩
    split
    · exact .inl rfl
    · exact .inr rfl
  · rename_i hpong
    split
    · exact .inl ⟨by rw [updateHeight, hpong], .inl rfl⟩
    · exact .inr hforward
  · exact .inr hforward

/-! ## The replay state across a step -/

/-- The step gives up the replay point: `OUT_OF_RANGE` under `SkipToLive`. -/
def SkipsGap (config : ReconnectConfig) (client : Client) : ClientEvent → Prop
  | .disconnect (.status status) =>
    config.replayGapPolicy = .skipToLive ∧ status.code = .outOfRange
  | .attempt (.error error) =>
    config.replayGapPolicy = .skipToLive ∧ isOutOfRangeError error = true ∧
      ∃ request retries, client.phase = .connecting request retries false
  | _ => False

/-- What a client resumes from and what the application was sent stay. -/
structure Keeps (client client' : Client) : Prop where
  chain : client'.chain = client.chain
  checkpoint : client'.checkpoint = client.checkpoint
  dedup : client'.dedup = client.dedup
  forwarded : client'.forwarded = client.forwarded

/-- An update is observed, and forwarded unless it is suppressed. -/
structure Observes (client client' : Client) (update : SubscribeUpdate) : Prop where
  chain : client'.chain = client.chain.observe update
  checkpoint : client'.checkpoint = (updateHeight update).or client.checkpoint
  dedup : client'.dedup = (client.observe update).1.dedup
  forwarded : client'.forwarded =
    client.forwarded ++ if (client.observe update).2 then [update] else []
  currentRequest : client'.currentRequest = client.currentRequest

/-- The replay point is given up. -/
structure Forgets (client client' : Client) : Prop where
  chain : client'.chain = client.chain.clear
  checkpoint : client'.checkpoint = none
  dedup : client'.dedup = client.dedup
  forwarded : client'.forwarded = client.forwarded
  currentRequest : client'.currentRequest =
    { client.currentRequest with fromHeight := none, resume := none }

/-- The three things a step can do to the replay state. A message that is not
observed is a keepalive, or finds the application gone. -/
inductive Moves (config : ReconnectConfig) (client client' : Client) : ClientEvent → Prop where
  | stay (event : ClientEvent) (keeps : client.Keeps client')
      (currentRequest : client'.currentRequest = client.currentRequest ∨
        ∃ request sent, event = .command request sent ∧ request.ping = none ∧
          client'.currentRequest = client.commandRequest request)
      (quiet : ∀ update accepted, event = .message update accepted →
        updateHeight update = none ∨ client'.phase = .stopped) :
      Moves config client client' event
  | observe (update : SubscribeUpdate) (accepted : Bool) (observes : client.Observes client' update) :
      Moves config client client' (.message update accepted)
  | forget (event : ClientEvent) (skips : client.SkipsGap config event)
      (forgets : client.Forgets client') : Moves config client client' event

/-- Under `Fail` no gap is skipped. -/
theorem not_skipsGap (hfail : config.replayGapPolicy = .fail) (event : ClientEvent) :
    ¬ client.SkipsGap config event := by
  intro hskips
  unfold SkipsGap at hskips
  split at hskips
  · rw [hfail] at hskips
    cases hskips.1
  · rw [hfail] at hskips
    cases hskips.1
  · exact hskips

/-- What the duplicate suppression makes of an observed update. -/
theorem dedup_observe {dedup : DedupState} {update : SubscribeUpdate}
    (h : (client.observe update).1.dedup = some dedup) : ∃ before, client.dedup = some before ∧
      dedup = (before.observe update).1 ∧
      (client.observe update).2 = (before.observe update).2 := by
  unfold observe at h ⊢
  cases hdedup : client.dedup with
  | none =>
    simp [hdedup] at h
  | some before =>
    simp only [hdedup] at h ⊢
    exact ⟨before, rfl, (Option.some.inj h).symm, rfl⟩

theorem suppressed_observe {update : SubscribeUpdate} (h : (client.observe update).2 = false) :
    ∃ dedup, client.dedup = some dedup ∧ eventKey update ∈ dedup.seen ∧
      updateHeight update ≠ none := by
  unfold observe at h
  cases hdedup : client.dedup with
  | none =>
    rw [hdedup] at h
    cases h
  | some dedup =>
    rw [hdedup] at h
    obtain ⟨hheight, hseen, -⟩ := DedupState.observe_false h
    exact ⟨dedup, rfl, hseen, Option.isSome_iff_ne_none.mp hheight⟩

theorem keeps_fail (client : Client) (status : Status) : client.Keeps (client.fail status) :=
  ⟨rfl, rfl, rfl, forwarded_fail client status⟩

theorem disconnected_moves (config : ReconnectConfig) (client : Client) (cause : Disconnect) :
    (client.Keeps (client.disconnected (some config) cause) ∧
      (client.disconnected (some config) cause).currentRequest = client.currentRequest) ∨
    (config.replayGapPolicy = .skipToLive ∧
      (∃ status, cause = .status status ∧ status.code = .outOfRange) ∧
      client.Forgets (client.disconnected (some config) cause)) := by
  rcases disconnected_spec config client cause with
    ⟨status, -, heq⟩ | heq | ⟨hpolicy, hstatus, heq⟩
  · rw [heq]
    exact .inl ⟨keeps_fail client status, rfl⟩
  · rw [heq]
    exact .inl ⟨⟨rfl, rfl, rfl, rfl⟩, rfl⟩
  · rw [heq]
    exact .inr ⟨hpolicy, hstatus, rfl, rfl, rfl, rfl, rfl⟩

/-- A lost channel is no refusal. -/
theorem lost_moves (config : ReconnectConfig) (client : Client) (message : String) :
    client.Keeps (client.disconnected (some config) (.status (unavailable message))) ∧
      (client.disconnected (some config) (.status (unavailable message))).currentRequest =
        client.currentRequest := by
  rcases disconnected_moves config client (.status (unavailable message)) with
    hkeeps | ⟨-, ⟨status, hstatus, hcode⟩, -⟩
  · exact hkeeps
  · cases hstatus
    cases hcode

theorem takeCommand_moves (client : Client) (request : SubscribeRequest) :
    client.Keeps (client.takeCommand request) ∧
      (client.takeCommand request).phase = client.phase ∧
      ((client.takeCommand request).currentRequest = client.currentRequest ∨
        request.ping = none ∧
          (client.takeCommand request).currentRequest = client.commandRequest request) := by
  unfold takeCommand
  split
  · rename_i hping
    exact ⟨⟨rfl, rfl, rfl, rfl⟩, rfl, .inr ⟨Option.isNone_iff_eq_none.mp hping, rfl⟩⟩
  · exact ⟨⟨rfl, rfl, rfl, rfl⟩, rfl, .inl rfl⟩

/-- **What a step does.** -/
theorem step_moves {event : ClientEvent} (hstep : client.step (some config) event = some client') :
    client.Moves config client' event := by
  cases event with
  | command request sent =>
    obtain ⟨hkeeps, -, hrequest⟩ := takeCommand_moves client request
    obtain ⟨hkeeps', hrequest'⟩ := lost_moves config (client.takeCommand request)
      "subscription request stream closed"
    obtain ⟨-, rfl | rfl⟩ := command_spec hstep
    · refine .stay _ hkeeps (hrequest.imp id fun ⟨hping, heq⟩ => ⟨_, _, rfl, hping, heq⟩) ?_
      intro _ _ hevent
      cases hevent
    · refine .stay _ ⟨hkeeps'.chain.trans hkeeps.chain, hkeeps'.checkpoint.trans hkeeps.checkpoint,
        hkeeps'.dedup.trans hkeeps.dedup, hkeeps'.forwarded.trans hkeeps.forwarded⟩ ?_ ?_
      · rw [hrequest']
        exact hrequest.imp id fun ⟨hping, heq⟩ => ⟨_, _, rfl, hping, heq⟩
      · intro _ _ hevent
        cases hevent
  | commandsClosed =>
    obtain ⟨-, rfl⟩ := commandsClosed_spec hstep
    refine .stay _ ⟨rfl, rfl, rfl, rfl⟩ (.inl rfl) ?_
    intro _ _ hevent
    cases hevent
  | message update accepted =>
    obtain ⟨-, rfl⟩ := message_spec hstep
    rcases handleUpdate_spec config client update accepted with
      ⟨hnone, heq | heq⟩ | ⟨hsuppressed, heq⟩ | ⟨-, hfresh, heq⟩ | ⟨-, -, heq⟩
    · rw [heq]
      refine .stay _ ⟨rfl, rfl, rfl, rfl⟩ (.inl rfl) fun _ _ hevent => ?_
      cases hevent
      exact .inl hnone
    · rw [heq]
      obtain ⟨hkeeps, hrequest⟩ := lost_moves config client
        "subscription request stream closed while replying to server ping"
      refine .stay _ hkeeps (.inl hrequest) fun _ _ hevent => ?_
      cases hevent
      exact .inl hnone
    · rw [heq]
      refine .observe update accepted ⟨chain_observe client update,
        checkpoint_observe client update, rfl, ?_, currentRequest_observe client update⟩
      simp [forwarded, hsuppressed]
    · rw [heq]
      refine .observe update accepted ⟨chain_observe client update,
        checkpoint_observe client update, rfl, ?_, currentRequest_observe client update⟩
      simp [forwarded, hfresh, Except.toOption]
    · rw [heq]
      exact .stay _ ⟨rfl, rfl, rfl, rfl⟩ (.inl rfl) fun _ _ _ => .inr rfl
  | disconnect cause =>
    obtain ⟨-, rfl⟩ := disconnect_spec hstep
    rcases disconnected_moves config client cause with
      ⟨hkeeps, hrequest⟩ | ⟨hpolicy, ⟨status, rfl, hcode⟩, hforgets⟩
    · refine .stay _ hkeeps (.inl hrequest) ?_
      intro _ _ hevent
      cases hevent
    · exact .forget _ ⟨hpolicy, hcode⟩ hforgets
  | attempt result =>
    obtain ⟨request, retries, skipped, hphase, rfl⟩ := attempt_spec hstep
    have hquiet : ∀ {client' : Client} update accepted,
        ClientEvent.attempt result = .message update accepted →
          updateHeight update = none ∨ client'.phase = .stopped := by
      intro _ _ _ hevent
      cases hevent
    rcases attempted_spec config client request retries skipped result with
      ⟨-, heq⟩ | ⟨_, _, -, -, -, heq⟩ | ⟨error, -, heq⟩ |
      ⟨error, rfl, hpolicy, hrange, rfl, heq⟩ | ⟨_, _, -, -, -, -, heq⟩
    · rw [heq]
      exact .stay _ ⟨rfl, rfl, rfl, rfl⟩ (.inl rfl) hquiet
    · rw [heq]
      exact .stay _ ⟨rfl, rfl, rfl, rfl⟩ (.inl rfl) hquiet
    · rw [heq]
      exact .stay _ (keeps_fail client _) (.inl rfl) hquiet
    · rw [heq]
      exact .forget _ ⟨hpolicy, hrange, request, retries, hphase⟩ ⟨rfl, rfl, rfl, rfl, rfl⟩
    · rw [heq]
      exact .stay _ ⟨rfl, rfl, rfl, rfl⟩ (.inl rfl) hquiet

/-- What a step forwards was forwarded before or is the message received. -/
theorem forwarded_step {event : ClientEvent}
    (hstep : client.step (some config) event = some client') :
    client.forwarded ⊆ client'.forwarded ∧ ∀ message ∈ client'.forwarded,
      message ∈ client.forwarded ∨ ∃ accepted, event = .message message accepted := by
  cases step_moves hstep with
  | stay _ hkeeps hcurrent hquiet =>
    rw [hkeeps.forwarded]
    exact ⟨List.Subset.refl _, fun message hmem => .inl hmem⟩
  | observe update accepted hobserves =>
    rw [hobserves.forwarded]
    refine ⟨List.subset_append_left _ _, fun message hmem => ?_⟩
    rcases List.mem_append.mp hmem with hmem | hmem
    · exact .inl hmem
    · split at hmem
      · rw [List.mem_singleton.mp hmem]
        exact .inr ⟨accepted, rfl⟩
      · cases hmem
  | forget _ hskips hforgets =>
    rw [hforgets.forwarded]
    exact ⟨List.Subset.refl _, fun message hmem => .inl hmem⟩

/-- **What a step connects with**: a request made of the new state, the request
in hand, or the one in hand without its height behind a skipped gap. -/
theorem step_connects {event : ClientEvent}
    (hstep : client.step (some config) event = some client') {request : SubscribeRequest}
    {retries : Nat} {skipped : Bool}
    (hphase : client'.phase = .connecting request retries skipped) :
    (skipped = false ∧ request = client'.reconnectRequest config) ∨
    (∃ retries', client.phase = .connecting request retries' skipped ∧
      client' = { client with phase := .connecting request retries skipped }) ∨
    (skipped = true ∧ config.replayGapPolicy = .skipToLive ∧ ∃ request' retries' error,
      client.phase = .connecting request' retries' false ∧ event = .attempt (.error error) ∧
      isOutOfRangeError error = true ∧ request = skipRequest request') := by
  have hbroken : ∀ (client : Client) cause,
      (client.disconnected (some config) cause).phase = .connecting request retries skipped →
      skipped = false ∧
        request = (client.disconnected (some config) cause).reconnectRequest config := by
    intro client cause hconnecting
    rcases disconnected_spec config client cause with ⟨_, -, heq⟩ | heq | ⟨-, -, heq⟩
    all_goals
      rw [heq] at hconnecting ⊢
      cases hconnecting
    · exact ⟨rfl, rfl⟩
    · exact ⟨rfl, rfl⟩
  cases event with
  | command command sent =>
    obtain ⟨hactive, rfl | rfl⟩ := command_spec hstep
    · rw [(takeCommand_moves client command).2.1, hactive] at hphase
      cases hphase
    · exact .inl (hbroken _ _ hphase)
  | commandsClosed =>
    obtain ⟨hactive, rfl⟩ := commandsClosed_spec hstep
    exact absurd (hactive.symm.trans hphase) (by simp)
  | message update accepted =>
    obtain ⟨hactive, rfl⟩ := message_spec hstep
    rcases handleUpdate_spec config client update accepted with
      ⟨-, heq | heq⟩ | ⟨-, heq⟩ | ⟨-, -, heq⟩ | ⟨-, -, heq⟩
    · rw [heq, hactive] at hphase
      cases hphase
    · rw [heq] at hphase ⊢
      exact .inl (hbroken _ _ hphase)
    · rw [heq, phase_observe, hactive] at hphase
      cases hphase
    · rw [heq] at hphase
      change (client.observe update).1.phase = _ at hphase
      rw [phase_observe, hactive] at hphase
      cases hphase
    · rw [heq] at hphase
      cases hphase
  | disconnect cause =>
    obtain ⟨-, rfl⟩ := disconnect_spec hstep
    exact .inl (hbroken _ _ hphase)
  | attempt result =>
    obtain ⟨request', retries', skipped', hbefore, rfl⟩ := attempt_spec hstep
    rcases attempted_spec config client request' retries' skipped' result with
      ⟨-, heq⟩ | ⟨_, _, -, -, -, heq⟩ | ⟨_, -, heq⟩ | ⟨error, rfl, hpolicy, hrange, rfl, heq⟩ |
      ⟨_, _, -, -, -, -, heq⟩
    · rw [heq] at hphase
      cases hphase
    · rw [heq] at hphase ⊢
      cases hphase
      exact .inr (.inl ⟨retries', hbefore, rfl⟩)
    · rw [heq] at hphase
      cases hphase
    · rw [heq] at hphase
      cases hphase
      exact .inr (.inr ⟨rfl, hpolicy, request', retries', error, hbefore, rfl, hrange, rfl⟩)
    · rw [heq] at hphase
      cases hphase

/-- Under `Fail` the request in hand stays the client's own. -/
theorem request_step (hfail : config.replayGapPolicy = .fail)
    (h : ∀ request retries skipped, client.phase = .connecting request retries skipped →
      request = client.reconnectRequest config) {event : ClientEvent}
    (hstep : client.step (some config) event = some client') {request : SubscribeRequest}
    {retries : Nat} {skipped : Bool}
    (hphase : client'.phase = .connecting request retries skipped) :
    request = client'.reconnectRequest config := by
  rcases step_connects hstep hphase with
    ⟨-, hrequest⟩ | ⟨retries', hbefore, rfl⟩ | ⟨-, hpolicy, -⟩
  · exact hrequest
  · exact h request retries' skipped hbefore
  · rw [hfail] at hpolicy
    cases hpolicy

end Client

end ZakuraGrpc
