import ZakuraGrpc.Client.Reconnect
import ZakuraGrpc.Lib.Budget

/-!
# What the application sees

Reconnects are invisible: whatever breaks in between, the application reads messages
of the server in the order they came in, none of them a keepalive, and nothing is
held back but repeats (`application_sees`). After them comes at most one status, which
names what stopped the client (`stop_explained`); a task that panics over its retry
schedule reports none. An outage ends within a fixed number of connection attempts
(`outages_bounded`).
-/

namespace ZakuraGrpc

open Runs

/-- A ping of the server, or the pong to one of the client's replies. -/
def isKeepalive (update : SubscribeUpdate) : Bool :=
  match update.update with
  | some (.ping _) => true
  | some (.pong pong) => pong.id < 0
  | _ => false

def ClientEvent.received : ClientEvent → Option SubscribeUpdate
  | .message update _ => some update
  | .command _ _ | .commandsClosed | .disconnect _ | .attempt _ => none

def ClientEvent.isAttempt : ClientEvent → Bool
  | .attempt _ => true
  | .command _ _ | .commandsClosed | .message _ _ | .disconnect _ => false

/-- The events that can break the stream. -/
def ClientEvent.breaks : ClientEvent → Bool
  | .disconnect _ | .command _ false | .message _ false => true
  | .command _ true | .message _ true | .commandsClosed | .attempt _ => false

namespace Client

/-- The messages received for the application. -/
def shown (events : List ClientEvent) : List SubscribeUpdate :=
  (events.filterMap ClientEvent.received).filter fun update => !isKeepalive update

/-! ## One turn -/

/-- A broken stream that the client does not open again. -/
def GivesUp (reconnect : Option ReconnectConfig) (status : Status) : Prop :=
  ∀ config, reconnect = some config → isRecoverableStatus status.code = false ∨
    status.code = .outOfRange ∧ config.replayGapPolicy = .fail

/-- Why a client stops, and the status that the application gets. -/
inductive Stops (reconnect : Option ReconnectConfig) (client : Client) :
    ClientEvent → Option Status → Prop where
  | dropped (update : SubscribeUpdate) (hshown : isKeepalive update = false)
      (hfresh : (client.observe update).2 = true) :
      Stops reconnect client (.message update false) none
  | ended (hnever : reconnect = none) : Stops reconnect client (.disconnect .ended) none
  | broken (status : Status) (hgives : GivesUp reconnect status) :
      Stops reconnect client (.disconnect (.status status)) (some status)
  | unsent (request : SubscribeRequest) (hnever : reconnect = none) :
      Stops reconnect client (.command request false)
        (some (unavailable "subscription request stream closed"))
  | unanswered (update : SubscribeUpdate) (ping : PingUpdate)
      (hping : update.update = some (.ping ping)) (hnever : reconnect = none) :
      Stops reconnect client (.message update false)
        (some (unavailable "subscription request stream closed while replying to server ping"))
  | unreachable (config : ReconnectConfig) (hconfig : reconnect = some config)
      (request : SubscribeRequest) (retries : Nat) (skipped : Bool) (error : ClientError)
      (hphase : client.phase = .connecting request retries skipped)
      (hlast : retries = 0 ∨ isRecoverableClientError error = false)
      (hkept : isOutOfRangeError error = true →
        skipped = true ∨ config.replayGapPolicy = .fail) :
      Stops reconnect client (.attempt (.error error)) (some (reconnectFailure error))
  | panicked (config : ReconnectConfig) (hconfig : reconnect = some config)
      (request : SubscribeRequest) (retries : Nat) (skipped : Bool) (error : ClientError)
      (hphase : client.phase = .connecting request (retries + 1) skipped)
      (hrecoverable : isRecoverableClientError error = true)
      (hdelay : config.backoff.delay (config.backoff.maxRetries - retries) = none) :
      Stops reconnect client (.attempt (.error error)) none

/-- The client goes on, and the application sees nothing. -/
structure Continues (client client' : Client) : Prop where
  output : client'.output = client.output
  dedup : client'.dedup = client.dedup
  runs : client'.phase ≠ .stopped

/-- The client stops, and the application gets what is reported. -/
structure Ends (client client' : Client) (reported : Option Status) : Prop where
  output : client'.output = client.output ++ reported.toList.map .error
  dedup : client'.dedup = client.dedup
  stopped : client'.phase = .stopped

/-- What one event can do to what the application sees. -/
inductive Turn (reconnect : Option ReconnectConfig) (client client' : Client) :
    ClientEvent → Prop where
  | quiet (event : ClientEvent) (hquiet : ∀ update, event.received = some update →
        isKeepalive update = true) (hcontinues : client.Continues client') :
      Turn reconnect client client' event
  | suppress (update : SubscribeUpdate) (accepted : Bool) (hshown : isKeepalive update = false)
      (hfresh : (client.observe update).2 = false) (heq : client' = (client.observe update).1) :
      Turn reconnect client client' (.message update accepted)
  | forward (update : SubscribeUpdate) (hshown : isKeepalive update = false)
      (hfresh : (client.observe update).2 = true) (heq : client' =
        { (client.observe update).1 with output := client.output ++ [.ok update] }) :
      Turn reconnect client client' (.message update true)
  | stop (event : ClientEvent) (reported : Option Status)
      (hstops : Stops reconnect client event reported) (hends : client.Ends client' reported) :
      Turn reconnect client client' event

section
variable {reconnect : Option ReconnectConfig} {config : ReconnectConfig} {client client' : Client}

theorem ends_silently (client : Client) : client.Ends { client with phase := .stopped } none :=
  ⟨(List.append_nil client.output).symm, rfl, rfl⟩

theorem ends_fail (client : Client) (status : Status) :
    client.Ends (client.fail status) (some status) := ⟨rfl, rfl, rfl⟩

theorem continues_beginReconnect (config : ReconnectConfig) (client : Client) :
    client.Continues (client.beginReconnect config) :=
  ⟨rfl, rfl, fun hphase => nomatch hphase⟩

theorem continues_forget (config : ReconnectConfig) (client : Client) :
    client.Continues (client.forgetReplayPoint.beginReconnect config) :=
  ⟨rfl, rfl, fun hphase => nomatch hphase⟩

/-- A channel that closes is no reason to give up. -/
theorem givesUp_unavailable {message : String} (h : GivesUp reconnect (unavailable message)) :
    reconnect = none := by
  cases reconnect with
  | none => rfl
  | some config =>
    rcases h config rfl with hcode | ⟨hcode, -⟩
    · cases hcode
    · cases hcode

/-- A broken stream begins a reconnect or stops the client. -/
theorem disconnected_status (reconnect : Option ReconnectConfig) (client : Client)
    (status : Status) :
    client.Continues (client.disconnected reconnect (.status status)) ∨
      GivesUp reconnect status ∧
        client.Ends (client.disconnected reconnect (.status status)) (some status) := by
  cases reconnect with
  | none => exact .inr ⟨fun _ hnone => (nomatch hnone), ends_fail client status⟩
  | some config =>
    unfold disconnected
    dsimp only
    split
    · rename_i hrecoverable
      refine .inr ⟨fun _ _ => .inl ?_, ends_fail client status⟩
      rwa [Bool.not_eq_true'] at hrecoverable
    split
    · rename_i hrange
      split
      · rename_i hpolicy
        refine .inr ⟨fun config' heq => .inr ⟨hrange, ?_⟩, ends_fail client status⟩
        cases heq
        exact hpolicy
      · exact .inl (continues_forget config client)
    · exact .inl (continues_beginReconnect config client)

theorem disconnected_ended (reconnect : Option ReconnectConfig) (client : Client) :
    client.Continues (client.disconnected reconnect .ended) ∨
      reconnect = none ∧ client.Ends (client.disconnected reconnect .ended) none := by
  cases reconnect with
  | none => exact .inr ⟨rfl, ends_silently client⟩
  | some config => exact .inl (continues_beginReconnect config client)

/-- A channel that closed takes the turn of a broken stream. -/
theorem turn_of_lost {event : ClientEvent} {message : String}
    (hquiet : ∀ update, event.received = some update → isKeepalive update = true)
    (hstops : reconnect = none → Stops reconnect client event (some (unavailable message)))
    {client₀ : Client} (houtput : client₀.output = client.output)
    (hdedup : client₀.dedup = client.dedup) :
    Turn reconnect client
      (client₀.disconnected reconnect (.status (unavailable message))) event := by
  rcases disconnected_status reconnect client₀ (unavailable message) with hruns | ⟨hgives, hends⟩
  · exact .quiet event hquiet ⟨hruns.output.trans houtput, hruns.dedup.trans hdedup, hruns.runs⟩
  · refine .stop event _ (hstops (givesUp_unavailable hgives))
      ⟨?_, hends.dedup.trans hdedup, hends.stopped⟩
    rw [hends.output, houtput]

theorem turn_of_forward {update : SubscribeUpdate} (accepted : Bool)
    (hshown : isKeepalive update = false) :
    Turn reconnect client (handleUpdate.forward client update accepted)
      (.message update accepted) := by
  unfold handleUpdate.forward
  cases hfresh : (client.observe update).2 with
  | false =>
    simp only [hfresh, Bool.not_false, if_true]
    exact .suppress update accepted hshown hfresh rfl
  | true =>
    simp only [hfresh, Bool.not_true, Bool.false_eq_true, if_false]
    cases accepted with
    | true =>
      rw [if_pos rfl, output_observe]
      exact .forward update hshown hfresh rfl
    | false =>
      rw [if_neg Bool.false_ne_true]
      exact .stop _ none (.dropped update hshown hfresh) (ends_silently client)

theorem turn_of_message (update : SubscribeUpdate) (accepted : Bool)
    (hactive : client.phase = .active) :
    Turn reconnect client (client.handleUpdate reconnect update accepted)
      (.message update accepted) := by
  have hstays : client.Continues client := by
    refine ⟨rfl, rfl, ?_⟩
    rw [hactive]
    exact fun hphase => nomatch hphase
  have hquiet : isKeepalive update = true → ∀ update',
      (ClientEvent.message update accepted).received = some update' →
        isKeepalive update' = true := by
    intro hkeepalive update' heq
    cases heq
    exact hkeepalive
  unfold handleUpdate
  split
  · rename_i ping hping
    have hkeepalive : isKeepalive update = true := by
      unfold isKeepalive
      rw [hping]
    cases accepted with
    | true => exact .quiet _ (hquiet hkeepalive) hstays
    | false =>
      rw [if_neg Bool.false_ne_true]
      exact turn_of_lost (hquiet hkeepalive) (.unanswered update ping hping) rfl rfl
  · rename_i pong hpong
    by_cases hnegative : pong.id < 0
    · rw [if_pos hnegative]
      refine .quiet _ (hquiet ?_) hstays
      unfold isKeepalive
      rw [hpong]
      exact decide_eq_true hnegative
    · rw [if_neg hnegative]
      refine turn_of_forward accepted ?_
      unfold isKeepalive
      rw [hpong]
      exact decide_eq_false hnegative
  · rename_i hnoPing hnoPong
    refine turn_of_forward accepted ?_
    unfold isKeepalive
    split
    · rename_i ping hping
      exact absurd hping (hnoPing ping)
    · rename_i pong hpong
      exact absurd hpong (hnoPong pong)
    · rfl

/-- A failed `connect_with_backoff` stops the client, or goes on behind a skipped gap. -/
theorem connectFailed_outcome (config : ReconnectConfig) (client : Client)
    (request : SubscribeRequest) (skipped : Bool) (error : ClientError) :
    (isOutOfRangeError error = true ∧ skipped = false ∧ config.replayGapPolicy ≠ .fail ∧
        client.connectFailed config request skipped error =
          { client.forgetReplayPoint with
            phase := .connecting (skipRequest request) config.backoff.maxRetries true }) ∨
      (isOutOfRangeError error = true → skipped = true ∨ config.replayGapPolicy = .fail) ∧
        client.connectFailed config request skipped error =
          client.fail (reconnectFailure error) := by
  unfold connectFailed
  by_cases hstop : (skipped || !isOutOfRangeError error || config.replayGapPolicy == .fail) = true
  · rw [if_pos hstop]
    refine .inr ⟨fun hrange => ?_, rfl⟩
    simpa [hrange] using hstop
  · rw [if_neg hstop]
    simp only [Bool.or_eq_true, Bool.not_eq_true', beq_iff_eq, not_or, Bool.not_eq_true,
      Bool.not_eq_false] at hstop
    exact .inl ⟨hstop.1.2, hstop.1.1, hstop.2, rfl⟩

theorem turn_of_attempt (hconfig : reconnect = some config) {request : SubscribeRequest}
    {retries : Nat} {skipped : Bool} (hphase : client.phase = .connecting request retries skipped)
    (result : Except ClientError Unit) :
    Turn reconnect client (client.attempted config request retries skipped result)
      (.attempt result) := by
  have hquiet : ∀ update, (ClientEvent.attempt result).received = some update →
      isKeepalive update = true := fun _ hnone => nomatch hnone
  cases result with
  | ok value => exact .quiet _ hquiet ⟨rfl, rfl, fun hphase => nomatch hphase⟩
  | error error =>
    have hfailed : (retries = 0 ∨ isRecoverableClientError error = false) →
        Turn reconnect client (client.connectFailed config request skipped error)
          (.attempt (.error error)) := by
      intro hlast
      rcases connectFailed_outcome config client request skipped error with
        ⟨-, -, -, heq⟩ | ⟨hkept, heq⟩
      · rw [heq]
        exact .quiet _ hquiet ⟨rfl, rfl, fun hphase => nomatch hphase⟩
      · rw [heq]
        exact .stop _ _ (.unreachable config hconfig request retries skipped error hphase hlast
          hkept) (ends_fail client _)
    unfold attempted
    dsimp only
    by_cases hrecoverable : isRecoverableClientError error = true
    · rw [if_pos hrecoverable]
      cases retries with
      | zero => exact hfailed (.inl rfl)
      | succ retries =>
        dsimp only
        cases hdelay : config.backoff.delay (config.backoff.maxRetries - retries) with
        | some delay => exact .quiet _ hquiet ⟨rfl, rfl, fun hphase => nomatch hphase⟩
        | none =>
          exact .stop _ _ (.panicked config hconfig request retries skipped error hphase
            hrecoverable hdelay) (ends_silently client)
    · rw [if_neg hrecoverable]
      exact hfailed (.inr (Bool.not_eq_true _ ▸ hrecoverable))

theorem turn_of_command (reconnect : Option ReconnectConfig) (request : SubscribeRequest)
    (sent : Bool) (hactive : client.phase = .active) :
    Turn reconnect client
      (if sent then client.takeCommand request
        else (client.takeCommand request).disconnected reconnect
          (.status (unavailable "subscription request stream closed")))
      (.command request sent) := by
  have hquiet : ∀ update, (ClientEvent.command request sent).received = some update →
      isKeepalive update = true := fun _ hnone => nomatch hnone
  have htaken : (client.takeCommand request).output = client.output ∧
      (client.takeCommand request).dedup = client.dedup ∧
      (client.takeCommand request).phase = client.phase := by
    unfold takeCommand
    split <;> exact ⟨rfl, rfl, rfl⟩
  obtain ⟨houtput, hdedup, hphase⟩ := htaken
  cases sent with
  | true =>
    refine .quiet _ hquiet ⟨houtput, hdedup, ?_⟩
    rw [if_pos rfl, hphase, hactive]
    exact fun hphase => nomatch hphase
  | false => exact turn_of_lost hquiet (.unsent request) houtput hdedup

theorem turn_of_disconnect (cause : Disconnect) :
    Turn reconnect client (client.disconnected reconnect cause) (.disconnect cause) := by
  have hquiet : ∀ update, (ClientEvent.disconnect cause).received = some update →
      isKeepalive update = true := fun _ hnone => nomatch hnone
  cases cause with
  | ended =>
    rcases disconnected_ended reconnect client with hruns | ⟨hnever, hends⟩
    · exact .quiet _ hquiet hruns
    · exact .stop _ none (.ended hnever) hends
  | status status =>
    rcases disconnected_status reconnect client status with hruns | ⟨hgives, hends⟩
    · exact .quiet _ hquiet hruns
    · exact .stop _ _ (.broken status hgives) hends

/-- **What one event does.** -/
theorem step_turn {event : ClientEvent} (hstep : client.step reconnect event = some client') :
    Turn reconnect client client' event := by
  unfold step at hstep
  split at hstep
  · rename_i request sent hactive
    have hturn := turn_of_command reconnect request sent hactive
    split at hstep
    · cases sent <;> cases hstep <;> exact hturn
    · cases hstep
  · rename_i hactive
    split at hstep
    · cases hstep
      refine .quiet _ (fun _ hnone => nomatch hnone) ⟨rfl, rfl, ?_⟩
      show client.phase ≠ .stopped
      rw [hactive]
      exact fun hphase => nomatch hphase
    · cases hstep
  · rename_i update accepted hactive
    cases hstep
    exact turn_of_message update accepted hactive
  · cases hstep
    exact turn_of_disconnect _
  · rename_i request retries skipped result hphase
    obtain ⟨config, hconfig, heq⟩ := Option.map_eq_some_iff.mp hstep
    cases heq
    exact turn_of_attempt hconfig hphase result
  · cases hstep

theorem not_stopped_of_step {event : ClientEvent}
    (hstep : client.step reconnect event = some client') : client.phase ≠ .stopped := by
  intro hstopped
  unfold step at hstep
  rw [hstopped] at hstep
  cases hstep

end

/-! ## A run -/

/-- The application already read a block-scoped update of the same number. -/
def Repeats (forwarded : List SubscribeUpdate) (update : SubscribeUpdate) : Prop :=
  updateHeight update ≠ none ∧
    ∃ earlier ∈ forwarded, updateHeight earlier ≠ none ∧ eventKey earlier = eventKey update

/-- The application reads the messages one for one, but for those that repeat what it
read before them. -/
inductive Skims : List SubscribeUpdate → List SubscribeUpdate → Prop where
  | nil : Skims [] []
  | read {messages forwarded : List SubscribeUpdate} (h : Skims messages forwarded)
      (update : SubscribeUpdate) : Skims (messages ++ [update]) (forwarded ++ [update])
  | skip {messages forwarded : List SubscribeUpdate} (h : Skims messages forwarded)
      {update : SubscribeUpdate} (hrepeats : Repeats forwarded update) :
      Skims (messages ++ [update]) forwarded

/-- What the application of a running client has read of the messages received. -/
structure Shows (messages : List SubscribeUpdate) (client : Client) : Prop where
  order : client.forwarded.Sublist messages
  output : client.phase ≠ .stopped → client.output = client.forwarded.map .ok
  kept : client.phase ≠ .stopped → Skims messages client.forwarded
  seen : ∀ dedup, client.dedup = some dedup → ∀ key ∈ dedup.seen,
    ∃ update ∈ client.forwarded, updateHeight update ≠ none ∧ eventKey update = key
  plain : client.phase ≠ .stopped → client.dedup = none → client.forwarded = messages

section
variable {reconnect : Option ReconnectConfig} {client client' : Client}
  {messages : List SubscribeUpdate} {event : ClientEvent} {events : List ClientEvent}

theorem shown_snoc (events : List ClientEvent) (event : ClientEvent) :
    shown (events ++ [event]) =
      shown events ++ event.received.toList.filter fun update => !isKeepalive update := by
  unfold shown
  rw [List.filterMap_append, List.filter_append]
  congr 2

theorem shown_quiet (hquiet : ∀ update, event.received = some update →
    isKeepalive update = true) : shown (events ++ [event]) = shown events := by
  rw [shown_snoc]
  cases hreceived : event.received with
  | none => exact List.append_nil _
  | some update => simp [hquiet update hreceived]

theorem shown_message {update : SubscribeUpdate} {accepted : Bool}
    (hshown : isKeepalive update = false) :
    shown (events ++ [.message update accepted]) = shown events ++ [update] := by
  rw [shown_snoc]
  simp [ClientEvent.received, hshown]

theorem forwarded_of_output (h : client'.output = client.output) :
    client'.forwarded = client.forwarded := by
  unfold forwarded
  rw [h]

/-- A status is no message. -/
theorem Ends.forwarded {reported : Option Status} (h : client.Ends client' reported) :
    client'.forwarded = client.forwarded := by
  unfold Client.forwarded
  rw [h.output]
  cases reported <;> simp [Except.toOption]

theorem shows_new (reconnect : Option ReconnectConfig) (initial : SubscribeRequest) :
    (new reconnect initial).Shows [] := by
  refine ⟨List.Sublist.slnil, fun _ => rfl, fun _ => .nil, ?_, fun _ _ => rfl⟩
  intro dedup hdedup key hmem
  obtain ⟨config, hconfig, hnew⟩ := Option.bind_eq_some_iff.mp hdedup
  cases hpolicy : config.policy with
  | skipMissedData =>
    rw [hpolicy] at hnew
    cases hnew
  | recoverMissedData heightRetention =>
    rw [hpolicy] at hnew
    cases hnew
    exact absurd hmem (Finset.notMem_empty key)

theorem dedup_observe_none_iff (client : Client) (update : SubscribeUpdate) :
    (client.observe update).1.dedup = none ↔ client.dedup = none := by
  unfold observe
  cases client.dedup <;> simp

/-- A suppressed update repeats one that the application read. -/
theorem Shows.repeats (h : client.Shows messages) {update : SubscribeUpdate}
    (hfresh : (client.observe update).2 = false) : Repeats client.forwarded update := by
  obtain ⟨dedup, hdedup, hseen, hheight⟩ := suppressed_observe hfresh
  exact ⟨hheight, h.seen dedup hdedup _ hseen⟩

/-- What is seen behind an update. -/
theorem Shows.seen_observe (h : client.Shows messages) {update : SubscribeUpdate}
    {dedup : DedupState} (hdedup : (client.observe update).1.dedup = some dedup)
    {forwarded : List SubscribeUpdate} (hsubset : client.forwarded ⊆ forwarded)
    (hnew : (client.observe update).2 = true → update ∈ forwarded) (key : EventKey)
    (hmem : key ∈ dedup.seen) :
    ∃ update ∈ forwarded, updateHeight update ≠ none ∧ eventKey update = key := by
  obtain ⟨before, hbefore, rfl, hfresh⟩ := dedup_observe hdedup
  rcases DedupState.mem_seen_observe hmem with hold | ⟨rfl, hheight, haccepted⟩
  · obtain ⟨earlier, hearlier, hrest⟩ := h.seen before hbefore key hold
    exact ⟨earlier, hsubset hearlier, hrest⟩
  · exact ⟨update, hnew (hfresh.trans haccepted), hheight, rfl⟩

theorem Shows.continues (h : client.Shows messages) (hruns : client.phase ≠ .stopped)
    (hcontinues : client.Continues client') : client'.Shows messages := by
  have hforwarded := forwarded_of_output hcontinues.output
  refine ⟨?_, fun _ => ?_, fun _ => ?_, ?_, fun _ hnone => ?_⟩
  · rw [hforwarded]
    exact h.order
  · rw [hcontinues.output, hforwarded]
    exact h.output hruns
  · rw [hforwarded]
    exact h.kept hruns
  · rw [hforwarded, hcontinues.dedup]
    exact h.seen
  · rw [hforwarded]
    exact h.plain hruns (hcontinues.dedup ▸ hnone)

theorem Shows.suppress (h : client.Shows messages) (hruns : client.phase ≠ .stopped)
    {update : SubscribeUpdate} (hfresh : (client.observe update).2 = false) :
    (client.observe update).1.Shows (messages ++ [update]) := by
  have hforwarded : (client.observe update).1.forwarded = client.forwarded :=
    forwarded_of_output (output_observe client update)
  have hrepeats := h.repeats hfresh
  refine ⟨?_, fun _ => ?_, fun _ => ?_, fun dedup hdedup => ?_, fun _ hnone => ?_⟩
  · rw [hforwarded]
    exact h.order.trans (List.sublist_append_left _ _)
  · rw [output_observe, hforwarded]
    exact h.output hruns
  · rw [hforwarded]
    exact (h.kept hruns).skip hrepeats
  · rw [hforwarded]
    refine h.seen_observe hdedup (List.Subset.refl _) fun hnew => ?_
    rw [hfresh] at hnew
    cases hnew
  · obtain ⟨dedup, hdedup, -⟩ := suppressed_observe hfresh
    rw [(dedup_observe_none_iff client update).mp hnone] at hdedup
    cases hdedup

theorem Shows.forward (h : client.Shows messages) (hruns : client.phase ≠ .stopped)
    {update : SubscribeUpdate} (heq : client' =
      { (client.observe update).1 with output := client.output ++ [.ok update] }) :
    client'.Shows (messages ++ [update]) := by
  have hforwarded : client'.forwarded = client.forwarded ++ [update] := by
    rw [heq]
    simp [forwarded, Except.toOption]
  have hdedup : client'.dedup = (client.observe update).1.dedup := by
    rw [heq]
  refine ⟨?_, fun _ => ?_, fun _ => ?_, fun dedup hsome => ?_, fun _ hnone => ?_⟩
  · rw [hforwarded]
    exact h.order.append (List.Sublist.refl _)
  · rw [hforwarded, heq, List.map_append, ← h.output hruns]
    rfl
  · rw [hforwarded]
    exact (h.kept hruns).read update
  · rw [hforwarded]
    rw [hdedup] at hsome
    exact h.seen_observe hsome (List.subset_append_left _ _)
      fun _ => List.mem_append_right _ List.mem_cons_self
  · rw [hdedup] at hnone
    rw [hforwarded, h.plain hruns ((dedup_observe_none_iff client update).mp hnone)]

/-- Behind the end nothing is promised but the order. -/
theorem Shows.ends (h : client.Shows messages) {reported : Option Status}
    (hends : client.Ends client' reported) (more : List SubscribeUpdate) :
    client'.Shows (messages ++ more) := by
  refine ⟨?_, fun hphase => absurd hends.stopped hphase,
    fun hphase => absurd hends.stopped hphase, ?_, fun hphase => absurd hends.stopped hphase⟩
  · rw [hends.forwarded]
    exact h.order.trans (List.sublist_append_left _ _)
  · rw [hends.forwarded, hends.dedup]
    exact h.seen

theorem Shows.turn (h : client.Shows (shown events)) (hruns : client.phase ≠ .stopped)
    (hturn : Turn reconnect client client' event) :
    client'.Shows (shown (events ++ [event])) := by
  cases hturn with
  | quiet _ hquiet hcontinues =>
    rw [shown_quiet hquiet]
    exact h.continues hruns hcontinues
  | suppress update accepted hshown hfresh heq =>
    rw [shown_message hshown, heq]
    exact h.suppress hruns hfresh
  | forward update hshown hfresh heq =>
    rw [shown_message hshown]
    exact h.forward hruns heq
  | stop _ reported hstops hends =>
    rw [shown_snoc]
    exact h.ends hends _

theorem shows_run {initial : SubscribeRequest}
    (hrun : runs (step reconnect) (new reconnect initial) events = some client) :
    client.Shows (shown events) := by
  induction events using List.reverseRecOn generalizing client with
  | nil =>
    cases hrun
    exact shows_new reconnect initial
  | append_singleton events event ih =>
    obtain ⟨before, hbefore, hstep⟩ := runs_snoc.mp hrun
    exact (ih hbefore).turn (not_stopped_of_step hstep) (step_turn hstep)

/-- Without recovery nothing is suppressed. -/
theorem dedup_run (hskips : ∀ config, reconnect = some config → config.policy = .skipMissedData)
    {initial : SubscribeRequest}
    (hrun : runs (step reconnect) (new reconnect initial) events = some client) :
    client.dedup = none := by
  refine runs_invariant (I := fun client : Client => client.dedup = none) ?_ hrun ?_
  · intro client event client' hstep hnone
    cases step_turn hstep with
    | quiet _ _ hcontinues => exact hcontinues.dedup.trans hnone
    | suppress update _ _ _ heq | forward update _ _ heq =>
      rw [heq]
      exact (dedup_observe_none_iff client update).mpr hnone
    | stop _ _ _ hends => exact hends.dedup.trans hnone
  · unfold new
    cases reconnect with
    | none => rfl
    | some config =>
      rw [Option.bind_some, hskips config rfl]

/-- **Reconnects are invisible.** The application reads messages of the server in their
order and no keepalives. While the client runs it has read every message, each as often
as it came, but for repeats of block-scoped ones; without recovery every message. -/
theorem application_sees {initial : SubscribeRequest}
    (hrun : runs (step reconnect) (new reconnect initial) events = some client) :
    client.forwarded.Sublist (shown events) ∧
      (client.phase ≠ .stopped → client.output = client.forwarded.map .ok ∧
        Skims (shown events) client.forwarded ∧
        ((∀ config, reconnect = some config → config.policy = .skipMissedData) →
          client.forwarded = shown events)) := by
  have h := shows_run hrun
  refine ⟨h.order, fun hruns => ⟨h.output hruns, h.kept hruns, fun hskips => ?_⟩⟩
  exact h.plain hruns (dedup_run hskips hrun)

/-- A block, a lost connection, and the block again behind a ping of the server. -/
def interruptedEvents : List ClientEvent :=
  [.message { sequence := 1, update := some (.block { height := 5, hash := "b" }) } true,
   .disconnect .ended, .attempt (.error (.transport "refused")), .attempt (.ok ()),
   .message { update := some (.ping { id := -1 }) } true,
   .message { sequence := 1, update := some (.block { height := 5, hash := "b" }) } true]

theorem application_sees_interrupted : ∃ client,
    runs (step (some {})) (new (some {}) {}) interruptedEvents = some client ∧
      client.forwarded.Sublist (shown interruptedEvents) ∧
      (client.phase ≠ .stopped → client.output = client.forwarded.map .ok ∧
        Skims (shown interruptedEvents) client.forwarded ∧
        ((∀ config : ReconnectConfig, some {} = some config → config.policy = .skipMissedData) →
          client.forwarded = shown interruptedEvents)) := by
  obtain ⟨client, hrun⟩ := Option.isSome_iff_exists.mp
    (show (runs (step (some {})) (new (some {}) {}) interruptedEvents).isSome = true by
      decide +kernel)
  exact ⟨client, hrun, application_sees hrun⟩

/-- **A stop is explained.** What stopped the client is its last event, and the
application gets the status that belongs to it, behind the messages it read. -/
theorem stop_explained {initial : SubscribeRequest}
    (hrun : runs (step reconnect) (new reconnect initial) events = some client)
    (hstopped : client.phase = .stopped) :
    ∃ before event last reported, events = before ++ [event] ∧
      runs (step reconnect) (new reconnect initial) before = some last ∧
      Stops reconnect last event reported ∧
      client.output = last.forwarded.map .ok ++ reported.toList.map .error := by
  rcases List.eq_nil_or_concat events with rfl | ⟨before, event, rfl⟩
  · cases hrun
    cases hstopped
  rw [List.concat_eq_append] at hrun ⊢
  obtain ⟨last, hbefore, hstep⟩ := runs_snoc.mp hrun
  have hruns := not_stopped_of_step hstep
  cases step_turn hstep with
  | quiet _ _ hcontinues => exact absurd hstopped hcontinues.runs
  | suppress update _ _ _ heq | forward update _ _ heq =>
    rw [heq] at hstopped
    exact absurd ((phase_observe last update).symm.trans hstopped) hruns
  | stop _ reported hstops hends =>
    refine ⟨before, event, last, reported, rfl, hbefore, hstops, ?_⟩
    rw [hends.output, (shows_run hbefore).output hruns]

/-- The server then closes the stream for good. -/
def refusedEvents : List ClientEvent :=
  interruptedEvents ++ [.disconnect (.status ⟨.permissionDenied, "revoked"⟩)]

theorem stop_explained_refused : ∃ client,
    runs (step (some {})) (new (some {}) {}) refusedEvents = some client ∧
      client.phase = .stopped ∧
      ∃ before event last reported, refusedEvents = before ++ [event] ∧
        runs (step (some {})) (new (some {}) {}) before = some last ∧
        Stops (some {}) last event reported ∧
        client.output = last.forwarded.map .ok ++ reported.toList.map .error := by
  have hstops : (runs (step (some {})) (new (some {}) {}) refusedEvents).map (·.phase) =
      some .stopped := by
    decide +kernel
  obtain ⟨client, hrun, hstopped⟩ := Option.map_eq_some_iff.mp hstops
  exact ⟨client, hrun, hstopped, stop_explained hrun hstopped⟩

end

/-! ## Outages -/

section
variable {config : ReconnectConfig} {client client' : Client}

/-- The connection attempts of one outage. Behind a skipped gap the retries begin again. -/
def outageAttempts (config : ReconnectConfig) : Nat :=
  (config.backoff.maxRetries + 1) * if config.replayGapPolicy = .fail then 1 else 2

/-- The attempts that the client can still make before it is connected or stopped. -/
def attemptsLeft (config : ReconnectConfig) (client : Client) : Nat :=
  match client.phase with
  | .connecting _ retries skipped =>
    retries + 1 +
      if skipped = true ∨ config.replayGapPolicy = .fail then 0
      else config.backoff.maxRetries + 1
  | .active | .stopped => 0

theorem attemptsLeft_active (h : client.phase = .active) : client.attemptsLeft config = 0 := by
  unfold attemptsLeft
  rw [h]

theorem attemptsLeft_stopped (h : client.phase = .stopped) : client.attemptsLeft config = 0 := by
  unfold attemptsLeft
  rw [h]

theorem attemptsLeft_connecting {request : SubscribeRequest} {retries : Nat} {skipped : Bool}
    (h : client.phase = .connecting request retries skipped) :
    client.attemptsLeft config = retries + 1 +
      if skipped = true ∨ config.replayGapPolicy = .fail then 0
      else config.backoff.maxRetries + 1 := by
  unfold attemptsLeft
  rw [h]

theorem attemptsLeft_disconnected (config : ReconnectConfig) (client : Client)
    (cause : Disconnect) :
    (client.disconnected (some config) cause).attemptsLeft config ≤ outageAttempts config := by
  have hbegin : ∀ client : Client,
      (client.beginReconnect config).attemptsLeft config ≤ outageAttempts config := by
    intro client
    rw [attemptsLeft_connecting rfl, outageAttempts]
    by_cases hpolicy : config.replayGapPolicy = .fail
    · simp [hpolicy]
    · simp only [hpolicy, Bool.false_eq_true, or_false, if_false]
      omega
  rcases disconnected_spec config client cause with ⟨status, -, heq⟩ | heq | ⟨-, -, heq⟩
  · rw [heq, attemptsLeft_stopped rfl]
    exact Nat.zero_le _
  · rw [heq]
    exact hbegin client
  · rw [heq]
    exact hbegin _

/-- A message that finds its channel open keeps the stream. -/
theorem phase_handleUpdate_accepted (update : SubscribeUpdate) :
    (client.handleUpdate (some config) update true).phase = client.phase := by
  have hforward : (handleUpdate.forward client update true).phase = client.phase := by
    unfold handleUpdate.forward
    cases hfresh : (client.observe update).2 <;> simp [hfresh]
  unfold handleUpdate
  split
  · rfl
  · split
    · rfl
    · exact hforward
  · exact hforward

theorem attemptsLeft_command {request : SubscribeRequest} {sent : Bool}
    (hstep : client.step (some config) (.command request sent) = some client') :
    client'.attemptsLeft config ≤ if sent then 0 else outageAttempts config := by
  obtain ⟨hactive, hcases⟩ := command_spec hstep
  have htaken : (client.takeCommand request).attemptsLeft config = 0 :=
    attemptsLeft_active ((takeCommand_moves client request).2.1.trans hactive)
  cases sent with
  | false =>
    rw [if_neg Bool.false_ne_true]
    rcases hcases with rfl | rfl
    · rw [htaken]
      exact Nat.zero_le _
    · exact attemptsLeft_disconnected config _ _
  | true =>
    have heq : client' = client.takeCommand request := by
      unfold step at hstep
      rw [hactive] at hstep
      dsimp only at hstep
      split at hstep
      · exact (Option.some.inj hstep).symm
      · cases hstep
    rw [heq]
    exact htaken.le

theorem attemptsLeft_message (config : ReconnectConfig) (hactive : client.phase = .active)
    (update : SubscribeUpdate) (accepted : Bool) :
    (client.handleUpdate (some config) update accepted).attemptsLeft config ≤
      if accepted then 0 else outageAttempts config := by
  cases accepted with
  | true => exact (attemptsLeft_active ((phase_handleUpdate_accepted update).trans hactive)).le
  | false =>
    rw [if_neg Bool.false_ne_true]
    rcases handleUpdate_spec config client update false with
      ⟨-, heq | heq⟩ | ⟨-, heq⟩ | ⟨-, -, heq⟩ | ⟨-, -, heq⟩
    · rw [heq, attemptsLeft_active hactive]
      exact Nat.zero_le _
    · rw [heq]
      exact attemptsLeft_disconnected config client _
    · rw [heq, attemptsLeft_active ((phase_observe client update).trans hactive)]
      exact Nat.zero_le _
    · rw [heq]
      refine (attemptsLeft_active ?_).le.trans (Nat.zero_le _)
      exact (phase_observe client update).trans hactive
    · rw [heq, attemptsLeft_stopped rfl]
      exact Nat.zero_le _

/-- Each answer takes one off, the one behind a skipped gap included. -/
theorem attemptsLeft_attempted {request : SubscribeRequest} {retries : Nat} {skipped : Bool}
    (hphase : client.phase = .connecting request retries skipped)
    (result : Except ClientError Unit) :
    (client.attempted config request retries skipped result).attemptsLeft config <
      client.attemptsLeft config := by
  rw [attemptsLeft_connecting hphase]
  rcases attempted_spec config client request retries skipped result with
    ⟨-, heq⟩ | ⟨_, retries', -, -, rfl, heq⟩ | ⟨error, -, heq⟩ | ⟨_, -, hpolicy, -, rfl, heq⟩ |
    ⟨_, _, -, -, -, -, heq⟩
  · rw [heq, attemptsLeft_active rfl]
    omega
  · rw [heq, attemptsLeft_connecting rfl]
    omega
  · rw [heq, attemptsLeft_stopped rfl]
    omega
  · rw [heq, attemptsLeft_connecting rfl, hpolicy]
    simp
  · rw [heq, attemptsLeft_stopped rfl]
    omega

/-- What a step does to the attempts left. -/
theorem attemptsLeft_step {event : ClientEvent}
    (hstep : client.step (some config) event = some client') :
    if event.isAttempt then client'.attemptsLeft config < client.attemptsLeft config
    else client'.attemptsLeft config ≤ if event.breaks then outageAttempts config else 0 := by
  cases event with
  | command request sent =>
    have hleft := attemptsLeft_command hstep
    cases sent <;> exact hleft
  | commandsClosed =>
    obtain ⟨hactive, rfl⟩ := commandsClosed_spec hstep
    exact (attemptsLeft_active hactive).le
  | message update accepted =>
    obtain ⟨hactive, rfl⟩ := message_spec hstep
    have hleft := attemptsLeft_message config hactive update accepted
    cases accepted <;> exact hleft
  | disconnect cause =>
    obtain ⟨-, rfl⟩ := disconnect_spec hstep
    exact attemptsLeft_disconnected config client cause
  | attempt result =>
    obtain ⟨request, retries, skipped, hphase, rfl⟩ := attempt_spec hstep
    exact attemptsLeft_attempted hphase result

/-- An answer that settles an outage. Only a schedule that does not sustain its
retries ends one without a status. -/
inductive Settles (config : ReconnectConfig) (client client' : Client) :
    Except ClientError Unit → Prop where
  | connected (hactive : client'.phase = .active) (houtput : client'.output = client.output)
      (hdedup : client'.dedup = client.dedup) : Settles config client client' (.ok ())
  | failed (error : ClientError) (hends : client.Ends client' (some (reconnectFailure error))) :
      Settles config client client' (.error error)
  | panicked (error : ClientError) (hbreaks : ¬ config.backoff.Sustains)
      (hends : client.Ends client' none) : Settles config client client' (.error error)

/-- The outage goes on. -/
structure Connecting (start client : Client) : Prop where
  phase : ∃ request retries skipped, client.phase = .connecting request retries skipped
  output : client.output = start.output
  dedup : client.dedup = start.dedup

theorem Connecting.answer {start : Client} (h : start.Connecting client)
    (result : Except ClientError Unit) :
    ∃ client', client.step (some config) (.attempt result) = some client' ∧
      (start.Settles config client' result ∨
        start.Connecting client' ∧ client'.attemptsLeft config < client.attemptsLeft config) := by
  obtain ⟨request, retries, skipped, hphase⟩ := h.phase
  have hstep : client.step (some config) (.attempt result) =
      some (client.attempted config request retries skipped result) := by
    unfold step
    rw [hphase]
    rfl
  have hless := attemptsLeft_step hstep
  refine ⟨_, hstep, ?_⟩
  rcases attempted_spec config client request retries skipped result with
    ⟨rfl, heq⟩ | ⟨_, _, -, -, -, heq⟩ | ⟨error, rfl, heq⟩ | ⟨_, -, -, -, -, heq⟩ |
    ⟨error, _, rfl, -, -, hdelay, heq⟩
  · rw [heq]
    exact .inl (.connected rfl h.output h.dedup)
  · rw [heq] at hless ⊢
    exact .inr ⟨⟨⟨_, _, _, rfl⟩, h.output, h.dedup⟩, hless⟩
  · rw [heq]
    refine .inl (.failed error ⟨?_, h.dedup, rfl⟩)
    rw [← h.output]
    rfl
  · rw [heq] at hless ⊢
    exact .inr ⟨⟨⟨_, _, _, rfl⟩, h.output, h.dedup⟩, hless⟩
  · rw [heq]
    refine .inl (.panicked error (fun hsustains => ?_) ⟨?_, h.dedup, rfl⟩)
    · exact hsustains _ (Nat.sub_le _ _) hdelay
    · rw [← h.output]
      exact (List.append_nil _).symm

theorem attemptsLeft_run {initial : SubscribeRequest} {events : List ClientEvent}
    (hrun : runs (step (some config)) (new (some config) initial) events = some client) :
    client.attemptsLeft config ≤ outageAttempts config := by
  refine runs_invariant (I := fun client : Client =>
    client.attemptsLeft config ≤ outageAttempts config) ?_ hrun ?_
  · intro client event client' hstep hle
    have hleft := attemptsLeft_step hstep
    split at hleft
    · omega
    · split at hleft <;> omega
  · rw [attemptsLeft_active rfl]
    exact Nat.zero_le _

/-- **Outages are bounded.** A run makes at most `outageAttempts` connection attempts for
each event that broke a stream. However the attempts are answered, that many answers end
an outage: the stream goes on where it was, or the application gets the last failure.
Only where the schedule has no delay for one of its retries the stream ends without
one. -/
theorem outages_bounded {initial : SubscribeRequest} {events : List ClientEvent}
    (hrun : runs (step (some config)) (new (some config) initial) events = some client) :
    events.countP ClientEvent.isAttempt ≤
        outageAttempts config * events.countP ClientEvent.breaks ∧
      ∀ request retries skipped, client.phase = .connecting request retries skipped →
        ∀ answers : List (Except ClientError Unit), outageAttempts config ≤ answers.length →
          ∃ before answer after client', answers = before ++ answer :: after ∧
            runs (step (some config)) client ((before ++ [answer]).map .attempt) = some client' ∧
            client.Settles config client' answer := by
  constructor
  · have hcount := runs_countP_le (attemptsLeft config) ClientEvent.isAttempt ClientEvent.breaks
      (outageAttempts config) ?_ hrun
    · have hstart : (new (some config) initial).attemptsLeft config = 0 := attemptsLeft_active rfl
      omega
    · intro client event client' hstep
      have hleft := attemptsLeft_step hstep
      by_cases hattempt : event.isAttempt = true
      · rw [if_pos hattempt] at hleft ⊢
        omega
      · rw [if_neg hattempt] at hleft ⊢
        omega
  · intro request retries skipped hphase answers henough
    have hpos : ∀ t : Client, client.Connecting t → 0 < t.attemptsLeft config := by
      intro t ht
      obtain ⟨request, retries, skipped, hphase⟩ := ht.phase
      rw [attemptsLeft_connecting hphase]
      omega
    obtain ⟨before, answer, after, t, client', heq, hbefore, -, hlast, hsettles⟩ :=
      runs_settles (attemptsLeft config) ClientEvent.attempt
        (fun _ answer client' => client.Settles config client' answer) hpos
        (fun t answer ht => ht.answer answer) ⟨⟨_, _, _, hphase⟩, rfl, rfl⟩
        ((attemptsLeft_run hrun).trans henough)
    refine ⟨before, answer, after, client', heq, ?_, hsettles⟩
    rw [List.map_append]
    exact runs_snoc.mpr ⟨t, hbefore, hlast⟩

/-- The server cannot be reached again. -/
theorem outages_bounded_interrupted : ∃ client,
    runs (step (some {})) (new (some {}) {}) (interruptedEvents.take 2) = some client ∧
      (interruptedEvents.take 2).countP ClientEvent.isAttempt ≤
        outageAttempts {} * (interruptedEvents.take 2).countP ClientEvent.breaks ∧
      ∀ request retries skipped, client.phase = .connecting request retries skipped →
        ∀ answers : List (Except ClientError Unit), outageAttempts {} ≤ answers.length →
          ∃ before answer after client', answers = before ++ answer :: after ∧
            runs (step (some {})) client ((before ++ [answer]).map .attempt) = some client' ∧
            client.Settles {} client' answer := by
  obtain ⟨client, hrun⟩ := Option.isSome_iff_exists.mp
    (show (runs (step (some {})) (new (some {}) {}) (interruptedEvents.take 2)).isSome = true by
      decide +kernel)
  exact ⟨client, hrun, outages_bounded hrun⟩

end

end Client

end ZakuraGrpc
