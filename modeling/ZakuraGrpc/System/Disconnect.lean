import ZakuraGrpc.Client.Reconnect
import ZakuraGrpc.Geyser.FilterErrors
import ZakuraGrpc.Geyser.Keepalive

/-!
# How a subscription ends

A response stream is a list of messages with at most one error behind them: a lag
or a refused filter. The client reconnects behind the one and gives up behind the
other (`ends_once`). Each reason to disconnect says something of the state it was
found in, and of every later one (`ending_explained`).
-/

namespace ZakuraGrpc

open Runs

/-- Messages, with at most one error behind them. -/
def ended (messages : List SubscribeUpdate) (last : Option Status) : List SubscribeResult :=
  messages.map Except.ok ++ (last.map Except.error).toList

theorem ended_none (messages : List SubscribeUpdate) :
    ended messages none = messages.map Except.ok := List.append_nil _

theorem ended_append (messages : List SubscribeUpdate) (message : Option SubscribeUpdate) :
    ended messages none ++ (message.map Except.ok).toList =
      ended (messages ++ message.toList) none := by
  rw [ended_none, ended_none, List.map_append]
  cases message <;> rfl

theorem ended_error (messages : List SubscribeUpdate) (status : Status) :
    ended messages none ++ [.error status] = ended messages (some status) := by
  rw [ended_none]
  rfl

/-- A first part of such a list is one. -/
theorem prefix_ended {messages : List SubscribeUpdate} {last : Option Status}
    {stream : List SubscribeResult} (h : stream <+: ended messages last) :
    ∃ messages' last', stream = ended messages' last' ∧
      ∀ status, last' = some status → last = some status := by
  have hmessages : stream <+: ended messages none →
      stream = ended (messages.take stream.length) none := by
    intro hprefix
    rw [ended_none] at hprefix
    rw [ended_none, List.map_take]
    exact List.prefix_iff_eq_take.mp hprefix
  cases last with
  | none => exact ⟨_, none, hmessages h, nofun⟩
  | some status =>
    rcases List.prefix_concat_iff.mp h with heq | hprefix
    · exact ⟨messages, some status, heq, fun _ hsome => hsome⟩
    · rw [← ended_none] at hprefix
      exact ⟨_, none, hmessages hprefix, nofun⟩

namespace SubscriptionTask

variable [ZakuraChain] [WireFormat] {task task' : SubscriptionTask} {settings : Settings}
  {ring : LiveRing} {event : TaskEvent}

/-! ## The error of a stream -/

/-- The error stands for the way the task ended. -/
def Says (ending : Option DisconnectReason) (status : Status) : Prop :=
  (ending = some .invalidFilter ∧ BadRequest status) ∨
    (ending = some .broadcastLag ∧ ∃ skipped, status = lagStatus skipped)

/-- The stream has at most one error, behind all messages. -/
def EndsOnce (task : SubscriptionTask) : Prop :=
  ∃ messages last, task.stream = ended messages last ∧
    ∀ status, last = some status → Says task.ending status

omit [ZakuraChain] [WireFormat] in
/-- A selecting task has put out messages only. -/
theorem EndsOnce.of_selecting (h : task.EndsOnce) (hselecting : task.isSelecting = true) :
    ∃ messages, task.outbound.sent = ended messages none := by
  obtain ⟨houtgoing, hnone⟩ := isSelecting_iff.mp hselecting
  obtain ⟨messages, last, hstream, hlast⟩ := h
  rw [stream_of_selecting houtgoing] at hstream
  cases last with
  | none => exact ⟨messages, hstream⟩
  | some status =>
    rcases hlast status rfl with ⟨hending, -⟩ | ⟨hending, -⟩
    all_goals
      rw [hnone] at hending
      cases hending

omit [ZakuraChain] [WireFormat] in
theorem endsOnce_messages {messages : List SubscribeUpdate}
    (hstream : task.stream = ended messages none) : task.EndsOnce :=
  ⟨messages, none, hstream, nofun⟩

/-- **A step adds a message or the error.** -/
theorem EndsOnce.step (h : task.EndsOnce) (hvalid : settings.filterLimits.validate = .ok ())
    (hmoves : task.Moves settings ring event task') : task'.EndsOnce := by
  cases hmoves with
  | sent houtgoing hsend =>
    obtain ⟨messages, last, hstream, hlast⟩ := h
    exact ⟨messages, last, by rw [stream_sent houtgoing hsend]; exact hstream, hlast⟩
  | lost houtgoing hclosed =>
    obtain ⟨messages, last, hstream, hlast⟩ := h
    obtain ⟨messages', last', hstream', hlast'⟩ :=
      prefix_ended (hstream ▸ stream_stop .responseClosed)
    refine ⟨messages', last', hstream', fun status hsome => ?_⟩
    have hsays := hlast status (hlast' status hsome)
    have hsame : (task.stop .responseClosed).ending = task.ending := by
      rcases hsays with ⟨hending, -⟩ | ⟨hending, -⟩
      all_goals
        rw [stop, hending]
        rfl
    rw [hsame]
    exact hsays
  | requestsFailed hselecting | serverClosed hselecting | unpinged hselecting =>
    obtain ⟨messages, hsent⟩ := h.of_selecting hselecting
    exact endsOnce_messages (by rw [stream, stop, List.append_nil, hsent])
  | requestsClosed | skipped | dropped => exact h
  | @taken outbound htake =>
    obtain ⟨messages, last, hstream, hlast⟩ := h
    refine ⟨messages, last, ?_, hlast⟩
    rw [stream_taken htake]
    exact hstream
  | @applied request filter response hselecting happly =>
    obtain ⟨messages, hsent⟩ := h.of_selecting hselecting
    exact endsOnce_messages (by rw [stream, hsent, ended_append])
  | @rejected request status hselecting happly =>
    obtain ⟨messages, hsent⟩ := h.of_selecting hselecting
    refine ⟨messages, some status, by rw [stream, hsent, ended_error], fun status' hsome => ?_⟩
    cases hsome
    exact .inl ⟨rfl, EventFilter.badRequest_new hvalid request status
      (applySubscriptionRequest_error happly).2⟩
  | @received update hselecting hlag hget =>
    obtain ⟨messages, hsent⟩ := h.of_selecting hselecting
    exact endsOnce_messages (by rw [stream, hsent, ended_append])
  | lagged hselecting hlag =>
    obtain ⟨messages, hsent⟩ := h.of_selecting hselecting
    obtain ⟨houtgoing, -⟩ := isSelecting_iff.mp hselecting
    rcases stream_lagged houtgoing (.error (lagStatus
      (ring.sent.length - task.position - ring.capacity))) (some .broadcastLag) with heq | heq
    · exact endsOnce_messages (heq.trans hsent)
    · refine ⟨messages, _, by rw [heq, hsent, ended_error], fun status hsome => ?_⟩
      cases hsome
      exact .inr ⟨rfl, _, rfl⟩
  | @pinged outbound hselecting hsend =>
    obtain ⟨messages, hsent⟩ := h.of_selecting hselecting
    obtain ⟨houtgoing, -⟩ := isSelecting_iff.mp hselecting
    refine @endsOnce_messages _ (messages ++ [subscriptionPing task.pingId]) ?_
    rw [stream_pinged houtgoing hsend, hsent]
    exact ended_append messages (some (subscriptionPing task.pingId))

/-! ## The reasons -/

/-- What the way the task ended says of its client, of the ring and of its place
in it. -/
structure Explained (ring : LiveRing) (task : SubscriptionTask) : Prop where
  responseClosed : task.ending = some .responseClosed → task.outbound.isOpen = false
  broadcastLag : task.ending = some .broadcastLag →
    ring.capacity < ring.sent.length - task.position
  serverClosed : task.ending = some .serverClosed →
    ring.closed = true ∧ ring.sent.length ≤ task.position

omit [ZakuraChain] [WireFormat] in
/-- The ring only grows, and not behind its end. -/
theorem Explained.mono (h : task.Explained ring) {ring' : LiveRing}
    (hcapacity : ring'.capacity = ring.capacity) (hsent : ring.sent <+: ring'.sent)
    (hclosed : ring.closed = true → ring'.closed = true ∧ ring'.sent = ring.sent) :
    task.Explained ring' where
  responseClosed := h.responseClosed
  broadcastLag hending := by
    have hlag := h.broadcastLag hending
    have hle := hsent.length_le
    omega
  serverClosed hending := by
    obtain ⟨hend, hread⟩ := h.serverClosed hending
    obtain ⟨hend', hsame⟩ := hclosed hend
    exact ⟨hend', hsame ▸ hread⟩

omit [ZakuraChain] [WireFormat] in
theorem explained_of_none (hending : task.ending = none) : task.Explained ring := by
  constructor
  all_goals
    intro hsome
    rw [hending] at hsome
    cases hsome

omit [ZakuraChain] [WireFormat] in
/-- A selecting task takes the reason it is stopped for. -/
theorem ending_stop_selecting (hselecting : task.isSelecting = true) (reason : DisconnectReason) :
    (task.stop reason).ending = some reason := by
  rw [stop, (isSelecting_iff.mp hselecting).2]
  rfl

omit [ZakuraChain] [WireFormat] in
/-- A reason that a task is not stopped for is one it has. -/
theorem ending_of_stop {reason found : DisconnectReason}
    (hending : (task.stop reason).ending = some found) (hne : reason ≠ found) :
    task.ending = some found := by
  cases hwas : task.ending with
  | none =>
    rw [stop, hwas] at hending
    exact absurd (Option.some.inj hending) hne
  | some earlier =>
    rw [stop, hwas] at hending
    exact hending

/-- **A task ends for the reason it names,** which stays true. -/
theorem Explained.step (h : task.Explained ring) (hmoves : task.Moves settings ring event task') :
    task'.Explained ring := by
  cases hmoves with
  | @sent message outgoing outbound houtgoing hsend =>
    refine ⟨fun hending => ?_, h.broadcastLag, h.serverClosed⟩
    have hclosed := h.responseClosed hending
    rw [(Channel.trySend_sent hsend).1] at hclosed
    cases hclosed
  | lost houtgoing hclosed =>
    exact ⟨fun _ => hclosed, fun hending => h.broadcastLag (ending_of_stop hending nofun),
      fun hending => h.serverClosed (ending_of_stop hending nofun)⟩
  | requestsFailed hselecting =>
    have hreason := ending_stop_selecting hselecting .requestError
    constructor
    all_goals
      intro hending
      cases hreason.symm.trans hending
  | serverClosed hselecting hclosed hread =>
    have hreason := ending_stop_selecting hselecting .serverClosed
    refine ⟨fun hending => ?_, fun hending => ?_,
      fun _ => ⟨hclosed, List.getElem?_eq_none_iff.mp hread⟩⟩
    all_goals cases hreason.symm.trans hending
  | unpinged hselecting hclosed =>
    have hreason := ending_stop_selecting hselecting .responseClosed
    refine ⟨fun _ => hclosed, fun hending => ?_, fun hending => ?_⟩
    all_goals cases hreason.symm.trans hending
  | rejected =>
    constructor
    all_goals
      intro hending
      cases hending
  | lagged hselecting hlag =>
    refine ⟨fun hending => ?_, fun _ => hlag, fun hending => ?_⟩
    all_goals cases hending
  | applied hselecting | received hselecting | requestsClosed hselecting | pinged hselecting
  | skipped hselecting =>
    exact explained_of_none (isSelecting_iff.mp hselecting).2
  | @taken outbound htake =>
    refine ⟨fun hending => ?_, h.broadcastLag, h.serverClosed⟩
    have hclosed := h.responseClosed hending
    rw [(Channel.take_some htake).1] at hclosed
    cases hclosed
  | dropped => exact ⟨fun _ => rfl, h.broadcastLag, h.serverClosed⟩

end SubscriptionTask

/-! ## Every call of the service -/

namespace GrpcService

variable {service : GrpcService} {config : ServerConfig}

section
variable [ZakuraChain] [WireFormat]

/-- **The last word.** Every response stream of every run is messages with at most
one error behind them. The client reconnects behind it exactly where it fell behind
the ring. -/
theorem ends_once (hvalid : config.filterLimits.validate = .ok ()) {events : List ServiceEvent}
    (hrun : runs (step config) (new config) events = some service) {index : Nat}
    {task : SubscriptionTask} (htask : service.taskOf index = some task) :
    ∃ messages last, task.stream = ended messages last ∧
      ∀ status, last = some status →
        (task.ending = some .broadcastLag ∨ task.ending = some .invalidFilter) ∧
        (isRecoverableStatus status.code = true ↔ task.ending = some .broadcastLag) := by
  obtain ⟨messages, last, hstream, hlast⟩ := tasks_invariant (P := fun _ task => task.EndsOnce)
    (fun _ _ _ _ _ _ _ _ => SubscriptionTask.endsOnce_messages (ended_none _).symm)
    (fun _ _ _ _ _ h hmoves => h.step hvalid hmoves) (fun _ _ _ _ _ h => h) hrun htask
  refine ⟨messages, last, hstream, fun status hsome => ?_⟩
  rcases hlast status hsome with ⟨hending, hbad⟩ | ⟨hending, skipped, rfl⟩
  · refine ⟨.inr hending, ?_⟩
    rw [hending, hbad]
    exact ⟨nofun, nofun⟩
  · exact ⟨.inl hending, fun _ => hending, fun _ => rfl⟩

/-- **The reasons.** A task that ended because nobody receives has a client that is
gone; one that lagged is more than the ring behind what was sent; one that saw the
server close has read all that was ever sent. -/
theorem ending_explained {events : List ServiceEvent}
    (hrun : runs (step config) (new config) events = some service) {index : Nat}
    {task : SubscriptionTask} (htask : service.taskOf index = some task) :
    task.Explained (service.ring config) := by
  refine tasks_invariant (P := fun service task => task.Explained (service.ring config))
    (fun _ _ _ _ _ _ _ _ => SubscriptionTask.explained_of_none rfl)
    (fun _ _ _ _ _ h hmoves => h.step hmoves) ?_ hrun htask
  intro service event service' task hstep h
  obtain ⟨hsent, hclosed⟩ := sent_step hstep
  exact h.mono rfl hsent hclosed

end

/-- A subscriber whose second request is refused, and one that falls behind. -/
def sampleEndings : List ServiceEvent :=
  [.call sampleRpc, .first 0 (.ok (some {})), .snapshotReplay 0 0, .snapshotMempool 0,
   .call { sampleRpc with remoteIp := some "10.0.0.2" }, .first 1 (.ok (some {})),
   .snapshotReplay 1 0, .snapshotMempool 1,
   .task 0 (.request { eventTypes := [99] }), .task 0 .flush,
   .onEvent sampleEvent, .push 5, .send, .send, .send, .send, .send, .send, .finish,
   .task 1 .receive]

theorem sampleEndings_tasks : ∃ service refused lagged,
    runs (@step hexChain protoWire sampleServerConfig) (new sampleServerConfig)
        sampleEndings = some service ∧
      service.taskOf 0 = some refused ∧ service.taskOf 1 = some lagged ∧
      refused.ending = some .invalidFilter ∧ lagged.ending = some .broadcastLag := by
  have hsome : ((runs (@step hexChain protoWire sampleServerConfig) (new sampleServerConfig)
      sampleEndings).bind fun service => (service.taskOf 0).bind fun refused =>
        (service.taskOf 1).bind fun lagged =>
          if refused.ending = some .invalidFilter ∧ lagged.ending = some .broadcastLag then some ()
          else none).isSome = true := by
    decide +kernel
  obtain ⟨_, hsome⟩ := Option.isSome_iff_exists.mp hsome
  obtain ⟨service, hrun, hsome⟩ := Option.bind_eq_some_iff.mp hsome
  obtain ⟨refused, hrefused, hsome⟩ := Option.bind_eq_some_iff.mp hsome
  obtain ⟨lagged, hlagged, hsome⟩ := Option.bind_eq_some_iff.mp hsome
  split at hsome
  · rename_i hendings
    exact ⟨service, refused, lagged, hrun, hrefused, hlagged, hendings⟩
  · cases hsome

theorem ends_once_sample : ∃ task : SubscriptionTask, task.ending = some .invalidFilter ∧
    ∃ messages last, task.stream = ended messages last ∧
      ∀ status, last = some status → isRecoverableStatus status.code ≠ true := by
  obtain ⟨service, refused, lagged, hrun, hrefused, -, hending, -⟩ := sampleEndings_tasks
  obtain ⟨messages, last, hstream, hlast⟩ := @ends_once service sampleServerConfig hexChain
    protoWire rfl _ hrun 0 refused hrefused
  refine ⟨refused, hending, messages, last, hstream, fun status hsome hrecoverable => ?_⟩
  have hlag := ((hlast status hsome).2.mp hrecoverable)
  rw [hending] at hlag
  cases hlag

theorem ending_explained_sample : ∃ service : GrpcService, ∃ task : SubscriptionTask,
    task.ending = some .broadcastLag ∧
      4 < service.plugin.state.sent.length - task.position := by
  obtain ⟨service, refused, lagged, hrun, -, hlagged, -, hending⟩ := sampleEndings_tasks
  have hexplained := @ending_explained service sampleServerConfig hexChain protoWire _ hrun 1
    lagged hlagged
  have hcapacity : sampleServerConfig.ringCapacity = 4 := by decide +kernel
  refine ⟨service, lagged, hending, ?_⟩
  rw [← hcapacity]
  exact hexplained.broadcastLag hending

end GrpcService

end ZakuraGrpc
