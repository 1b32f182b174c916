import ZakuraGrpc.Geyser.Published
import ZakuraGrpc.Geyser.Slots
import ZakuraGrpc.Lib.Reaches

/-!
# Progress

The publisher waits for no subscriber: an event is published by its own steps
(`event_published`). A call is answered by its own turns and those of the publisher
(`subscribe_answered`).
-/

namespace ZakuraGrpc

open Runs

/-! ## A batch in progress -/

namespace Publication

variable [WireFormat] {publication : Publication}

/-- What the publisher does behind the preparation of a batch, at the time `now`. -/
def PublishEvent.IsPublishing (now : Nat) : PublishEvent → Prop
  | .push time => time = now
  | .send | .finish => True
  | .prepare _ | .evict _ => False

/-- By its own steps the publisher gets to `Q`. -/
abbrev Publishes (now : Nat) (publication : Publication) (Q : Publication → Prop) : Prop :=
  Reaches step (PublishEvent.IsPublishing now) publication Q

/-- The publisher is done with all that was prepared. -/
structure Done (publication publication' : Publication) : Prop where
  idle : publication'.publisher = .idle
  sent : publication'.sent = publication.prepared
  mempool : publication'.mempool = publication.mempool

theorem publishes_sending (now : Nat) {batch : List PublishedUpdate} {locked : Bool}
    (hpub : publication.publisher = .sending batch locked) :
    publication.Publishes now (publication.Done ·) := by
  refine ⟨List.replicate batch.length .send ++ [.finish],
    { publication with sent := publication.sent ++ batch, publisher := .idle },
    fun event hmem => ?_, runs_snoc.mpr ⟨_, runs_send batch hpub, rfl⟩, rfl, ?_, rfl⟩
  · rcases List.mem_append.mp hmem with hmem | hmem
    · rw [(List.mem_replicate.mp hmem).2]
      exact trivial
    · rw [List.mem_singleton.mp hmem]
      exact trivial
  · rw [prepared, pushed, hpub]
    exact (List.append_nil _).symm

/-- **The publisher finishes.** -/
theorem publishes_done (h : publication.replay.Bounded) (now : Nat) :
    publication.Publishes now (publication.Done ·) := by
  cases hpub : publication.publisher with
  | idle =>
    refine reaches_here ⟨hpub, ?_, rfl⟩
    rw [prepared, pushed, hpub]
    exact ((List.append_nil _).trans (List.append_nil _)).symm
  | sending batch locked => exact publishes_sending now hpub
  | prepared batch locked =>
    obtain ⟨replay, hreplay, -⟩ := h.call_isSome (.push batch now)
    have hreplay' : publication.replay.pushBatchAt batch now = some replay := hreplay
    have hstep : publication.step (.push now) = some
        { publication with replay := replay, publisher := .sending batch locked } := by
      rw [step, push, hpub]
      dsimp only
      rw [hreplay']
      rfl
    have htime : PublishEvent.IsPublishing now (.push now) := rfl
    refine Reaches.first htime hstep ((publishes_sending now rfl).mono (fun _ h => h)
      fun publication' hdone => ⟨hdone.idle, hdone.sent.trans ?_, hdone.mempool⟩)
    simp [prepared, pushed, hpub, Publisher.unsent, Publisher.waiting]

end Publication

/-- The same steps as events of the service. -/
def ServiceEvent.IsPublishing (now : Nat) : ServiceEvent → Prop
  | .push time => time = now
  | .send | .finish => True
  | .onEvent _ | .call _ | .first _ _ | .cancel _ | .snapshotReplay _ _ | .snapshotMempool _
  | .task _ _ | .replayInfo _ _ | .shutdown => False

/-- The turns of a call that answer its first message, and the publisher's steps. -/
def ServiceEvent.Answers (index : Nat) (message : Except Status (Option SubscribeRequest))
    (now : Nat) : ServiceEvent → Prop
  | .first moved answer => moved = index ∧ answer = message
  | .snapshotReplay moved time => moved = index ∧ time = now
  | .snapshotMempool moved => moved = index
  | .push time => time = now
  | .send | .finish => True
  | .onEvent _ | .call _ | .cancel _ | .task _ _ | .replayInfo _ _ | .shutdown => False

namespace GrpcService

variable {service service' : GrpcService} {config : ServerConfig} {index : Nat}

/-! ## The publisher of the service -/

/-- The service with another state of the publisher. -/
def withState (service : GrpcService) (state : Publication) : GrpcService :=
  { service with plugin := { service.plugin with state := state } }

/-- The plugin moves while the shared state is there. -/
theorem onPlugin_of_open (turn : GrpcPlugin → Option GrpcPlugin) {plugin : GrpcPlugin}
    (hopen : service.closed = false) (hturn : turn service.plugin = some plugin) :
    service.onPlugin turn = some { service with plugin := plugin } := by
  rw [onPlugin, whileOpen, if_neg (Bool.eq_false_iff.mp hopen), hturn]
  rfl

section
variable [ZakuraChain] [WireFormat]

/-- A step of the publisher is one of the service. -/
theorem step_publishing (hopen : service.closed = false) {now : Nat}
    {event : Publication.PublishEvent} {state state' : Publication}
    (hevent : event.IsPublishing now) (hstep : state.step event = some state') :
    ∃ next : ServiceEvent, next.IsPublishing now ∧
      step config (service.withState state) next = some (service.withState state') := by
  have hpublish : ∀ next : ServiceEvent,
      step config (service.withState state) next =
        (service.withState state).onPlugin (·.publish event) →
      step config (service.withState state) next = some (service.withState state') := by
    intro next heq
    have hturn : (service.withState state).plugin.publish event =
        some (service.withState state').plugin := by
      rw [GrpcPlugin.publish]
      exact congrArg (Option.map fun state => { service.plugin with state := state }) hstep
    have hopen' : (service.withState state).closed = false := hopen
    rw [heq]
    exact onPlugin_of_open (·.publish event) hopen' hturn
  cases event with
  | prepare updates | evict now => exact absurd hevent id
  | push time => exact ⟨.push time, hevent, hpublish _ rfl⟩
  | send => exact ⟨.send, trivial, hpublish _ rfl⟩
  | finish => exact ⟨.finish, trivial, hpublish _ rfl⟩

/-- **The publisher of the service finishes,** and nothing else moves. -/
theorem reaches_done (config : ServerConfig) (hopen : service.closed = false)
    (h : service.plugin.state.replay.Bounded) (now : Nat) :
    Reaches (step config) (ServiceEvent.IsPublishing now) service fun service' =>
      ∃ state, service' = service.withState state ∧ service.plugin.state.Done state := by
  have hdone := Publication.publishes_done h now
  have hlifted : Reaches (step config) (ServiceEvent.IsPublishing now)
      (service.withState service.plugin.state) fun service' =>
        ∃ state, service' = service.withState state ∧ True ∧ service.plugin.state.Done state :=
    Reaches.lift (I := fun _ => True) (F := service.withState) (fun _ _ _ _ _ => trivial)
      (fun _ _ _ hevent hstep _ => step_publishing hopen hevent hstep)
      (hdone.mono (fun _ h => h) fun _ h => ⟨trivial, h⟩)
  exact hlifted.mono (fun _ h => h) fun service' ⟨state, heq, _, hstate⟩ => ⟨state, heq, hstate⟩

/-- What an event adds to what is sent: nothing, or its updates, numbered, stamped
and encoded as one batch. -/
structure Adds (plugin : GrpcPlugin) (envelope : EventEnvelope) (batch : List PublishedUpdate) :
    Prop where
  fails : ∀ error, plugin.encode envelope = .error error → batch = []
  publishes : ∀ updates, plugin.encode envelope = .ok updates →
    plugin.nextSequence + updates.length ≤ u64Max →
    batch = (prepareBatch plugin.state.mempool
        (GrpcPlugin.numberedFrom plugin.nextSequence updates)).2 ∧
      batch.map (·.message.sequence) = List.range' (plugin.nextSequence + 1) updates.length
  exhausted : ∀ updates, plugin.encode envelope = .ok updates →
    u64Max < plugin.nextSequence + updates.length → batch = []

/-- Nothing is added where the counter is exhausted. -/
theorem adds_nothing {plugin : GrpcPlugin} {envelope : EventEnvelope}
    (h : ∀ updates, plugin.encode envelope = .ok updates →
      u64Max < plugin.nextSequence + updates.length) : Adds plugin envelope [] where
  fails _ _ := rfl
  publishes updates hencode hfits := by
    have := h updates hencode
    omega
  exhausted _ _ _ := rfl

/-- What is added is decided by the encoder, the counter and the mempool. -/
theorem Adds.withState {plugin : GrpcPlugin} {state : Publication} {envelope : EventEnvelope}
    {batch : List PublishedUpdate} (h : Adds { plugin with state := state } envelope batch)
    (hmempool : state.mempool = plugin.state.mempool) : Adds plugin envelope batch where
  fails := h.fails
  publishes updates hencode hfits := hmempool ▸ h.publishes updates hencode hfits
  exhausted := h.exhausted

/-- An idle plugin prepares the batch of an event. -/
theorem beginEvent_adds {plugin plugin' : GrpcPlugin} (h : plugin.Numbered)
    {envelope : EventEnvelope} (hbegin : plugin.beginEvent envelope = some plugin') :
    ∃ batch, plugin'.state.prepared = plugin.state.prepared ++ batch ∧
      Adds plugin envelope batch := by
  have hbegin' := hbegin
  obtain ⟨hidle, -, -, ⟨hstate, -⟩ | ⟨updates, numbered, hencode, hassign, hprepare⟩⟩ :=
    GrpcPlugin.beginEvent_spec hbegin
  · refine ⟨[], by rw [hstate, List.append_nil], adds_nothing fun updates hencode => ?_⟩
    by_contra hfits
    obtain ⟨numbered, hassign, -⟩ := GrpcPlugin.assignSequences_spec updates (not_lt.mp hfits)
    have haccepts := (h.accepts hencode hassign).1
    unfold GrpcPlugin.beginEvent at hbegin'
    simp only [hidle, hencode, hassign, Publication.prepare, if_pos haccepts, Option.map_some]
      at hbegin'
    rw [← Option.some.inj hbegin'] at hstate
    have hpub := congrArg Publication.publisher hstate
    rw [hidle] at hpub
    cases hpub
  · obtain ⟨-, -, hsequences⟩ := h.accepts hencode hassign
    obtain ⟨-, -, heq⟩ := Publication.prepare_spec hprepare
    refine ⟨(prepareBatch plugin.state.mempool numbered).2, ?_, ?_, ?_, ?_⟩
    · rw [heq]
      simp [Publication.prepared, Publication.pushed, hidle, Publisher.unsent, Publisher.waiting]
    · intro error herror
      rw [hencode] at herror
      cases herror
    · intro updates' hencode' _
      rw [hencode] at hencode'
      cases hencode'
      refine ⟨by rw [GrpcPlugin.assignSequences_ok hassign], ?_⟩
      rw [(prepareBatch_frame plugin.state.mempool numbered).1, hsequences]
    · intro updates' hencode' hexhausted
      rw [hencode] at hencode'
      cases hencode'
      have := GrpcPlugin.assignSequences_fits updates h.counter_le hassign
      omega

/-- **Publishing.** From every state of every run, with any number of subscribers and
whatever they do not read, an event is published by the publisher's own steps: they
end, nothing else moves, and its updates, numbered on and stamped with the next mempool
revision, are sent behind all that was prepared. -/
theorem event_published {events : List ServiceEvent}
    (hrun : runs (step config) (new config) events = some service)
    (hopen : service.closed = false) (envelope : EventEnvelope) (now : Nat) :
    Reaches (step config) (fun event => event.IsPublishing now ∨ event = .onEvent envelope)
      service fun service' =>
        service'.plugin.state.publisher = .idle ∧ service'.calls = service.calls ∧
        service'.subscriptions = service.subscriptions ∧
        ∃ batch, service'.plugin.state.sent = service.plugin.state.prepared ++ batch ∧
          Adds service.plugin envelope batch := by
  have hnumbered := (sound_runs hrun).numbered
  have hfirst := (reaches_done config hopen hnumbered.bounded now).keeps
    (I := fun service => service.plugin.Numbered)
    (fun _ _ _ _ hstep h => numbered_step h hstep) hnumbered
  refine (hfirst.mono (fun _ h => Or.inl h) fun _ h => h).bind ?_
  rintro service1 ⟨hnumbered1, state, rfl, hdone⟩
  obtain ⟨plugin, hbegin⟩ := hnumbered1.beginEvent_isSome hdone.idle envelope
  obtain ⟨batch, hprepared, hadds⟩ := beginEvent_adds hnumbered1 hbegin
  have hopen1 : (service.withState state).closed = false := hopen
  have hstep : step config (service.withState state) (.onEvent envelope) =
      some { service.withState state with plugin := plugin } :=
    onPlugin_of_open (·.beginEvent envelope) hopen1 hbegin
  refine Reaches.first (.inr rfl) hstep ?_
  have hopen2 : GrpcService.closed { service.withState state with plugin := plugin } = false :=
    hopen
  refine (reaches_done config hopen2 (hnumbered1.beginEvent hbegin).bounded now).mono
    (fun _ h => Or.inl h) ?_
  rintro service2 ⟨state2, rfl, hdone2⟩
  refine ⟨hdone2.idle, rfl, rfl, batch, hdone2.sent.trans (hprepared.trans ?_),
    hadds.withState hdone.mempool⟩
  have hsent : state.prepared = state.sent := by
    rw [Publication.prepared, Publication.pushed, hdone.idle]
    exact (List.append_nil _).trans (List.append_nil _)
  show state.prepared ++ batch = _
  rw [hsent, hdone.sent]

/-! ## Calls -/

/-- What every state on the way satisfies. -/
structure Serving (config : ServerConfig) (service : GrpcService) : Prop where
  slots : service.Slots config
  sound : service.Sound
  isOpen : service.closed = false

/-- The call is answered, and no other call has moved. -/
def Answered (index : Nat) (service service' : GrpcService) : Prop :=
  ((∃ status, service'.phaseOf index = some (.failed status)) ∨
      ∃ task, service'.phaseOf index = some (.running task)) ∧
    ∀ other, other ≠ index → service'.phaseOf other = service.phaseOf other

/-- One turn of the call. -/
theorem Serving.turn (h : service.Serving config)
    {event : ServiceEvent} {turn : CallPhase → Option (CallPhase × ReplayBuffer)}
    (hevent : step config service event = service.onCall index turn) {phase phase' : CallPhase}
    {replay : ReplayBuffer} (hphase : service.phaseOf index = some phase)
    (hturn : turn phase = some (phase', replay)) :
    ∃ service', step config service event = some service' ∧ service'.Serving config ∧
      service'.phaseOf index = some phase' ∧
      ∀ other, other ≠ index → service'.phaseOf other = service.phaseOf other := by
  obtain ⟨call, hfound, rfl⟩ := Option.map_eq_some_iff.mp hphase
  obtain ⟨service', hcall⟩ := h.slots.onCall_isSome hfound hturn
  have hstep : step config service event = some service' := hevent.trans hcall
  obtain ⟨call', phase'', replay', hturn', hmoves⟩ := onCall_spec hcall
  have hsame := hmoves.found
  rw [hfound] at hsame
  cases hsame
  rw [hturn] at hturn'
  cases hturn'
  refine ⟨service', hstep, ⟨h.slots.step hstep, h.sound.step hstep,
    hmoves.closed.trans h.isOpen⟩, ?_, fun other hother => ?_⟩
  · rw [phaseOf_calls hmoves, if_pos rfl]
  · rw [phaseOf_calls hmoves, if_neg hother.symm]

omit [ZakuraChain] [WireFormat] in
theorem Answered.after (hother : ∀ other, other ≠ index →
      service'.phaseOf other = service.phaseOf other) {service'' : GrpcService}
    (h : Answered index service' service'') : Answered index service service'' :=
  ⟨h.1, fun other hne => (h.2 other hne).trans (hother other hne)⟩

variable {message : Except Status (Option SubscribeRequest)} {now : Nat}

/-- A call with its replay snapshot starts its task once the publisher is done. -/
theorem answers_replayed (h : service.Serving config) (hcapacity : 0 < config.clientChannelCapacity)
    {request : SubscribeRequest} {filter : EventFilter} {live : Nat} {replay : ReplaySnapshot}
    (hphase : service.phaseOf index = some (.replayed request filter live replay)) :
    Reaches (step config) (ServiceEvent.Answers index message now) service
      (Answered index service) := by
  have hidle := (reaches_done config h.isOpen h.sound.numbered.bounded now).keeps
    (I := fun service => service.Slots config ∧ service.Sound)
    (fun _ _ _ _ hstep h => ⟨h.1.step hstep, h.2.step hstep⟩) ⟨h.slots, h.sound⟩
  refine (hidle.mono (fun event hevent => ?_) fun _ h => h).bind ?_
  · cases event with
    | push time => exact hevent
    | send | finish => trivial
    | _ => exact absurd hevent id
  rintro service1 ⟨⟨hslots, hsound⟩, state, rfl, hdone⟩
  have hopen1 : (service.withState state).closed = false := h.isOpen
  have hserving : (service.withState state).Serving config := ⟨hslots, hsound, hopen1⟩
  have hevent : step config (service.withState state) (.snapshotMempool index) =
      (service.withState state).onCall index
        ((service.withState state).keeping (snapshotMempoolTurn config state)) := by
    rw [step, whileOpen, hopen1]
    rfl
  have hunlocked : state.publisher.isLocked = false := by
    rw [hdone.idle]
    rfl
  obtain ⟨task, hstarts⟩ : ∃ task, snapshotMempoolTurn config state
      (.replayed request filter live replay) = some (.running task) := by
    rw [snapshotMempoolTurn, hunlocked, Bool.and_false, if_neg Bool.false_ne_true,
      if_neg (Nat.pos_iff_ne_zero.mp hcapacity)]
    exact ⟨_, rfl⟩
  have hturn : (service.withState state).keeping (snapshotMempoolTurn config state)
      (.replayed request filter live replay) =
        some (.running task, (service.withState state).plugin.state.replay) := by
    rw [keeping, hstarts]
    rfl
  obtain ⟨service2, hstep, -, hrunning, hother⟩ := hserving.turn hevent hphase hturn
  have hanswers : ServiceEvent.Answers index message now (.snapshotMempool index) := rfl
  exact Reaches.first hanswers hstep (reaches_here ⟨.inr ⟨_, hrunning⟩, hother⟩)

/-- An attached call takes its replay snapshot, or learns that there is none. -/
theorem answers_attached (h : service.Serving config) (hcapacity : 0 < config.clientChannelCapacity)
    {request : SubscribeRequest} {filter : EventFilter} {live : Nat}
    (hphase : service.phaseOf index = some (.attached request filter live)) :
    Reaches (step config) (ServiceEvent.Answers index message now) service
      (Answered index service) := by
  obtain ⟨replay, result, hread⟩ := subscribeReplay_isSome h.sound.numbered.bounded request now
  have hevent : step config service (.snapshotReplay index now) = service.onCall index
      (snapshotReplayTurn service.plugin.state.replay now) := by
    rw [step, whileOpen, h.isOpen]
    rfl
  have hanswers : ServiceEvent.Answers index message now (.snapshotReplay index now) := ⟨rfl, rfl⟩
  cases result with
  | error status =>
    have hturn : snapshotReplayTurn service.plugin.state.replay now
        (.attached request filter live) = some (.failed status, replay) := by
      rw [snapshotReplayTurn, hread]
      rfl
    obtain ⟨service1, hstep, -, hfailed, hother⟩ := h.turn hevent hphase hturn
    exact Reaches.first hanswers hstep (reaches_here ⟨.inl ⟨_, hfailed⟩, hother⟩)
  | ok snapshot =>
    have hturn : snapshotReplayTurn service.plugin.state.replay now
        (.attached request filter live) =
          some (.replayed request filter live snapshot, replay) := by
      rw [snapshotReplayTurn, hread]
      rfl
    obtain ⟨service1, hstep, hserving, hreplayed, hother⟩ := h.turn hevent hphase hturn
    exact Reaches.first hanswers hstep ((answers_replayed hserving hcapacity hreplayed).mono
      (fun _ h => h) fun _ h => h.after hother)

/-- The first message is refused, or attaches the call. -/
theorem answers_opening (h : service.Serving config) (hcapacity : 0 < config.clientChannelCapacity)
    (hphase : service.phaseOf index = some .opening) :
    Reaches (step config) (ServiceEvent.Answers index message now) service
      (Answered index service) := by
  have hevent : step config service (.first index message) = service.onCall index
      (service.keeping (firstTurn config.filterLimits service.plugin.state.sent message)) := by
    rw [step, whileOpen, h.isOpen]
    rfl
  have hanswers : ServiceEvent.Answers index message now (.first index message) := ⟨rfl, rfl⟩
  cases hreceived : receiveInitialFilter config.filterLimits message with
  | error status =>
    have hturn : service.keeping
        (firstTurn config.filterLimits service.plugin.state.sent message) .opening =
          some (.failed status, service.plugin.state.replay) := by
      rw [keeping, firstTurn, hreceived]
      rfl
    obtain ⟨service1, hstep, -, hfailed, hother⟩ := h.turn hevent hphase hturn
    exact Reaches.first hanswers hstep (reaches_here ⟨.inl ⟨_, hfailed⟩, hother⟩)
  | ok received =>
    obtain ⟨filter, request⟩ := received
    have hturn : service.keeping
        (firstTurn config.filterLimits service.plugin.state.sent message) .opening =
          some (.attached request filter service.plugin.state.sent.length,
            service.plugin.state.replay) := by
      rw [keeping, firstTurn, hreceived]
      rfl
    obtain ⟨service1, hstep, hserving, hattached, hother⟩ := h.turn hevent hphase hturn
    exact Reaches.first hanswers hstep ((answers_attached hserving hcapacity hattached).mono
      (fun _ h => h) fun _ h => h.after hother)

/-- **Answers.** In every run, whatever a call's first message is and however far its
handler is, its own turns and the publisher's steps bring it to a status or to its
task. No other call has to move. -/
theorem subscribe_answered (hcapacity : 0 < config.clientChannelCapacity)
    {events : List ServiceEvent} (hrun : runs (step config) (new config) events = some service)
    (hopen : service.closed = false) {phase : CallPhase}
    (hphase : service.phaseOf index = some phase) (hhandler : phase.inHandler = true)
    (message : Except Status (Option SubscribeRequest)) (now : Nat) :
    Reaches (step config) (ServiceEvent.Answers index message now) service
      (Answered index service) := by
  have hserving : service.Serving config := ⟨slots_runs hrun, sound_runs hrun, hopen⟩
  cases phase with
  | opening => exact answers_opening hserving hcapacity hphase
  | attached request filter live => exact answers_attached hserving hcapacity hphase
  | replayed request filter live replay => exact answers_replayed hserving hcapacity hphase
  | running task | failed status | cancelled => cases hhandler

end

/-- A subscriber has sent nothing yet, and a batch is half sent. -/
def sampleBusy : List ServiceEvent :=
  [.call sampleRpc, .onEvent sampleEvent, .push 5, .send, .send]

theorem sampleBusy_run : ∃ service,
    runs (@step hexChain protoWire sampleServerConfig) (new sampleServerConfig) sampleBusy =
        some service ∧
      service.closed = false ∧ service.phaseOf 0 = some .opening := by
  have hsome : ((runs (@step hexChain protoWire sampleServerConfig) (new sampleServerConfig)
      sampleBusy).bind fun service => if service.closed then none else
        (service.phaseOf 0).bind fun | .opening => some () | _ => none).isSome = true := by
    decide +kernel
  obtain ⟨_, hsome⟩ := Option.isSome_iff_exists.mp hsome
  obtain ⟨service, hrun, hsome⟩ := Option.bind_eq_some_iff.mp hsome
  split at hsome
  · cases hsome
  rename_i hopen
  obtain ⟨phase, hphase, hsome⟩ := Option.bind_eq_some_iff.mp hsome
  split at hsome
  · exact ⟨service, hrun, by simpa using hopen, hphase⟩
  · cases hsome

theorem event_published_sample : ∃ service : GrpcService,
    Reaches (@step hexChain protoWire sampleServerConfig)
      (fun event => event.IsPublishing 6 ∨ event = .onEvent sampleEvent) service
      fun service' =>
        service'.plugin.state.publisher = .idle ∧ service'.calls = service.calls ∧
        service'.subscriptions = service.subscriptions ∧
        ∃ batch, service'.plugin.state.sent = service.plugin.state.prepared ++ batch ∧
          @Adds hexChain protoWire service.plugin sampleEvent batch := by
  obtain ⟨service, hrun, hopen, -⟩ := sampleBusy_run
  exact ⟨service, @event_published service sampleServerConfig hexChain protoWire _ hrun hopen
    sampleEvent 6⟩

theorem subscribe_answered_sample : ∃ service : GrpcService,
    service.phaseOf 0 = some .opening ∧
      Reaches (@step hexChain protoWire sampleServerConfig)
        (ServiceEvent.Answers 0 (.ok (some { fromHeight := some 9 })) 6) service
        (Answered 0 service) := by
  obtain ⟨service, hrun, hopen, hphase⟩ := sampleBusy_run
  exact ⟨service, hphase, @subscribe_answered service sampleServerConfig 0 hexChain protoWire
    (by decide) _ hrun hopen _ hphase rfl _ 6⟩

end GrpcService

end ZakuraGrpc
