import ZakuraGrpc.Geyser.Service

/-!
# What a step of the service does

A step moves the plugin or one call, never both unless the call evicts
(`step_cases`). The plugin's part is a run of the publisher (`step_publication`), so
what every run of the publisher keeps every run of the service keeps.
-/

namespace ZakuraGrpc

open Runs
open Publication (PublishEvent prepared pushed)

/-! ## The publisher -/

namespace Publication

/-- Only a new batch changes what is prepared. -/
theorem prepared_step [WireFormat] {publication publication' : Publication} {event : PublishEvent}
    (hstep : publication.step event = some publication')
    (hnot : ∀ updates, event ≠ .prepare updates) :
    publication'.prepared = publication.prepared := by
  cases event with
  | prepare updates => exact absurd rfl (hnot updates)
  | push now =>
    obtain ⟨batch, locked, replay, hpub, -, rfl⟩ := push_spec hstep
    simp [prepared, pushed, hpub, Publisher.unsent, Publisher.waiting]
  | send =>
    obtain ⟨update, rest, locked, hpub, rfl⟩ := send_spec hstep
    simp [prepared, pushed, hpub, Publisher.unsent, Publisher.waiting]
  | finish =>
    obtain ⟨locked, hpub, rfl⟩ := finish_spec hstep
    simp [prepared, pushed, hpub, Publisher.unsent, Publisher.waiting]
  | evict now =>
    obtain ⟨replay, -, rfl⟩ := Option.map_eq_some_iff.mp hstep
    rfl

end Publication

/-- The replay part of `subscribe` evicts, or leaves the buffer alone. -/
theorem subscribeReplay_evicts {replay replay' : ReplayBuffer} {request : SubscribeRequest}
    {now : Nat} {result : Except Status ReplaySnapshot}
    (h : subscribeReplay replay request now = some (replay', result)) :
    replay' = replay ∨ replay.evict now = some replay' := by
  unfold subscribeReplay at h
  split at h
  · cases h
    exact .inl rfl
  split at h
  · cases h
    exact .inl rfl
  all_goals
    obtain ⟨evicted, hevict, heq⟩ := Option.map_eq_some_iff.mp h
    cases heq
    exact .inr hevict

/-! ## The plugin -/

namespace GrpcPlugin

variable {plugin plugin' : GrpcPlugin}

/-- A numbering that succeeds fits in the counter. -/
theorem assignSequences_fits (updates : List SubscribeUpdate) :
    ∀ {nextSequence lastSequence : Nat} {numbered : List SubscribeUpdate},
      nextSequence ≤ u64Max →
      assignSequences nextSequence updates = (lastSequence, .ok numbered) →
      nextSequence + updates.length ≤ u64Max := by
  induction updates with
  | nil =>
    intro nextSequence lastSequence numbered hle _
    exact hle
  | cons update rest ih =>
    intro nextSequence lastSequence numbered hle h
    unfold assignSequences at h
    split at h
    · cases h
    · rename_i hfits
      generalize hrest : assignSequences (nextSequence + 1) rest = assigned at h
      obtain ⟨last, result⟩ := assigned
      cases result with
      | error error => cases h
      | ok numbered' =>
        have := ih (by omega) hrest
        rw [List.length_cons]
        omega

/-- The counter only grows, up to its end. -/
theorem assignSequences_le (updates : List SubscribeUpdate) :
    ∀ {nextSequence : Nat}, nextSequence ≤ u64Max →
      nextSequence ≤ (assignSequences nextSequence updates).1 ∧
        (assignSequences nextSequence updates).1 ≤ u64Max := by
  induction updates with
  | nil =>
    intro nextSequence hle
    exact ⟨le_rfl, hle⟩
  | cons update rest ih =>
    intro nextSequence hle
    unfold assignSequences
    split
    · exact ⟨le_rfl, hle⟩
    · rename_i hfits
      have := @ih (nextSequence + 1) (by omega)
      dsimp only
      omega

section
variable [ZakuraChain] [WireFormat]

/-- An event that does not encode, or exhausts the counter, publishes nothing. -/
theorem beginEvent_spec {event : EventEnvelope} (h : plugin.beginEvent event = some plugin') :
    plugin.state.publisher = .idle ∧ plugin'.config = plugin.config ∧
      plugin'.encodingPool = plugin.encodingPool ∧
      ((plugin'.state = plugin.state ∧ (plugin'.nextSequence = plugin.nextSequence ∨
          ∃ updates error, plugin.encode event = .ok updates ∧
            assignSequences plugin.nextSequence updates =
              (plugin'.nextSequence, .error error))) ∨
        ∃ updates numbered, plugin.encode event = .ok updates ∧
          assignSequences plugin.nextSequence updates = (plugin'.nextSequence, .ok numbered) ∧
          plugin.state.prepare numbered = some plugin'.state) := by
  unfold beginEvent at h
  split at h
  · rename_i hidle
    refine ⟨hidle, ?_⟩
    split at h
    · cases h
      exact ⟨rfl, rfl, .inl ⟨rfl, .inl rfl⟩⟩
    · rename_i updates hencode
      split at h
      · rename_i nextSequence error hassign
        cases h
        exact ⟨rfl, rfl, .inl ⟨rfl, .inr ⟨updates, error, hencode, hassign⟩⟩⟩
      · rename_i nextSequence numbered hassign
        obtain ⟨state, hprepare, rfl⟩ := Option.map_eq_some_iff.mp h
        exact ⟨rfl, rfl, .inr ⟨updates, numbered, hencode, hassign, hprepare⟩⟩
  all_goals cases h

/-- The publisher's part of `beginEvent`. -/
theorem beginEvent_runs {event : EventEnvelope} (h : plugin.beginEvent event = some plugin') :
    ∃ events, runs Publication.step plugin.state events = some plugin'.state := by
  obtain ⟨-, -, -, ⟨hstate, -⟩ | ⟨updates, numbered, -, -, hprepare⟩⟩ := beginEvent_spec h
  · exact ⟨[], by rw [hstate]; rfl⟩
  · exact ⟨[.prepare numbered], runs_cons.mpr ⟨_, hprepare, rfl⟩⟩

end

/-! ## The counter and the batches -/

/-- While a batch is published too, the sequences stay below the counter. -/
structure Numbered (plugin : GrpcPlugin) : Prop where
  published : plugin.state.PublishInv
  bounded : plugin.state.replay.Bounded
  counter_le : plugin.nextSequence ≤ u64Max
  sequence_le : ∀ update ∈ plugin.state.prepared, update.message.sequence ≤ plugin.nextSequence

theorem numbered_new (config : Config) : (new config).onLoad.Numbered where
  published := Publication.publishInv_new _
  bounded := ReplayBuffer.bounded_new _
  counter_le := Nat.zero_le _
  sequence_le _ h := nomatch h

section
variable [ZakuraChain] [WireFormat]

omit [WireFormat] in
/-- **Every batch is accepted.** The numbered updates of an event go on behind
what is sent, at one height. -/
theorem Numbered.accepts (h : plugin.Numbered) {event : EventEnvelope}
    {updates numbered : List SubscribeUpdate} {lastSequence : Nat}
    (hencode : plugin.encode event = .ok updates)
    (hassign : assignSequences plugin.nextSequence updates = (lastSequence, .ok numbered)) :
    plugin.state.Accepts numbered ∧ lastSequence = plugin.nextSequence + updates.length ∧
      numbered.map (·.sequence) = List.range' (plugin.nextSequence + 1) updates.length := by
  have hfits := assignSequences_fits updates h.counter_le hassign
  obtain ⟨numbered', hassign', hsequences, hheights⟩ := assignSequences_spec updates hfits
  rw [hassign] at hassign'
  cases hassign'
  have hsequence : ∀ update ∈ numbered, plugin.nextSequence + 1 ≤ update.sequence := by
    intro update hmem
    have hin : update.sequence ∈ numbered.map (·.sequence) := List.mem_map.mpr ⟨update, hmem, rfl⟩
    rw [hsequences, List.mem_range'_1] at hin
    exact hin.1
  have hsource : ∀ update ∈ numbered, ∃ source ∈ updates,
      blockHeight source = blockHeight update := by
    intro update hmem
    have hin : blockHeight update ∈ numbered.map blockHeight := List.mem_map.mpr ⟨update, hmem, rfl⟩
    rw [hheights] at hin
    exact List.mem_map.mp hin
  refine ⟨⟨?_, fun update hmem => ?_, fun update hmem update' hmem' hsome hsome' => ?_⟩, rfl,
    hsequences⟩
  · rw [hsequences]
    exact List.pairwise_lt_range' 1
  · have hle := hsequence update hmem
    refine ⟨by omega, fun earlier hearlier => ?_⟩
    have hsent : earlier ∈ plugin.state.prepared :=
      List.mem_append_left _ (List.mem_append_left _ hearlier)
    have := h.sequence_le earlier hsent
    omega
  · obtain ⟨source, hin, heq⟩ := hsource update hmem
    obtain ⟨source', hin', heq'⟩ := hsource update' hmem'
    rw [← heq, ← heq']
    rcases encodeEvent_oneHeight hencode with ⟨height, hall⟩ | hnone
    · rw [hall source hin, hall source' hin']
    · rw [hnone source hin, hnone source' hin']

/-- An idle plugin takes every event. -/
theorem Numbered.beginEvent_isSome (h : plugin.Numbered) (hidle : plugin.state.publisher = .idle)
    (event : EventEnvelope) : ∃ plugin', plugin.beginEvent event = some plugin' := by
  unfold beginEvent
  rw [hidle]
  dsimp only
  cases hencode : plugin.encode event with
  | error error => exact ⟨_, rfl⟩
  | ok updates =>
    dsimp only
    generalize hassign : assignSequences plugin.nextSequence updates = assigned
    obtain ⟨lastSequence, result⟩ := assigned
    cases result with
    | error error => exact ⟨_, rfl⟩
    | ok numbered =>
      have haccepts := (h.accepts hencode hassign).1
      simp only [Publication.prepare, hidle, if_pos haccepts, Option.map_some]
      exact ⟨_, rfl⟩

theorem Numbered.beginEvent (h : plugin.Numbered) {event : EventEnvelope}
    (hbegin : plugin.beginEvent event = some plugin') : plugin'.Numbered := by
  obtain ⟨hidle, -, -, hcases⟩ := beginEvent_spec hbegin
  obtain ⟨events, hrun⟩ := beginEvent_runs hbegin
  have hpublished := runs_invariant (I := Publication.PublishInv)
    (fun _ _ _ hstep hinv => hinv.step hstep) hrun h.published
  have hbounded := runs_invariant (I := fun publication => publication.replay.Bounded)
    (fun _ _ _ hstep hb => Publication.step_bounded hstep hb) hrun h.bounded
  rcases hcases with ⟨hstate, hcounter | ⟨updates, error, hencode, hassign⟩⟩ |
    ⟨updates, numbered, hencode, hassign, hprepare⟩
  · refine ⟨hpublished, hbounded, by rw [hcounter]; exact h.counter_le, ?_⟩
    rw [hstate, hcounter]
    exact h.sequence_le
  · have hle := assignSequences_le updates h.counter_le
    rw [hassign] at hle
    refine ⟨hpublished, hbounded, hle.2, fun update hmem => ?_⟩
    rw [hstate] at hmem
    exact (h.sequence_le update hmem).trans hle.1
  · have hle := assignSequences_le updates h.counter_le
    rw [hassign] at hle
    obtain ⟨-, hlast, hsequences⟩ := h.accepts hencode hassign
    refine ⟨hpublished, hbounded, hle.2, fun update hmem => ?_⟩
    obtain ⟨-, -, heq⟩ := Publication.prepare_spec hprepare
    rw [heq] at hmem
    rcases List.mem_append.mp hmem with hmem | hmem
    · have hsent : update ∈ plugin.state.prepared := by
        refine List.mem_append_left _ (List.mem_append_left _ ?_)
        simpa [pushed, Publisher.unsent] using hmem
      exact (h.sequence_le update hsent).trans hle.1
    · have hbatch := (prepareBatch_frame plugin.state.mempool numbered).1
      have hin : update.message.sequence ∈
          (prepareBatch plugin.state.mempool numbered).2.map (·.message.sequence) :=
        List.mem_map.mpr ⟨update, hmem, rfl⟩
      rw [hbatch, hsequences, List.mem_range'_1] at hin
      omega

omit [ZakuraChain] in
/-- A step of the publisher behind the batch. -/
theorem Numbered.publish (h : plugin.Numbered) {event : PublishEvent}
    (hnot : ∀ updates, event ≠ .prepare updates) {state : Publication}
    (hstep : plugin.state.step event = some state) :
    Numbered { plugin with state := state } where
  published := h.published.step hstep
  bounded := Publication.step_bounded hstep h.bounded
  counter_le := h.counter_le
  sequence_le update hmem := by
    rw [Publication.prepared_step hstep hnot] at hmem
    exact h.sequence_le update hmem

end

end GrpcPlugin

/-! ## Calls -/

/-- The call that the event is about. -/
def ServiceEvent.callIndex : ServiceEvent → Option Nat
  | .first index _ | .cancel index | .snapshotReplay index _ | .snapshotMempool index
  | .task index _ => some index
  | .onEvent _ | .push _ | .send | .finish | .call _ | .replayInfo _ _ | .shutdown => none

namespace GrpcService

variable {service service' : GrpcService}

/-- Where the call at `index` is; `none` before it arrives. -/
def phaseOf (service : GrpcService) (index : Nat) : Option CallPhase :=
  (service.calls[index]?).map (·.phase)

/-- The task of the call at `index`, once it runs. -/
def taskOf (service : GrpcService) (index : Nat) : Option SubscriptionTask :=
  match service.phaseOf index with
  | some (.running task) => some task
  | _ => none

theorem taskOf_eq_some {index : Nat} {task : SubscriptionTask} :
    service.taskOf index = some task ↔ service.phaseOf index = some (.running task) := by
  unfold taskOf
  split
  · rename_i found hphase
    rw [hphase, Option.some.injEq, Option.some.injEq, CallPhase.running.injEq]
  · rename_i hnot
    exact ⟨nofun, fun heq => absurd heq (hnot task)⟩

/-- What moving the call at `index` to `phase` does to the service. -/
structure CallMoves (service service' : GrpcService) (index : Nat) (call : SubscribeCall)
    (phase : CallPhase) (replay : ReplayBuffer) : Prop where
  found : service.calls[index]? = some call
  calls : service'.calls = service.calls.set index { call with phase := phase }
  plugin : service'.plugin = (service.withReplay replay).plugin
  closed : service'.closed = service.closed
  guards : (call.phase.holdsGuard = true ∧ phase.holdsGuard = false ∧
      service.subscriptions.step (.drop call.guard) = some service'.subscriptions) ∨
    ((call.phase.holdsGuard = true → phase.holdsGuard = true) ∧
      service'.subscriptions = service.subscriptions)

theorem onCall_spec {index : Nat} {turn : CallPhase → Option (CallPhase × ReplayBuffer)}
    (h : service.onCall index turn = some service') :
    ∃ call phase replay, turn call.phase = some (phase, replay) ∧
      service.CallMoves service' index call phase replay := by
  obtain ⟨call, hfound, h⟩ := Option.bind_eq_some_iff.mp h
  obtain ⟨⟨phase, replay⟩, hturn, h⟩ := Option.bind_eq_some_iff.mp h
  refine ⟨call, phase, replay, hturn, ?_⟩
  dsimp only at h
  split at h
  · rename_i hdrops
    obtain ⟨subscriptions, hdrop, rfl⟩ := Option.map_eq_some_iff.mp h
    rw [Bool.and_eq_true, Bool.not_eq_true'] at hdrops
    exact ⟨hfound, rfl, rfl, rfl, .inl ⟨hdrops.1, hdrops.2, hdrop⟩⟩
  · rename_i hkeeps
    cases h
    refine ⟨hfound, rfl, rfl, rfl, .inr ⟨fun hheld => ?_, rfl⟩⟩
    rw [hheld, Bool.true_and, Bool.not_eq_true', Bool.not_eq_false] at hkeeps
    exact hkeeps

theorem whileOpen_spec {next : Option GrpcService} (h : service.whileOpen next = some service') :
    service.closed = false ∧ next = some service' := by
  unfold whileOpen at h
  split at h
  · cases h
  · rename_i hopen
    exact ⟨by simpa using hopen, h⟩

theorem onPlugin_spec {turn : GrpcPlugin → Option GrpcPlugin}
    (h : service.onPlugin turn = some service') :
    service.closed = false ∧ ∃ plugin, turn service.plugin = some plugin ∧
      service' = { service with plugin := plugin } := by
  obtain ⟨hopen, h⟩ := whileOpen_spec h
  obtain ⟨plugin, hturn, rfl⟩ := Option.map_eq_some_iff.mp h
  exact ⟨hopen, plugin, hturn, rfl⟩

/-- The three outcomes of a call's arrival. -/
theorem call_spec {config : ServerConfig} {request : RpcRequest}
    (h : service.call config request = some service') :
    ((∃ status, TokenAuth.authorize ⟨config.xToken⟩ request = .error status) ∧
        service' = service) ∨
      TokenAuth.authorize ⟨config.xToken⟩ request = .ok () ∧
        service.subscriptions.step (.acquire request.toSubscriptionRequest) =
          some service'.subscriptions ∧
        ((∃ status, (service.subscriptions.tracker.acquire request.toSubscriptionRequest).1 =
              .error status ∧
            service' = { service with subscriptions := service'.subscriptions }) ∨
          ∃ guard, (service.subscriptions.tracker.acquire request.toSubscriptionRequest).1 =
              .ok guard ∧
            service' =
              { service with
                subscriptions := service'.subscriptions
                calls := service.calls ++ [{ guard := guard }] }) := by
  unfold call at h
  cases hauth : TokenAuth.authorize ⟨config.xToken⟩ request with
  | error status =>
    rw [hauth] at h
    cases h
    exact .inl ⟨⟨status, rfl⟩, rfl⟩
  | ok _ =>
    rw [hauth] at h
    obtain ⟨subscriptions, hacquire, heq⟩ := Option.map_eq_some_iff.mp h
    refine .inr ⟨rfl, ?_⟩
    split at heq
    · rename_i status hrefused
      cases heq
      exact ⟨hacquire, .inl ⟨status, hrefused, rfl⟩⟩
    · rename_i guard hadmitted
      cases heq
      exact ⟨hacquire, .inr ⟨guard, hadmitted, rfl⟩⟩

section
variable [ZakuraChain] [WireFormat] {config : ServerConfig}

/-- The turns of the call at `index`: the event, the phase before and behind it, and
the replay buffer behind it. -/
inductive Turn (config : ServerConfig) (service : GrpcService) (index : Nat) :
    ServiceEvent → CallPhase → CallPhase → ReplayBuffer → Prop where
  | refused {message : Except Status (Option SubscribeRequest)} {status : Status}
      (h : receiveInitialFilter config.filterLimits message = .error status) :
      Turn config service index (.first index message) .opening (.failed status)
        service.plugin.state.replay
  | attached {request : SubscribeRequest} {filter : EventFilter}
      (h : EventFilter.new request config.filterLimits = .ok filter) :
      Turn config service index (.first index (.ok (some request))) .opening
        (.attached request filter service.plugin.state.sent.length) service.plugin.state.replay
  | cancelled : Turn config service index (.cancel index) .opening .cancelled
      service.plugin.state.replay
  | unavailable {now live : Nat} {request : SubscribeRequest} {filter : EventFilter}
      {status : Status} {replay : ReplayBuffer}
      (h : subscribeReplay service.plugin.state.replay request now =
        some (replay, .error status)) :
      Turn config service index (.snapshotReplay index now) (.attached request filter live)
        (.failed status) replay
  | replayed {now live : Nat} {request : SubscribeRequest} {filter : EventFilter}
      {snapshot : ReplaySnapshot} {replay : ReplayBuffer}
      (h : subscribeReplay service.plugin.state.replay request now =
        some (replay, .ok snapshot)) :
      Turn config service index (.snapshotReplay index now) (.attached request filter live)
        (.replayed request filter live snapshot) replay
  | started {request : SubscribeRequest} {filter : EventFilter} {live : Nat}
      {snapshot : ReplaySnapshot}
      (hlock : request.includeMempoolSnapshot = true →
        service.plugin.state.publisher.isLocked = false)
      (hcapacity : config.clientChannelCapacity ≠ 0) :
      Turn config service index (.snapshotMempool index) (.replayed request filter live snapshot)
        (.running (.start filter config.clientChannelCapacity
          { live := live
            replay := snapshot
            mempool := if request.includeMempoolSnapshot then
              some service.plugin.state.mempool.snapshot else none
            reconnect := request.resume.map reconnectUpdate })) service.plugin.state.replay
  | moved {event : TaskEvent} {task task' : SubscriptionTask}
      (h : task.step config.settings (service.ring config) event = some task') :
      Turn config service index (.task index event) (.running task) (.running task')
        service.plugin.state.replay

section
variable {index : Nat} {phase phase' : CallPhase}

theorem turn_of_firstTurn {message : Except Status (Option SubscribeRequest)}
    (h : firstTurn config.filterLimits service.plugin.state.sent message phase = some phase') :
    Turn config service index (.first index message) phase phase' service.plugin.state.replay := by
  cases phase with
  | opening =>
    unfold firstTurn at h
    dsimp only at h
    split at h
    · rename_i status hrefused
      cases h
      exact .refused hrefused
    · rename_i hreceived
      cases h
      unfold receiveInitialFilter at hreceived
      split at hreceived
      · cases hreceived
      · cases hreceived
      · obtain ⟨compiled, hcompiled, heq⟩ := Except.map_eq_ok.mp hreceived
        cases heq
        exact .attached hcompiled
  | _ => cases h

theorem turn_of_cancelTurn (h : cancelTurn phase = some phase') :
    Turn config service index (.cancel index) phase phase' service.plugin.state.replay := by
  cases phase with
  | opening =>
    cases h
    exact .cancelled
  | _ => cases h

theorem turn_of_snapshotReplayTurn {now : Nat} {replay : ReplayBuffer}
    (h : snapshotReplayTurn service.plugin.state.replay now phase = some (phase', replay)) :
    Turn config service index (.snapshotReplay index now) phase phase' replay := by
  cases phase with
  | attached request filter live =>
    obtain ⟨⟨buffer, result⟩, hread, heq⟩ := Option.map_eq_some_iff.mp h
    cases result with
    | error status =>
      cases heq
      exact .unavailable hread
    | ok snapshot =>
      cases heq
      exact .replayed hread
  | _ => cases h

theorem turn_of_snapshotMempoolTurn
    (h : snapshotMempoolTurn config service.plugin.state phase = some phase') :
    Turn config service index (.snapshotMempool index) phase phase'
      service.plugin.state.replay := by
  cases phase with
  | replayed request filter live snapshot =>
    unfold snapshotMempoolTurn at h
    dsimp only at h
    split at h
    · cases h
    rename_i hlock
    split at h
    · cases h
    rename_i hcapacity
    cases h
    exact .started (fun hinclude => by simpa [hinclude] using hlock) hcapacity
  | _ => cases h

theorem turn_of_taskTurn {event : TaskEvent}
    (h : taskTurn config.settings (service.ring config) event phase = some phase') :
    Turn config service index (.task index event) phase phase' service.plugin.state.replay := by
  cases phase with
  | running task =>
    obtain ⟨task', hstep, heq⟩ := Option.map_eq_some_iff.mp h
    cases heq
    exact .moved hstep
  | _ => cases h

/-- A turn evicts, or leaves the buffer alone. -/
theorem Turn.replay {event : ServiceEvent} {replay : ReplayBuffer}
    (h : Turn config service index event phase phase' replay) :
    replay = service.plugin.state.replay ∨
      ∃ now, service.plugin.state.replay.evict now = some replay := by
  cases h with
  | unavailable hread | replayed hread =>
    exact (subscribeReplay_evicts hread).imp id fun hevict => ⟨_, hevict⟩
  | _ => exact .inl rfl

end

omit [ZakuraChain] [WireFormat] in
theorem keeping_spec {turn : CallPhase → Option CallPhase} {phase phase' : CallPhase}
    {replay : ReplayBuffer} (h : service.keeping turn phase = some (phase', replay)) :
    turn phase = some phase' ∧ replay = service.plugin.state.replay := by
  obtain ⟨next, hturn, heq⟩ := Option.map_eq_some_iff.mp h
  cases heq
  exact ⟨hturn, rfl⟩

/-- **The steps.** The plugin moves, a call arrives, a call moves, or the shared
state goes. -/
theorem step_cases {event : ServiceEvent} (hstep : service.step config event = some service') :
    (event.callIndex = none ∧ service.closed = false ∧
        ∃ plugin, service' = { service with plugin := plugin } ∧
        ((∃ envelope, event = .onEvent envelope ∧
            service.plugin.beginEvent envelope = some plugin) ∨
          ∃ publish, (∀ updates, publish ≠ PublishEvent.prepare updates) ∧
            service.plugin.publish publish = some plugin)) ∨
      (∃ request, event = .call request ∧ service.call config request = some service') ∨
      (∃ index call phase replay, event.callIndex = some index ∧
        Turn config service index event call.phase phase replay ∧
        service.CallMoves service' index call phase replay) ∨
      (event.callIndex = none ∧ service' = service) ∨
      (event = .shutdown ∧ service.plugin.state.publisher = .idle ∧
        service' = { service with closed := true }) := by
  have hpublish : ∀ {publish : PublishEvent}, (∀ updates, publish ≠ .prepare updates) →
      service.onPlugin (·.publish publish) = some service' →
      service.closed = false ∧ ∃ plugin, service' = { service with plugin := plugin } ∧
        ((∃ envelope, event = .onEvent envelope ∧
            service.plugin.beginEvent envelope = some plugin) ∨
          ∃ publish, (∀ updates, publish ≠ PublishEvent.prepare updates) ∧
            service.plugin.publish publish = some plugin) := by
    intro publish hnot h
    obtain ⟨hopen, plugin, hturn, heq⟩ := onPlugin_spec h
    exact ⟨hopen, plugin, heq, .inr ⟨publish, hnot, hturn⟩⟩
  have hkeeping : ∀ {index : Nat} {turn : CallPhase → Option CallPhase},
      service.onCall index (service.keeping turn) = some service' →
      ∃ call phase, turn call.phase = some phase ∧
        service.CallMoves service' index call phase service.plugin.state.replay := by
    intro index turn h
    obtain ⟨call, phase, replay, hturn, hmoves⟩ := onCall_spec h
    obtain ⟨hnext, rfl⟩ := keeping_spec hturn
    exact ⟨call, phase, hnext, hmoves⟩
  cases event with
  | onEvent envelope =>
    have hbegin : service.onPlugin (·.beginEvent envelope) = some service' := hstep
    obtain ⟨hopen, plugin, hturn, heq⟩ := onPlugin_spec hbegin
    exact .inl ⟨rfl, hopen, plugin, heq, .inl ⟨envelope, rfl, hturn⟩⟩
  | push now => exact .inl ⟨rfl, @hpublish (.push now) (fun _ h => nomatch h) hstep⟩
  | send => exact .inl ⟨rfl, @hpublish .send (fun _ h => nomatch h) hstep⟩
  | finish => exact .inl ⟨rfl, @hpublish .finish (fun _ h => nomatch h) hstep⟩
  | call request =>
    obtain ⟨-, hcall⟩ := whileOpen_spec hstep
    exact .inr (.inl ⟨request, rfl, hcall⟩)
  | first index message =>
    obtain ⟨-, hturn⟩ := whileOpen_spec hstep
    obtain ⟨call, phase, hturn, hmoves⟩ := hkeeping hturn
    exact .inr (.inr (.inl ⟨index, call, phase, _, rfl, turn_of_firstTurn hturn, hmoves⟩))
  | cancel index =>
    obtain ⟨call, phase, hturn, hmoves⟩ := hkeeping hstep
    exact .inr (.inr (.inl ⟨index, call, phase, _, rfl, turn_of_cancelTurn hturn, hmoves⟩))
  | snapshotReplay index now =>
    obtain ⟨-, hturn⟩ := whileOpen_spec hstep
    obtain ⟨call, phase, replay, hturn, hmoves⟩ := onCall_spec hturn
    exact .inr (.inr (.inl ⟨index, call, phase, replay, rfl, turn_of_snapshotReplayTurn hturn,
      hmoves⟩))
  | snapshotMempool index =>
    obtain ⟨-, hturn⟩ := whileOpen_spec hstep
    obtain ⟨call, phase, hturn, hmoves⟩ := hkeeping hturn
    exact .inr (.inr (.inl ⟨index, call, phase, _, rfl, turn_of_snapshotMempoolTurn hturn, hmoves⟩))
  | task index event =>
    obtain ⟨call, phase, hturn, hmoves⟩ := hkeeping hstep
    exact .inr (.inr (.inl ⟨index, call, phase, _, rfl, turn_of_taskTurn hturn, hmoves⟩))
  | replayInfo request now =>
    obtain ⟨-, hinfo⟩ := whileOpen_spec hstep
    split at hinfo
    · exact .inr (.inr (.inr (.inl ⟨rfl, (Option.some.inj hinfo).symm⟩)))
    · exact .inl ⟨rfl, @hpublish (.evict now) (fun _ h => nomatch h) hinfo⟩
  | shutdown =>
    unfold step at hstep
    dsimp only at hstep
    split at hstep
    · rename_i hidle
      split at hstep
      · cases hstep
      · exact .inr (.inr (.inr (.inr ⟨rfl, hidle, (Option.some.inj hstep).symm⟩)))
    all_goals cases hstep

/-- **The publisher's part of a step** is a run of the publisher. -/
theorem step_publication {event : ServiceEvent} (hstep : service.step config event = some service') :
    ∃ events, runs Publication.step service.plugin.state events = some service'.plugin.state := by
  rcases step_cases hstep with
    ⟨-, -, plugin, rfl, ⟨envelope, -, hbegin⟩ | ⟨publish, -, hpublish⟩⟩ | ⟨request, -, hcall⟩ |
    ⟨index, call, phase, replay, -, hturn, hmoves⟩ | ⟨-, rfl⟩ | ⟨-, -, rfl⟩
  · exact GrpcPlugin.beginEvent_runs hbegin
  · obtain ⟨state, hstate, rfl⟩ := Option.map_eq_some_iff.mp hpublish
    exact ⟨[publish], runs_cons.mpr ⟨state, hstate, rfl⟩⟩
  · rcases call_spec hcall with ⟨-, rfl⟩ | ⟨-, -, ⟨_, -, heq⟩ | ⟨_, -, heq⟩⟩
    · exact ⟨[], rfl⟩
    all_goals
      rw [heq]
      exact ⟨[], rfl⟩
  · rw [hmoves.plugin]
    rcases hturn.replay with rfl | ⟨now, hevict⟩
    · exact ⟨[], rfl⟩
    · refine ⟨[.evict now], runs_cons.mpr ⟨_, ?_, rfl⟩⟩
      show (service.plugin.state.replay.evict now).map _ = _
      rw [hevict]
      rfl
  · exact ⟨[], rfl⟩
  · exact ⟨[], rfl⟩

/-- What is sent only grows, and not behind the end of the shared state. -/
theorem sent_step {event : ServiceEvent} (hstep : service.step config event = some service') :
    service.plugin.state.sent <+: service'.plugin.state.sent ∧
      (service.closed = true → service'.closed = true ∧
        service'.plugin.state.sent = service.plugin.state.sent) := by
  refine ⟨?_, fun hclosed => ?_⟩
  · obtain ⟨events, hrun⟩ := step_publication hstep
    exact runs_invariant (I := fun publication : Publication =>
      service.plugin.state.sent <+: publication.sent)
      (fun _ _ _ hpublish h => h.trans (Publication.step_grows hpublish).1) hrun List.prefix_rfl
  · rcases step_cases hstep with ⟨-, hopen, -⟩ | ⟨request, -, hcall⟩ |
      ⟨index, call, phase, replay, -, hturn, hmoves⟩ | ⟨-, rfl⟩ | ⟨-, -, rfl⟩
    · rw [hclosed] at hopen
      cases hopen
    · rcases call_spec hcall with ⟨-, rfl⟩ | ⟨-, -, ⟨_, -, heq⟩ | ⟨_, -, heq⟩⟩
      · exact ⟨hclosed, rfl⟩
      all_goals
        rw [heq]
        exact ⟨hclosed, rfl⟩
    · refine ⟨hmoves.closed.trans hclosed, ?_⟩
      rw [hmoves.plugin]
      rfl
    · exact ⟨hclosed, rfl⟩
    · exact ⟨rfl, rfl⟩

/-- Every step keeps the plugin's invariant. -/
theorem numbered_step (h : service.plugin.Numbered) {event : ServiceEvent}
    (hstep : service.step config event = some service') : service'.plugin.Numbered := by
  rcases step_cases hstep with
    ⟨-, -, plugin, rfl, ⟨envelope, -, hbegin⟩ | ⟨publish, hnot, hpublish⟩⟩ | ⟨request, -, hcall⟩ |
    ⟨index, call, phase, replay, -, hturn, hmoves⟩ | ⟨-, rfl⟩ | ⟨-, -, rfl⟩
  · exact h.beginEvent hbegin
  · obtain ⟨state, hstate, rfl⟩ := Option.map_eq_some_iff.mp hpublish
    exact h.publish hnot hstate
  · rcases call_spec hcall with ⟨-, rfl⟩ | ⟨-, -, ⟨_, -, heq⟩ | ⟨_, -, heq⟩⟩
    · exact h
    all_goals
      rw [heq]
      exact h
  · rw [hmoves.plugin]
    rcases hturn.replay with rfl | ⟨now, hevict⟩
    · exact h
    · have hstate : service.plugin.state.step (.evict now) =
          some { service.plugin.state with replay := replay } := by
        show (service.plugin.state.replay.evict now).map _ = _
        rw [hevict]
        rfl
      exact h.publish (by intro _ heq; cases heq) hstate
  · exact h
  · exact h

/-! ## One call -/

omit [ZakuraChain] [WireFormat] in
theorem phaseOf_calls {index : Nat} {call : SubscribeCall} {phase : CallPhase}
    {replay : ReplayBuffer} (h : service.CallMoves service' index call phase replay) (other : Nat) :
    service'.phaseOf other = if index = other then some phase else service.phaseOf other := by
  obtain ⟨hindex, -⟩ := List.getElem?_eq_some_iff.mp h.found
  rw [phaseOf, phaseOf, h.calls, List.getElem?_set]
  split <;> rfl

/-- **One call.** It stays as it is, arrives, or takes a turn. -/
theorem phase_step {event : ServiceEvent} (hstep : service.step config event = some service')
    (index : Nat) :
    (event.callIndex ≠ some index ∧ service'.phaseOf index = service.phaseOf index) ∨
      (event.callIndex = none ∧ service.phaseOf index = none ∧
        service'.phaseOf index = some .opening ∧ service'.plugin = service.plugin ∧
        service'.closed = service.closed) ∨
      ∃ phase phase' replay, event.callIndex = some index ∧
        Turn config service index event phase phase' replay ∧
        service.phaseOf index = some phase ∧ service'.phaseOf index = some phase' ∧
        service'.plugin = (service.withReplay replay).plugin ∧
        service'.closed = service.closed := by
  have hnone : event.callIndex = none → event.callIndex ≠ some index := fun h => by
    rw [h]
    exact nofun
  rcases step_cases hstep with ⟨hevent, -, plugin, rfl, -⟩ | ⟨request, rfl, hcall⟩ |
    ⟨moved, call, phase, replay, hevent, hturn, hmoves⟩ | ⟨hevent, rfl⟩ | ⟨rfl, -, rfl⟩
  · exact .inl ⟨hnone hevent, rfl⟩
  · rcases call_spec hcall with ⟨-, rfl⟩ | ⟨-, -, ⟨_, -, heq⟩ | ⟨guard, -, heq⟩⟩
    · exact .inl ⟨hnone rfl, rfl⟩
    · exact .inl ⟨hnone rfl, by rw [heq]; rfl⟩
    · have hcalls : service'.calls = service.calls ++ [{ guard := guard }] := by rw [heq]
      by_cases hindex : index = service.calls.length
      · refine .inr (.inl ⟨rfl, ?_, ?_, by rw [heq], by rw [heq]⟩)
        · rw [phaseOf, hindex, List.getElem?_eq_none le_rfl]
          rfl
        · rw [phaseOf, hcalls, hindex, List.getElem?_concat_length]
          rfl
      · refine .inl ⟨hnone rfl, ?_⟩
        rw [phaseOf, phaseOf, hcalls, List.getElem?_append]
        split
        · rfl
        · rename_i hlt
          rw [List.getElem?_eq_none (by omega : service.calls.length ≤ index),
            List.getElem?_eq_none (by simp only [List.length_singleton]; omega)]
  · by_cases hindex : moved = index
    · subst hindex
      refine .inr (.inr ⟨call.phase, phase, replay, hevent, hturn, ?_, ?_, hmoves.plugin,
        hmoves.closed⟩)
      · rw [phaseOf, hmoves.found]
        rfl
      · rw [phaseOf_calls hmoves, if_pos rfl]
    · refine .inl ⟨?_, ?_⟩
      · rw [hevent]
        exact fun heq => hindex (Option.some.inj heq)
      · rw [phaseOf_calls hmoves, if_neg hindex]
  · exact .inl ⟨hnone hevent, rfl⟩
  · exact .inl ⟨hnone rfl, rfl⟩

end

end GrpcService

end ZakuraGrpc
