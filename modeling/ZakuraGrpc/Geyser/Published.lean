import ZakuraGrpc.Geyser.Handover
import ZakuraGrpc.Geyser.Slots

/-!
# What is published

In every state of the service all that is prepared, retained or kept of the mempool
is data (`CarriesData`): the messages about a subscription itself are made by its
own task. `Sound` joins this to what the plugin keeps, for every run.
-/

namespace ZakuraGrpc

open Runs
open Publication (PublishEvent prepared pushed)

/-! ## What is published -/

theorem isData_iff (message : SubscribeUpdate) :
    Hub.isData message = true ↔
      (blockHeight message).isSome = true ∨ isMempoolUpdate message = true := by
  unfold Hub.isData blockHeight isMempoolUpdate
  cases message.update with
  | none => simp
  | some kind => cases kind <;> simp

/-- A projection keeps the kind of a message. -/
theorem isData_applyPayloadProjection (message : SubscribeUpdate) (blockPayload : BlockPayload)
    (transactionPayload : TransactionPayload) :
    Hub.isData (applyPayloadProjection message blockPayload transactionPayload) =
      Hub.isData message := by
  unfold applyPayloadProjection Hub.isData
  cases hu : message.update with
  | none => simp [hu]
  | some kind => cases kind <;> simp [hu]

section
variable [WireFormat]

theorem isData_published (message : SubscribeUpdate) :
    Hub.isData (PublishedUpdate.new message).message = Hub.isData message :=
  isData_applyPayloadProjection message .full .full

theorem isData_deliver {filter : EventFilter} {update : PublishedUpdate}
    {message : SubscribeUpdate} (h : deliver filter update = some message) :
    Hub.isData message = Hub.isData update.message := by
  obtain ⟨filterMatch, -, rfl⟩ := Option.map_eq_some_iff.mp h
  unfold PublishedUpdate.freshPayload
  split
  · rfl
  · exact isData_applyPayloadProjection _ _ _

/-- A prepared batch is data where its event's updates are. -/
theorem isData_prepareBatch {mempool : MempoolState} {updates : List SubscribeUpdate}
    (hdata : ∀ update ∈ updates, Hub.isData update = true) :
    ∀ update ∈ (prepareBatch mempool updates).2, Hub.isData update.message = true := by
  intro update hmem
  rw [prepareBatch_batch] at hmem
  obtain ⟨source, hsource, rfl⟩ := List.mem_map.mp hmem
  rw [isData_published, stampRevision]
  split
  · exact hdata source hsource
  · exact hdata source hsource

/-- A snapshot of the mempool is data. -/
theorem MempoolState.isData_snapshot {state : MempoolState}
    (hvalid : MempoolState.EntriesValid state.entries) :
    ∀ update ∈ state.snapshot.updates, Hub.isData update.message = true := by
  intro update hmem
  unfold snapshot at hmem
  split at hmem
  · cases hmem
  rcases List.mem_append.mp hmem with hmem | hmem
  · obtain ⟨chunk, -, rfl⟩ := List.mem_map.mp hmem
    rw [isData_published]
    rfl
  · obtain ⟨detail, hdetail, rfl⟩ := List.mem_map.mp hmem
    obtain ⟨⟨id, found⟩, hentry, hfound⟩ := List.mem_filterMap.mp hdetail
    dsimp only at hfound
    subst hfound
    obtain ⟨transaction, hkind, -, -⟩ :=
      hvalid id detail (Std.TreeMap.mem_toList_iff_getElem?_eq_some.mp hentry)
    rw [isData_published, isData_iff]
    refine .inr ?_
    unfold isMempoolUpdate
    rw [hkind]

end

/-- The updates of an event are data. -/
theorem isData_encodeEvent [ZakuraChain] {event : EventEnvelope} {tx utxo mempool : Bool}
    {parallel : ParallelEncoding} {updates : List SubscribeUpdate}
    (h : encodeEvent event tx utxo mempool parallel = .ok updates) :
    ∀ update ∈ updates, Hub.isData update = true := by
  have hheight : ∀ {height : Nat}, AtHeight height updates →
      ∀ update ∈ updates, Hub.isData update = true := fun hall update hmem =>
    (isData_iff update).mpr (.inl (by rw [hall update hmem]; rfl))
  cases hpayload : event.payload with
  | blockAccepted block => exact hheight (encodeEvent_atHeight (.inl hpayload) h)
  | blockFinalized block => exact hheight (encodeEvent_atHeight (.inr hpayload) h)
  | bestChainChanged change =>
    unfold encodeEvent at h
    simp only [hpayload, Except.pure_eq_ok] at h
    subst h
    intro update hmem
    rw [List.mem_singleton.mp hmem]
    rfl
  | mempoolChanged change =>
    unfold encodeEvent at h
    simp only [hpayload] at h
    intro update hmem
    rcases appendMempoolTransactionUpdates_eq_ok.mp h with ⟨-, rfl⟩ | ⟨-, encoded, hencoded, rfl⟩
    · rw [List.mem_singleton.mp hmem]
      rfl
    · rcases List.mem_append.mp hmem with hmem | hmem
      · rw [List.mem_singleton.mp hmem]
        rfl
      · obtain ⟨verified, -, hok⟩ := Except.mapM_mem hencoded update hmem
        obtain ⟨transaction, rfl, -⟩ := exists_of_encodeMempoolTransactionUpdate hok
        rfl

/-- All that is prepared is data, and the mempool keeps valid details. -/
structure Publication.CarriesData (publication : Publication) : Prop where
  prepared : ∀ update ∈ publication.prepared, Hub.isData update.message = true
  entries : MempoolState.EntriesValid publication.mempool.entries

theorem isData_assignSequences (updates : List SubscribeUpdate) :
    ∀ {nextSequence lastSequence : Nat} {numbered : List SubscribeUpdate},
      GrpcPlugin.assignSequences nextSequence updates = (lastSequence, .ok numbered) →
      (∀ update ∈ updates, Hub.isData update = true) →
      ∀ update ∈ numbered, Hub.isData update = true := by
  induction updates with
  | nil =>
    intro nextSequence lastSequence numbered h _ update hmem
    cases h
    cases hmem
  | cons first rest ih =>
    intro nextSequence lastSequence numbered h hdata update hmem
    unfold GrpcPlugin.assignSequences at h
    split at h
    · cases h
    · generalize hrest : GrpcPlugin.assignSequences (nextSequence + 1) rest = assigned at h
      obtain ⟨last, result⟩ := assigned
      cases result with
      | error error => cases h
      | ok numbered' =>
        cases h
        rcases List.mem_cons.mp hmem with rfl | hmem
        · exact hdata first List.mem_cons_self
        · exact ih hrest (fun update hin => hdata update (List.mem_cons_of_mem _ hin)) update hmem

/-! ## What a call reads -/

/-- What the replay of a call holds. -/
structure ReplaySnapshot.Reads (replay : ReplaySnapshot) : Prop where
  data : ∀ update ∈ replay.updates, Hub.isData update.message = true
  increasing : replay.updates.Pairwise fun update update' =>
    update.message.sequence < update'.message.sequence
  below : ∀ update ∈ replay.updates, update.message.sequence ≤ replay.watermark

/-- What is read was pushed, and is block-scoped. -/
theorem ReplaySnapshot.blocks_of_subscribeReplay {publication : Publication}
    (hpublished : publication.PublishInv) {request : SubscribeRequest} {now : Nat}
    {replay : ReplayBuffer} {snapshot : ReplaySnapshot}
    (hread : subscribeReplay publication.replay request now = some (replay, .ok snapshot)) :
    snapshot.updates.Sublist (replay.buckets.flatMap (·.updates)) ∧
      ∀ update ∈ snapshot.updates, update ∈ blocks publication.pushed := by
  obtain ⟨hsuffix, -, hok⟩ := subscribeReplay_spec hread
  obtain ⟨fromHeight, -, heq⟩ := hok snapshot rfl
  have hsub : snapshot.updates.Sublist (replay.buckets.flatMap (·.updates)) := by
    rw [heq]
    cases fromHeight with
    | none => exact List.nil_sublist _
    | some height => exact List.filter_sublist.flatMap _
  exact ⟨hsub, fun update hmem =>
    (hpublished.retains.of_suffix hsuffix).suffix.subset (hsub.subset hmem)⟩

/-- The retained updates are data in order, up to the watermark. -/
theorem ReplaySnapshot.reads_of_subscribeReplay {publication : Publication}
    (hpublished : publication.PublishInv) (hdata : publication.CarriesData)
    {request : SubscribeRequest} {now : Nat} {replay : ReplayBuffer} {snapshot : ReplaySnapshot}
    (hread : subscribeReplay publication.replay request now = some (replay, .ok snapshot)) :
    snapshot.Reads := by
  obtain ⟨hsub, hblocks⟩ := ReplaySnapshot.blocks_of_subscribeReplay hpublished hread
  obtain ⟨hsuffix, -, hok⟩ := subscribeReplay_spec hread
  obtain ⟨fromHeight, -, heq⟩ := hok snapshot rfl
  have hretains := hpublished.retains.of_suffix hsuffix
  have hinc := hpublished.increasing_pushed
  refine ⟨fun update hmem => ?_, (hretains.increasing hinc).order.sublist hsub,
    fun update hmem => ?_⟩
  · have hpushed : update ∈ publication.pushed := (List.mem_filter.mp (hblocks update hmem)).1
    exact hdata.prepared update (List.mem_append_left _ hpushed)
  · have hne : replay.buckets ≠ [] := by
      intro hnil
      have hin := hsub.subset hmem
      rw [hnil] at hin
      cases hin
    have hle := (hretains.watermark hinc hne).2 update (hblocks update hmem)
    rw [heq]
    exact hle

namespace GrpcService

variable {service service' : GrpcService} {config : ServerConfig}

/-- What holds of the plugin and of what the calls read, in every state reached. -/
structure Sound (service : GrpcService) : Prop where
  numbered : service.plugin.Numbered
  data : service.plugin.state.CarriesData
  replays : ∀ index request filter live replay,
    service.phaseOf index = some (.replayed request filter live replay) → replay.Reads
  replayed : ∀ index request filter live replay,
    service.phaseOf index = some (.replayed request filter live replay) →
    ∀ update ∈ replay.updates, update ∈ service.plugin.state.pushed

theorem sound_new (config : ServerConfig) : (new config).Sound where
  numbered := GrpcPlugin.numbered_new config.toConfig
  data :=
    { prepared := by
        intro update hmem
        cases hmem
      entries := MempoolState.entriesValid_empty }
  replays _ _ _ _ _ h := nomatch h
  replayed _ _ _ _ _ h := nomatch h

section
variable [ZakuraChain] [WireFormat]

theorem carriesData_beginEvent {plugin plugin' : GrpcPlugin} {event : EventEnvelope}
    (h : plugin.state.CarriesData) (hbegin : plugin.beginEvent event = some plugin') :
    plugin'.state.CarriesData := by
  obtain ⟨events, hrun⟩ := GrpcPlugin.beginEvent_runs hbegin
  have hentries := runs_invariant
    (I := fun publication : Publication => MempoolState.EntriesValid publication.mempool.entries)
    (fun _ _ _ hstep hvalid => (Publication.step_grows hstep).2.2 hvalid) hrun h.entries
  refine ⟨?_, hentries⟩
  obtain ⟨-, -, -, ⟨hstate, -⟩ | ⟨updates, numbered, hencode, hassign, hprepare⟩⟩ :=
    GrpcPlugin.beginEvent_spec hbegin
  · rw [hstate]
    exact h.prepared
  · obtain ⟨hidle, -, heq⟩ := Publication.prepare_spec hprepare
    intro update hmem
    rw [heq] at hmem
    rcases List.mem_append.mp hmem with hmem | hmem
    · refine h.prepared update (List.mem_append_left _ ?_)
      rw [pushed, hidle]
      exact hmem
    · exact isData_prepareBatch
        (isData_assignSequences updates hassign (isData_encodeEvent hencode)) update hmem

omit [ZakuraChain] in
theorem carriesData_publish {publication publication' : Publication} {event : PublishEvent}
    (h : publication.CarriesData) (hnot : ∀ updates, event ≠ .prepare updates)
    (hstep : publication.step event = some publication') : publication'.CarriesData := by
  refine ⟨?_, (Publication.step_grows hstep).2.2 h.entries⟩
  rw [Publication.prepared_step hstep hnot]
  exact h.prepared

theorem carriesData_step (h : service.plugin.state.CarriesData) {event : ServiceEvent}
    (hstep : service.step config event = some service') :
    service'.plugin.state.CarriesData := by
  rcases step_cases hstep with
    ⟨-, -, plugin, rfl, ⟨envelope, -, hbegin⟩ | ⟨publish, hnot, hpublish⟩⟩ | ⟨request, -, hcall⟩ |
    ⟨index, call, phase, replay, -, hturn, hmoves⟩ | ⟨-, rfl⟩ | ⟨-, -, rfl⟩
  · exact carriesData_beginEvent h hbegin
  · obtain ⟨state, hstate, rfl⟩ := Option.map_eq_some_iff.mp hpublish
    exact carriesData_publish h hnot hstate
  · rcases call_spec hcall with ⟨-, rfl⟩ | ⟨-, -, ⟨_, -, heq⟩ | ⟨_, -, heq⟩⟩
    · exact h
    all_goals
      rw [heq]
      exact h
  · rw [hmoves.plugin]
    exact ⟨h.prepared, h.entries⟩
  · exact h
  · exact h

/-- What is pushed stays. -/
theorem pushed_step {event : ServiceEvent} (hstep : service.step config event = some service') :
    service.plugin.state.pushed <+: service'.plugin.state.pushed := by
  obtain ⟨events, hrun⟩ := step_publication hstep
  exact runs_invariant (I := fun publication : Publication =>
    service.plugin.state.pushed <+: publication.pushed)
    (fun _ _ _ hpublish h => h.trans (Publication.step_grows hpublish).2.1) hrun List.prefix_rfl

/-- A call with a replay had it before, or has just read it. -/
theorem replayed_step {event : ServiceEvent} (hstep : service.step config event = some service')
    {index live : Nat} {request : SubscribeRequest} {filter : EventFilter} {replay : ReplaySnapshot}
    (hphase : service'.phaseOf index = some (.replayed request filter live replay)) :
    service.phaseOf index = some (.replayed request filter live replay) ∨
      ∃ now buffer, subscribeReplay service.plugin.state.replay request now =
        some (buffer, .ok replay) := by
  rcases phase_step hstep index with ⟨-, hsame⟩ | ⟨-, -, hopening, -⟩ |
    ⟨phase, phase', buffer, -, hturn, -, hphase', -⟩
  · exact .inl (hsame ▸ hphase)
  · rw [hopening] at hphase
    cases hphase
  · rw [hphase'] at hphase
    cases hphase
    cases hturn with
    | replayed hread => exact .inr ⟨_, _, hread⟩

/-- **Every step keeps it.** -/
theorem Sound.step (h : service.Sound) {event : ServiceEvent}
    (hstep : service.step config event = some service') : service'.Sound where
  numbered := numbered_step h.numbered hstep
  data := carriesData_step h.data hstep
  replays index request filter live replay hphase := by
    rcases replayed_step hstep hphase with hbefore | ⟨now, buffer, hread⟩
    · exact h.replays index request filter live replay hbefore
    · exact ReplaySnapshot.reads_of_subscribeReplay h.numbered.published h.data hread
  replayed index request filter live replay hphase update hmem := by
    refine (pushed_step hstep).subset ?_
    rcases replayed_step hstep hphase with hbefore | ⟨now, buffer, hread⟩
    · exact h.replayed index request filter live replay hbefore update hmem
    · have hblocks := ReplaySnapshot.blocks_of_subscribeReplay h.numbered.published hread
      exact (List.mem_filter.mp (hblocks.2 update hmem)).1

theorem sound_runs {events : List ServiceEvent}
    (hrun : runs (GrpcService.step config) (new config) events = some service) : service.Sound :=
  runs_invariant (fun _ _ _ hstep h => h.step hstep) hrun (sound_new config)

/-! ## Every task -/

/-- **The rule for all tasks.** What holds of a task at its start, is kept by its own
moves and by all that happens around it, holds of every task in every run. -/
theorem tasks_invariant {P : GrpcService → SubscriptionTask → Prop}
    (hstart : ∀ service index request filter live snapshot, service.Sound →
      service.phaseOf index = some (.replayed request filter live snapshot) →
      P service (.start filter config.clientChannelCapacity
        { live := live
          replay := snapshot
          mempool := if request.includeMempoolSnapshot then
            some service.plugin.state.mempool.snapshot else none
          reconnect := request.resume.map reconnectUpdate }))
    (hmoves : ∀ service task turn task', service.Sound → P service task →
      task.Moves config.settings (service.ring config) turn task' → P service task')
    (hstay : ∀ service event service' task, service.step config event = some service' →
      P service task → P service' task)
    {events : List ServiceEvent}
    (hrun : runs (step config) (new config) events = some service) {index : Nat}
    {task : SubscriptionTask} (htask : service.taskOf index = some task) : P service task := by
  have hall : service.Sound ∧
      ∀ index task, service.phaseOf index = some (.running task) → P service task := by
    refine runs_invariant (I := fun service => service.Sound ∧
      ∀ index task, service.phaseOf index = some (.running task) → P service task) ?_ hrun
      ⟨sound_new config, fun _ _ h => nomatch h⟩
    intro service event service' hstep ⟨hsound, h⟩
    refine ⟨hsound.step hstep, fun index task htask => hstay service event service' task hstep ?_⟩
    rcases phase_step hstep index with ⟨-, hsame⟩ | ⟨-, -, hopening, -⟩ |
      ⟨phase, phase', replay, -, hturn, hphase, hphase', -⟩
    · rw [hsame] at htask
      exact h index task htask
    · rw [hopening] at htask
      cases htask
    · rw [hphase'] at htask
      cases htask
      cases hturn with
      | started => exact hstart service index _ _ _ _ hsound hphase
      | @moved turn before _ hmoved =>
        exact hmoves service before turn task hsound (h index before hphase)
          (SubscriptionTask.step_moves hmoved)
  exact hall.2 index task (taskOf_eq_some.mp htask)

end

end GrpcService

end ZakuraGrpc
