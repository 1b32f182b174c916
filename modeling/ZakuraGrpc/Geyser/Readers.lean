import ZakuraGrpc.Geyser.Published
import ZakuraGrpc.Geyser.Slots
import ZakuraGrpc.Lib.Reaches

/-!
# Readers

A subscriber that is within the ring reads to its end, by its own steps and its
client's alone (`catches_up`). A client that is gone frees its slot with the next
message or ping (`drop_noticed`).
-/

namespace ZakuraGrpc

open Runs

/-! ## A task that keeps up -/

/-- What the task does of itself, and what its client reads. -/
def TaskEvent.isDelivery : TaskEvent → Bool
  | .flush | .receive | .take => true
  | .request _ | .requestsClosed | .requestsFailed | .tick | .drop => false

namespace SubscriptionTask

variable [ZakuraChain] [WireFormat] {task task' : SubscriptionTask} {settings : Settings}
  {ring : LiveRing}

/-- By deliveries the task gets to `Q`. -/
abbrev Delivers (settings : Settings) (ring : LiveRing) (task : SubscriptionTask)
    (Q : SubscriptionTask → Prop) : Prop :=
  Reaches (step settings ring) (fun event => event.isDelivery = true) task Q

/-- The client takes what is in the queue. -/
theorem delivers_queue (hopen : task.outbound.isOpen = true) :
    task.Delivers settings ring (· = { task with outbound := task.outbound.drain }) := by
  generalize hlength : task.outbound.queue.length = length
  induction length generalizing task with
  | zero =>
    refine reaches_here ?_
    rw [Channel.drain_of_empty (List.length_eq_zero_iff.mp hlength)]
  | succ length ih =>
    obtain ⟨outbound, htake⟩ := Channel.take_isSome hopen
      (List.ne_nil_of_length_eq_add_one hlength)
    obtain ⟨-, hopen', -, -, message, hqueue, -⟩ := Channel.take_some htake
    have hlength' : outbound.queue.length = length := by
      rw [hqueue, List.length_cons] at hlength
      omega
    have hstep : task.step settings ring .take = some { task with outbound := outbound } := by
      rw [step, htake]
      rfl
    refine Reaches.first rfl hstep ((@ih { task with outbound := outbound } hopen'
      hlength').mono (fun _ h => h) fun task' heq => ?_)
    rw [heq, Channel.take_drain htake]

/-- A task whose client has everything it put out. -/
structure Settled (task task' : SubscriptionTask) : Prop where
  outgoing : task'.outgoing = []
  queue : task'.outbound.queue = []
  stream : task'.stream = task.stream
  isOpen : task'.outbound.isOpen = true
  capacity : task'.outbound.capacity = task.outbound.capacity
  ending : task'.ending = task.ending
  position : task'.position = task.position

/-- The sends that are awaited get their place, and the client takes them. -/
theorem delivers_outgoing (hopen : task.outbound.isOpen = true)
    (hcapacity : 0 < task.outbound.capacity) :
    task.Delivers settings ring (task.Settled ·) := by
  generalize houtgoing : task.outgoing = outgoing
  induction outgoing generalizing task with
  | nil =>
    refine (delivers_queue hopen).mono (fun _ h => h) fun task' heq => ?_
    subst heq
    refine ⟨houtgoing, rfl, ?_, hopen, rfl, rfl, rfl⟩
    rw [stream, stream, Channel.sent_drain]
  | cons message outgoing ih =>
    refine (delivers_queue hopen).bind fun task1 heq => ?_
    subst heq
    obtain ⟨outbound, hsend⟩ : ∃ outbound, task.outbound.drain.trySend message = .sent outbound :=
      Channel.trySend_of_room hopen hcapacity
    obtain ⟨-, -, hsent, hopen', -, hcapacity'⟩ := Channel.trySend_sent hsend
    have hstep : SubscriptionTask.step settings ring
        { task with outbound := task.outbound.drain } .flush =
        some { task with outbound := outbound, outgoing := outgoing } := by
      simp only [step, flush, houtgoing, hsend]
    refine Reaches.first rfl hstep ((@ih { task with outbound := outbound, outgoing := outgoing }
      hopen' (hcapacity'.symm ▸ hcapacity) rfl).mono (fun _ h => h) fun task' hsettled => ?_)
    refine ⟨hsettled.outgoing, hsettled.queue, hsettled.stream.trans ?_, hsettled.isOpen,
      hsettled.capacity.trans hcapacity', hsettled.ending, hsettled.position⟩
    rw [stream, stream, hsent, houtgoing, Channel.sent_drain, List.append_assoc]
    rfl

/-- The client has all that was sent. -/
structure UpToDate (ring : LiveRing) (task : SubscriptionTask) : Prop where
  selecting : task.isSelecting = true
  isOpen : task.outbound.isOpen = true
  taken : task.outbound.taken = task.stream
  read : ring.sent.length ≤ task.position

/-- **A task within the ring reads to its end.** -/
theorem delivers_ring (hopen : task.outbound.isOpen = true)
    (hcapacity : 0 < task.outbound.capacity) (hgoes : task.ending = none)
    (hlag : ring.sent.length - task.position ≤ ring.capacity) :
    task.Delivers settings ring (UpToDate ring) := by
  generalize hbehind : ring.sent.length - task.position = behind
  induction behind generalizing task with
  | zero =>
    refine (delivers_outgoing hopen hcapacity).mono (fun _ h => h) fun task' hsettled => ?_
    refine ⟨isSelecting_iff.mpr ⟨hsettled.outgoing, hsettled.ending.trans hgoes⟩,
      hsettled.isOpen, ?_, by rw [hsettled.position]; omega⟩
    rw [stream, hsettled.outgoing, Channel.sent, hsettled.queue, List.append_nil, List.append_nil]
  | succ behind ih =>
    refine (delivers_outgoing hopen hcapacity).bind fun task' hsettled => ?_
    have hselecting : task'.isSelecting = true :=
      isSelecting_iff.mpr ⟨hsettled.outgoing, hsettled.ending.trans hgoes⟩
    have hposition := hsettled.position
    obtain ⟨update, hget⟩ : ∃ update, ring.sent[task'.position]? = some update :=
      ⟨_, List.getElem?_eq_getElem (by omega)⟩
    have hrecv : ring.recv task'.position = some (.update update) := by
      unfold LiveRing.recv
      rw [if_neg (by omega), hget]
    have hstep : task'.step settings ring .receive = some
        { task' with
          position := task'.position + 1
          replayWatermark := (receiveLive task'.filter task'.replayWatermark
            task'.mempoolWatermark update).1
          outgoing := ((receiveLive task'.filter task'.replayWatermark
            task'.mempoolWatermark update).2.map .ok).toList } := by
      rw [step, receive, if_pos hselecting, hrecv]
      rfl
    refine Reaches.first rfl hstep (ih hsettled.isOpen ?_ (isSelecting_iff.mp hselecting).2 ?_ ?_)
    · exact hsettled.capacity.symm ▸ hcapacity
    · dsimp only
      omega
    · dsimp only
      omega

end SubscriptionTask

/-! ## The task of a call -/

namespace GrpcService

variable {service service' : GrpcService} {config : ServerConfig} {index : Nat}
  {call : SubscribeCall} {task task' : SubscriptionTask}

/-- The service with another state of the call's task. -/
def withTask (service : GrpcService) (index : Nat) (call : SubscribeCall)
    (task : SubscriptionTask) : GrpcService :=
  { service with calls := service.calls.set index { call with phase := .running task } }

theorem withTask_self (hfound : service.calls[index]? = some call)
    (hphase : call.phase = .running task) : service.withTask index call task = service := by
  have hcall : { call with phase := .running task } = call := by
    rw [← hphase]
  obtain ⟨hindex, hget⟩ := List.getElem?_eq_some_iff.mp hfound
  rw [withTask, hcall, ← hget, List.set_getElem_self]

theorem phaseOf_withTask (hindex : index < service.calls.length) (other : Nat) :
    (service.withTask index call task).phaseOf other =
      if index = other then some (.running task) else service.phaseOf other := by
  unfold phaseOf withTask
  rw [List.getElem?_set]
  split <;> rfl

section
variable [ZakuraChain] [WireFormat]

/-- A step of a task that goes on is a step of the service. -/
theorem step_withTask (hindex : index < service.calls.length) {event : TaskEvent}
    (hstep : task.step config.settings (service.ring config) event = some task')
    (hgoes : task'.isEnded = false) :
    step config (service.withTask index call task) (.task index event) =
      some (service.withTask index call task') := by
  have hfound : (service.withTask index call task).calls[index]? =
      some { call with phase := .running task } := by
    rw [withTask, List.getElem?_set_self hindex]
  have hturn : keeping (service.withTask index call task)
      (taskTurn config.settings ((service.withTask index call task).ring config) event)
      (.running task) = some (.running task', service.plugin.state.replay) := by
    have htask : taskTurn config.settings ((service.withTask index call task).ring config) event
        (.running task) = some (.running task') := by
      rw [taskTurn]
      exact congrArg (Option.map CallPhase.running) hstep
    rw [keeping, htask]
    rfl
  rw [step, onCall, hfound, Option.bind_some, hturn, Option.bind_some]
  dsimp only
  rw [if_neg (by simp [CallPhase.holdsGuard, hgoes])]
  simp only [withTask, withReplay, List.set_set]

/-- The queue of every task has the configured capacity. -/
theorem task_capacity {events : List ServiceEvent}
    (hrun : runs (step config) (new config) events = some service)
    (htask : service.taskOf index = some task) :
    task.outbound.capacity = config.clientChannelCapacity := by
  refine tasks_invariant
    (P := fun _ task => task.outbound.capacity = config.clientChannelCapacity)
    (fun _ _ _ _ _ _ _ _ => rfl) ?_ (fun _ _ _ _ _ h => h) hrun htask
  intro service task event task' hsound h hmoves
  cases hmoves with
  | sent houtgoing hsend | pinged hselecting hsend =>
    exact (Channel.trySend_sent hsend).2.2.2.2.2.trans h
  | taken htake => exact (Channel.take_some htake).2.2.2.1.trans h
  | lagged hselecting hlag =>
    rcases SubscriptionTask.offer_cases task.outbound (.error (SubscriptionTask.lagStatus _)) with
      heq | ⟨-, -, hcapacity, -⟩
    · rw [heq]
      exact h
    · exact hcapacity.trans h
  | _ => exact h

omit [ZakuraChain] [WireFormat] in
/-- The call of a task. -/
theorem call_of_task (htask : service.taskOf index = some task) :
    ∃ call, service.calls[index]? = some call ∧ call.phase = .running task := by
  obtain ⟨call, hfound, hphase⟩ := Option.map_eq_some_iff.mp (taskOf_eq_some.mp htask)
  exact ⟨call, hfound, hphase⟩

/-- **Catching up.** In every run a subscriber that is no further behind than the ring
is long reads to its end and its client takes it all, by their own steps alone: no
other call, and not the publisher, has to move or does. -/
theorem catches_up (hcapacity : 0 < config.clientChannelCapacity) {events : List ServiceEvent}
    (hrun : runs (step config) (new config) events = some service)
    (htask : service.taskOf index = some task) (hopen : task.outbound.isOpen = true)
    (hgoes : task.ending = none)
    (hlag : service.plugin.state.sent.length - task.position ≤ config.ringCapacity) :
    Reaches (step config)
      (fun event => ∃ turn : TaskEvent, event = .task index turn ∧ turn.isDelivery = true) service
      fun service' => service'.plugin = service.plugin ∧
        service'.subscriptions = service.subscriptions ∧
        (∀ other, other ≠ index → service'.phaseOf other = service.phaseOf other) ∧
        ∃ task', service'.taskOf index = some task' ∧ task'.UpToDate (service.ring config) := by
  obtain ⟨call, hfound, hphase⟩ := call_of_task htask
  obtain ⟨hindex, -⟩ := List.getElem?_eq_some_iff.mp hfound
  have hreads : task.Delivers config.settings (service.ring config)
      (SubscriptionTask.UpToDate (service.ring config)) := by
    refine SubscriptionTask.delivers_ring hopen ?_ hgoes hlag
    rw [task_capacity hrun htask]
    exact hcapacity
  have hback : ∀ task event task',
      SubscriptionTask.step config.settings (service.ring config) task event = some task' →
        task'.isEnded = false → task.isEnded = false := by
    intro task event task' hstep hgoes
    cases hended : task.isEnded with
    | false => rfl
    | true =>
      rw [SubscriptionTask.isEnded_step hstep hended] at hgoes
      cases hgoes
  have hgoing : ∀ task' : SubscriptionTask, task'.UpToDate (service.ring config) →
      task'.isEnded = false := by
    intro task' h
    rw [Bool.eq_false_iff]
    intro hended
    have hselecting := h.selecting
    rw [SubscriptionTask.not_isSelecting_of_isEnded hended] at hselecting
    cases hselecting
  have hlifted : Reaches (step config)
      (fun event => ∃ turn : TaskEvent, event = .task index turn ∧ turn.isDelivery = true)
      (service.withTask index call task) fun service' => ∃ task',
        service' = service.withTask index call task' ∧ task'.isEnded = false ∧
          task'.UpToDate (service.ring config) :=
    Reaches.lift (I := fun task => task.isEnded = false) (F := service.withTask index call) hback
      (fun task event task' hdelivery hstep hgoes =>
        ⟨.task index event, ⟨event, rfl, hdelivery⟩, step_withTask hindex hstep hgoes⟩)
      (hreads.mono (fun _ h => h) fun task' h => ⟨hgoing task' h, h⟩)
  rw [withTask_self hfound hphase] at hlifted
  refine hlifted.mono (fun _ h => h) ?_
  rintro service' ⟨task', rfl, -, hcurrent⟩
  refine ⟨rfl, rfl, fun other hother => ?_, task', taskOf_eq_some.mpr ?_, hcurrent⟩
  · rw [phaseOf_withTask hindex, if_neg hother.symm]
  · rw [phaseOf_withTask hindex, if_pos rfl]

/-- What a task with nobody to receive does next. -/
theorem stops_of_closed {settings : SubscriptionTask.Settings}
    {ring : LiveRing} {seconds : Nat} (hping : settings.pingInterval = some seconds)
    (hlive : task.isEnded = false) (hgone : task.outbound.isOpen = false) :
    task.step settings ring (if task.outgoing = [] then .tick else .flush) =
      some (task.stop .responseClosed) := by
  have hclosed : ∀ message, task.outbound.trySend message = .closed :=
    fun _ => Channel.trySend_closed.mpr hgone
  cases houtgoing : task.outgoing with
  | nil =>
    have hselecting : task.isSelecting = true := by
      rw [SubscriptionTask.isSelecting_iff]
      refine ⟨houtgoing, ?_⟩
      by_contra hending
      rw [SubscriptionTask.isEnded_iff.mpr ⟨houtgoing, hending⟩] at hlive
      cases hlive
    rw [if_pos rfl, SubscriptionTask.step, SubscriptionTask.tick, hselecting, hping,
      sendSubscriptionPing, hclosed]
    rfl
  | cons message outgoing =>
    rw [if_neg (List.cons_ne_nil _ _), SubscriptionTask.step, SubscriptionTask.flush, houtgoing]
    dsimp only
    rw [hclosed]

/-- **A client that is gone.** In every run, where a client dropped its response stream
while its task was alive, the task's next own step, the send that it awaits or else a
ping, ends it, and the subscriber has its slot back. -/
theorem drop_noticed {seconds : Nat} (hping : config.subscriptionPingIntervalSeconds = some seconds)
    {events : List ServiceEvent} (hrun : runs (step config) (new config) events = some service)
    (hfound : service.calls[index]? = some call) (hphase : call.phase = .running task)
    (hlive : task.isEnded = false) (hgone : task.outbound.isOpen = false) :
    ∃ service' task',
      step config service (.task index (if task.outgoing = [] then .tick else .flush)) =
        some service' ∧
      service'.taskOf index = some task' ∧ task'.isEnded = true ∧
      service'.inProgressOf call.guard.subscriberId + 1 =
        service.inProgressOf call.guard.subscriberId ∧ service'.SlotsExact config := by
  have hslots := slots_runs hrun
  have hstops : task.step config.settings (service.ring config)
      (if task.outgoing = [] then .tick else .flush) = some (task.stop .responseClosed) :=
    stops_of_closed hping hlive hgone
  have hended : (task.stop .responseClosed).isEnded = true :=
    SubscriptionTask.isEnded_iff.mpr ⟨rfl, Option.some_ne_none _⟩
  have hturn : service.keeping (taskTurn config.settings (service.ring config)
      (if task.outgoing = [] then .tick else .flush)) call.phase =
      some (.running (task.stop .responseClosed), service.plugin.state.replay) := by
    rw [keeping, hphase, taskTurn, hstops]
    rfl
  obtain ⟨service', hcall⟩ := hslots.onCall_isSome hfound hturn
  obtain ⟨call', phase', replay', hturn', hmoves⟩ := onCall_spec hcall
  have hsame := hmoves.found
  rw [hfound] at hsame
  cases hsame
  rw [hturn] at hturn'
  cases hturn'
  have hstep : step config service
      (.task index (if task.outgoing = [] then .tick else .flush)) = some service' := hcall
  have hreleased := hmoves.inProgress_ended
    (by rw [hphase, CallPhase.holdsGuard, hlive]; rfl) (by rw [CallPhase.holdsGuard, hended]; rfl)
  refine ⟨service', task.stop .responseClosed, hstep, taskOf_eq_some.mpr ?_, hended, ?_,
    (hslots.step hstep).exact⟩
  · rw [phaseOf_calls hmoves, if_pos rfl]
  · rw [inProgressOf, inProgressOf, (hreleased.map _).count_eq, List.map_cons,
      List.count_cons_self]

end

/-- A subscriber three updates behind. -/
def sampleBehind : List ServiceEvent :=
  [.call sampleRpc, .first 0 (.ok (some {})), .snapshotReplay 0 0, .snapshotMempool 0,
   .onEvent sampleEvent, .push 5, .send, .send, .send]

theorem catches_up_sample : ∃ service : GrpcService, ∃ task : SubscriptionTask,
    service.taskOf 0 = some task ∧ task.position < service.plugin.state.sent.length ∧
      Reaches (@step hexChain protoWire sampleServerConfig)
        (fun event => ∃ turn : TaskEvent, event = .task 0 turn ∧ turn.isDelivery = true) service
        fun service' => ∃ task', service'.taskOf 0 = some task' ∧
          task'.UpToDate (service.ring sampleServerConfig) := by
  have hsome : ((runs (@step hexChain protoWire sampleServerConfig) (new sampleServerConfig)
      sampleBehind).bind fun service => (service.taskOf 0).filter fun task =>
        task.outbound.isOpen ∧ task.ending = none ∧
          task.position < service.plugin.state.sent.length ∧
          service.plugin.state.sent.length - task.position ≤
            sampleServerConfig.ringCapacity).isSome = true := by
    decide +kernel
  obtain ⟨task, hsome⟩ := Option.isSome_iff_exists.mp hsome
  obtain ⟨service, hrun, hsome⟩ := Option.bind_eq_some_iff.mp hsome
  obtain ⟨htask, hstate⟩ := Option.filter_eq_some_iff.mp hsome
  obtain ⟨hopen, hgoes, hbehind, hlag⟩ := of_decide_eq_true hstate
  have hreached := @catches_up service sampleServerConfig 0 task hexChain protoWire (by decide)
    _ hrun htask hopen hgoes hlag
  exact ⟨service, task, htask, hbehind, hreached.mono (fun _ h => h) fun _ h => h.2.2.2⟩

theorem drop_noticed_sample : ∃ service service' : GrpcService,
    service.inProgressOf "10.0.0.1" = 1 ∧ service'.inProgressOf "10.0.0.1" = 0 ∧
      (@step hexChain protoWire sampleServerConfig service (.task 0 .tick)) = some service' ∧
      service'.SlotsExact sampleServerConfig := by
  have hsome : ((runs (@step hexChain protoWire sampleServerConfig) (new sampleServerConfig)
      [.call sampleRpc, .first 0 (.ok (some {})), .snapshotReplay 0 0, .snapshotMempool 0,
       .task 0 .drop]).bind fun service => (service.taskOf 0).filter fun task =>
        task.isEnded = false ∧ task.outbound.isOpen = false ∧ task.outgoing.isEmpty ∧
          (service.calls[0]?).map (·.guard.subscriberId) = some "10.0.0.1" ∧
          service.inProgressOf "10.0.0.1" = 1).isSome = true := by
    decide +kernel
  obtain ⟨task, hsome⟩ := Option.isSome_iff_exists.mp hsome
  obtain ⟨service, hrun, hsome⟩ := Option.bind_eq_some_iff.mp hsome
  obtain ⟨htask, hstate⟩ := Option.filter_eq_some_iff.mp hsome
  obtain ⟨hlive, hgone, houtgoing, hid, hone⟩ := of_decide_eq_true hstate
  obtain ⟨call, hfound, hphase⟩ := call_of_task htask
  have hid' : call.guard.subscriberId = "10.0.0.1" := by
    rw [hfound] at hid
    exact Option.some.inj hid
  obtain ⟨service', task', hstep, -, -, hreleased, hexact⟩ := @drop_noticed service
    sampleServerConfig 0 call task hexChain protoWire 15 rfl _ hrun hfound hphase hlive hgone
  rw [if_pos (List.isEmpty_iff.mp houtgoing)] at hstep
  rw [hid', hone] at hreleased
  exact ⟨service, service', hone, by omega, hstep, hexact⟩

end GrpcService

end ZakuraGrpc
