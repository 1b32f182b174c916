import ZakuraGrpc.Geyser.ServiceStep

/-!
# Slots

Every call in progress holds a guard, and every guard alive is the guard of a call
in progress (`Slots`). So the table counts the calls of each subscriber however
they end: a refused first request, a failed snapshot, a client that goes away, a
lag, the end of the server (`slots_exact`).

A request without the token leaves no trace (`runs_admitted`).
-/

namespace ZakuraGrpc

open Runs Counter

/-! ## A task that has ended -/

namespace SubscriptionTask

variable [ZakuraChain] [WireFormat] {task task' : SubscriptionTask}

omit [ZakuraChain] [WireFormat] in
theorem isEnded_iff : task.isEnded = true ↔ task.outgoing = [] ∧ task.ending ≠ none := by
  rw [isEnded, Bool.and_eq_true, List.isEmpty_iff, Option.isSome_iff_ne_none]

omit [ZakuraChain] [WireFormat] in
/-- Nothing selects behind the end. -/
theorem not_isSelecting_of_isEnded (h : task.isEnded = true) : task.isSelecting = false := by
  rw [Bool.eq_false_iff]
  intro hselecting
  exact (isEnded_iff.mp h).2 (isSelecting_iff.mp hselecting).2

/-- A task that has ended stays so: only its client moves. -/
theorem isEnded_step {settings : Settings} {ring : LiveRing} {event : TaskEvent}
    (hstep : task.step settings ring event = some task') (h : task.isEnded = true) :
    task'.isEnded = true := by
  cases step_moves hstep with
  | sent houtgoing | lost houtgoing =>
    rw [(isEnded_iff.mp h).1] at houtgoing
    cases houtgoing
  | applied hselecting | rejected hselecting | requestsClosed hselecting
  | requestsFailed hselecting | received hselecting | lagged hselecting | serverClosed hselecting
  | pinged hselecting | skipped hselecting | unpinged hselecting =>
    rw [not_isSelecting_of_isEnded h] at hselecting
    cases hselecting
  | taken | dropped => exact h

end SubscriptionTask

namespace GrpcService

variable {service service' : GrpcService} {config : ServerConfig}

/-! ## Calls in progress -/

/-- The guards of the calls in progress. -/
def inProgress (service : GrpcService) : List SubscriptionGuard :=
  (service.calls.filter (·.phase.holdsGuard)).map (·.guard)

/-- How many calls of the subscriber are in progress. -/
def inProgressOf (service : GrpcService) (id : String) : Nat :=
  (service.inProgress.map (·.subscriberId)).count id

/-- The call that moves, between those that stay. -/
theorem CallMoves.split {index : Nat} {call : SubscribeCall} {phase : CallPhase}
    {replay : ReplayBuffer} (h : service.CallMoves service' index call phase replay) :
    ∃ before after, service.calls = before ++ call :: after ∧
      service'.calls = before ++ { call with phase := phase } :: after := by
  obtain ⟨hindex, hget⟩ := List.getElem?_eq_some_iff.mp h.found
  obtain ⟨before, after, hcalls, -, hset⟩ := List.exists_of_set hindex
  rw [hget] at hcalls
  exact ⟨before, after, hcalls, by rw [h.calls, hset]⟩

/-- The guards in progress before and behind the end of a call. -/
theorem CallMoves.inProgress_ended {index : Nat} {call : SubscribeCall} {phase : CallPhase}
    {replay : ReplayBuffer} (h : service.CallMoves service' index call phase replay)
    (hheld : call.phase.holdsGuard = true) (hended : phase.holdsGuard = false) :
    service.inProgress.Perm (call.guard :: service'.inProgress) := by
  obtain ⟨before, after, hcalls, hcalls'⟩ := h.split
  rw [inProgress, inProgress, hcalls, hcalls', List.filter_append, List.filter_append,
    List.map_append, List.map_append, List.filter_cons, List.filter_cons, if_pos hheld,
    if_neg (by rw [hended]; decide)]
  exact List.perm_middle

section
variable [ZakuraChain] [WireFormat]

/-- A call that has let its guard go gets none back. -/
theorem Turn.holdsGuard {index : Nat} {event : ServiceEvent} {phase phase' : CallPhase}
    {replay : ReplayBuffer} (h : Turn config service index event phase phase' replay)
    (hholds : phase'.holdsGuard = true) : phase.holdsGuard = true := by
  cases h with
  | moved hstep =>
    by_contra hended
    rw [CallPhase.holdsGuard, Bool.not_eq_true, Bool.not_eq_false'] at hended
    rw [CallPhase.holdsGuard, SubscriptionTask.isEnded_step hstep hended] at hholds
    cases hholds
  | refused | cancelled | unavailable => cases hholds
  | attached | replayed | started => rfl

end

/-! ## The accounts -/

/-- The guards alive are those of the calls in progress. -/
structure Slots (config : ServerConfig) (service : GrpcService) : Prop where
  accounted :
    service.subscriptions.Accounted config.subscriptionLimit config.subscriptionLimitEnforce
  held : service.subscriptions.guards.Perm service.inProgress

theorem slots_new (config : ServerConfig) : (new config).Slots config where
  accounted := Subscriptions.accounted_new config.subscriptionLimit_pos
  held := List.Perm.nil

theorem Slots.congr (h : service.Slots config)
    (hsubscriptions : service'.subscriptions = service.subscriptions)
    (hcalls : service'.calls = service.calls) : service'.Slots config := by
  refine ⟨hsubscriptions ▸ h.accounted, ?_⟩
  rw [hsubscriptions, inProgress, hcalls]
  exact h.held

/-- The guards alive behind a call's arrival. -/
theorem guards_acquire {subscriptions subscriptions' : Subscriptions}
    {request : SubscriptionRequest}
    (h : subscriptions.step (.acquire request) = some subscriptions') :
    subscriptions'.guards =
      ((subscriptions.tracker.acquire request).1.toOption).toList ++ subscriptions.guards := by
  unfold Subscriptions.step at h
  dsimp only at h
  split at h
  · rename_i status tracker hresult
    rw [hresult, ← Option.some.inj h]
    rfl
  · rename_i guard tracker hresult
    split at h
    · rw [hresult, ← Option.some.inj h]
      rfl
    · cases h

/-- An admitted call joins those in progress. -/
theorem Slots.call (h : service.Slots config) {request : RpcRequest}
    (hstep : service.call config request = some service') : service'.Slots config := by
  rcases call_spec hstep with ⟨-, rfl⟩ | ⟨-, hacquire, hcases⟩
  · exact h
  have haccounted := h.accounted.step hacquire
  have hguards := guards_acquire hacquire
  rcases hcases with ⟨status, hrefused, heq⟩ | ⟨guard, hadmitted, heq⟩
  · have hcalls : service'.calls = service.calls := by rw [heq]
    rw [hrefused] at hguards
    refine ⟨haccounted, ?_⟩
    rw [hguards, inProgress, hcalls]
    exact h.held
  · have hcalls : service'.calls = service.calls ++ [{ guard := guard }] := by rw [heq]
    rw [hadmitted] at hguards
    refine ⟨haccounted, ?_⟩
    rw [hguards, inProgress, hcalls, List.filter_append, List.map_append]
    exact (h.held.cons guard).trans (List.perm_append_singleton guard service.inProgress).symm

/-- A call that ends gives its guard back. -/
theorem Slots.move (h : service.Slots config) {index : Nat} {call : SubscribeCall}
    {phase : CallPhase} {replay : ReplayBuffer}
    (hmoves : service.CallMoves service' index call phase replay)
    (hholds : phase.holdsGuard = true → call.phase.holdsGuard = true) :
    service'.Slots config := by
  obtain ⟨before, after, hcalls, hcalls'⟩ := hmoves.split
  rcases hmoves.guards with ⟨hheld, hended, hdrop⟩ | ⟨hkeeps, hsubscriptions⟩
  · refine ⟨h.accounted.step hdrop, ?_⟩
    have hsplit := hmoves.inProgress_ended hheld hended
    unfold Subscriptions.step at hdrop
    dsimp only at hdrop
    split at hdrop
    · rw [← Option.some.inj hdrop]
      have herase := (h.held.trans hsplit).erase call.guard
      rwa [List.erase_cons_head] at herase
    · cases hdrop
  · have hsame : phase.holdsGuard = call.phase.holdsGuard :=
      Bool.eq_iff_iff.mpr ⟨hholds, hkeeps⟩
    refine ⟨hsubscriptions ▸ h.accounted, ?_⟩
    rw [hsubscriptions]
    refine h.held.trans (List.Perm.of_eq ?_)
    rw [inProgress, inProgress, hcalls, hcalls', List.filter_append, List.filter_append,
      List.map_append, List.map_append, List.filter_cons, List.filter_cons]
    dsimp only
    rw [hsame]
    split <;> rfl

/-- A call's guard is there to be dropped. -/
theorem Slots.onCall_isSome (h : service.Slots config) {index : Nat} {call : SubscribeCall}
    (hfound : service.calls[index]? = some call)
    {turn : CallPhase → Option (CallPhase × ReplayBuffer)} {phase : CallPhase}
    {replay : ReplayBuffer} (hturn : turn call.phase = some (phase, replay)) :
    ∃ service', service.onCall index turn = some service' := by
  unfold onCall
  rw [hfound, Option.bind_some, hturn, Option.bind_some]
  dsimp only
  split
  · rename_i hdrops
    rw [Bool.and_eq_true] at hdrops
    have hmem : call.guard ∈ service.subscriptions.guards := by
      rw [h.held.mem_iff]
      exact List.mem_map.mpr ⟨call, List.mem_filter.mpr
        ⟨List.mem_of_getElem? hfound, hdrops.1⟩, rfl⟩
    rw [Subscriptions.step, if_pos hmem]
    exact ⟨_, rfl⟩
  · exact ⟨_, rfl⟩

section
variable [ZakuraChain] [WireFormat]

/-- Every step keeps the accounts. -/
theorem Slots.step (h : service.Slots config) {event : ServiceEvent}
    (hstep : service.step config event = some service') : service'.Slots config := by
  rcases step_cases hstep with ⟨-, -, plugin, rfl, -⟩ | ⟨request, -, hcall⟩ |
    ⟨index, call, phase, replay, -, hturn, hmoves⟩ | ⟨-, rfl⟩ | ⟨-, -, rfl⟩
  · exact h.congr rfl rfl
  · exact h.call hcall
  · exact h.move hmoves hturn.holdsGuard
  · exact h
  · exact h.congr rfl rfl

theorem slots_runs {events : List ServiceEvent}
    (hrun : runs (step config) (new config) events = some service) : service.Slots config :=
  runs_invariant (fun _ _ _ hstep h => h.step hstep) hrun (slots_new config)

end

/-- The accounts as the subscribers see them. -/
structure SlotsExact (config : ServerConfig) (service : GrpcService) : Prop where
  counted : ∀ id, service.subscriptions.tracker.counts[id]? = entry (service.inProgressOf id)
  limited : config.subscriptionLimitEnforce = true →
    ∀ id, service.inProgressOf id ≤ config.subscriptionLimit
  refuses : ∀ request, (∃ status,
      (service.subscriptions.tracker.acquire request).1 = .error status) ↔
    config.subscriptionLimitEnforce = true ∧
      service.inProgressOf request.subscriberId = config.subscriptionLimit
  released : (∀ call ∈ service.calls, call.phase.holdsGuard = false) →
    service.subscriptions.tracker.counts.isEmpty = true

/-- How many guards of a subscriber live is how many of its calls are in progress. -/
theorem Slots.live_eq (h : service.Slots config) (id : String) :
    service.subscriptions.live id = service.inProgressOf id :=
  (h.held.map _).count_eq id

theorem Slots.exact (h : service.Slots config) : service.SlotsExact config where
  counted id := by
    rw [← h.live_eq]
    exact h.accounted.counts id
  limited henforce id := by
    rw [← h.live_eq]
    exact h.accounted.limited henforce id
  refuses request := by
    rw [← h.live_eq]
    exact h.accounted.exact.refuses request
  released hended := by
    have hnone : service.inProgress = [] := by
      rw [inProgress, List.map_eq_nil_iff, List.filter_eq_nil_iff]
      intro call hmem
      simp [hended call hmem]
    have hguards := h.held
    rw [hnone] at hguards
    exact h.accounted.exact.cleared (List.perm_nil.mp hguards)

section
variable [ZakuraChain] [WireFormat]

/-- **Slots.** In every run of the service the table holds the number of calls in
progress of each subscriber that has one, however the others ended. -/
theorem slots_exact {events : List ServiceEvent}
    (hrun : runs (step config) (new config) events = some service) :
    service.SlotsExact config :=
  (slots_runs hrun).exact

end

/-- One slot a subscriber, behind a token. -/
def sampleServerConfig : ServerConfig where
  replayStoredBlocks := 4
  broadcastCapacity := 4
  clientChannelCapacity := 2
  xToken := some "token"
  subscriptionLimit := 1
  subscriptionLimitEnforce := true

def sampleRpc : RpcRequest where
  remoteIp := some "10.0.0.1"
  xToken := some [116, 111, 107, 101, 110]

/-- A call without the token, one that is accepted and one refused at the limit;
the accepted one ends with its request stream, and the next gets its slot. -/
def sampleServiceEvents : List ServiceEvent :=
  [.call { remoteIp := some "10.0.0.1" }, .call sampleRpc, .call sampleRpc,
   .first 0 (.ok (some {})), .snapshotReplay 0 0, .snapshotMempool 0, .task 0 .requestsFailed,
   .call sampleRpc]

theorem slots_exact_sample : ∃ service,
    runs (@step hexChain protoWire sampleServerConfig) (new sampleServerConfig)
        sampleServiceEvents = some service ∧
      service.SlotsExact sampleServerConfig := by
  have hsome : (runs (@step hexChain protoWire sampleServerConfig) (new sampleServerConfig)
      sampleServiceEvents).isSome = true := by
    decide +kernel
  obtain ⟨service, hrun⟩ := Option.isSome_iff_exists.mp hsome
  exact ⟨service, hrun, @slots_exact service sampleServerConfig hexChain protoWire _ hrun⟩

/-! ## Tokens -/

/-- The request carries the token, where one is asked for. -/
def admits (config : ServerConfig) : ServiceEvent → Bool
  | .call request | .replayInfo request _ =>
    (TokenAuth.authorize ⟨config.xToken⟩ request).isOk
  | _ => true

section
variable [ZakuraChain] [WireFormat]

/-- A request that is not admitted changes nothing. -/
theorem step_of_not_admits {event : ServiceEvent} (hnot : admits config event = false)
    (hstep : service.step config event = some service') : service' = service := by
  cases event with
  | call request =>
    obtain ⟨-, hcall⟩ := whileOpen_spec hstep
    rcases call_spec hcall with ⟨-, heq⟩ | ⟨hauth, -⟩
    · exact heq
    · rw [admits, hauth] at hnot
      cases hnot
  | replayInfo request now =>
    obtain ⟨-, hinfo⟩ := whileOpen_spec hstep
    split at hinfo
    · exact (Option.some.inj hinfo).symm
    · rename_i hauth
      rw [admits, hauth] at hnot
      cases hnot
  | _ => cases hnot

/-- The subscriber of an admitted call. -/
def admittedSubscriber (config : ServerConfig) : ServiceEvent → Option String
  | .call request =>
    if (TokenAuth.authorize ⟨config.xToken⟩ request).isOk then some request.subscriberId else none
  | _ => none

omit [ZakuraChain] [WireFormat] in
theorem subscriberId_acquire {tracker : SubscriptionTracker} {request : SubscriptionRequest}
    {guard : SubscriptionGuard} (h : (tracker.acquire request).1 = .ok guard) :
    guard.subscriberId = request.subscriberId := by
  unfold SubscriptionTracker.acquire at h
  dsimp only at h
  split at h
  · cases h
  · cases h
    rfl

/-- A step adds at most the call of an admitted request. -/
theorem subscribers_step {event : ServiceEvent}
    (hstep : service.step config event = some service') :
    (service'.calls.map (·.guard.subscriberId)).Sublist
      (service.calls.map (·.guard.subscriberId) ++ (admittedSubscriber config event).toList) := by
  have hsame : service'.calls.map (·.guard.subscriberId) =
      service.calls.map (·.guard.subscriberId) →
      (service'.calls.map (·.guard.subscriberId)).Sublist
        (service.calls.map (·.guard.subscriberId) ++
          (admittedSubscriber config event).toList) := fun heq => by
    rw [heq]
    exact List.sublist_append_left _ _
  rcases step_cases hstep with ⟨-, -, plugin, rfl, -⟩ | ⟨request, rfl, hcall⟩ |
    ⟨index, call, phase, replay, -, hturn, hmoves⟩ | ⟨-, rfl⟩ | ⟨-, -, rfl⟩
  · exact hsame rfl
  · rcases call_spec hcall with ⟨-, heq⟩ | ⟨hauth, -, ⟨_, -, heq⟩ | ⟨guard, hguard, heq⟩⟩
    · exact hsame (by rw [heq])
    · exact hsame (by rw [heq])
    · have hadmitted : admittedSubscriber config (.call request) = some guard.subscriberId := by
        rw [admittedSubscriber, hauth, subscriberId_acquire hguard]
        rfl
      have hcalls : service'.calls = service.calls ++ [{ guard := guard }] := by rw [heq]
      rw [hadmitted, hcalls, List.map_append]
      exact List.Sublist.refl _
  · obtain ⟨before, after, hcalls, hcalls'⟩ := hmoves.split
    refine hsame ?_
    rw [hcalls, hcalls', List.map_append, List.map_append]
    rfl
  · exact hsame rfl
  · exact hsame rfl

/-- **Tokens.** Every run reaches the same state without the requests that lack the
token, and each call stems from an admitted request of its own, in their order. -/
theorem runs_admitted {events : List ServiceEvent}
    (hrun : runs (step config) (new config) events = some service) :
    runs (step config) (new config) (events.filter (admits config)) = some service ∧
      (service.calls.map (·.guard.subscriberId)).Sublist
        (events.filterMap (admittedSubscriber config)) := by
  refine ⟨runs_filter (fun _ _ _ hnot hstep => step_of_not_admits hnot hstep) hrun, ?_⟩
  refine runs_history (J := fun events service =>
    (service.calls.map (·.guard.subscriberId)).Sublist
      (events.filterMap (admittedSubscriber config))) ?_ hrun (List.Sublist.refl _)
  intro events service event service' hstep hsublist
  rw [List.filterMap_append]
  refine (subscribers_step hstep).trans (hsublist.append ?_)
  cases hadmitted : admittedSubscriber config event with
  | none => simp [hadmitted]
  | some id => simp [hadmitted]

end

theorem runs_admitted_sample : ∃ service,
    runs (@step hexChain protoWire sampleServerConfig) (new sampleServerConfig)
        sampleServiceEvents = some service ∧
      runs (@step hexChain protoWire sampleServerConfig) (new sampleServerConfig)
        (sampleServiceEvents.filter (admits sampleServerConfig)) = some service := by
  have hsome : (runs (@step hexChain protoWire sampleServerConfig) (new sampleServerConfig)
      sampleServiceEvents).isSome = true := by
    decide +kernel
  obtain ⟨service, hrun⟩ := Option.isSome_iff_exists.mp hsome
  exact ⟨service, hrun,
    (@runs_admitted service sampleServerConfig hexChain protoWire _ hrun).1⟩

end GrpcService

end ZakuraGrpc
