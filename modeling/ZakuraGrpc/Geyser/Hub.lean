import ZakuraGrpc.Geyser.Publication

/-!
# The hub: one publisher and one subscriber

The two sides interleaved at the grain of their locks. The publisher's steps are
those of `Publication`. The subscriber attaches a receiver, snapshots the replay
buffer, snapshots the mempool, emits both and then receives live updates.
-/

namespace ZakuraGrpc

open Runs
open Publication (pushed prepared)

/-! ## The hub -/

/-- What stays fixed in a run: the buffer's limits, the ring's capacity and the
subscriber's request and compiled filter. -/
structure HubConfig where
  limits : ReplayLimits
  capacity : Nat
  request : SubscribeRequest
  filter : EventFilter

inductive SubscriberPhase where
  | detached | attached | replayed | streaming | closed
  deriving DecidableEq

structure Subscriber where
  phase : SubscriberPhase := .detached
  /-- The receiver's place in the ring: how many updates it is past. -/
  position : Nat := 0
  replay : ReplaySnapshot := { updates := [], watermark := 0 }
  pending : List SubscribeUpdate := []
  watermark : Nat := 0
  mempoolWatermark : Option Nat := none
  delivered : List SubscribeUpdate := []

/-- What the replay snapshot saw. -/
structure ReplayRecord where
  window : List ReplayBucket
  pushed : Nat

/-- What the mempool snapshot saw. -/
structure MempoolRecord where
  state : MempoolState
  sent : Nat

/-- The history of a run, for its properties; no step reads it. -/
structure HubLog where
  joined : Nat := 0
  replay : Option ReplayRecord := none
  mempool : Option MempoolRecord := none
  /-- The initial messages through the END marker, and those behind it. -/
  head : List SubscribeUpdate := []
  tail : List SubscribeUpdate := []
  live : List SubscribeUpdate := []
  batches : Nat := 0

/-- The snapshots on record are the same. -/
structure HubLog.SameRecords (log log' : HubLog) : Prop where
  joined : log'.joined = log.joined
  replay : log'.replay = log.replay
  mempool : log'.mempool = log.mempool

structure Hub extends Publication where
  subscriber : Subscriber := {}
  log : HubLog := {}

inductive HubEvent where
  | prepare (updates : List SubscribeUpdate)
  | push (now : Nat)
  | send
  | finish
  /-- An eviction for another reader of the buffer. -/
  | evict (now : Nat)
  | attach
  | snapshotReplay (now : Nat)
  | snapshotMempool
  | emit
  | recv
  | disconnect

namespace Hub

def new (config : HubConfig) : Hub := { replay := .new config.limits }

section
variable [WireFormat]

/-! ## The publisher's steps -/

def prepare (hub : Hub) (updates : List SubscribeUpdate) : Option Hub :=
  (hub.toPublication.prepare updates).map fun publication =>
    { hub with
      toPublication := publication
      log := { hub.log with batches := hub.log.batches + 1 } }

def push (hub : Hub) (now : Nat) : Option Hub :=
  (hub.toPublication.push now).map fun publication => { hub with toPublication := publication }

def send (hub : Hub) : Option Hub :=
  hub.toPublication.send.map fun publication => { hub with toPublication := publication }

def finish (hub : Hub) : Option Hub :=
  hub.toPublication.finish.map fun publication => { hub with toPublication := publication }

def evict (hub : Hub) (now : Nat) : Option Hub :=
  (hub.toPublication.evict now).map fun publication => { hub with toPublication := publication }

/-! ## The subscriber's steps -/

/-- `live.subscribe()`: the receiver starts behind everything sent. -/
def attach (hub : Hub) : Option Hub :=
  match hub.subscriber.phase with
  | .detached => some
    { hub with
      subscriber := { hub.subscriber with phase := .attached, position := hub.sent.length }
      log := { hub.log with joined := hub.sent.length } }
  | .attached | .replayed | .streaming | .closed => none

/-- The replay part of `subscribe`, one step under the replay lock. -/
def snapshotReplay (config : HubConfig) (hub : Hub) (now : Nat) : Option Hub :=
  match hub.subscriber.phase with
  | .attached =>
    (subscribeReplay hub.replay config.request now).map fun (replay, result) =>
      match result with
      | .error _ =>
        { hub with replay := replay, subscriber := { hub.subscriber with phase := .closed } }
      | .ok snapshot =>
        { hub with
          replay := replay
          subscriber :=
            { hub.subscriber with
              phase := .replayed
              replay := snapshot
              watermark := snapshot.watermark }
          log :=
            { hub.log with
              replay := some { window := replay.buckets, pushed := hub.pushed.length } } }
  | .detached | .replayed | .streaming | .closed => none

/-- The mempool part of `subscribe`: with a snapshot asked for, one step under
the mempool lock. The initial messages are then fixed. -/
def snapshotMempool (config : HubConfig) (hub : Hub) : Option Hub :=
  match hub.subscriber.phase with
  | .replayed =>
    if config.request.includeMempoolSnapshot && hub.publisher.isLocked then none
    else
      let mempool := if config.request.includeMempoolSnapshot then
          some hub.mempool.snapshot else none
      let reconnect := config.request.resume.map reconnectUpdate
      some
        { hub with
          subscriber :=
            { hub.subscriber with
              phase := .streaming
              pending := initialUpdates config.filter hub.subscriber.replay mempool reconnect
              mempoolWatermark := mempool.map (·.revision) }
          log :=
            { hub.log with
              mempool := mempool.map fun _ => { state := hub.mempool, sent := hub.sent.length }
              head := initialUpdates config.filter { updates := [], watermark := 0 } mempool
                reconnect
              tail := hub.subscriber.replay.updates.filterMap (deliver config.filter) } }
  | .detached | .attached | .streaming | .closed => none

/-- One initial message goes out. -/
def emit (hub : Hub) : Option Hub :=
  match hub.subscriber.phase, hub.subscriber.pending with
  | .streaming, message :: pending => some
    { hub with
      subscriber :=
        { hub.subscriber with
          pending := pending, delivered := hub.subscriber.delivered ++ [message] } }
  | _, _ => none

/-- `live.recv()`: an update, or the end of a subscriber that fell more than the
ring's capacity behind. -/
def recv (config : HubConfig) (hub : Hub) : Option Hub :=
  match hub.subscriber.phase, hub.subscriber.pending with
  | .streaming, [] =>
    if config.capacity < hub.sent.length - hub.subscriber.position then
      some { hub with subscriber := { hub.subscriber with phase := .closed } }
    else
      (hub.sent[hub.subscriber.position]?).map fun update =>
        let (watermark, message) := receiveLive config.filter hub.subscriber.watermark
          hub.subscriber.mempoolWatermark update
        { hub with
          subscriber :=
            { hub.subscriber with
              position := hub.subscriber.position + 1
              watermark := watermark
              delivered := hub.subscriber.delivered ++ message.toList }
          log := { hub.log with live := hub.log.live ++ message.toList } }
  | _, _ => none

def disconnect (hub : Hub) : Option Hub :=
  some { hub with subscriber := { hub.subscriber with phase := .closed } }

def step (config : HubConfig) (hub : Hub) : HubEvent → Option Hub
  | .prepare updates => hub.prepare updates
  | .push now => hub.push now
  | .send => hub.send
  | .finish => hub.finish
  | .evict now => hub.evict now
  | .attach => hub.attach
  | .snapshotReplay now => hub.snapshotReplay config now
  | .snapshotMempool => hub.snapshotMempool config
  | .emit => hub.emit
  | .recv => hub.recv config
  | .disconnect => hub.disconnect

end

end Hub

/-! ## What each step does -/

namespace Hub

variable {config : HubConfig} {hub hub' : Hub}

theorem push_spec {now : Nat} (h : hub.push now = some hub') :
    ∃ batch locked replay, hub.publisher = .prepared batch locked ∧
      hub.replay.pushBatchAt batch now = some replay ∧
      hub' = { hub with replay := replay, publisher := .sending batch locked } := by
  obtain ⟨publication, hpush, rfl⟩ := Option.map_eq_some_iff.mp h
  obtain ⟨batch, locked, replay, hpub, hreplay, rfl⟩ := Publication.push_spec hpush
  exact ⟨batch, locked, replay, hpub, hreplay, rfl⟩

theorem send_spec (h : hub.send = some hub') :
    ∃ update rest locked, hub.publisher = .sending (update :: rest) locked ∧
      hub' = { hub with sent := hub.sent ++ [update], publisher := .sending rest locked } := by
  obtain ⟨publication, hsend, rfl⟩ := Option.map_eq_some_iff.mp h
  obtain ⟨update, rest, locked, hpub, rfl⟩ := Publication.send_spec hsend
  exact ⟨update, rest, locked, hpub, rfl⟩

theorem finish_spec (h : hub.finish = some hub') :
    ∃ locked, hub.publisher = .sending [] locked ∧ hub' = { hub with publisher := .idle } := by
  obtain ⟨publication, hfinish, rfl⟩ := Option.map_eq_some_iff.mp h
  obtain ⟨locked, hpub, rfl⟩ := Publication.finish_spec hfinish
  exact ⟨locked, hpub, rfl⟩

theorem evict_spec {now : Nat} (h : hub.evict now = some hub') :
    ∃ replay, hub.replay.evict now = some replay ∧ hub' = { hub with replay := replay } := by
  obtain ⟨publication, hevict, rfl⟩ := Option.map_eq_some_iff.mp h
  obtain ⟨replay, hreplay, rfl⟩ := Option.map_eq_some_iff.mp hevict
  exact ⟨replay, hreplay, rfl⟩

theorem attach_spec (h : hub.attach = some hub') :
    hub.subscriber.phase = .detached ∧
      hub' =
        { hub with
          subscriber := { hub.subscriber with phase := .attached, position := hub.sent.length }
          log := { hub.log with joined := hub.sent.length } } := by
  unfold attach at h
  split at h
  · rename_i hphase
    exact ⟨hphase, (Option.some.inj h).symm⟩
  all_goals cases h

theorem snapshotReplay_spec {now : Nat} (h : hub.snapshotReplay config now = some hub') :
    hub.subscriber.phase = .attached ∧ ∃ replay result,
      subscribeReplay hub.replay config.request now = some (replay, result) ∧
      ((∃ status, result = .error status ∧
          hub' = { hub with
                    replay := replay
                    subscriber := { hub.subscriber with phase := .closed } }) ∨
        ∃ snapshot, result = .ok snapshot ∧
          hub' = { hub with
                    replay := replay
                    subscriber :=
                      { hub.subscriber with
                        phase := .replayed
                        replay := snapshot
                        watermark := snapshot.watermark }
                    log :=
                      { hub.log with
                        replay :=
                          some { window := replay.buckets, pushed := hub.pushed.length } } }) := by
  unfold snapshotReplay at h
  split at h
  · rename_i hphase
    obtain ⟨⟨replay, result⟩, hreplay, hresult⟩ := Option.map_eq_some_iff.mp h
    refine ⟨hphase, replay, result, hreplay, ?_⟩
    cases result with
    | error status => exact .inl ⟨status, rfl, hresult.symm⟩
    | ok snapshot => exact .inr ⟨snapshot, rfl, hresult.symm⟩
  all_goals cases h

theorem emit_spec (h : hub.emit = some hub') :
    ∃ message pending, hub.subscriber.phase = .streaming ∧
      hub.subscriber.pending = message :: pending ∧
      hub' =
        { hub with
          subscriber :=
            { hub.subscriber with
              pending := pending, delivered := hub.subscriber.delivered ++ [message] } } := by
  unfold emit at h
  split at h
  · rename_i message pending hphase hpending
    exact ⟨message, pending, hphase, hpending, (Option.some.inj h).symm⟩
  · cases h

section
variable [WireFormat]

theorem prepare_spec {updates : List SubscribeUpdate} (h : hub.prepare updates = some hub') :
    hub.publisher = .idle ∧ hub.Accepts updates ∧
      hub' =
        { hub with
          mempool := (prepareBatch hub.mempool updates).1
          publisher := .prepared (prepareBatch hub.mempool updates).2 (updates.any isMempoolUpdate)
          log := { hub.log with batches := hub.log.batches + 1 } } := by
  obtain ⟨publication, hprepare, rfl⟩ := Option.map_eq_some_iff.mp h
  obtain ⟨hidle, haccepts, rfl⟩ := Publication.prepare_spec hprepare
  exact ⟨hidle, haccepts, rfl⟩

theorem snapshotMempool_spec (h : hub.snapshotMempool config = some hub') :
    hub.subscriber.phase = .replayed ∧
      (config.request.includeMempoolSnapshot = true → hub.publisher.isLocked = false) ∧
      ∃ mempool, mempool = (if config.request.includeMempoolSnapshot then
          some hub.mempool.snapshot else none) ∧
        hub' =
          { hub with
            subscriber :=
              { hub.subscriber with
                phase := .streaming
                pending := initialUpdates config.filter hub.subscriber.replay mempool
                  (config.request.resume.map reconnectUpdate)
                mempoolWatermark := mempool.map (·.revision) }
            log :=
              { hub.log with
                mempool := mempool.map fun _ => { state := hub.mempool, sent := hub.sent.length }
                head := initialUpdates config.filter { updates := [], watermark := 0 } mempool
                  (config.request.resume.map reconnectUpdate)
                tail := hub.subscriber.replay.updates.filterMap (deliver config.filter) } } := by
  unfold snapshotMempool at h
  split at h
  · rename_i hphase
    split at h
    · cases h
    · rename_i hlock
      refine ⟨hphase, ?_, _, rfl, (Option.some.inj h).symm⟩
      intro hinclude
      simpa [hinclude] using hlock
  all_goals cases h

theorem recv_spec (h : hub.recv config = some hub') :
    hub.subscriber.phase = .streaming ∧ hub.subscriber.pending = [] ∧
      (hub' = { hub with subscriber := { hub.subscriber with phase := .closed } } ∨
        ∃ update, hub.sent[hub.subscriber.position]? = some update ∧
          hub' =
            { hub with
              subscriber :=
                { hub.subscriber with
                  position := hub.subscriber.position + 1
                  watermark := (receiveLive config.filter hub.subscriber.watermark
                    hub.subscriber.mempoolWatermark update).1
                  delivered := hub.subscriber.delivered ++
                    (receiveLive config.filter hub.subscriber.watermark
                      hub.subscriber.mempoolWatermark update).2.toList }
              log :=
                { hub.log with
                  live := hub.log.live ++ (receiveLive config.filter hub.subscriber.watermark
                    hub.subscriber.mempoolWatermark update).2.toList } }) := by
  unfold recv at h
  split at h
  · rename_i hphase hpending
    refine ⟨hphase, hpending, ?_⟩
    split at h
    · exact .inl (Option.some.inj h).symm
    · obtain ⟨update, hget, hhub⟩ := Option.map_eq_some_iff.mp h
      exact .inr ⟨update, hget, hhub.symm⟩
  · cases h

end

end Hub

namespace Hub

variable {config : HubConfig} {hub hub' : Hub}

section
variable [WireFormat]

/-- **Every step keeps the publisher's invariant.** -/
theorem publishInv_step (h : hub.PublishInv) {event : HubEvent}
    (hstep : hub.step config event = some hub') : hub'.PublishInv := by
  cases event with
  | prepare updates =>
    obtain ⟨publication, hprepare, rfl⟩ := Option.map_eq_some_iff.mp hstep
    exact h.prepare hprepare
  | push now =>
    obtain ⟨publication, hpush, rfl⟩ := Option.map_eq_some_iff.mp hstep
    exact h.push hpush
  | send =>
    obtain ⟨publication, hsend, rfl⟩ := Option.map_eq_some_iff.mp hstep
    exact h.send hsend
  | finish =>
    obtain ⟨publication, hfinish, rfl⟩ := Option.map_eq_some_iff.mp hstep
    exact h.finish hfinish
  | evict now =>
    obtain ⟨replay, hevict, rfl⟩ := evict_spec hstep
    obtain ⟨hsuffix, hlimits⟩ := ReplayBuffer.evict_suffix hevict
    exact h.evict rfl rfl hsuffix hlimits
  | attach =>
    obtain ⟨-, rfl⟩ := attach_spec hstep
    exact h.congr rfl rfl rfl
  | snapshotReplay now =>
    obtain ⟨-, replay, result, hreplay, ⟨_, -, rfl⟩ | ⟨_, -, rfl⟩⟩ := snapshotReplay_spec hstep
    all_goals
      obtain ⟨hsuffix, hlimits, -⟩ := subscribeReplay_spec hreplay
      exact h.evict rfl rfl hsuffix hlimits
  | snapshotMempool =>
    obtain ⟨-, -, _, -, rfl⟩ := snapshotMempool_spec hstep
    exact h.congr rfl rfl rfl
  | emit =>
    obtain ⟨_, _, -, -, rfl⟩ := emit_spec hstep
    exact h.congr rfl rfl rfl
  | recv =>
    obtain ⟨-, -, rfl | ⟨_, -, rfl⟩⟩ := recv_spec hstep
    all_goals exact h.congr rfl rfl rfl
  | disconnect =>
    cases hstep
    exact h.congr rfl rfl rfl

end

end Hub

end ZakuraGrpc
