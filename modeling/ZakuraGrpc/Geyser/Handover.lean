import ZakuraGrpc.Geyser.Hub

/-!
# Handing a replay over to the live stream

A subscriber drops live updates at or below its watermark. `SubscribeInv` says
what the snapshot held and what of the ring was passed on. From it, `handover`:
the two parts of the stream meet without a gap and without a duplicate.
-/

namespace ZakuraGrpc

open Runs
open Publication (pushed prepared)

namespace Hub

variable {config : HubConfig} {hub hub' : Hub}

/-! ## The subscriber -/

/-- What the receiver took off the ring. -/
def received (hub : Hub) : List PublishedUpdate :=
  (hub.sent.take hub.subscriber.position).drop hub.log.joined

theorem received_of_joined (h : hub.subscriber.position = hub.log.joined) :
    hub.received = [] := by
  rw [received, h]
  exact List.drop_eq_nil_of_le (List.length_take_le _ _)

/-- A received update above both watermarks of the snapshots. -/
def passes (replayWatermark : Nat) (mempoolWatermark : Option Nat) (update : PublishedUpdate) :
    Bool :=
  decide (replayWatermark < update.message.sequence) && !suppressed mempoolWatermark update

theorem blocks_filter_passes (updates : List PublishedUpdate) (replayWatermark : Nat) :
    blocks (updates.filter (passes replayWatermark none)) =
      (blocks updates).filter fun update => replayWatermark < update.message.sequence := by
  rw [blocks, blocks, List.filter_comm]
  refine List.filter_congr fun update _ => ?_
  simp [passes, suppressed]

theorem drop_split {α : Type} {l : List α} {j k : Nat} (hjk : j ≤ k) (hj : j ≤ l.length) :
    l.drop j = (l.take k).drop j ++ l.drop k := by
  have hlen : j ≤ (l.take k).length := by
    rw [List.length_take]
    omega
  rw [← List.drop_append_of_le_length hlen, List.take_append_drop]

/-- A data update, as opposed to the messages about the subscription itself. -/
def isData (message : SubscribeUpdate) : Bool :=
  match message.update with
  | some (.ping _) | some (.pong _) | some (.reconnect _) | some (.mempoolSnapshot _) | none =>
    false
  | _ => true

/-- No initial message is fixed yet. -/
structure NotBegun (hub : Hub) : Prop where
  position : hub.subscriber.position = hub.log.joined
  delivered : hub.subscriber.delivered = []
  pending : hub.subscriber.pending = []
  mempoolWatermark : hub.subscriber.mempoolWatermark = none
  head : hub.log.head = []
  tail : hub.log.tail = []
  live : hub.log.live = []

section
variable [WireFormat]

/-- The initial messages are fixed: `head` before the replayed updates, which
are `tail`. -/
structure Begun (config : HubConfig) (hub : Hub) : Prop where
  record : hub.log.replay.isSome
  head : ∃ mempool : Option MempoolSnapshot,
    (config.request.includeMempoolSnapshot = false → mempool = none) ∧
    hub.log.head = initialUpdates config.filter { updates := [], watermark := 0 } mempool
      (config.request.resume.map reconnectUpdate) ∧
    hub.subscriber.mempoolWatermark = mempool.map (·.revision)
  tail : hub.log.tail = hub.subscriber.replay.updates.filterMap (deliver config.filter)

/-- The snapshot was read from a window of what was pushed. -/
structure ReadsWindow (config : HubConfig) (hub : Hub) (record : ReplayRecord) : Prop where
  joined : hub.log.joined ≤ record.pushed
  pushed : record.pushed ≤ hub.pushed.length
  retains : Retains (hub.pushed.take record.pushed) record.window
  replay : ∃ fromHeight, replayHeight config.request = .ok fromHeight ∧
    hub.subscriber.replay =
      { updates := (fromHeight.map (windowFrom record.window)).getD []
        watermark := windowWatermark record.window }

/-- The stream is the initial messages, then the received updates above the
snapshot's watermarks: the running watermark drops nothing else. -/
structure SubscribeInv (config : HubConfig) (hub : Hub) : Prop where
  joined_le : hub.log.joined ≤ hub.subscriber.position
  position_le : hub.subscriber.position ≤ hub.sent.length
  unread : hub.subscriber.phase = .detached ∨ hub.subscriber.phase = .attached →
    hub.log.replay = none
  read : hub.subscriber.phase = .replayed → hub.log.replay.isSome
  notBegun : hub.subscriber.phase = .detached ∨ hub.subscriber.phase = .attached ∨
    hub.subscriber.phase = .replayed → hub.NotBegun
  begun : hub.subscriber.phase = .streaming → hub.Begun config
  either : hub.NotBegun ∨ hub.Begun config
  window : ∀ record, hub.log.replay = some record → hub.ReadsWindow config record
  stream : hub.subscriber.delivered ++ hub.subscriber.pending =
    hub.log.head ++ hub.log.tail ++ hub.log.live
  live : hub.log.live = (hub.received.filter (passes hub.subscriber.replay.watermark
    hub.subscriber.mempoolWatermark)).filterMap (deliver config.filter)
  alternate : hub.subscriber.pending = [] ∨ hub.subscriber.position = hub.log.joined
  watermark_le : hub.subscriber.replay.watermark ≤ hub.subscriber.watermark
  watermark_max : ∀ update ∈ hub.received, update.message.sequence ≤ hub.subscriber.watermark
  watermark_or : hub.subscriber.watermark = hub.subscriber.replay.watermark ∨
    ∃ update ∈ hub.received, update.message.sequence = hub.subscriber.watermark

theorem subscribeInv_new (config : HubConfig) : (new config).SubscribeInv config where
  joined_le := le_rfl
  position_le := le_rfl
  unread _ := rfl
  read h := nomatch h
  notBegun _ := ⟨rfl, rfl, rfl, rfl, rfl, rfl, rfl⟩
  begun h := nomatch h
  either := .inl ⟨rfl, rfl, rfl, rfl, rfl, rfl, rfl⟩
  window _ h := nomatch h
  stream := rfl
  live := rfl
  alternate := .inl rfl
  watermark_le := le_rfl
  watermark_max := by simp [received, new]
  watermark_or := .inl rfl

/-- What the publisher does behind the subscriber changes nothing for it. -/
theorem SubscribeInv.extend (h : hub.SubscribeInv config) (hsent : hub.sent <+: hub'.sent)
    (hpushed : hub.pushed <+: hub'.pushed) (hsub : hub'.subscriber = hub.subscriber)
    (batches : Nat) (hlog : hub'.log = { hub.log with batches := batches }) :
    hub'.SubscribeInv config := by
  have hreceived : hub'.received = hub.received := by
    obtain ⟨rest, hrest⟩ := hsent
    rw [received, received, hsub, hlog, ← hrest, List.take_append_of_le_length h.position_le]
  have hnotBegun : hub.NotBegun → hub'.NotBegun := fun ⟨h1, h2, h3, h4, h5, h6, h7⟩ => by
    constructor <;> simpa only [hsub, hlog]
  have hbegun : hub.Begun config → hub'.Begun config := fun ⟨h1, h2, h3⟩ => by
    constructor <;> simpa only [hsub, hlog]
  refine
    { joined_le := by rw [hsub, hlog]; exact h.joined_le
      position_le := by rw [hsub]; exact h.position_le.trans hsent.length_le
      unread := by rw [hsub, hlog]; exact h.unread
      read := by rw [hsub, hlog]; exact h.read
      notBegun := by rw [hsub]; exact fun hphase => hnotBegun (h.notBegun hphase)
      begun := by rw [hsub]; exact fun hphase => hbegun (h.begun hphase)
      either := h.either.imp hnotBegun hbegun
      window := ?_
      stream := by rw [hsub, hlog]; exact h.stream
      live := by rw [hsub, hlog, hreceived]; exact h.live
      alternate := by rw [hsub, hlog]; exact h.alternate
      watermark_le := by rw [hsub]; exact h.watermark_le
      watermark_max := by rw [hsub, hreceived]; exact h.watermark_max
      watermark_or := by rw [hsub, hreceived]; exact h.watermark_or }
  intro record hrecord
  rw [hlog] at hrecord
  obtain ⟨hjoined, hle, hretains, hreplay⟩ := h.window record hrecord
  refine ⟨by rw [hlog]; exact hjoined, hle.trans hpushed.length_le, ?_, by rw [hsub]; exact hreplay⟩
  obtain ⟨rest, hrest⟩ := hpushed
  rw [← hrest, List.take_append_of_le_length hle]
  exact hretains

/-- Closing a subscriber keeps what it was sent. -/
theorem SubscribeInv.close (h : hub.SubscribeInv config) (replay : ReplayBuffer) :
    SubscribeInv config
      { hub with replay := replay, subscriber := { hub.subscriber with phase := .closed } } where
  joined_le := h.joined_le
  position_le := h.position_le
  unread hphase := by simp at hphase
  read hphase := by simp at hphase
  notBegun hphase := by simp at hphase
  begun hphase := by simp at hphase
  either := h.either.imp (fun ⟨h1, h2, h3, h4, h5, h6, h7⟩ => ⟨h1, h2, h3, h4, h5, h6, h7⟩)
    (fun ⟨h1, h2, h3⟩ => ⟨h1, h2, h3⟩)
  window record hrecord :=
    let ⟨h1, h2, h3, h4⟩ := h.window record hrecord
    ⟨h1, h2, h3, h4⟩
  stream := h.stream
  live := h.live
  alternate := h.alternate
  watermark_le := h.watermark_le
  watermark_max := h.watermark_max
  watermark_or := h.watermark_or

/-! ## The subscriber's steps -/

theorem SubscribeInv.attach (h : hub.SubscribeInv config) (hstep : hub.attach = some hub') :
    hub'.SubscribeInv config := by
  obtain ⟨hphase, rfl⟩ := attach_spec hstep
  obtain ⟨-, hdelivered, hpending, hmempool, hhead, htail, hlive⟩ := h.notBegun (.inl hphase)
  have hnone := h.unread (.inl hphase)
  have hreceived : received
      { hub with
        subscriber := { hub.subscriber with phase := .attached, position := hub.sent.length }
        log := { hub.log with joined := hub.sent.length } } = [] :=
    received_of_joined rfl
  exact
    { joined_le := le_rfl
      position_le := le_rfl
      unread := fun _ => hnone
      read := fun hphase => by simp at hphase
      notBegun := fun _ => ⟨rfl, hdelivered, hpending, hmempool, hhead, htail, hlive⟩
      begun := fun hphase => by simp at hphase
      either := .inl ⟨rfl, hdelivered, hpending, hmempool, hhead, htail, hlive⟩
      window := fun record hrecord => by
        change hub.log.replay = some record at hrecord
        rw [hnone] at hrecord
        cases hrecord
      stream := h.stream
      live := by rw [hreceived]; exact hlive
      alternate := .inr rfl
      watermark_le := h.watermark_le
      watermark_max := by rw [hreceived]; simp
      watermark_or := by
        have hold : hub.received = [] := received_of_joined (h.notBegun (.inl hphase)).position
        refine .inl ?_
        rcases h.watermark_or with heq | ⟨update, hmem, -⟩
        · exact heq
        · rw [hold] at hmem
          cases hmem }

theorem SubscribeInv.snapshotReplay (h : hub.SubscribeInv config) (hpub : hub.PublishInv)
    {now : Nat} (hstep : hub.snapshotReplay config now = some hub') :
    hub'.SubscribeInv config := by
  obtain ⟨hphase, replay, result, hreplay, hcases⟩ := snapshotReplay_spec hstep
  obtain ⟨hsuffix, -, hok⟩ := subscribeReplay_spec hreplay
  rcases hcases with ⟨_, -, rfl⟩ | ⟨snapshot, hresult, rfl⟩
  · exact h.close replay
  · obtain ⟨hposition, hdelivered, hpending, hmempool, hhead, htail, hlive⟩ :=
      h.notBegun (.inr (.inl hphase))
    obtain ⟨fromHeight, hheight, hsnapshot⟩ := hok snapshot hresult
    have hreceived : hub.received = [] := received_of_joined hposition
    exact
      { joined_le := h.joined_le
        position_le := h.position_le
        unread := fun hphase => by simp at hphase
        read := fun _ => rfl
        notBegun := fun _ => ⟨hposition, hdelivered, hpending, hmempool, hhead, htail, hlive⟩
        begun := fun hphase => by simp at hphase
        either := .inl ⟨hposition, hdelivered, hpending, hmempool, hhead, htail, hlive⟩
        window := fun record hrecord => by
          simp only [Option.some.injEq] at hrecord
          subst hrecord
          refine ⟨?_, le_rfl, ?_, fromHeight, hheight, hsnapshot⟩
          · have hle := h.position_le
            rw [hposition] at hle
            simp only [Publication.pushed, List.length_append]
            omega
          · show Retains (List.take hub.pushed.length hub.pushed) replay.buckets
            rw [List.take_length]
            exact hpub.retains.of_suffix hsuffix
        stream := h.stream
        live := by
          show hub.log.live = (hub.received.filter _).filterMap _
          rw [hreceived, hlive]
          rfl
        alternate := .inl hpending
        watermark_le := le_rfl
        watermark_max := by
          show ∀ update ∈ hub.received, _
          rw [hreceived]
          simp
        watermark_or := .inl rfl }

theorem SubscribeInv.snapshotMempool (h : hub.SubscribeInv config)
    (hstep : hub.snapshotMempool config = some hub') : hub'.SubscribeInv config := by
  obtain ⟨hphase, -, mempool, hmempool, rfl⟩ := snapshotMempool_spec hstep
  obtain ⟨hposition, hdelivered, hpending, -, hhead, htail, hlive⟩ :=
    h.notBegun (.inr (.inr hphase))
  have hreceived : hub.received = [] := received_of_joined hposition
  have hbegun : Begun config
      { hub with
        subscriber :=
          { hub.subscriber with
            phase := .streaming
            pending := initialUpdates config.filter hub.subscriber.replay mempool
              (config.request.resume.map reconnectUpdate)
            mempoolWatermark := mempool.map (·.revision) }
        log :=
          { hub.log with
            mempool := mempool.map fun _ => { state := hub.mempool, sent := hub.sent.length }
            head := initialUpdates config.filter { updates := [], watermark := 0 } mempool
              (config.request.resume.map reconnectUpdate)
            tail := hub.subscriber.replay.updates.filterMap (deliver config.filter) } } :=
    ⟨h.read hphase, ⟨mempool, fun hno => by rw [hmempool, hno]; rfl, rfl, rfl⟩, rfl⟩
  exact
    { joined_le := h.joined_le
      position_le := h.position_le
      unread := fun hphase => by simp at hphase
      read := fun hphase => by simp at hphase
      notBegun := fun hphase => by simp at hphase
      begun := fun _ => hbegun
      either := .inr hbegun
      window := fun record hrecord =>
        let ⟨h1, h2, h3, h4⟩ := h.window record hrecord
        ⟨h1, h2, h3, h4⟩
      stream := by simp [hdelivered, hlive, initialUpdates]
      live := by
        show hub.log.live = (hub.received.filter _).filterMap _
        rw [hreceived, hlive]
        rfl
      alternate := .inr hposition
      watermark_le := h.watermark_le
      watermark_max := h.watermark_max
      watermark_or := h.watermark_or }

theorem SubscribeInv.emit (h : hub.SubscribeInv config) (hstep : hub.emit = some hub') :
    hub'.SubscribeInv config := by
  obtain ⟨message, pending, hphase, hpending, rfl⟩ := emit_spec hstep
  have hbegun := h.begun hphase
  exact
    { joined_le := h.joined_le
      position_le := h.position_le
      unread := fun hphase' => by simp [hphase] at hphase'
      read := fun hphase' => by simp [hphase] at hphase'
      notBegun := fun hphase' => by simp [hphase] at hphase'
      begun := fun _ => ⟨hbegun.1, hbegun.2, hbegun.3⟩
      either := .inr ⟨hbegun.1, hbegun.2, hbegun.3⟩
      window := fun record hrecord =>
        let ⟨h1, h2, h3, h4⟩ := h.window record hrecord
        ⟨h1, h2, h3, h4⟩
      stream := by
        have hstream := h.stream
        rw [hpending] at hstream
        simpa using hstream
      live := h.live
      alternate := by
        rcases h.alternate with hnil | hposition
        · rw [hpending] at hnil
          cases hnil
        · exact .inr hposition
      watermark_le := h.watermark_le
      watermark_max := h.watermark_max
      watermark_or := h.watermark_or }

/-- The running watermark decides like the snapshot's: whatever it was raised by
has a smaller sequence than what is received next. -/
theorem receiveLive_eq (filter : EventFilter) (mempoolWatermark : Option Nat)
    {replayWatermark watermark : Nat} {earlier : List PublishedUpdate} {update : PublishedUpdate}
    (hle : replayWatermark ≤ watermark)
    (hor : watermark = replayWatermark ∨ ∃ u ∈ earlier, u.message.sequence = watermark)
    (hlt : ∀ u ∈ earlier, u.message.sequence < update.message.sequence) :
    receiveLive filter watermark mempoolWatermark update =
      (max watermark update.message.sequence,
        if passes replayWatermark mempoolWatermark update then deliver filter update else none) := by
  have hdecide : update.message.sequence ≤ watermark ↔
      update.message.sequence ≤ replayWatermark := by
    constructor
    · intro hseq
      rcases hor with heq | ⟨u, hu, heq⟩
      · omega
      · have := hlt u hu
        omega
    · intro hseq
      omega
  unfold receiveLive passes
  by_cases hseq : update.message.sequence ≤ watermark
  · have hsmall := hdecide.mp hseq
    have hnot : ¬ replayWatermark < update.message.sequence := by omega
    rw [if_pos hseq, max_eq_left hseq]
    simp [hnot]
  · have hlarge : replayWatermark < update.message.sequence := by
      rw [hdecide] at hseq
      omega
    rw [if_neg hseq, max_eq_right (by omega)]
    cases suppressed mempoolWatermark update <;> simp [hlarge]

theorem SubscribeInv.recv (h : hub.SubscribeInv config) (hpub : hub.PublishInv)
    (hstep : hub.recv config = some hub') : hub'.SubscribeInv config := by
  obtain ⟨hphase, hpending, rfl | ⟨update, hget, heq⟩⟩ := recv_spec hstep
  · exact h.close hub.replay
  · have hbegun := h.begun hphase
    have hlt : hub.subscriber.position < hub.sent.length :=
      (List.getElem?_eq_some_iff.mp hget).1
    have htake : hub.sent.take (hub.subscriber.position + 1) =
        hub.sent.take hub.subscriber.position ++ [update] := by
      rw [List.take_add_one, hget, Option.toList_some]
    have hreceived : hub'.received = hub.received ++ [update] := by
      have hlen : hub.log.joined ≤ (hub.sent.take hub.subscriber.position).length := by
        rw [List.length_take]
        have := h.joined_le
        omega
      rw [heq]
      show (hub.sent.take (hub.subscriber.position + 1)).drop hub.log.joined = _
      rw [htake, List.drop_append_of_le_length hlen]
      rfl
    have hkept : ∀ u ∈ hub.received, u ∈ hub'.received := by
      rw [hreceived]
      exact fun u hu => List.mem_append_left _ hu
    have hlast : update ∈ hub'.received := by
      rw [hreceived]
      exact List.mem_append_right _ List.mem_cons_self
    subst heq
    have hearlier : ∀ u ∈ hub.received, u.message.sequence < update.message.sequence := by
      intro u hu
      have hpre : hub.sent.take (hub.subscriber.position + 1) <+: hub.prepared :=
        (List.take_prefix _ _).trans
          ((List.prefix_append _ _).trans (List.prefix_append _ _))
      have hinc := hpub.increasing.order.sublist hpre.sublist
      rw [htake, List.pairwise_append] at hinc
      exact hinc.2.2 u (List.drop_subset _ _ hu) update List.mem_cons_self
    have hlive := receiveLive_eq config.filter hub.subscriber.mempoolWatermark h.watermark_le
      h.watermark_or hearlier
    refine
      { joined_le := h.joined_le.trans (Nat.le_succ _)
        position_le := hlt
        unread := fun hphase' => by simp [hphase] at hphase'
        read := fun hphase' => by simp [hphase] at hphase'
        notBegun := fun hphase' => by simp [hphase] at hphase'
        begun := fun _ => ⟨hbegun.1, hbegun.2, hbegun.3⟩
        either := .inr ⟨hbegun.1, hbegun.2, hbegun.3⟩
        window := fun record hrecord =>
          let ⟨h1, h2, h3, h4⟩ := h.window record hrecord
          ⟨h1, h2, h3, h4⟩
        stream := ?_
        live := ?_
        alternate := .inl hpending
        watermark_le := ?_
        watermark_max := ?_
        watermark_or := ?_ }
    · have hstream := h.stream
      rw [hpending, List.append_nil] at hstream
      simp only [hpending, List.append_nil, hstream, List.append_assoc]
    · rw [hreceived, hlive, h.live, List.filter_append, List.filterMap_append]
      cases hp : passes hub.subscriber.replay.watermark hub.subscriber.mempoolWatermark update with
      | true =>
        cases hd : deliver config.filter update <;> simp [hp, hd]
      | false => simp [hp]
    · simp only [hlive]
      exact h.watermark_le.trans (le_max_left _ _)
    · intro u hu
      rw [hreceived] at hu
      simp only [hlive]
      rcases List.mem_append.mp hu with hu | hu
      · exact (h.watermark_max u hu).trans (le_max_left _ _)
      · rw [List.mem_singleton.mp hu]
        exact le_max_right _ _
    · simp only [hlive]
      rcases le_total update.message.sequence hub.subscriber.watermark with hle | hle
      · rw [max_eq_left hle]
        exact h.watermark_or.imp id fun ⟨u, hu, heq⟩ => ⟨u, hkept u hu, heq⟩
      · rw [max_eq_right hle]
        exact .inr ⟨update, hlast, rfl⟩

/-- **Every step keeps the subscriber's invariant.** -/
theorem SubscribeInv.step (h : hub.SubscribeInv config) (hpub : hub.PublishInv)
    {event : HubEvent} (hstep : hub.step config event = some hub') :
    hub'.SubscribeInv config := by
  cases event with
  | prepare updates =>
    obtain ⟨hidle, -, rfl⟩ := prepare_spec hstep
    refine h.extend List.prefix_rfl ?_ rfl (hub.log.batches + 1) rfl
    simp [pushed, hidle, Publisher.unsent]
  | push now =>
    obtain ⟨batch, locked, replay, hpublisher, -, rfl⟩ := push_spec hstep
    refine h.extend List.prefix_rfl ?_ rfl hub.log.batches rfl
    simp [pushed, hpublisher, Publisher.unsent]
  | send =>
    obtain ⟨update, rest, locked, hpublisher, rfl⟩ := send_spec hstep
    refine h.extend (List.prefix_append _ _) ?_ rfl hub.log.batches rfl
    simp [pushed, hpublisher, Publisher.unsent]
  | finish =>
    obtain ⟨locked, hpublisher, rfl⟩ := finish_spec hstep
    refine h.extend List.prefix_rfl ?_ rfl hub.log.batches rfl
    simp [pushed, hpublisher, Publisher.unsent]
  | evict now =>
    obtain ⟨replay, -, rfl⟩ := evict_spec hstep
    exact h.extend List.prefix_rfl List.prefix_rfl rfl hub.log.batches rfl
  | attach => exact h.attach hstep
  | snapshotReplay now => exact h.snapshotReplay hpub hstep
  | snapshotMempool => exact h.snapshotMempool hstep
  | emit => exact h.emit hstep
  | recv => exact h.recv hpub hstep
  | disconnect =>
    cases hstep
    exact h.close hub.replay

/-- Both invariants hold in every state reached. -/
theorem invariants {events : List HubEvent}
    (hrun : runs (step config) (new config) events = some hub) :
    hub.PublishInv ∧ hub.SubscribeInv config :=
  runs_invariant (I := fun hub => hub.PublishInv ∧ hub.SubscribeInv config)
    (fun _ _ _ hstep ⟨hpub, hsub⟩ => ⟨publishInv_step hpub hstep, hsub.step hpub hstep⟩) hrun
    ⟨Publication.publishInv_new config.limits, subscribeInv_new config⟩

/-! ## The hand-over -/

/-- The block-scoped updates that pass the snapshot's watermark are those pushed
after the snapshot; behind an empty window all that is received passes. -/
theorem blocks_received (hpub : hub.PublishInv) (hsub : hub.SubscribeInv config)
    {record : ReplayRecord} (hrecord : hub.log.replay = some record) :
    blocks (hub.received.filter (passes hub.subscriber.replay.watermark none)) =
      blocks ((hub.sent.take hub.subscriber.position).drop
        (if record.window = [] then hub.log.joined else record.pushed)) := by
  obtain ⟨hjoined, hpushed, hretains, _, -, hreplay⟩ := hsub.window record hrecord
  have hmark : hub.subscriber.replay.watermark = windowWatermark record.window := by
    rw [hreplay]
  have hsent : hub.sent.take hub.subscriber.position <+: hub.pushed :=
    (List.take_prefix _ _).trans (List.prefix_append _ _)
  have hinc : Increasing hub.pushed :=
    hpub.increasing.sublist (List.prefix_append _ _).sublist
  rw [blocks_filter_passes, hmark]
  split
  · rename_i hempty
    rw [hempty]
    refine List.filter_eq_self.mpr fun update hmem => ?_
    have hin : update ∈ hub.received := (List.mem_filter.mp hmem).1
    have := hinc.pos update (hsent.subset (List.drop_subset _ _ hin))
    exact decide_eq_true this
  · rename_i hne
    obtain ⟨⟨newest, hnewest, hseq⟩, hle⟩ :=
      hretains.watermark (hinc.sublist (List.take_prefix _ _).sublist) hne
    have hlen : hub.log.joined ≤ (hub.sent.take hub.subscriber.position).length := by
      rw [List.length_take]
      have := hsub.joined_le
      have := hsub.position_le
      omega
    -- Received is what was pushed before the snapshot, then what came after.
    rw [received, drop_split hjoined hlen, blocks_append, List.filter_append]
    have hbefore : ∀ update ∈ blocks
        (((hub.sent.take hub.subscriber.position).take record.pushed).drop hub.log.joined),
        update.message.sequence ≤ windowWatermark record.window := by
      intro update hmem
      obtain ⟨hin, hblock⟩ := List.mem_filter.mp hmem
      refine hle update (List.mem_filter.mpr ⟨?_, hblock⟩)
      exact (hsent.take _).subset (List.drop_subset _ _ hin)
    have hafter : ∀ update ∈ blocks
        ((hub.sent.take hub.subscriber.position).drop record.pushed),
        windowWatermark record.window < update.message.sequence := by
      intro update hmem
      obtain ⟨hin, -⟩ := List.mem_filter.mp hmem
      have hdrop : update ∈ hub.pushed.drop record.pushed := (hsent.drop _).subset hin
      have hsplit := hinc.order
      rw [← List.take_append_drop record.pushed hub.pushed, List.pairwise_append] at hsplit
      rw [← hseq]
      exact hsplit.2.2 newest (List.mem_filter.mp hnewest).1 update hdrop
    have hnil : (blocks (((hub.sent.take hub.subscriber.position).take record.pushed).drop
        hub.log.joined)).filter
          (fun update => windowWatermark record.window < update.message.sequence) = [] := by
      refine List.filter_eq_nil_iff.mpr fun update hmem => ?_
      have := hbefore update hmem
      simp only [decide_eq_true_eq]
      omega
    have hself : (blocks ((hub.sent.take hub.subscriber.position).drop record.pushed)).filter
        (fun update => windowWatermark record.window < update.message.sequence) =
          blocks ((hub.sent.take hub.subscriber.position).drop record.pushed) :=
      List.filter_eq_self.mpr fun update hmem => by simpa using hafter update hmem
    rw [hnil, hself, List.nil_append]

theorem pairwise_deliver {filter : EventFilter} {updates : List PublishedUpdate}
    (h : updates.Pairwise fun update update' =>
      update.message.sequence < update'.message.sequence) :
    (updates.filterMap (deliver filter)).Pairwise fun message message' =>
      message.sequence < message'.sequence := by
  refine List.pairwise_filterMap.mpr (h.imp fun hlt message hm message' hm' => ?_)
  rw [(deliver_frame hm).2.1, (deliver_frame hm').2.1]
  exact hlt

theorem filter_deliver_blocks (filter : EventFilter) (updates : List PublishedUpdate) :
    (updates.filterMap (deliver filter)).filter (fun message => (blockHeight message).isSome) =
      (blocks updates).filterMap (deliver filter) := by
  rw [blocks, List.filter_filterMap, List.filterMap_filter]
  refine List.filterMap_congr fun update _ => ?_
  cases hd : deliver filter update with
  | none => cases (blockHeight update.message).isSome <;> rfl
  | some message =>
    rw [Option.filter_some, (deliver_frame hd).2.2]

/-- The replayed updates lie at or below the watermark, the live ones above. -/
theorem pairwise_tail_live (hpub : hub.PublishInv) (hsub : hub.SubscribeInv config) :
    (hub.log.tail ++ hub.log.live).Pairwise fun message message' =>
      message.sequence < message'.sequence := by
  rcases hsub.either with hnot | ⟨hread, -, htail⟩
  · rw [hnot.tail, hnot.live]
    exact List.Pairwise.nil
  · obtain ⟨record, hrecord⟩ := Option.isSome_iff_exists.mp hread
    obtain ⟨-, -, hretains, fromHeight, -, hreplay⟩ := hsub.window record hrecord
    have hinc : Increasing hub.pushed :=
      hpub.increasing.sublist (List.prefix_append _ _).sublist
    have hinc' : Increasing (hub.pushed.take record.pushed) :=
      hinc.sublist (List.take_prefix _ _).sublist
    have hsubset : hub.subscriber.replay.updates.Sublist
        (record.window.flatMap (·.updates)) := by
      rw [hreplay]
      cases fromHeight with
      | none => exact List.nil_sublist _
      | some height => exact (List.filter_sublist).flatMap _
    have hreplayed : hub.subscriber.replay.updates.Sublist
        (blocks (hub.pushed.take record.pushed)) := hsubset.trans hretains.suffix.sublist
    rw [htail, hsub.live, List.pairwise_append]
    refine ⟨pairwise_deliver (hinc'.order.sublist (hreplayed.trans List.filter_sublist)),
      pairwise_deliver (hinc.order.sublist ?_), ?_⟩
    · exact (List.filter_sublist.trans (List.drop_sublist _ _)).trans
        ((List.take_sublist _ _).trans (List.prefix_append _ _).sublist)
    · intro message hm message' hm'
      obtain ⟨update, hu, hd⟩ := List.mem_filterMap.mp hm
      obtain ⟨update', hu', hd'⟩ := List.mem_filterMap.mp hm'
      rw [(deliver_frame hd).2.1, (deliver_frame hd').2.1]
      have hwindow : record.window ≠ [] := by
        intro hnil
        have := hsubset.subset hu
        simp [hnil] at this
      have hle := (hretains.watermark hinc' hwindow).2 update (hreplayed.subset hu)
      have hlt := (List.mem_filter.mp hu').2
      simp only [passes, Bool.and_eq_true, decide_eq_true_eq, hreplay] at hlt
      omega

/-- Without a mempool snapshot the only message before the replayed updates is
the reconnect notice. -/
theorem head_eq (hsub : hub.SubscribeInv config)
    (hno : config.request.includeMempoolSnapshot = false) :
    ∀ message ∈ hub.log.head, isData message = false ∧ blockHeight message = none := by
  intro message hmem
  rcases hsub.either with hnot | ⟨-, ⟨mempool, hmempool, hhead, -⟩, -⟩
  · rw [hnot.head] at hmem
    cases hmem
  · rw [hhead, hmempool hno] at hmem
    simp only [initialUpdates, List.append_nil, List.filterMap_nil, Option.mem_toList,
      Option.map_eq_some_iff] at hmem
    obtain ⟨checkpoint, -, rfl⟩ := hmem
    exact ⟨rfl, rfl⟩

theorem mempoolWatermark_eq_none (hsub : hub.SubscribeInv config)
    (hno : config.request.includeMempoolSnapshot = false) :
    hub.subscriber.mempoolWatermark = none := by
  rcases hsub.either with hnot | ⟨-, ⟨mempool, hmempool, -, hmark⟩, -⟩
  · exact hnot.mempoolWatermark
  · rw [hmark, hmempool hno]
    rfl

/-- Delivered is a first part of the stream, whose head holds no data. -/
theorem delivered_increasing (hpub : hub.PublishInv) (hsub : hub.SubscribeInv config)
    (hno : config.request.includeMempoolSnapshot = false) :
    ((hub.subscriber.delivered.filter isData).map (·.sequence)).Pairwise (· < ·) := by
  have hfront : hub.subscriber.delivered <+:
      hub.log.head ++ (hub.log.tail ++ hub.log.live) := by
    rw [← List.append_assoc, ← hsub.stream]
    exact List.prefix_append _ _
  have hhead : hub.log.head.filter isData = [] :=
    List.filter_eq_nil_iff.mpr fun message hmem => by
      simp [(head_eq hsub hno message hmem).1]
  have hsublist := (hfront.filter isData).sublist
  rw [List.filter_append, hhead, List.nil_append] at hsublist
  exact List.pairwise_map.mpr
    (((pairwise_tail_live hpub hsub).sublist List.filter_sublist).sublist hsublist)

/-- A retained update from the requested height on is in the tail, once. -/
theorem delivered_once (hpub : hub.PublishInv) (hsub : hub.SubscribeInv config)
    (hall : config.filter.MatchesAll) (hno : config.request.includeMempoolSnapshot = false)
    {record : ReplayRecord} (hrecord : hub.log.replay = some record)
    (hphase : hub.subscriber.phase = .streaming) (hpending : hub.subscriber.pending = [])
    {fromHeight : Nat} (hheight : replayHeight config.request = .ok (some fromHeight))
    {bucket : ReplayBucket} (hbucket : bucket ∈ record.window) (hle : fromHeight ≤ bucket.height)
    {update : PublishedUpdate} (hupdate : update ∈ bucket.updates) :
    ∃ message, deliver config.filter update = some message ∧
      hub.subscriber.delivered.count message = 1 := by
  obtain ⟨message, hdeliver⟩ := deliver_of_matchesAll hall update
  refine ⟨message, hdeliver, ?_⟩
  obtain ⟨-, -, hretains, fromHeight', hheight', hreplay⟩ := hsub.window record hrecord
  rw [hheight] at hheight'
  cases hheight'
  have hreplayed : update ∈ hub.subscriber.replay.updates := by
    rw [hreplay]
    exact List.mem_flatMap.mpr
      ⟨bucket, List.mem_filter.mpr ⟨hbucket, decide_eq_true hle⟩, hupdate⟩
  have htail : message ∈ hub.log.tail := by
    rw [(hsub.begun hphase).tail]
    exact List.mem_filterMap.mpr ⟨update, hreplayed, hdeliver⟩
  have hstream := hsub.stream
  rw [hpending, List.append_nil, List.append_assoc] at hstream
  have hnothead : message ∉ hub.log.head := by
    intro hmem
    have hnone := (head_eq hsub hno message hmem).2
    rw [(deliver_frame hdeliver).2.2, hretains.height bucket hbucket update hupdate] at hnone
    cases hnone
  have hnodup : (hub.log.tail ++ hub.log.live).Nodup :=
    (pairwise_tail_live hpub hsub).imp fun hlt heq => by
      rw [heq] at hlt
      exact lt_irrefl _ hlt
  rw [hstream, List.count_append, List.count_eq_zero_of_not_mem hnothead,
    List.count_eq_one_of_mem hnodup (List.mem_append_left _ htail)]

/-- **The hand-over.** In every state of every interleaving:
the data updates delivered have increasing sequences; once the initial messages
are out, every retained update from the requested height on was delivered once;
the live part is what was received above the snapshot's watermark, and its
block-scoped updates are those pushed after the snapshot, each in its place
(those received since the receiver was attached when the window was empty). -/
theorem handover (hall : config.filter.MatchesAll)
    (hno : config.request.includeMempoolSnapshot = false) {events : List HubEvent}
    (hrun : runs (step config) (new config) events = some hub) :
    ((hub.subscriber.delivered.filter isData).map (·.sequence)).Pairwise (· < ·) ∧
    (hub.subscriber.delivered ++ hub.subscriber.pending =
        hub.log.head ++ hub.log.tail ++ hub.log.live ∧
      (hub.subscriber.pending = [] ∨ hub.log.live = [])) ∧
    ∀ record, hub.log.replay = some record →
      (hub.subscriber.phase = .streaming → hub.subscriber.pending = [] →
        ∀ fromHeight, replayHeight config.request = .ok (some fromHeight) →
        ∀ bucket ∈ record.window, fromHeight ≤ bucket.height → ∀ update ∈ bucket.updates,
          ∃ message, deliver config.filter update = some message ∧
            hub.subscriber.delivered.count message = 1) ∧
      hub.log.live = (hub.received.filter fun update =>
        windowWatermark record.window < update.message.sequence).filterMap
          (deliver config.filter) ∧
      hub.log.live.filter (fun message => (blockHeight message).isSome) =
        (blocks ((hub.sent.take hub.subscriber.position).drop
          (if record.window = [] then hub.log.joined else record.pushed))).filterMap
            (deliver config.filter) := by
  obtain ⟨hpub, hsub⟩ := invariants hrun
  have hmark := mempoolWatermark_eq_none hsub hno
  have halternate : hub.subscriber.pending = [] ∨ hub.log.live = [] := by
    refine hsub.alternate.imp id fun hposition => ?_
    rw [hsub.live, received_of_joined hposition]
    rfl
  refine ⟨delivered_increasing hpub hsub hno, ⟨hsub.stream, halternate⟩,
    fun record hrecord => ⟨?_, ?_, ?_⟩⟩
  · intro hphase hpending fromHeight hheight bucket hbucket hle update hupdate
    exact delivered_once hpub hsub hall hno hrecord hphase hpending hheight hbucket hle hupdate
  · obtain ⟨-, -, -, _, -, hreplay⟩ := hsub.window record hrecord
    rw [hsub.live, hmark, hreplay]
    congr 1
    refine List.filter_congr fun update _ => ?_
    simp [passes, suppressed]
  · rw [hsub.live, hmark, filter_deliver_blocks, blocks_received hpub hsub hrecord]

end

/-! ## A sample run -/

/-- A subscription from height 10 with an empty filter. -/
def sampleConfig : HubConfig where
  limits := { heightCapacity := 4, eventCapacity := 100, byteCapacity := 4000, maxAge := none }
  capacity := 8
  request := { fromHeight := some 10 }
  filter := { defaultAll := true, legacy := none, named := [], needsAddresses := false }

def sampleUpdate (height sequence : Nat) : SubscribeUpdate :=
  { sequence := sequence, eventType := EventType.blockAccepted.toI32
    update := some (.block { height := height }) }

/-- The receiver is attached between push and send of the second block, and the
third block is published while the replayed ones go out. -/
def sampleEvents : List HubEvent :=
  [.prepare [sampleUpdate 10 1], .push 0, .send, .finish,
   .prepare [sampleUpdate 11 2], .push 1, .attach, .snapshotReplay 1, .send, .finish,
   .snapshotMempool, .emit, .prepare [sampleUpdate 12 3], .push 2, .send, .finish,
   .emit, .recv, .recv]

theorem handover_sample :
    ∃ hub record, runs (@step protoWire sampleConfig) (new sampleConfig) sampleEvents = some hub ∧
      hub.log.replay = some record ∧ hub.subscriber.phase = .streaming ∧
      hub.subscriber.pending = [] ∧
      ((hub.subscriber.delivered.filter isData).map (·.sequence)).Pairwise (· < ·) ∧
      (hub.subscriber.delivered ++ hub.subscriber.pending =
          hub.log.head ++ hub.log.tail ++ hub.log.live ∧
        (hub.subscriber.pending = [] ∨ hub.log.live = [])) ∧
      (∀ fromHeight, replayHeight sampleConfig.request = .ok (some fromHeight) →
        ∀ bucket ∈ record.window, fromHeight ≤ bucket.height → ∀ update ∈ bucket.updates,
          ∃ message, @deliver protoWire sampleConfig.filter update = some message ∧
            hub.subscriber.delivered.count message = 1) ∧
      hub.log.live = (hub.received.filter fun update =>
        windowWatermark record.window < update.message.sequence).filterMap
          (@deliver protoWire sampleConfig.filter) ∧
      hub.log.live.filter (fun message => (blockHeight message).isSome) =
        (blocks ((hub.sent.take hub.subscriber.position).drop
          (if record.window = [] then hub.log.joined else record.pushed))).filterMap
            (@deliver protoWire sampleConfig.filter) := by
  have hsome : ((runs (@step protoWire sampleConfig) (new sampleConfig) sampleEvents).any
      fun hub => hub.log.replay.isSome && decide (hub.subscriber.phase = .streaming) &&
        hub.subscriber.pending.isEmpty) = true := by
    decide +kernel
  obtain ⟨hub, hrun, hchecks⟩ := (Option.any_eq_true _ _).mp hsome
  simp only [Bool.and_eq_true, decide_eq_true_eq, List.isEmpty_iff] at hchecks
  obtain ⟨⟨hrecord, hphase⟩, hpending⟩ := hchecks
  obtain ⟨record, hrecord⟩ := Option.isSome_iff_exists.mp hrecord
  obtain ⟨hincreasing, hstream, hparts⟩ := @handover sampleConfig hub protoWire
    (catchAll_of_defaultAll rfl).matchesAll rfl sampleEvents hrun
  obtain ⟨honce, hlive⟩ := hparts record hrecord
  exact ⟨hub, record, hrun, hrecord, hphase, hpending, hincreasing, hstream,
    honce hphase hpending, hlive⟩

end Hub

end ZakuraGrpc
