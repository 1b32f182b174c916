import ZakuraGrpc.Geyser.Handover

/-!
# The mempool of a subscriber

A subscriber that asks for a mempool snapshot folds what it is sent into a
`MempoolView`. Two watermarks drop live updates: the sequence of the replay
snapshot and the revision of the mempool snapshot. `RecordInv` shows that they
drop exactly the mempool updates the snapshot covers. So the view is that of
the published history up to the receiver's place (`mempool_view`).
-/

namespace ZakuraGrpc

open Runs
open Publication (pushed prepared)

/-! ## Ids in a view -/

/-- The message puts the id into the mempool. -/
def Adds (id : String) (message : SubscribeUpdate) : Prop :=
  match message.update with
  | some (.mempool change) => mempoolAction change = .added ∧ id ∈ change.transactionIds
  | some (.mempoolTransaction transaction) => mempoolKey transaction = id
  | _ => False

/-- The message takes the id out of the mempool. -/
def Removes (id : String) (message : SubscribeUpdate) : Prop :=
  match message.update with
  | some (.mempool change) =>
    (mempoolAction change = .invalidated ∨ mempoolAction change = .mined) ∧
      id ∈ change.transactionIds
  | _ => False

/-- The id was added and not removed since. -/
def AddedNotRemoved (id : String) (messages : List SubscribeUpdate) : Prop :=
  ∃ before message after, messages = before ++ message :: after ∧ Adds id message ∧
    ∀ later ∈ after, ¬ Removes id later

namespace MempoolView

theorem isSome_observe (view : MempoolView) (message : SubscribeUpdate) (id : String) :
    (view.observe message id).isSome ↔
      Adds id message ∨ ((view id).isSome ∧ ¬ Removes id message) := by
  unfold observe Adds Removes
  cases message.update with
  | none => simp
  | some kind =>
    cases kind with
    | mempool change =>
      cases haction : mempoolAction change <;> by_cases hid : id ∈ change.transactionIds <;>
        simp [haction, add, remove, hid]
    | mempoolTransaction transaction =>
      by_cases hkey : mempoolKey transaction = id
      · simp [setDetail, hkey]
      · simp [setDetail, Function.update_of_ne (fun heq => hkey heq.symm), hkey]
    | _ => simp

theorem addedNotRemoved_snoc (id : String) (messages : List SubscribeUpdate)
    (message : SubscribeUpdate) :
    AddedNotRemoved id (messages ++ [message]) ↔
      Adds id message ∨ (AddedNotRemoved id messages ∧ ¬ Removes id message) := by
  constructor
  · rintro ⟨before, added, after, hsplit, hadds, hafter⟩
    rcases List.eq_nil_or_concat after with rfl | ⟨init, last, rfl⟩
    · obtain ⟨-, heq⟩ := List.append_inj' hsplit rfl
      cases heq
      exact .inl hadds
    · have hsplit' : messages ++ [message] = (before ++ added :: init) ++ [last] := by
        rw [hsplit]
        simp
      obtain ⟨rfl, heq⟩ := List.append_inj' hsplit' rfl
      cases heq
      exact .inr ⟨⟨before, added, init, rfl, hadds, fun later hl => hafter later (by simp [hl])⟩,
        hafter message (by simp)⟩
  · rintro (hadds | ⟨⟨before, added, after, rfl, hadds, hafter⟩, hremoves⟩)
    · exact ⟨messages, message, [], rfl, hadds, by simp⟩
    · refine ⟨before, added, after ++ [message], by simp, hadds, fun later hl => ?_⟩
      rcases List.mem_append.mp hl with hl | hl
      · exact hafter later hl
      · rw [List.mem_singleton.mp hl]
        exact hremoves

/-- The ids of a folded history. -/
theorem isSome_observeAll (messages : List SubscribeUpdate) (id : String) :
    (empty.observeAll messages id).isSome ↔ AddedNotRemoved id messages := by
  induction messages using List.reverseRecOn with
  | nil =>
    refine ⟨fun h => absurd h (by simp [empty]), ?_⟩
    rintro ⟨before, message, after, hsplit, -⟩
    cases before <;> cases hsplit
  | append_singleton messages message ih =>
    rw [observeAll_append, observeAll_cons, observeAll_nil, isSome_observe, ih,
      addedNotRemoved_snoc]

/-- Messages outside the mempool leave the view alone. -/
theorem observeAll_of_not_mempool (view : MempoolView) {messages : List SubscribeUpdate}
    (h : ∀ message ∈ messages, isMempoolUpdate message = false) :
    view.observeAll messages = view := by
  rw [← observeAll_filter, List.filter_eq_nil_iff.mpr fun message hmem => by
    simp [h message hmem]]
  rfl

/-- Under a catch-all filter the view reads the updates themselves. -/
theorem observeAll_deliver [WireFormat] {filter : EventFilter} (hcatch : filter.CatchAll)
    (view : MempoolView) (updates : List PublishedUpdate) :
    view.observeAll (updates.filterMap (deliver filter)) =
      view.observeAll (updates.map (·.message)) := by
  refine view.observeAll_congr ?_
  induction updates with
  | nil => rfl
  | cons update updates ih =>
    obtain ⟨names, hdeliver⟩ := deliver_of_catchAll hcatch update
    rw [List.filterMap_cons_some hdeliver, List.map_cons, List.map_cons, List.map_cons, ih]
    rfl

end MempoolView

theorem isMempoolUpdate_of_blockHeight {message : SubscribeUpdate} {height : Nat}
    (h : blockHeight message = some height) : isMempoolUpdate message = false := by
  unfold blockHeight at h
  unfold isMempoolUpdate
  split at h <;> simp_all

/-! ## The server's state and the snapshot -/

namespace Hub

variable {config : HubConfig} {hub hub' : Hub}

section
variable [WireFormat]

/-- What a mempool snapshot covers, and what is left to the live stream. -/
structure RecordInv (config : HubConfig) (hub : Hub) (record : MempoolRecord) : Prop where
  joined_le : hub.log.joined ≤ record.sent
  sent_le : record.sent ≤ hub.sent.length
  valid : MempoolState.EntriesValid record.state.entries
  view : record.state.view =
    MempoolView.empty.observeAll ((hub.sent.take record.sent).map (·.message))
  revision_le : record.state.revision ≤ hub.mempool.revision
  covered : ∀ update ∈ hub.prepared.take record.sent, isMempoolUpdate update.message = true →
    ∃ revision, update.message.mempoolRevision = some revision ∧
      revision ≤ record.state.revision
  left : ∀ update ∈ hub.prepared.drop record.sent, isMempoolUpdate update.message = true →
    (∃ revision, update.message.mempoolRevision = some revision ∧
      record.state.revision < revision) ∧
    hub.subscriber.replay.watermark < update.message.sequence
  watermark : hub.subscriber.mempoolWatermark = some record.state.revision
  head : hub.log.head = initialUpdates config.filter { updates := [], watermark := 0 }
    (some record.state.snapshot) (config.request.resume.map reconnectUpdate)

/-- The server's state is the fold of everything prepared, and revisions go
with it. Outside the lock no mempool update is on its way. -/
structure MempoolInv (config : HubConfig) (hub : Hub) : Prop where
  valid : MempoolState.EntriesValid hub.mempool.entries
  view : hub.mempool.view = MempoolView.empty.observeAll (hub.prepared.map (·.message))
  revision_le : hub.mempool.revision ≤ hub.log.batches
  stamped : ∀ update ∈ hub.prepared, isMempoolUpdate update.message = true →
    ∃ revision, update.message.mempoolRevision = some revision ∧
      revision ≤ hub.mempool.revision
  unlocked : hub.publisher.isLocked = false →
    ∀ update ∈ hub.publisher.unsent ++ hub.publisher.waiting,
      isMempoolUpdate update.message = false
  unread : hub.subscriber.phase = .detached ∨ hub.subscriber.phase = .attached ∨
    hub.subscriber.phase = .replayed → hub.log.mempool = none
  record : ∀ record, hub.log.mempool = some record → hub.RecordInv config record

theorem mempoolInv_new (config : HubConfig) : (new config).MempoolInv config where
  valid := MempoolState.entriesValid_empty
  view := by
    funext id
    simp [MempoolState.view, MempoolState.viewOf, new, prepared, pushed, Publisher.unsent,
      Publisher.waiting, MempoolView.empty]
  revision_le := le_rfl
  stamped update hmem := nomatch hmem
  unlocked _ update hmem := nomatch hmem
  unread _ := rfl
  record _ h := nomatch h

/-- Steps that leave the server's mempool side alone. -/
theorem MempoolInv.congr (h : hub.MempoolInv config) (hsent : hub'.sent = hub.sent)
    (hpublisher : hub'.publisher = hub.publisher) (hmempool : hub'.mempool = hub.mempool)
    (hbatches : hub'.log.batches = hub.log.batches)
    (hunread : hub'.subscriber.phase = .detached ∨ hub'.subscriber.phase = .attached ∨
      hub'.subscriber.phase = .replayed → hub'.log.mempool = none)
    (hrecord : ∀ record, hub'.log.mempool = some record →
      hub.log.mempool = some record ∧ hub'.log.joined = hub.log.joined ∧
        hub'.log.head = hub.log.head ∧ hub'.subscriber.replay = hub.subscriber.replay ∧
        hub'.subscriber.mempoolWatermark = hub.subscriber.mempoolWatermark) :
    hub'.MempoolInv config := by
  have hprepared : hub'.prepared = hub.prepared := by
    rw [prepared, pushed, hsent, hpublisher]
    rfl
  refine
    { valid := by rw [hmempool]; exact h.valid
      view := by rw [hmempool, hprepared]; exact h.view
      revision_le := by rw [hmempool, hbatches]; exact h.revision_le
      stamped := by rw [hmempool, hprepared]; exact h.stamped
      unlocked := by rw [hpublisher]; exact h.unlocked
      unread := hunread
      record := fun record hrec => ?_ }
  obtain ⟨hold, hjoined, hhead, hreplay, hmark⟩ := hrecord record hrec
  have hinv := h.record record hold
  exact
    { joined_le := by rw [hjoined]; exact hinv.joined_le
      sent_le := by rw [hsent]; exact hinv.sent_le
      valid := hinv.valid
      view := by rw [hsent]; exact hinv.view
      revision_le := by rw [hmempool]; exact hinv.revision_le
      covered := by rw [hprepared]; exact hinv.covered
      left := by rw [hprepared, hreplay]; exact hinv.left
      watermark := by rw [hmark]; exact hinv.watermark
      head := by rw [hhead]; exact hinv.head }

/-- Steps of the publisher that prepare nothing. -/
theorem MempoolInv.publish (h : hub.MempoolInv config) (hsent : hub.sent <+: hub'.sent)
    (hprepared : hub'.prepared = hub.prepared) (hmempool : hub'.mempool = hub.mempool)
    (hlog : hub'.log = hub.log) (hsub : hub'.subscriber = hub.subscriber)
    (hunlocked : hub'.publisher.isLocked = false →
      ∀ update ∈ hub'.publisher.unsent ++ hub'.publisher.waiting,
        isMempoolUpdate update.message = false) : hub'.MempoolInv config := by
  refine
    { valid := by rw [hmempool]; exact h.valid
      view := by rw [hmempool, hprepared]; exact h.view
      revision_le := by rw [hmempool, hlog]; exact h.revision_le
      stamped := by rw [hmempool, hprepared]; exact h.stamped
      unlocked := hunlocked
      unread := by rw [hsub, hlog]; exact h.unread
      record := fun record hrec => ?_ }
  rw [hlog] at hrec
  have hinv := h.record record hrec
  obtain ⟨rest, hrest⟩ := hsent
  exact
    { joined_le := by rw [hlog]; exact hinv.joined_le
      sent_le := by
        rw [← hrest, List.length_append]
        have := hinv.sent_le
        omega
      valid := hinv.valid
      view := by rw [← hrest, List.take_append_of_le_length hinv.sent_le]; exact hinv.view
      revision_le := by rw [hmempool]; exact hinv.revision_le
      covered := by rw [hprepared]; exact hinv.covered
      left := by rw [hprepared, hsub]; exact hinv.left
      watermark := by rw [hsub]; exact hinv.watermark
      head := by rw [hlog]; exact hinv.head }

/-- The replay watermark is a sequence already pushed. -/
theorem replayWatermark_pushed (hpub : hub.PublishInv) (hsub : hub.SubscribeInv config)
    (hbegun : hub.Begun config) : hub.subscriber.replay.watermark = 0 ∨
      ∃ update ∈ hub.pushed, update.message.sequence = hub.subscriber.replay.watermark := by
  obtain ⟨record, hrecord⟩ := Option.isSome_iff_exists.mp hbegun.record
  obtain ⟨-, -, hretains, _, -, hreplay⟩ := hsub.window record hrecord
  rw [hreplay]
  by_cases hempty : record.window = []
  · left
    rw [hempty]
    rfl
  · right
    have hinc : Increasing (hub.pushed.take record.pushed) :=
      hpub.increasing.sublist
        ((List.take_sublist _ _).trans (List.prefix_append _ _).sublist)
    obtain ⟨newest, hnewest, hseq⟩ := (hretains.watermark hinc hempty).1
    exact ⟨newest, List.take_subset _ _ (List.mem_filter.mp hnewest).1, hseq⟩

theorem begun_of_record (hsub : hub.SubscribeInv config) {record : MempoolRecord}
    (hinv : hub.RecordInv config record) : hub.Begun config := by
  refine hsub.either.resolve_left fun hnot => ?_
  have hmark := hinv.watermark
  rw [hnot.mempoolWatermark] at hmark
  cases hmark

/-- What a batch does to the mempool, whichever of the two kinds it is. -/
theorem MempoolInv.batch (h : hub.MempoolInv config)
    (hrevision : hub.mempool.revision + 1 ≤ u64Max) (updates : List SubscribeUpdate) :
    MempoolState.EntriesValid (prepareBatch hub.mempool updates).1.entries ∧
    (prepareBatch hub.mempool updates).1.view =
      hub.mempool.view.observeAll ((prepareBatch hub.mempool updates).2.map (·.message)) ∧
    (hub.mempool.revision ≤ (prepareBatch hub.mempool updates).1.revision ∧
      (prepareBatch hub.mempool updates).1.revision ≤ hub.mempool.revision + 1) ∧
    ∀ update ∈ (prepareBatch hub.mempool updates).2,
      isMempoolUpdate update.message = true →
      updates.any isMempoolUpdate = true ∧
      (prepareBatch hub.mempool updates).1.revision = hub.mempool.revision + 1 ∧
      update.message.mempoolRevision = some (hub.mempool.revision + 1) := by
  cases hany : updates.any isMempoolUpdate with
  | true =>
    obtain ⟨hv, hw, hr, hs⟩ := prepareBatch_mempool hany h.valid
    rw [min_eq_left hrevision] at hr hs
    exact ⟨hv, hw, ⟨by omega, by omega⟩, fun update hmem hmempool =>
      ⟨rfl, hr, hs update hmem hmempool⟩⟩
  | false =>
    obtain ⟨hsame, hno⟩ := prepareBatch_not_mempool hub.mempool hany
    rw [hsame]
    refine ⟨h.valid, ?_, ⟨le_rfl, Nat.le_succ _⟩, fun update hmem hmempool => ?_⟩
    · rw [MempoolView.observeAll_of_not_mempool]
      intro message hmem
      obtain ⟨update, hu, rfl⟩ := List.mem_map.mp hmem
      exact hno update hu
    · rw [hno update hmem] at hmempool
      cases hmempool

theorem prepared_prepare {updates : List SubscribeUpdate}
    (hstep : hub.prepare updates = some hub') :
    hub'.prepared = hub.sent ++ (prepareBatch hub.mempool updates).2 := by
  obtain ⟨-, -, rfl⟩ := prepare_spec hstep
  simp only [prepared, pushed, Publisher.unsent, Publisher.waiting, List.append_nil]

theorem MempoolInv.prepare (h : hub.MempoolInv config) (hpub : hub.PublishInv)
    (hsub : hub.SubscribeInv config) {updates : List SubscribeUpdate}
    (hstep : hub.prepare updates = some hub') (hbatches : hub'.log.batches < 2 ^ 64) :
    hub'.MempoolInv config := by
  have hpub' : hub'.PublishInv := by
    obtain ⟨publication, hprepare, rfl⟩ := Option.map_eq_some_iff.mp hstep
    exact hpub.prepare hprepare
  have hadded := prepared_prepare hstep
  have hincreasing := hpub'.increasing
  rw [hadded] at hincreasing
  obtain ⟨hidle, -, rfl⟩ := prepare_spec hstep
  have hprepared : hub.prepared = hub.sent := by
    rw [prepared, pushed, hidle, Publisher.unsent, Publisher.waiting, List.append_nil,
      List.append_nil]
  have hpushed : hub.pushed = hub.sent := Publication.pushed_eq_sent (by rw [hidle]; rfl)
  have hview := h.view
  have hstamped := h.stamped
  rw [hprepared] at hview hstamped
  have hrevision : hub.mempool.revision + 1 ≤ u64Max := by
    have := h.revision_le
    simp only [u64Max] at hbatches ⊢
    omega
  obtain ⟨hvalid', hview', hle, hbatch⟩ := h.batch hrevision updates
  refine
    { valid := hvalid'
      view := ?_
      revision_le := ?_
      stamped := ?_
      unlocked := ?_
      unread := h.unread
      record := fun record hrec => ?_ }
  · rw [hadded, hview', hview, List.map_append, MempoolView.observeAll_append]
  · have := h.revision_le
    show (prepareBatch hub.mempool updates).1.revision ≤ hub.log.batches + 1
    omega
  · rw [hadded]
    intro update hmem hmempool
    rcases List.mem_append.mp hmem with hmem | hmem
    · obtain ⟨revision, hrev, hrle⟩ := hstamped update hmem hmempool
      exact ⟨revision, hrev, hrle.trans hle.1⟩
    · obtain ⟨-, hnew, hrev⟩ := hbatch update hmem hmempool
      exact ⟨_, hrev, hnew.ge⟩
  · intro hlocked update hmem
    cases hmempool : isMempoolUpdate update.message with
    | false => rfl
    | true =>
      obtain ⟨hany, -, -⟩ := hbatch update hmem hmempool
      change updates.any isMempoolUpdate = false at hlocked
      rw [hany] at hlocked
      cases hlocked
  · have hinv := h.record record hrec
    have hsent := hinv.sent_le
    exact
      { joined_le := hinv.joined_le
        sent_le := hsent
        valid := hinv.valid
        view := hinv.view
        revision_le := hinv.revision_le.trans hle.1
        covered := by
          rw [hadded, List.take_append_of_le_length hsent, ← hprepared]
          exact hinv.covered
        left := by
          rw [hadded, List.drop_append_of_le_length hsent]
          intro update hmem hmempool
          rcases List.mem_append.mp hmem with hmem | hmem
          · rw [← hprepared] at hmem
            exact hinv.left update hmem hmempool
          · obtain ⟨-, -, hrev⟩ := hbatch update hmem hmempool
            have hrle := hinv.revision_le
            refine ⟨⟨_, hrev, by omega⟩, ?_⟩
            rcases replayWatermark_pushed hpub hsub (begun_of_record hsub hinv) with
              hzero | ⟨newest, hnewest, hseq⟩
            · rw [hzero]
              exact hincreasing.pos update (List.mem_append_right _ hmem)
            · rw [← hseq]
              rw [hpushed] at hnewest
              exact (List.pairwise_append.mp hincreasing.order).2.2 newest hnewest update hmem
        watermark := hinv.watermark
        head := hinv.head }

/-- The snapshot is taken outside the mempool lock: what is prepared but not
sent holds no mempool update. -/
theorem MempoolInv.snapshotMempool (h : hub.MempoolInv config) (hsub : hub.SubscribeInv config)
    (hstep : hub.snapshotMempool config = some hub') : hub'.MempoolInv config := by
  obtain ⟨hphase, hlock, mempool, hmempool, rfl⟩ := snapshotMempool_spec hstep
  have hsent_le := hsub.position_le
  have hposition := (hsub.notBegun (.inr (.inr hphase))).position
  refine
    { valid := h.valid
      view := h.view
      revision_le := h.revision_le
      stamped := h.stamped
      unlocked := h.unlocked
      unread := fun hphase => by simp at hphase
      record := fun record hrec => ?_ }
  cases hinclude : config.request.includeMempoolSnapshot with
  | false =>
    rw [hmempool, hinclude] at hrec
    cases hrec
  | true =>
    rw [hinclude, if_pos rfl] at hmempool
    subst hmempool
    cases hrec
    have hquiet := h.unlocked (hlock hinclude)
    have hprepared : hub.prepared =
        hub.sent ++ (hub.publisher.unsent ++ hub.publisher.waiting) := List.append_assoc _ _ _
    exact
      { joined_le := by
          show hub.log.joined ≤ hub.sent.length
          rwa [← hposition]
        sent_le := le_rfl
        valid := h.valid
        view := by
          have hno : ∀ message ∈
              (hub.publisher.unsent ++ hub.publisher.waiting).map (·.message),
              isMempoolUpdate message = false := by
            intro message hmem
            obtain ⟨update, hu, rfl⟩ := List.mem_map.mp hmem
            exact hquiet update hu
          show hub.mempool.view = MempoolView.empty.observeAll
            ((hub.sent.take hub.sent.length).map (·.message))
          rw [h.view, hprepared, List.map_append, MempoolView.observeAll_append,
            MempoolView.observeAll_of_not_mempool _ hno, List.take_length]
        revision_le := le_rfl
        covered := fun update hmem => h.stamped update (List.take_subset _ _ hmem)
        left := by
          intro update hmem hyes
          change update ∈ hub.prepared.drop hub.sent.length at hmem
          rw [hprepared, List.drop_left] at hmem
          rw [hquiet update hmem] at hyes
          cases hyes
        watermark := rfl
        head := rfl }

/-- **Every step keeps the mempool's invariant**, before revisions run out. -/
theorem MempoolInv.step (h : hub.MempoolInv config) (hpub : hub.PublishInv)
    (hsub : hub.SubscribeInv config) {event : HubEvent}
    (hstep : hub.step config event = some hub') (hbatches : hub'.log.batches < 2 ^ 64) :
    hub'.MempoolInv config := by
  cases event with
  | prepare updates => exact h.prepare hpub hsub hstep hbatches
  | push now =>
    obtain ⟨batch, locked, replay, hpublisher, -, rfl⟩ := push_spec hstep
    have hunlocked := h.unlocked
    rw [hpublisher] at hunlocked
    refine h.publish List.prefix_rfl ?_ rfl rfl rfl fun hl update hmem => ?_
    · simp [prepared, pushed, hpublisher, Publisher.unsent, Publisher.waiting]
    · exact hunlocked hl update (by
        simpa [Publisher.unsent, Publisher.waiting] using hmem)
  | send =>
    obtain ⟨update, rest, locked, hpublisher, rfl⟩ := send_spec hstep
    have hunlocked := h.unlocked
    rw [hpublisher] at hunlocked
    refine h.publish (List.prefix_append _ _) ?_ rfl rfl rfl fun hl u hmem => ?_
    · simp [prepared, pushed, hpublisher, Publisher.unsent, Publisher.waiting]
    · exact hunlocked hl u (List.mem_cons_of_mem update hmem)
  | finish =>
    obtain ⟨locked, hpublisher, rfl⟩ := finish_spec hstep
    refine h.publish List.prefix_rfl ?_ rfl rfl rfl fun _ update hmem => ?_
    · simp [prepared, pushed, hpublisher, Publisher.unsent, Publisher.waiting]
    · exact absurd hmem List.not_mem_nil
  | evict now =>
    obtain ⟨replay, -, rfl⟩ := evict_spec hstep
    exact h.congr rfl rfl rfl rfl h.unread fun _ hrec => ⟨hrec, rfl, rfl, rfl, rfl⟩
  | attach =>
    obtain ⟨hphase, rfl⟩ := attach_spec hstep
    have hnone := h.unread (.inl hphase)
    refine h.congr rfl rfl rfl rfl (fun _ => hnone) fun record hrec => ?_
    change hub.log.mempool = some record at hrec
    rw [hnone] at hrec
    cases hrec
  | snapshotReplay now =>
    obtain ⟨hphase, replay, result, -, ⟨_, -, rfl⟩ | ⟨snapshot, -, rfl⟩⟩ :=
      snapshotReplay_spec hstep
    · exact h.congr rfl rfl rfl rfl (fun hphase => by simp at hphase)
        fun _ hrec => ⟨hrec, rfl, rfl, rfl, rfl⟩
    · have hnone := h.unread (.inr (.inl hphase))
      refine h.congr rfl rfl rfl rfl (fun _ => hnone) fun record hrec => ?_
      change hub.log.mempool = some record at hrec
      rw [hnone] at hrec
      cases hrec
  | snapshotMempool => exact h.snapshotMempool hsub hstep
  | emit =>
    obtain ⟨_, _, hphase, -, rfl⟩ := emit_spec hstep
    exact h.congr rfl rfl rfl rfl (fun hphase' => by simp [hphase] at hphase')
      fun _ hrec => ⟨hrec, rfl, rfl, rfl, rfl⟩
  | recv =>
    obtain ⟨hphase, -, rfl | ⟨_, -, rfl⟩⟩ := recv_spec hstep
    · exact h.congr rfl rfl rfl rfl (fun hphase' => by simp at hphase')
        fun _ hrec => ⟨hrec, rfl, rfl, rfl, rfl⟩
    · exact h.congr rfl rfl rfl rfl (fun hphase' => by simp [hphase] at hphase')
        fun _ hrec => ⟨hrec, rfl, rfl, rfl, rfl⟩
  | disconnect =>
    cases hstep
    exact h.congr rfl rfl rfl rfl (fun hphase => by simp at hphase)
      fun _ hrec => ⟨hrec, rfl, rfl, rfl, rfl⟩

theorem batches_le {event : HubEvent} (hstep : hub.step config event = some hub') :
    hub.log.batches ≤ hub'.log.batches := by
  cases event with
  | prepare updates =>
    obtain ⟨-, -, rfl⟩ := prepare_spec hstep
    exact Nat.le_succ _
  | push now =>
    obtain ⟨_, _, _, -, -, rfl⟩ := push_spec hstep
    exact le_rfl
  | send =>
    obtain ⟨_, _, _, -, rfl⟩ := send_spec hstep
    exact le_rfl
  | finish =>
    obtain ⟨_, -, rfl⟩ := finish_spec hstep
    exact le_rfl
  | evict now =>
    obtain ⟨_, -, rfl⟩ := evict_spec hstep
    exact le_rfl
  | attach =>
    obtain ⟨-, rfl⟩ := attach_spec hstep
    exact le_rfl
  | snapshotReplay now =>
    obtain ⟨-, _, _, -, ⟨_, -, rfl⟩ | ⟨_, -, rfl⟩⟩ := snapshotReplay_spec hstep
    all_goals exact le_rfl
  | snapshotMempool =>
    obtain ⟨-, -, _, -, rfl⟩ := snapshotMempool_spec hstep
    exact le_rfl
  | emit =>
    obtain ⟨_, _, -, -, rfl⟩ := emit_spec hstep
    exact le_rfl
  | recv =>
    obtain ⟨-, -, rfl | ⟨_, -, rfl⟩⟩ := recv_spec hstep
    all_goals exact le_rfl
  | disconnect =>
    cases hstep
    exact le_rfl

theorem mempoolInvariant {events : List HubEvent}
    (hrun : runs (step config) (new config) events = some hub)
    (hbatches : hub.log.batches < 2 ^ 64) : hub.MempoolInv config := by
  have hall := runs_invariant
    (I := fun hub : Hub => hub.PublishInv ∧ hub.SubscribeInv config ∧
      (hub.log.batches < 2 ^ 64 → hub.MempoolInv config))
    (fun _ _ _ hstep ⟨hpub, hsub, hmem⟩ => ⟨publishInv_step hpub hstep, hsub.step hpub hstep,
      fun hlt => (hmem (lt_of_le_of_lt (batches_le hstep) hlt)).step hpub hsub hstep hlt⟩)
    hrun ⟨Publication.publishInv_new config.limits, subscribeInv_new config,
      fun _ => mempoolInv_new config⟩
  exact hall.2.2 hbatches

/-! ## The view -/

/-- The messages through the END marker give the server's view. -/
theorem view_head (hcatch : config.filter.CatchAll) {record : MempoolRecord}
    (hinv : hub.RecordInv config record) :
    MempoolView.empty.observeAll hub.log.head = record.state.view := by
  have hmarker : ∀ phase, isMempoolUpdate (mempoolSnapshotMarker record.state.snapshot.revision
      record.state.snapshot.transactionCount phase) = false := fun _ => rfl
  have hreconnect : ∀ message ∈ (config.request.resume.map reconnectUpdate).toList,
      isMempoolUpdate message = false := by
    intro message hmem
    obtain ⟨checkpoint, -, rfl⟩ := Option.map_eq_some_iff.mp (Option.mem_toList.mp hmem)
    rfl
  rw [hinv.head, initialUpdates]
  simp only [List.filterMap_nil, List.append_nil, MempoolView.observeAll_append,
    MempoolView.observeAll_cons, MempoolView.observeAll_nil, List.cons_append]
  rw [MempoolView.observeAll_of_not_mempool _ hreconnect,
    MempoolView.observe_of_not_mempool _ (hmarker .begin),
    MempoolView.observe_of_not_mempool _ (hmarker .end),
    MempoolView.observeAll_deliver hcatch]
  exact MempoolState.view_snapshot hinv.valid

/-- The replayed updates are block-scoped. -/
theorem tail_not_mempool (hsub : hub.SubscribeInv config) (hbegun : hub.Begun config) :
    ∀ message ∈ hub.log.tail, isMempoolUpdate message = false := by
  intro message hmem
  rw [hbegun.tail] at hmem
  obtain ⟨update, hu, hdeliver⟩ := List.mem_filterMap.mp hmem
  obtain ⟨record, hrecord⟩ := Option.isSome_iff_exists.mp hbegun.record
  obtain ⟨-, -, hretains, fromHeight, -, hreplay⟩ := hsub.window record hrecord
  rw [hreplay] at hu
  cases fromHeight with
  | none => cases hu
  | some height =>
    obtain ⟨bucket, hbucket, hu⟩ := List.mem_flatMap.mp hu
    have hheight := hretains.height bucket (List.mem_filter.mp hbucket).1 update hu
    exact isMempoolUpdate_of_blockHeight ((deliver_frame hdeliver).2.2.trans hheight)

/-- The mempool updates that pass both watermarks are those sent after the
mempool snapshot. -/
theorem mempool_received (hsub : hub.SubscribeInv config) {record : MempoolRecord}
    (hinv : hub.RecordInv config record) :
    ((hub.received.filter (passes hub.subscriber.replay.watermark
        hub.subscriber.mempoolWatermark)).filter fun update => isMempoolUpdate update.message) =
      ((hub.sent.take hub.subscriber.position).drop record.sent).filter
        fun update => isMempoolUpdate update.message := by
  have hprepared : hub.sent.take hub.subscriber.position <+: hub.prepared :=
    (List.take_prefix _ _).trans ((List.prefix_append _ _).trans (List.prefix_append _ _))
  have hlen : hub.log.joined ≤ (hub.sent.take hub.subscriber.position).length := by
    rw [List.length_take]
    have := hsub.joined_le
    have := hsub.position_le
    omega
  rw [received, drop_split hinv.joined_le hlen, List.filter_append, List.filter_append]
  have hcovered : ((((hub.sent.take hub.subscriber.position).take record.sent).drop
      hub.log.joined).filter (passes hub.subscriber.replay.watermark
        hub.subscriber.mempoolWatermark)).filter
          (fun update => isMempoolUpdate update.message) = [] := by
    refine List.filter_eq_nil_iff.mpr fun update hmem hmempool => ?_
    obtain ⟨hin, hpasses⟩ := List.mem_filter.mp hmem
    have htake := (hprepared.take record.sent).subset (List.drop_subset _ _ hin)
    obtain ⟨revision, hrev, hle⟩ := hinv.covered update htake hmempool
    simp [passes, suppressed, hinv.watermark, hrev, hle] at hpasses
  rw [hcovered, List.nil_append, List.filter_filter]
  refine List.filter_congr fun update hmem => ?_
  cases hmempool : isMempoolUpdate update.message with
  | false => rfl
  | true =>
    have hdrop := (hprepared.drop record.sent).subset hmem
    obtain ⟨⟨revision, hrev, hlt⟩, hseq⟩ := hinv.left update hdrop hmempool
    simp [passes, suppressed, hinv.watermark, hrev, hlt, hseq]

/-- **The subscriber's mempool.** Once the messages through the END marker are
delivered, the view is that of the history sent up to the receiver's place: the
server's entries at the snapshot revision until the receiver passes the
snapshot, and then the ids added and not removed since. -/
theorem mempool_view (hcatch : config.filter.CatchAll) {events : List HubEvent}
    (hrun : runs (step config) (new config) events = some hub)
    (hbatches : hub.log.batches < 2 ^ 64) {record : MempoolRecord}
    (hrecord : hub.log.mempool = some record)
    (hend : hub.log.head <+: hub.subscriber.delivered) :
    (hub.subscriber.position ≤ record.sent →
      MempoolView.empty.observeAll hub.subscriber.delivered = record.state.view) ∧
    MempoolView.empty.observeAll hub.subscriber.delivered =
      MempoolView.empty.observeAll
        ((hub.sent.take (max hub.subscriber.position record.sent)).map (·.message)) ∧
    ∀ id, (MempoolView.empty.observeAll hub.subscriber.delivered id).isSome ↔
      AddedNotRemoved id
        ((hub.sent.take (max hub.subscriber.position record.sent)).map (·.message)) := by
  obtain ⟨-, hsub⟩ := invariants hrun
  have hinv := (mempoolInvariant hrun hbatches).record record hrecord
  have hbegun := begun_of_record hsub hinv
  obtain ⟨rest, hrest⟩ := hend
  have hstream : rest ++ hub.subscriber.pending = hub.log.tail ++ hub.log.live := by
    have hstream := hsub.stream
    rw [← hrest, List.append_assoc, List.append_assoc] at hstream
    exact List.append_cancel_left hstream
  have htail := tail_not_mempool hsub hbegun
  -- Behind the END marker only the live part is read.
  have hread : MempoolView.empty.observeAll hub.subscriber.delivered =
      record.state.view.observeAll hub.log.live := by
    rw [← hrest, MempoolView.observeAll_append, view_head hcatch hinv]
    rcases hsub.alternate with hpending | hposition
    · rw [hpending, List.append_nil] at hstream
      rw [hstream, MempoolView.observeAll_append, MempoolView.observeAll_of_not_mempool _ htail]
    · have hlive : hub.log.live = [] := by
        rw [hsub.live, received_of_joined hposition]
        rfl
      rw [hlive, List.append_nil] at hstream
      rw [hlive, MempoolView.observeAll_of_not_mempool _ fun message hmem =>
        htail message (hstream ▸ List.mem_append_left _ hmem)]
      rfl
  have hlive : ∀ view : MempoolView, view.observeAll hub.log.live =
      view.observeAll
        (((hub.sent.take hub.subscriber.position).drop record.sent).map (·.message)) := by
    intro view
    rw [hsub.live, MempoolView.observeAll_deliver hcatch, ← MempoolView.observeAll_filter,
      ← MempoolView.observeAll_filter view (((hub.sent.take _).drop _).map _),
      List.filter_map, List.filter_map]
    congr 2
    exact mempool_received hsub hinv
  have hview : MempoolView.empty.observeAll hub.subscriber.delivered =
      MempoolView.empty.observeAll
        ((hub.sent.take (max hub.subscriber.position record.sent)).map (·.message)) := by
    rw [hread, hlive, hinv.view, ← MempoolView.observeAll_append, ← List.map_append]
    congr 2
    rcases le_total hub.subscriber.position record.sent with hle | hle
    · rw [max_eq_right hle, List.drop_eq_nil_of_le, List.append_nil]
      rw [List.length_take]
      omega
    · rw [max_eq_left hle]
      have htake : (hub.sent.take hub.subscriber.position).take record.sent =
          hub.sent.take record.sent := by
        rw [List.take_take, min_eq_left hle]
      rw [← htake, List.take_append_drop]
  refine ⟨fun hle => ?_, hview, fun id => ?_⟩
  · rw [hview, max_eq_right hle]
    exact hinv.view.symm
  · rw [hview]
    exact MempoolView.isSome_observeAll _ id

end

/-! ## A sample run -/

/-- A live subscription with a mempool snapshot and an empty filter. -/
def sampleMempoolConfig : HubConfig :=
  { sampleConfig with request := { includeMempoolSnapshot := true } }

def sampleMempoolUpdate (action : MempoolAction) (ids : List String) (sequence : Nat) :
    SubscribeUpdate :=
  { sequence := sequence, eventType := EventType.mempoolChanged.toI32
    update := some (.mempool { action := action.toI32, transactionIds := ids }) }

/-- The snapshot is taken between the summary's send and its receipt. -/
def sampleMempoolEvents : List HubEvent :=
  [.attach, .snapshotReplay 0, .prepare [sampleMempoolUpdate .added ["a", "b"] 1], .push 0,
   .send, .finish, .snapshotMempool, .prepare [sampleMempoolUpdate .mined ["a"] 2], .push 1,
   .send, .finish, .emit, .emit, .emit, .recv, .recv]

theorem mempool_view_sample :
    ∃ hub record, runs (@step protoWire sampleMempoolConfig) (new sampleMempoolConfig)
        sampleMempoolEvents = some hub ∧ hub.log.mempool = some record ∧
      (hub.subscriber.position ≤ record.sent →
        MempoolView.empty.observeAll hub.subscriber.delivered = record.state.view) ∧
      MempoolView.empty.observeAll hub.subscriber.delivered = MempoolView.empty.observeAll
        ((hub.sent.take (max hub.subscriber.position record.sent)).map (·.message)) ∧
      ∀ id, (MempoolView.empty.observeAll hub.subscriber.delivered id).isSome ↔
        AddedNotRemoved id
          ((hub.sent.take (max hub.subscriber.position record.sent)).map (·.message)) := by
  have hrun : ((runs (@step protoWire sampleMempoolConfig) (new sampleMempoolConfig)
      sampleMempoolEvents).any fun hub => hub.log.mempool.isSome &&
        hub.log.head.isPrefixOf hub.subscriber.delivered && hub.log.batches < 2 ^ 64) = true := by
    decide +kernel
  obtain ⟨hub, hrun, hchecks⟩ := (Option.any_eq_true _ _).mp hrun
  simp only [Bool.and_eq_true, decide_eq_true_eq, List.isPrefixOf_iff_prefix] at hchecks
  obtain ⟨⟨hrecord, hend⟩, hbatches⟩ := hchecks
  obtain ⟨record, hrecord⟩ := Option.isSome_iff_exists.mp hrecord
  exact ⟨hub, record, hrun, hrecord, @mempool_view sampleMempoolConfig hub protoWire
    (catchAll_of_defaultAll rfl) sampleMempoolEvents hrun hbatches record hrecord hend⟩

end Hub

end ZakuraGrpc
