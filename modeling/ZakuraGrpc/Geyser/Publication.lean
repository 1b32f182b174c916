import ZakuraGrpc.Geyser.Server

/-!
# Publication

The server's shared state and `publish_batch`, step by step: a batch is
prepared, pushed into the replay buffer and sent update by update. The live ring
is the list of everything sent.

`PublishInv` holds in every state: sequences increase over everything prepared,
and the buffer holds the last block-scoped updates pushed.
-/

namespace ZakuraGrpc

/-! ## State -/

/-- Where `publish_batch` is; `locked` while it holds the mempool lock. -/
inductive Publisher where
  | idle
  | prepared (batch : List PublishedUpdate) (locked : Bool)
  | sending (rest : List PublishedUpdate) (locked : Bool)

namespace Publisher

/-- Pushed into the buffer, not sent yet. -/
def unsent : Publisher → List PublishedUpdate
  | sending rest _ => rest
  | idle | prepared _ _ => []

/-- Prepared, not pushed yet. -/
def waiting : Publisher → List PublishedUpdate
  | prepared batch _ => batch
  | idle | sending _ _ => []

def isLocked : Publisher → Bool
  | idle => false
  | prepared _ locked | sending _ locked => locked

end Publisher

structure Publication where
  sent : List PublishedUpdate := []
  replay : ReplayBuffer
  mempool : MempoolState := {}
  publisher : Publisher := .idle

namespace Publication

/-- All updates pushed into the replay buffer. -/
def pushed (publication : Publication) : List PublishedUpdate :=
  publication.sent ++ publication.publisher.unsent

/-- All updates of the batches begun. -/
def prepared (publication : Publication) : List PublishedUpdate :=
  publication.pushed ++ publication.publisher.waiting

/-- With nothing unsent everything pushed is sent. -/
theorem pushed_eq_sent {publication : Publication}
    (h : publication.publisher.unsent = []) : publication.pushed = publication.sent := by
  rw [pushed, h, List.append_nil]

/-- The plugin's batches: sequences go on increasing from `1`, and the
block-scoped updates of a batch have one height. -/
structure Accepts (publication : Publication) (updates : List SubscribeUpdate) : Prop where
  increasing : (updates.map (·.sequence)).Pairwise (· < ·)
  above : ∀ update ∈ updates, 0 < update.sequence ∧
    ∀ earlier ∈ publication.sent, earlier.message.sequence < update.sequence
  oneHeight : ∀ update ∈ updates, ∀ update' ∈ updates, (blockHeight update).isSome →
    (blockHeight update').isSome → blockHeight update = blockHeight update'

instance (publication : Publication) (updates : List SubscribeUpdate) :
    Decidable (publication.Accepts updates) :=
  decidable_of_iff
    ((updates.map (·.sequence)).Pairwise (· < ·) ∧
      (∀ update ∈ updates, 0 < update.sequence ∧
        ∀ earlier ∈ publication.sent, earlier.message.sequence < update.sequence) ∧
      ∀ update ∈ updates, ∀ update' ∈ updates, (blockHeight update).isSome →
        (blockHeight update').isSome → blockHeight update = blockHeight update')
    ⟨fun ⟨h, h', h''⟩ => ⟨h, h', h''⟩, fun ⟨h, h', h''⟩ => ⟨h, h', h''⟩⟩

/-! ## Steps -/

def prepare [WireFormat] (publication : Publication) (updates : List SubscribeUpdate) :
    Option Publication :=
  match publication.publisher with
  | .idle =>
    if publication.Accepts updates then
      let (mempool, batch) := prepareBatch publication.mempool updates
      some
        { publication with
          mempool := mempool
          publisher := .prepared batch (updates.any isMempoolUpdate) }
    else none
  | .prepared _ _ | .sending _ _ => none

/-- `push_batch`, one step under the replay lock. -/
def push (publication : Publication) (now : Nat) : Option Publication :=
  match publication.publisher with
  | .prepared batch locked =>
    (publication.replay.pushBatchAt batch now).map fun replay =>
      { publication with replay := replay, publisher := .sending batch locked }
  | .idle | .sending _ _ => none

def send (publication : Publication) : Option Publication :=
  match publication.publisher with
  | .sending (update :: rest) locked => some
    { publication with
      sent := publication.sent ++ [update], publisher := .sending rest locked }
  | .idle | .prepared _ _ | .sending [] _ => none

/-- The mempool lock is released. -/
def finish (publication : Publication) : Option Publication :=
  match publication.publisher with
  | .sending [] _ => some { publication with publisher := .idle }
  | .idle | .prepared _ _ | .sending (_ :: _) _ => none

/-- An eviction for another reader of the buffer. -/
def evict (publication : Publication) (now : Nat) : Option Publication :=
  (publication.replay.evict now).map fun replay => { publication with replay := replay }

inductive PublishEvent where
  | prepare (updates : List SubscribeUpdate)
  | push (now : Nat)
  | send
  | finish
  | evict (now : Nat)

def step [WireFormat] (publication : Publication) : PublishEvent → Option Publication
  | .prepare updates => publication.prepare updates
  | .push now => publication.push now
  | .send => publication.send
  | .finish => publication.finish
  | .evict now => publication.evict now

/-! ## What each step does -/

variable {publication publication' : Publication}

theorem prepare_spec [WireFormat] {updates : List SubscribeUpdate}
    (h : publication.prepare updates = some publication') :
    publication.publisher = .idle ∧ publication.Accepts updates ∧
      publication' =
        { publication with
          mempool := (prepareBatch publication.mempool updates).1
          publisher := .prepared (prepareBatch publication.mempool updates).2
            (updates.any isMempoolUpdate) } := by
  unfold prepare at h
  split at h
  · rename_i hidle
    split at h
    · rename_i haccepts
      exact ⟨hidle, haccepts, (Option.some.inj h).symm⟩
    · cases h
  · cases h
  · cases h

theorem push_spec {now : Nat} (h : publication.push now = some publication') :
    ∃ batch locked replay, publication.publisher = .prepared batch locked ∧
      publication.replay.pushBatchAt batch now = some replay ∧
      publication' =
        { publication with replay := replay, publisher := .sending batch locked } := by
  unfold push at h
  split at h
  · rename_i batch locked hpub
    obtain ⟨replay, hreplay, rfl⟩ := Option.map_eq_some_iff.mp h
    exact ⟨batch, locked, replay, hpub, hreplay, rfl⟩
  · cases h
  · cases h

theorem send_spec (h : publication.send = some publication') :
    ∃ update rest locked, publication.publisher = .sending (update :: rest) locked ∧
      publication' =
        { publication with
          sent := publication.sent ++ [update], publisher := .sending rest locked } := by
  unfold send at h
  split at h
  · rename_i update rest locked hpub
    exact ⟨update, rest, locked, hpub, (Option.some.inj h).symm⟩
  all_goals cases h

theorem finish_spec (h : publication.finish = some publication') :
    ∃ locked, publication.publisher = .sending [] locked ∧
      publication' = { publication with publisher := .idle } := by
  unfold finish at h
  split at h
  · rename_i locked hpub
    exact ⟨locked, hpub, (Option.some.inj h).symm⟩
  all_goals cases h

end Publication

/-! ## Windows of the published stream -/

/-- Strictly increasing sequences, from `1` on. -/
structure Increasing (updates : List PublishedUpdate) : Prop where
  order : updates.Pairwise fun update update' => update.message.sequence < update'.message.sequence
  pos : ∀ update ∈ updates, 0 < update.message.sequence

theorem Increasing.sublist {updates updates' : List PublishedUpdate} (h : Increasing updates')
    (hsub : updates.Sublist updates') : Increasing updates :=
  ⟨h.order.sublist hsub, fun update hmem => h.pos update (hsub.subset hmem)⟩

/-- The block-scoped updates of a stream. -/
def blocks (updates : List PublishedUpdate) : List PublishedUpdate :=
  updates.filter fun update => (blockHeight update.message).isSome

theorem blocks_append (updates updates' : List PublishedUpdate) :
    blocks (updates ++ updates') = blocks updates ++ blocks updates' :=
  List.filter_append ..

/-- The window holds the last block-scoped updates of a stream, bucket by
bucket at its height. -/
structure Retains (updates : List PublishedUpdate) (window : List ReplayBucket) : Prop where
  suffix : window.flatMap (·.updates) <:+ blocks updates
  nonempty : ∀ bucket ∈ window, bucket.updates ≠ []
  height : ∀ bucket ∈ window, ∀ update ∈ bucket.updates,
    blockHeight update.message = some bucket.height

theorem retains_nil (updates : List PublishedUpdate) : Retains updates [] :=
  ⟨List.nil_suffix, by simp, by simp⟩

theorem Retains.of_suffix {updates : List PublishedUpdate} {window window' : List ReplayBucket}
    (h : Retains updates window) (hsuffix : window' <:+ window) : Retains updates window' := by
  obtain ⟨dropped, rfl⟩ := hsuffix
  refine ⟨?_, fun bucket hmem => h.nonempty bucket (List.mem_append_right _ hmem),
    fun bucket hmem => h.height bucket (List.mem_append_right _ hmem)⟩
  have hsuffix := h.suffix
  rw [List.flatMap_append] at hsuffix
  exact (List.suffix_append _ _).trans hsuffix

/-- With one height a bucket holds every block-scoped update of its batch. -/
theorem OneHeight.bucket_updates {batch : List PublishedUpdate} (hone : OneHeight batch)
    {now : Nat} {bucket : ReplayBucket} (h : bucketOf batch now = some bucket) :
    bucket.updates = blocks batch := by
  obtain ⟨-, hne, hupdates, -⟩ := bucketOf_eq_some h
  obtain ⟨first, hfirst⟩ := List.exists_mem_of_ne_nil _ hne
  rw [hupdates, List.mem_filter, beq_iff_eq] at hfirst
  rw [blocks, hupdates]
  refine List.filter_congr fun update hmem => ?_
  cases hu : blockHeight update.message with
  | none => rfl
  | some height => simp [hone update hmem first hfirst.1 height _ hu hfirst.2]

/-- The bucket of a batch is at the height of its updates. -/
theorem height_bucketOf {batch : List PublishedUpdate} {now : Nat} {bucket : ReplayBucket}
    (h : bucketOf batch now = some bucket) :
    ∀ update ∈ bucket.updates, blockHeight update.message = some bucket.height := by
  obtain ⟨-, -, hupdates, -⟩ := bucketOf_eq_some h
  intro update hu
  rw [hupdates, List.mem_filter, beq_iff_eq] at hu
  exact hu.2

theorem blocks_of_bucketOf_none {batch : List PublishedUpdate} {now : Nat}
    (h : bucketOf batch now = none) : blocks batch = [] := by
  refine List.filter_eq_nil_iff.mpr fun update hmem => ?_
  simp [bucketOf_eq_none.mp h update hmem]

/-- A pushed batch adds its bucket to the window. -/
theorem Retains.push {updates batch : List PublishedUpdate} {window : List ReplayBucket}
    (h : Retains updates window) (hone : OneHeight batch) (now : Nat) :
    Retains (updates ++ batch) (window ++ (bucketOf batch now).toList) := by
  cases hb : bucketOf batch now with
  | none =>
    refine ⟨?_, by simpa using h.nonempty, by simpa using h.height⟩
    rw [blocks_append, blocks_of_bucketOf_none hb, Option.toList_none, List.append_nil,
      List.append_nil]
    exact h.suffix
  | some bucket =>
    obtain ⟨-, hne, -, -⟩ := bucketOf_eq_some hb
    refine ⟨?_, ?_, ?_⟩
    · rw [blocks_append, ← hone.bucket_updates hb, Option.toList_some, List.flatMap_append]
      simpa using List.suffix_append_self_iff.mpr h.suffix
    · intro b hmem
      rcases List.mem_append.mp hmem with hmem | hmem
      · exact h.nonempty b hmem
      · rw [List.mem_singleton.mp hmem]
        exact hne
    · intro b hmem
      rcases List.mem_append.mp hmem with hmem | hmem
      · exact h.height b hmem
      · rw [List.mem_singleton.mp hmem]
        exact height_bucketOf hb

/-- The sequence a snapshot of the window takes as its watermark. -/
def windowWatermark (window : List ReplayBucket) : Nat :=
  ((window.getLast?.bind fun bucket => bucket.updates.getLast?).map
    (·.message.sequence)).getD 0

/-- The watermark of a nonempty window is the last block-scoped sequence. -/
theorem Retains.watermark {updates : List PublishedUpdate} {window : List ReplayBucket}
    (h : Retains updates window) (hinc : Increasing updates) (hne : window ≠ []) :
    (∃ update ∈ blocks updates, update.message.sequence = windowWatermark window) ∧
      ∀ update ∈ blocks updates, update.message.sequence ≤ windowWatermark window := by
  obtain ⟨init, last, rfl⟩ : ∃ init last, window = init ++ [last] :=
    ⟨window.dropLast, window.getLast hne, (List.dropLast_append_getLast hne).symm⟩
  have hlast : last.updates ≠ [] := h.nonempty last (by simp)
  obtain ⟨front, newest, hupdates⟩ : ∃ front newest, last.updates = front ++ [newest] :=
    ⟨_, _, (List.dropLast_append_getLast hlast).symm⟩
  have hmark : windowWatermark (init ++ [last]) = newest.message.sequence := by
    simp [windowWatermark, hupdates]
  obtain ⟨dropped, hsplit⟩ := h.suffix
  have hblocks : blocks updates =
      (dropped ++ init.flatMap (·.updates) ++ front) ++ [newest] := by
    rw [← hsplit]
    simp [hupdates]
  rw [hmark, hblocks]
  refine ⟨⟨newest, by simp, rfl⟩, fun update hmem => ?_⟩
  have horder := hinc.order.sublist (List.filter_sublist (p := fun u : PublishedUpdate =>
    (blockHeight u.message).isSome) (l := updates))
  change (blocks updates).Pairwise _ at horder
  rw [hblocks, List.pairwise_append] at horder
  rcases List.mem_append.mp hmem with hmem | hmem
  · exact (horder.2.2 update hmem newest List.mem_cons_self).le
  · rw [List.mem_singleton.mp hmem]

/-! ## The publisher and the buffer -/

namespace Publication

/-- No block-scoped update pushed has been evicted. -/
def KeepsAll (publication : Publication) : Prop :=
  publication.replay.buckets.flatMap (·.updates) = blocks publication.pushed

instance (publication : Publication) : Decidable publication.KeepsAll :=
  inferInstanceAs (Decidable (_ = _))

/-- Sequences increase over everything prepared, and the buffer holds the last
block-scoped updates pushed. -/
structure PublishInv (publication : Publication) : Prop where
  increasing : Increasing publication.prepared
  retains : Retains publication.pushed publication.replay.buckets
  oneHeight : OneHeight publication.publisher.waiting
  disabled : publication.replay.limits.heightCapacity = 0 → publication.replay.buckets = []

theorem publishInv_new (limits : ReplayLimits) :
    ({ replay := .new limits } : Publication).PublishInv := by
  refine ⟨⟨?_, ?_⟩, retains_nil _, ?_, fun _ => rfl⟩
  · exact List.Pairwise.nil
  · intro update hmem
    cases hmem
  · intro update hmem
    cases hmem

theorem PublishInv.congr {publication publication' : Publication} (h : publication.PublishInv)
    (hsent : publication'.sent = publication.sent)
    (hpublisher : publication'.publisher = publication.publisher)
    (hreplay : publication'.replay = publication.replay) : publication'.PublishInv := by
  obtain ⟨hinc, hret, hone, hdis⟩ := h
  refine ⟨?_, ?_, ?_, ?_⟩
  · rwa [prepared, pushed, hsent, hpublisher]
  · rwa [pushed, hsent, hpublisher, hreplay]
  · rwa [hpublisher]
  · rwa [hreplay]

theorem PublishInv.increasing_pushed {publication : Publication} (h : publication.PublishInv) :
    Increasing publication.pushed :=
  h.increasing.sublist (List.sublist_append_left _ _)

/-- Eviction by a reader keeps the invariant. -/
theorem PublishInv.evict {publication publication' : Publication} (h : publication.PublishInv)
    (hsent : publication'.sent = publication.sent)
    (hpublisher : publication'.publisher = publication.publisher)
    (hsuffix : publication'.replay.buckets <:+ publication.replay.buckets)
    (hlimits : publication'.replay.limits = publication.replay.limits) :
    publication'.PublishInv := by
  obtain ⟨hinc, hret, hone, hdis⟩ := h
  refine ⟨?_, ?_, ?_, ?_⟩
  · rwa [prepared, pushed, hsent, hpublisher]
  · rw [pushed, hsent, hpublisher]
    exact hret.of_suffix hsuffix
  · rwa [hpublisher]
  · intro hzero
    rw [hdis (hlimits ▸ hzero)] at hsuffix
    exact List.suffix_nil.mp hsuffix

variable {publication publication' : Publication}

theorem PublishInv.push (h : publication.PublishInv) {now : Nat}
    (hstep : publication.push now = some publication') : publication'.PublishInv := by
  obtain ⟨batch, locked, replay, hpub, hreplay, rfl⟩ := push_spec hstep
  obtain ⟨hinc, hret, hone, hdis⟩ := h
  have hpushed : publication.pushed = publication.sent := pushed_eq_sent (by rw [hpub]; rfl)
  have hwaiting : publication.publisher.waiting = batch := by rw [hpub]; rfl
  rw [prepared, hpushed, hwaiting] at hinc
  rw [hpushed] at hret
  rw [hwaiting] at hone
  have hlimits : replay.limits = publication.replay.limits :=
    ReplayBuffer.limits_call (c := .push batch now) hreplay
  refine ⟨?_, ?_, ?_, ?_⟩
  · simpa only [prepared, pushed, Publisher.unsent, Publisher.waiting, List.append_nil] using hinc
  · simp only [pushed, Publisher.unsent]
    by_cases hcap : 0 < publication.replay.limits.heightCapacity
    · have hcall := ReplayBuffer.call_eq hcap (.push batch now)
      change publication.replay.pushBatchAt batch now = _ at hcall
      rw [hreplay] at hcall
      refine (hret.push hone now).of_suffix ((ReplayBuffer.evict_suffix hcall.symm).1.trans ?_)
      show (Option.elim (bucketOf batch now) publication.replay
        publication.replay.append).buckets <:+ _
      cases bucketOf batch now with
      | none => simp
      | some bucket => exact List.suffix_rfl
    · have hzero : publication.replay.limits.heightCapacity = 0 := by omega
      rw [ReplayBuffer.pushBatchAt_eq, if_pos hzero, Option.some.injEq] at hreplay
      rw [← hreplay, hdis hzero]
      exact retains_nil _
  · intro update hmem
    cases hmem
  · intro hzero
    have hzero' : publication.replay.limits.heightCapacity = 0 := hlimits ▸ hzero
    rw [ReplayBuffer.pushBatchAt_eq, if_pos hzero', Option.some.injEq] at hreplay
    exact hreplay ▸ hdis hzero'

theorem PublishInv.send (h : publication.PublishInv)
    (hstep : publication.send = some publication') : publication'.PublishInv := by
  obtain ⟨update, rest, locked, hpub, rfl⟩ := send_spec hstep
  obtain ⟨hinc, hret, -, hdis⟩ := h
  have hpushed : publication.pushed = (publication.sent ++ [update]) ++ rest := by
    simp [pushed, hpub, Publisher.unsent]
  refine ⟨?_, ?_, ?_, hdis⟩
  · rw [prepared, hpushed, hpub] at hinc
    exact hinc
  · rw [hpushed] at hret
    exact hret
  · intro update hmem
    cases hmem

theorem PublishInv.finish (h : publication.PublishInv)
    (hstep : publication.finish = some publication') : publication'.PublishInv := by
  obtain ⟨locked, hpub, rfl⟩ := finish_spec hstep
  obtain ⟨hinc, hret, -, hdis⟩ := h
  have hpushed : publication.pushed = publication.sent := pushed_eq_sent (by rw [hpub]; rfl)
  rw [prepared, hpushed, hpub] at hinc
  rw [hpushed] at hret
  refine ⟨?_, ?_, ?_, hdis⟩
  · simpa only [prepared, pushed, Publisher.unsent, Publisher.waiting, List.append_nil] using hinc
  · simpa only [pushed, Publisher.unsent, List.append_nil] using hret
  · intro update hmem
    cases hmem

section
variable [WireFormat]

/-- An accepted batch goes on behind what is sent. -/
theorem Accepts.increasing_append {updates : List SubscribeUpdate}
    (h : publication.Accepts updates) (hinc : Increasing publication.sent)
    (mempool : MempoolState) :
    Increasing (publication.sent ++ (prepareBatch mempool updates).2) := by
  refine ⟨List.pairwise_append.mpr ⟨hinc.order, ?_, ?_⟩, fun update hmem => ?_⟩
  · have hincreasing := h.increasing
    rw [← (prepareBatch_frame mempool updates).1] at hincreasing
    exact List.pairwise_map.mp hincreasing
  · intro earlier hearlier update hmem
    obtain ⟨source, hsource, hsequence, -⟩ := mem_prepareBatch hmem
    rw [hsequence]
    exact (h.above source hsource).2 earlier hearlier
  · rcases List.mem_append.mp hmem with hmem | hmem
    · exact hinc.pos update hmem
    · obtain ⟨source, hsource, hsequence, -⟩ := mem_prepareBatch hmem
      rw [hsequence]
      exact (h.above source hsource).1

/-- An accepted batch has one height. -/
theorem Accepts.oneHeight_batch {updates : List SubscribeUpdate}
    (h : publication.Accepts updates) (mempool : MempoolState) :
    OneHeight (prepareBatch mempool updates).2 := by
  intro update hmem update' hmem' height height' hheight hheight'
  obtain ⟨source, hsource, -, hs⟩ := mem_prepareBatch hmem
  obtain ⟨source', hsource', -, hs'⟩ := mem_prepareBatch hmem'
  rw [hs] at hheight
  rw [hs'] at hheight'
  have heq := h.oneHeight source hsource source' hsource' (by simp [hheight]) (by simp [hheight'])
  rw [hheight, hheight'] at heq
  exact Option.some.inj heq

theorem PublishInv.prepare (h : publication.PublishInv) {updates : List SubscribeUpdate}
    (hstep : publication.prepare updates = some publication') : publication'.PublishInv := by
  obtain ⟨hidle, haccepts, rfl⟩ := prepare_spec hstep
  obtain ⟨hinc, hret, -, hdis⟩ := h
  have hpushed : publication.pushed = publication.sent := pushed_eq_sent (by rw [hidle]; rfl)
  have hprepared : publication.prepared = publication.sent := by
    rw [prepared, hpushed, hidle]
    exact List.append_nil _
  rw [hprepared] at hinc
  rw [hpushed] at hret
  refine ⟨?_, ?_, haccepts.oneHeight_batch publication.mempool, hdis⟩
  · simp only [prepared, pushed, Publisher.unsent, Publisher.waiting, List.append_nil]
    exact haccepts.increasing_append hinc publication.mempool
  · simp only [pushed, Publisher.unsent, List.append_nil]
    exact hret

/-- **Every step keeps the publisher's invariant.** -/
theorem PublishInv.step (h : publication.PublishInv) {event : PublishEvent}
    (hstep : publication.step event = some publication') : publication'.PublishInv := by
  cases event with
  | prepare updates => exact h.prepare hstep
  | push now => exact h.push hstep
  | send => exact h.send hstep
  | finish => exact h.finish hstep
  | evict now =>
    obtain ⟨replay, hevict, rfl⟩ := Option.map_eq_some_iff.mp hstep
    obtain ⟨hsuffix, hlimits⟩ := ReplayBuffer.evict_suffix hevict
    exact h.evict rfl rfl hsuffix hlimits

/-- What is sent and pushed only grows, and the mempool holds valid details. -/
theorem step_grows {event : PublishEvent} (hstep : publication.step event = some publication') :
    publication.sent <+: publication'.sent ∧ publication.pushed <+: publication'.pushed ∧
      (MempoolState.EntriesValid publication.mempool.entries →
        MempoolState.EntriesValid publication'.mempool.entries) := by
  cases event with
  | prepare updates =>
    obtain ⟨hidle, -, rfl⟩ := prepare_spec hstep
    refine ⟨List.prefix_rfl, ?_, fun hvalid => ?_⟩
    · rw [pushed, hidle]
      exact List.prefix_rfl
    · cases hany : updates.any isMempoolUpdate with
      | true => exact (prepareBatch_mempool hany hvalid).1
      | false =>
        simp only [(prepareBatch_not_mempool publication.mempool hany).1]
        exact hvalid
  | push now =>
    obtain ⟨batch, locked, replay, hpub, -, rfl⟩ := push_spec hstep
    refine ⟨List.prefix_rfl, ?_, id⟩
    rw [pushed, hpub, Publisher.unsent, List.append_nil]
    exact List.prefix_append _ _
  | send =>
    obtain ⟨update, rest, locked, hpub, rfl⟩ := send_spec hstep
    refine ⟨List.prefix_append _ _, ?_, id⟩
    simp [pushed, hpub, Publisher.unsent]
  | finish =>
    obtain ⟨locked, hpub, rfl⟩ := finish_spec hstep
    refine ⟨List.prefix_rfl, ?_, id⟩
    simp [pushed, hpub, Publisher.unsent]
  | evict now =>
    obtain ⟨replay, -, rfl⟩ := Option.map_eq_some_iff.mp hstep
    exact ⟨List.prefix_rfl, List.prefix_rfl, id⟩

theorem step_bounded {event : PublishEvent} (hstep : publication.step event = some publication')
    (h : publication.replay.Bounded) : publication'.replay.Bounded := by
  cases event with
  | prepare updates =>
    obtain ⟨-, -, rfl⟩ := prepare_spec hstep
    exact h
  | push now =>
    obtain ⟨batch, locked, replay, -, hreplay, rfl⟩ := push_spec hstep
    exact h.call (c := .push batch now) hreplay
  | send =>
    obtain ⟨update, rest, locked, -, rfl⟩ := send_spec hstep
    exact h
  | finish =>
    obtain ⟨locked, -, rfl⟩ := finish_spec hstep
    exact h
  | evict now =>
    obtain ⟨replay, hevict, rfl⟩ := Option.map_eq_some_iff.mp hstep
    exact h.evict hevict

end

end Publication

end ZakuraGrpc
