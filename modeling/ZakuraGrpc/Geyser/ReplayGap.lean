import ZakuraGrpc.Geyser.ReplayWindow

/-!
# When a replay is complete

A replay request for height `h` should be answered with every block-scoped
update of height `h` or above ever pushed, or be refused with `OUT_OF_RANGE`.

The buffer judges availability by the smallest retained height, but it evicts
in push order. Heights do not arrive in order, so a retained low height can
stand before an evicted higher one: then the answer is incomplete and no error
says so. `snapshot_complete_iff` is the exact condition.
-/

namespace ZakuraGrpc

open Runs

/-- The block-scoped updates of a batch have one height: the debug assertion of
`push_batch_at`. -/
def OneHeight (updates : List PublishedUpdate) : Prop :=
  ∀ update ∈ updates, ∀ update' ∈ updates, ∀ height height',
    blockHeight update.message = some height → blockHeight update'.message = some height' →
    height = height'

/-- The batches of the plugin satisfy the assertion. -/
theorem oneHeight_encodeEvent [ZakuraChain] [WireFormat] {event : EventEnvelope}
    {tx utxo mempool : Bool} {parallel : ParallelEncoding} {updates : List SubscribeUpdate}
    (h : encodeEvent event tx utxo mempool parallel = .ok updates) :
    OneHeight (updates.map PublishedUpdate.new) := by
  have hnew : ∀ update : SubscribeUpdate,
      blockHeight (PublishedUpdate.new update).message = blockHeight update := fun update =>
    (applyPayloadProjection_frame update .full .full).2.2.2.2
  intro update hmem update' hmem' height height' hheight hheight'
  obtain ⟨u, hu, rfl⟩ := List.mem_map.mp hmem
  obtain ⟨u', hu', rfl⟩ := List.mem_map.mp hmem'
  rw [hnew] at hheight hheight'
  rcases encodeEvent_oneHeight h with ⟨common, hall⟩ | hnone
  · rw [hall u hu] at hheight
    rw [hall u' hu'] at hheight'
    cases hheight
    cases hheight'
    rfl
  · rw [hnone u hu] at hheight
    cases hheight

/-! ## What was pushed -/

/-- The batch of a call. -/
def ReplayCall.batch : ReplayCall → List PublishedUpdate
  | .push updates _ => updates
  | .evict _ => []

/-- The update is block-scoped at height `requested` or above. -/
def reaches (requested : Nat) (update : PublishedUpdate) : Bool :=
  (blockHeight update.message).any (requested ≤ ·)

/-- All block-scoped updates of height `requested` or above ever pushed, in
push order. -/
def pushedFrom (calls : List ReplayCall) (requested : Nat) : List PublishedUpdate :=
  (calls.flatMap ReplayCall.batch).filter (reaches requested)

/-- The buckets of a window from a height on, as updates. -/
def windowFrom (window : List ReplayBucket) (requested : Nat) : List PublishedUpdate :=
  (window.filter fun bucket => requested ≤ bucket.height).flatMap (·.updates)

theorem windowFrom_append (window window' : List ReplayBucket) (requested : Nat) :
    windowFrom (window ++ window') requested =
      windowFrom window requested ++ windowFrom window' requested := by
  simp [windowFrom]

/-- A batch at one height is its bucket. -/
theorem filter_batch {c : ReplayCall} (hone : OneHeight c.batch) (requested : Nat) :
    c.batch.filter (reaches requested) = windowFrom c.bucket.toList requested := by
  cases c with
  | evict now => rfl
  | push updates now =>
    simp only [ReplayCall.batch, ReplayCall.bucket] at hone ⊢
    cases hb : bucketOf updates now with
    | none =>
      have hnone := bucketOf_eq_none.mp hb
      refine List.filter_eq_nil_iff.mpr fun update hmem => ?_
      simp [reaches, hnone update hmem]
    | some bucket =>
      obtain ⟨-, hne, hupdates, -⟩ := bucketOf_eq_some hb
      obtain ⟨first, hfirst⟩ := List.exists_mem_of_ne_nil _ hne
      rw [hupdates, List.mem_filter, beq_iff_eq] at hfirst
      have hheight : ∀ update ∈ updates, ∀ height, blockHeight update.message = some height →
          height = bucket.height := fun update hmem height h =>
        hone update hmem first hfirst.1 height bucket.height h hfirst.2
      rw [Option.toList_some, windowFrom]
      by_cases hle : requested ≤ bucket.height
      · simp only [List.filter_cons, hle, decide_true, if_true, List.filter_nil,
          List.flatMap_cons, List.flatMap_nil, List.append_nil]
        rw [hupdates]
        refine List.filter_congr fun update hmem => ?_
        cases hu : blockHeight update.message with
        | none => simp [reaches, hu]
        | some height =>
          have := hheight update hmem height hu
          simp [reaches, hu, this, hle]
      · simp only [List.filter_cons, hle, decide_false, Bool.false_eq_true, if_false,
          List.filter_nil, List.flatMap_nil]
        refine List.filter_eq_nil_iff.mpr fun update hmem => ?_
        cases hu : blockHeight update.message with
        | none => simp [reaches, hu]
        | some height =>
          have := hheight update hmem height hu
          simp only [reaches, hu, Option.any_some, decide_eq_true_eq]
          omega

/-- What was pushed from a height on is the history from that height on. -/
theorem pushedFrom_eq {calls : List ReplayCall} (hone : ∀ c ∈ calls, OneHeight c.batch)
    (requested : Nat) : pushedFrom calls requested = windowFrom (history calls) requested := by
  induction calls with
  | nil => rfl
  | cons c calls ih =>
    have hhist : history (c :: calls) = c.bucket.toList ++ history calls := by
      cases h : c.bucket <;> simp [history, h]
    have ih := ih fun c' hc' => hone c' (List.mem_cons_of_mem c hc')
    rw [hhist, windowFrom_append, ← ih, ← filter_batch (hone c List.mem_cons_self)]
    simp [pushedFrom]

theorem history_nonempty {calls : List ReplayCall} {bucket : ReplayBucket}
    (hmem : bucket ∈ history calls) : bucket.updates ≠ [] := by
  obtain ⟨c, -, hbucket⟩ := List.mem_filterMap.mp hmem
  cases c with
  | evict now => cases hbucket
  | push updates now => exact (bucketOf_eq_some hbucket).2.1

theorem windowFrom_eq_nil {window : List ReplayBucket}
    (hne : ∀ bucket ∈ window, bucket.updates ≠ []) (requested : Nat) :
    windowFrom window requested = [] ↔ ∀ bucket ∈ window, bucket.height < requested := by
  simp only [windowFrom, List.flatMap_eq_nil_iff, List.mem_filter, decide_eq_true_eq]
  constructor
  · intro h bucket hmem
    by_contra hlt
    exact hne bucket hmem (h bucket ⟨hmem, by omega⟩)
  · rintro h bucket ⟨hmem, hle⟩
    have := h bucket hmem
    omega

/-! ## Availability -/

namespace ReplayBuffer

theorem min?_congr {l l' : List Nat} (h : ∀ a, a ∈ l ↔ a ∈ l') : l.min? = l'.min? := by
  cases hmin : l.min? with
  | none =>
    rw [List.min?_eq_none_iff] at hmin
    subst hmin
    have : l' = [] := List.eq_nil_iff_forall_not_mem.mpr fun a ha => by simpa using (h a).mpr ha
    rw [this]
    rfl
  | some a =>
    obtain ⟨hmem, hle⟩ := List.min?_eq_some_iff.mp hmin
    exact (List.min?_eq_some_iff.mpr
      ⟨(h a).mp hmem, fun b hb => hle b ((h b).mpr hb)⟩).symm

theorem Bounded.firstAvailableHeight {buffer : ReplayBuffer} (h : buffer.Bounded) :
    buffer.firstAvailableHeight = (heights buffer.buckets).min? :=
  min?_congr fun a => h.counts.mem_keys a

/-- The check passes exactly when some retained height is not above the
request; it fails with `OUT_OF_RANGE`. -/
theorem Bounded.checkAvailable {buffer : ReplayBuffer} (h : buffer.Bounded) (requested : Nat) :
    (buffer.checkAvailable (some requested) = .ok () ∧
        ∃ bucket ∈ buffer.buckets, bucket.height ≤ requested) ∨
      (∃ status, buffer.checkAvailable (some requested) = .error status ∧
        status.code = .outOfRange) ∧ ∀ bucket ∈ buffer.buckets, requested < bucket.height := by
  unfold ReplayBuffer.checkAvailable
  rw [h.firstAvailableHeight]
  cases hmin : (heights buffer.buckets).min? with
  | none =>
    right
    rw [List.min?_eq_none_iff, heights, List.map_eq_nil_iff] at hmin
    exact ⟨⟨_, rfl, rfl⟩, by simp [hmin]⟩
  | some first =>
    obtain ⟨hmem, hle⟩ := List.min?_eq_some_iff.mp hmin
    by_cases hlt : requested < first
    · right
      refine ⟨⟨_, if_pos hlt, rfl⟩, fun bucket hbucket => ?_⟩
      have := hle bucket.height (List.mem_map_of_mem hbucket)
      omega
    · left
      obtain ⟨bucket, hbucket, rfl⟩ := List.mem_map.mp hmem
      exact ⟨if_neg hlt, bucket, hbucket, by omega⟩

/-- What a replay request is promised: all updates of the height or above, or
the refusal. -/
def Complete (calls : List ReplayCall) (requested : Nat) : Except Status ReplaySnapshot → Prop
  | .ok snapshot => snapshot.updates = pushedFrom calls requested
  | .error status => status.code = .outOfRange

instance (calls : List ReplayCall) (requested : Nat) (result : Except Status ReplaySnapshot) :
    Decidable (Complete calls requested result) :=
  match result with
  | .ok snapshot => inferInstanceAs (Decidable (snapshot.updates = pushedFrom calls requested))
  | .error status => inferInstanceAs (Decidable (status.code = .outOfRange))

/-- **When a replay is complete.** After every run, a request at time `now` is
answered completely or refused if and only if no bucket dropped by then reaches
the requested height, or every bucket still there lies above it. -/
theorem snapshot_complete_iff {limits : ReplayLimits} (hcap : 0 < limits.heightCapacity)
    {calls : List ReplayCall} (hone : ∀ c ∈ calls, OneHeight c.batch) {buffer : ReplayBuffer}
    (hrun : runs call (new limits) calls = some buffer) (requested now : Nat) :
    ∃ dropped retained result,
      buffer.evict now = some retained ∧ history calls = dropped ++ retained.buckets ∧
      buffer.snapshot (some requested) now = some (retained, result) ∧
      (Complete calls requested result ↔
        (∀ bucket ∈ dropped, bucket.height < requested) ∨
          ∀ bucket ∈ retained.buckets, requested < bucket.height) := by
  have hbounded : buffer.Bounded := by
    obtain ⟨buffer', hrun', hb⟩ := calls_isSome limits calls
    rw [hrun] at hrun'
    exact (Option.some.inj hrun') ▸ hb
  obtain ⟨retained, hevict⟩ := hbounded.evict_isSome now
  obtain ⟨dropped, hsplit⟩ := (evict_suffix hevict).1.trans (suffix_history hcap hrun)
  refine ⟨dropped, retained, retained.readSnapshot (some requested), hevict, hsplit.symm,
    by rw [ReplayBuffer.snapshot, hevict]; rfl, ?_⟩
  have hpushed : pushedFrom calls requested =
      windowFrom dropped requested ++ retained.updatesFrom requested := by
    rw [pushedFrom_eq hone, ← hsplit, windowFrom_append]
    rfl
  have hdropped : ∀ bucket ∈ dropped, bucket.updates ≠ [] := fun bucket hmem =>
    history_nonempty (hsplit ▸ List.mem_append_left _ hmem)
  rcases (hbounded.evict hevict).checkAvailable requested with
    ⟨hok, low, hlow, hle⟩ | ⟨⟨status, herror, hcode⟩, hall⟩
  · -- The request is answered: a retained bucket lies at or below the height.
    have hread : retained.readSnapshot (some requested) =
        .ok { updates := retained.updatesFrom requested, watermark := retained.watermark } := by
      rw [readSnapshot, hok]
      rfl
    have hnot : ¬ ∀ bucket ∈ retained.buckets, requested < bucket.height := fun h => by
      have := h low hlow
      omega
    rw [hread, or_iff_left hnot, ← windowFrom_eq_nil hdropped]
    show retained.updatesFrom requested = pushedFrom calls requested ↔ _
    rw [hpushed, eq_comm, List.append_left_eq_self]
  · have hread : retained.readSnapshot (some requested) = .error status := by
      rw [readSnapshot, herror]
      rfl
    rw [hread]
    exact ⟨fun _ => .inr hall, fun _ => hcode⟩

/-! ## An incomplete replay -/

/-- Blocks 10 and 11 are accepted, 10 is finalized, and 12 is accepted. With two
heights retained the fourth push drops both accepted blocks, and the finalized
block keeps height 10 available. -/
def gapCalls : List ReplayCall :=
  [.push [sampleBlock 10 "a" false 1] 0, .push [sampleBlock 11 "b" false 2] 1,
   .push [sampleBlock 10 "a" true 3] 2, .push [sampleBlock 12 "c" false 4] 3]

theorem oneHeight_gapCalls : ∀ c ∈ gapCalls, OneHeight c.batch := by
  have hsingle : ∀ update, OneHeight [update] := by
    intro update u hu u' hu' height height' h h'
    rw [List.mem_singleton.mp hu] at h
    rw [List.mem_singleton.mp hu'] at h'
    exact Option.some.inj (h.symm.trans h')
  intro c hc
  simp only [gapCalls, List.mem_cons, List.not_mem_nil, or_false] at hc
  rcases hc with rfl | rfl | rfl | rfl <;> exact hsingle _

theorem snapshot_complete_iff_gapCalls :
    0 < sampleLimits.heightCapacity ∧ ∃ buffer, runs call (new sampleLimits) gapCalls = some buffer ∧
      ∃ dropped retained result,
        buffer.evict 4 = some retained ∧ history gapCalls = dropped ++ retained.buckets ∧
        buffer.snapshot (some 12) 4 = some (retained, result) ∧
        (Complete gapCalls 12 result ↔
          (∀ bucket ∈ dropped, bucket.height < 12) ∨
            ∀ bucket ∈ retained.buckets, 12 < bucket.height) := by
  obtain ⟨buffer, hrun, -⟩ := calls_isSome sampleLimits gapCalls
  exact ⟨by decide, buffer, hrun,
    snapshot_complete_iff (by decide) oneHeight_gapCalls hrun 12 4⟩

/-- The request for height 10 is answered without update 2, of height 11. -/
theorem replay_incomplete :
    ¬ ∀ (limits : ReplayLimits) (calls : List ReplayCall) (buffer retained : ReplayBuffer)
        (requested now : Nat) (result : Except Status ReplaySnapshot),
      0 < limits.heightCapacity → InOrder calls → (∀ c ∈ calls, OneHeight c.batch) →
      (∀ c ∈ calls, c.time ≤ now) → runs call (new limits) calls = some buffer →
      buffer.snapshot (some requested) now = some (retained, result) →
      Complete calls requested result := by
  intro hall
  obtain ⟨buffer, hrun, -⟩ := calls_isSome sampleLimits gapCalls
  have hanswer : ((runs call (new sampleLimits) gapCalls).bind fun b =>
      (b.snapshot (some 10) 4).map (·.2)) =
      some (.ok { updates := [sampleBlock 10 "a" true 3, sampleBlock 12 "c" false 4]
                  watermark := 4 }) := by
    decide
  rw [hrun, Option.bind_some, Option.map_eq_some_iff] at hanswer
  obtain ⟨⟨retained, result⟩, hsnap, rfl⟩ := hanswer
  have hcomplete := hall sampleLimits gapCalls buffer retained 10 4 _ (by decide)
    (by unfold InOrder; decide) oneHeight_gapCalls (by decide) hrun hsnap
  revert hcomplete
  decide

end ReplayBuffer

end ZakuraGrpc
