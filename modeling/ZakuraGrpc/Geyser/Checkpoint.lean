import ZakuraGrpc.Geyser.Server

/-!
# Checkpoints

A resume checkpoint names a finalized block. The server should answer with
`OUT_OF_RANGE` when it retains no finalized block of that height, and refuse
with `FAILED_PRECONDITION` only when it retains another one; and a replay that
a checkpoint opened should contain the block of the checkpoint.

Both fail, and `distinguishes_iff` and `anchored_iff` say when. A height can be
retained through an accepted block or a best-chain change alone, and
`verify_checkpoint` runs before the eviction that the snapshot makes.
-/

namespace ZakuraGrpc

open Runs

/-- The update is the finalized block of this height and hash. -/
def IsFinalizedAt (height : Nat) (hash : String) (update : PublishedUpdate) : Prop :=
  ∃ block, update.message.update = some (.block block) ∧ block.finalized = true ∧
    block.height = height ∧ block.hash = hash

namespace ReplayBuffer

theorem isFinalizedBlock_iff {hash : String} {update : PublishedUpdate} :
    isFinalizedBlock hash update = true ↔ ∃ block, update.message.update = some (.block block) ∧
      block.finalized = true ∧ block.hash = hash := by
  unfold isFinalizedBlock
  split
  · rename_i block hupdate
    rw [hupdate, Bool.and_eq_true, beq_iff_eq]
    refine ⟨fun h => ⟨block, rfl, h⟩, ?_⟩
    rintro ⟨block', heq, h⟩
    cases heq
    exact h
  · rename_i hno
    refine ⟨(fun h => nomatch h), ?_⟩
    rintro ⟨block, heq, -⟩
    exact absurd heq (hno block)

/-! ## Reachable buffers -/

/-- The bucket has outlived the age limit. -/
def expired (limits : ReplayLimits) (now : Nat) (bucket : ReplayBucket) : Bool :=
  limits.maxAge.any fun maxAge => maxAge < now - bucket.insertedAt

/-- The buckets from the first one on that has not outlived the age limit. -/
def unexpired (buffer : ReplayBuffer) (now : Nat) : List ReplayBucket :=
  buffer.buckets.dropWhile (expired buffer.limits now)

theorem frontExpired_eq (buffer : ReplayBuffer) (now : Nat) :
    buffer.frontExpired now = buffer.buckets.head?.any (expired buffer.limits now) := rfl

/-- No limit but the age is exceeded. -/
structure Settled (buffer : ReplayBuffer) : Prop where
  heights : buffer.heightCounts.size ≤ buffer.limits.heightCapacity
  events : buffer.eventCount ≤ buffer.limits.eventCapacity
  bytes : buffer.encodedBytes ≤ buffer.limits.byteCapacity

/-- A buffer between two calls. -/
structure Sound (buffer : ReplayBuffer) : Prop where
  bounded : buffer.Bounded
  settled : buffer.Settled
  filed : ∀ bucket ∈ buffer.buckets, ∀ update ∈ bucket.updates,
    blockHeight update.message = some bucket.height

theorem sound_new (limits : ReplayLimits) : (new limits).Sound := by
  refine ⟨bounded_new limits, ⟨Nat.zero_le _, Nat.zero_le _, Nat.zero_le _⟩, ?_⟩
  intro bucket hmem
  cases hmem

/-- What asks for an eviction of a settled buffer is the age of its front. -/
theorem Settled.evictReason_iff {buffer : ReplayBuffer} (h : buffer.Settled) (now : Nat) :
    buffer.evictReason now = none ↔ buffer.frontExpired now = false := by
  have hheights := h.heights
  have hevents := h.events
  have hbytes := h.bytes
  unfold evictReason
  cases buffer.frontExpired now with
  | true => simp
  | false =>
    rw [if_neg Bool.false_ne_true, if_neg (by omega), if_neg (by omega), if_neg (by omega)]
    simp

/-- Where the loop stops no limit is exceeded. -/
theorem settled_of_evictReason {buffer : ReplayBuffer} {now : Nat}
    (h : buffer.evictReason now = none) : buffer.Settled := by
  simp only [evictReason, ite_eq_iff, reduceCtorEq, and_false, false_or, and_true] at h
  obtain ⟨-, hheights, hevents, hbytes⟩ := h
  exact ⟨by omega, by omega, by omega⟩

theorem Settled.evictFront {buffer : ReplayBuffer} (h : buffer.Settled)
    (hbounded : buffer.Bounded) : buffer.evictFront.Settled := by
  have hheights := h.heights
  have hevents := h.events
  have hbytes := h.bytes
  cases hb : buffer.buckets with
  | nil => rwa [evictFront_nil hb]
  | cons bucket rest =>
    have hsize := hbounded.evictFront.counts.size_eq
    have hsize' := hbounded.counts.size_eq
    have hsub : (ReplayBuffer.heights rest).toFinset ⊆
        (ReplayBuffer.heights buffer.buckets).toFinset := by
      rw [hb]
      intro height hmem
      rw [List.mem_toFinset] at hmem ⊢
      exact List.mem_cons_of_mem _ hmem
    have hcard := Finset.card_le_card hsub
    rw [buckets_evictFront, hb, List.tail_cons] at hsize
    refine ⟨?_, ?_, ?_⟩
    · rw [limits_evictFront]
      omega
    · rw [evictFront_cons hb]
      dsimp only
      omega
    · rw [evictFront_cons hb]
      dsimp only
      omega

/-- **What an eviction leaves** of a buffer between two calls: it drops the
expired buckets at the front. -/
theorem Sound.buckets_evict {buffer buffer' : ReplayBuffer} (h : buffer.Sound) {now : Nat}
    (he : buffer.evict now = some buffer') : buffer'.buckets = buffer.unexpired now := by
  obtain ⟨⟨hsettled, -, hlimits, hdrop⟩, hreason⟩ := evict_invariant
    (I := fun b => b.Settled ∧ b.Bounded ∧ b.limits = buffer.limits ∧
      b.buckets.dropWhile (expired buffer.limits now) = buffer.unexpired now)
    (by
      rintro b ⟨hsettled, hbounded, hlimits, hdrop⟩ hreason
      refine ⟨hsettled.evictFront hbounded, hbounded.evictFront,
        (limits_evictFront b).trans hlimits, ?_⟩
      have hexpired : b.frontExpired now = true := by
        rw [Ne, hsettled.evictReason_iff, Bool.not_eq_false] at hreason
        exact hreason
      rw [frontExpired_eq, hlimits] at hexpired
      rw [buckets_evictFront, ← hdrop]
      cases hb : b.buckets with
      | nil => rfl
      | cons bucket rest =>
        rw [hb, List.head?_cons, Option.any_some] at hexpired
        rw [List.tail_cons, List.dropWhile_cons, hexpired, if_pos rfl])
    he ⟨h.settled, h.bounded, rfl, rfl⟩
  rw [hsettled.evictReason_iff, frontExpired_eq, hlimits] at hreason
  rw [← hdrop]
  cases hb : buffer'.buckets with
  | nil => rfl
  | cons bucket rest =>
    rw [hb, List.head?_cons, Option.any_some] at hreason
    rw [List.dropWhile_cons, hreason, if_neg Bool.false_ne_true]

theorem sound_evict {buffer buffer' : ReplayBuffer} {now : Nat} (hbounded : buffer.Bounded)
    (hfiled : ∀ bucket ∈ buffer.buckets, ∀ update ∈ bucket.updates,
      blockHeight update.message = some bucket.height)
    (he : buffer.evict now = some buffer') : buffer'.Sound := by
  obtain ⟨-, hreason⟩ := evict_invariant (I := fun _ => True) (fun _ _ _ => trivial) he trivial
  refine ⟨hbounded.evict he, settled_of_evictReason hreason, fun bucket hmem => ?_⟩
  exact hfiled bucket ((evict_suffix he).1.subset hmem)

theorem Sound.call {buffer buffer' : ReplayBuffer} (h : buffer.Sound) {c : ReplayCall}
    (hcall : buffer.call c = some buffer') : buffer'.Sound := by
  cases c with
  | evict now => exact sound_evict h.bounded h.filed hcall
  | push updates now =>
    simp only [ReplayBuffer.call, pushBatchAt_eq] at hcall
    split at hcall
    · cases hcall
      exact h
    split at hcall
    · exact sound_evict h.bounded h.filed hcall
    · rename_i bucket hbucket
      refine sound_evict (h.bounded.append bucket) (fun other hmem => ?_) hcall
      rcases List.mem_append.mp hmem with hmem | hmem
      · exact h.filed other hmem
      · rw [List.mem_singleton.mp hmem]
        intro update hupdate
        rw [(bucketOf_eq_some hbucket).2.2.1, List.mem_filter, beq_iff_eq] at hupdate
        exact hupdate.2

theorem sound_runs {limits : ReplayLimits} {calls : List ReplayCall} {buffer : ReplayBuffer}
    (h : runs call (new limits) calls = some buffer) : buffer.Sound :=
  runs_invariant (fun _ _ _ hcall hsound => hsound.call hcall) h (sound_new limits)

/-! ## Verification -/

/-- The finalized block of this height and hash is retained. -/
def RetainsFinalized (buffer : ReplayBuffer) (height : Nat) (hash : String) : Prop :=
  ∃ bucket ∈ buffer.buckets, ∃ update ∈ bucket.updates, IsFinalizedAt height hash update

/-- The bucket lets a checkpoint pass. -/
def holdsAnchor (checkpoint : ResumeCheckpoint) (bucket : ReplayBucket) : Bool :=
  bucket.height == checkpoint.finalizedHeight &&
    bucket.updates.any (isFinalizedBlock checkpoint.finalizedBlockHash)

theorem holdsAnchor_iff {checkpoint : ResumeCheckpoint} {bucket : ReplayBucket}
    (hfiled : ∀ update ∈ bucket.updates, blockHeight update.message = some bucket.height) :
    holdsAnchor checkpoint bucket = true ↔ ∃ update ∈ bucket.updates,
      IsFinalizedAt checkpoint.finalizedHeight checkpoint.finalizedBlockHash update := by
  unfold holdsAnchor
  rw [Bool.and_eq_true, beq_iff_eq, List.any_eq_true]
  constructor
  · rintro ⟨hheight, update, hmem, hfinalized⟩
    obtain ⟨block, hupdate, hfinal, hhash⟩ := isFinalizedBlock_iff.mp hfinalized
    have hblock := hfiled update hmem
    rw [blockHeight, hupdate] at hblock
    exact ⟨update, hmem, block, hupdate, hfinal, (Option.some.inj hblock).trans hheight, hhash⟩
  · rintro ⟨update, hmem, block, hupdate, hfinal, hheight, hhash⟩
    have hblock := hfiled update hmem
    rw [blockHeight, hupdate] at hblock
    exact ⟨(Option.some.inj hblock).symm.trans hheight, update, hmem,
      isFinalizedBlock_iff.mpr ⟨block, hupdate, hfinal, hhash⟩⟩

theorem Sound.any_holdsAnchor {buffer : ReplayBuffer} (h : buffer.Sound)
    (checkpoint : ResumeCheckpoint) :
    buffer.buckets.any (holdsAnchor checkpoint) = true ↔
      buffer.RetainsFinalized checkpoint.finalizedHeight checkpoint.finalizedBlockHash := by
  rw [List.any_eq_true]
  exact exists_congr fun bucket => and_congr_right fun hmem => holdsAnchor_iff (h.filed bucket hmem)

/-- A call that failed with this code. -/
def FailsWith {α : Type} (code : Code) (result : Except Status α) : Prop :=
  ∃ status, result = .error status ∧ status.code = code

/-- `verify_checkpoint` in three cases: the anchor is retained, the height is
retained without it, the height is not retained. -/
theorem verifyCheckpoint_cases (buffer : ReplayBuffer) (checkpoint : ResumeCheckpoint) :
    (buffer.verifyCheckpoint checkpoint = .ok () ∧
        buffer.buckets.any (holdsAnchor checkpoint) = true) ∨
      (FailsWith .failedPrecondition (buffer.verifyCheckpoint checkpoint) ∧
        buffer.buckets.any (holdsAnchor checkpoint) = false ∧
        ∃ bucket ∈ buffer.buckets, bucket.height = checkpoint.finalizedHeight) ∨
      (FailsWith .outOfRange (buffer.verifyCheckpoint checkpoint) ∧
        buffer.buckets.any (holdsAnchor checkpoint) = false ∧
        ∀ bucket ∈ buffer.buckets, bucket.height ≠ checkpoint.finalizedHeight) := by
  unfold verifyCheckpoint
  show (_ ∧ _) ∨
    (FailsWith _ (if buffer.buckets.any (holdsAnchor checkpoint) then _ else _) ∧ _) ∨
    (FailsWith _ (if buffer.buckets.any (holdsAnchor checkpoint) then _ else _) ∧ _)
  cases hanchor : buffer.buckets.any (holdsAnchor checkpoint) with
  | true => exact .inl ⟨if_pos hanchor, rfl⟩
  | false =>
    right
    cases hheight : buffer.buckets.any fun bucket =>
      bucket.height == checkpoint.finalizedHeight with
    | true =>
      left
      rw [List.any_eq_true] at hheight
      obtain ⟨bucket, hmem, heq⟩ := hheight
      refine ⟨⟨_, rfl, rfl⟩, rfl, bucket, hmem, by simpa using heq⟩
    | false =>
      right
      rw [List.any_eq_false] at hheight
      refine ⟨⟨_, rfl, rfl⟩, rfl, fun bucket hmem heq => hheight bucket hmem ?_⟩
      rw [beq_iff_eq]
      exact heq

/-- What a checkpoint should be answered: `Ok` where its block is retained,
`FAILED_PRECONDITION` where another finalized block of its height is, and
`OUT_OF_RANGE` elsewhere. -/
structure Distinguishes (buffer : ReplayBuffer) (checkpoint : ResumeCheckpoint) : Prop where
  ok : buffer.verifyCheckpoint checkpoint = .ok () ↔
    buffer.RetainsFinalized checkpoint.finalizedHeight checkpoint.finalizedBlockHash
  failedPrecondition : FailsWith .failedPrecondition (buffer.verifyCheckpoint checkpoint) ↔
    buffer.verifyCheckpoint checkpoint ≠ .ok () ∧
      ∃ hash, hash ≠ checkpoint.finalizedBlockHash ∧
        buffer.RetainsFinalized checkpoint.finalizedHeight hash
  outOfRange : FailsWith .outOfRange (buffer.verifyCheckpoint checkpoint) ↔
    ∀ hash, ¬ buffer.RetainsFinalized checkpoint.finalizedHeight hash

theorem FailsWith.code_eq {α : Type} {code code' : Code} {result : Except Status α}
    (h : FailsWith code result) (h' : FailsWith code' result) : code = code' := by
  obtain ⟨status, heq, rfl⟩ := h
  obtain ⟨status', heq', rfl⟩ := h'
  rw [heq] at heq'
  cases heq'
  rfl

theorem FailsWith.ne_ok {α : Type} {code : Code} {result : Except Status α}
    (h : FailsWith code result) (value : α) : result ≠ .ok value := by
  obtain ⟨status, rfl, -⟩ := h
  intro heq
  cases heq

/-- A checkpoint passes exactly when its block is retained. -/
theorem Sound.verifyCheckpoint_iff {buffer : ReplayBuffer} (h : buffer.Sound)
    (checkpoint : ResumeCheckpoint) : buffer.verifyCheckpoint checkpoint = .ok () ↔
      buffer.RetainsFinalized checkpoint.finalizedHeight checkpoint.finalizedBlockHash := by
  rw [← h.any_holdsAnchor]
  rcases buffer.verifyCheckpoint_cases checkpoint with
    ⟨hok, hany⟩ | ⟨hfails, hany, -⟩ | ⟨hfails, hany, -⟩
  · exact iff_of_true hok hany
  · rw [hany]
    exact iff_of_false (hfails.ne_ok ()) Bool.false_ne_true
  · rw [hany]
    exact iff_of_false (hfails.ne_ok ()) Bool.false_ne_true

/-- **When a missing anchor is told from a conflict.** Exactly where a height
that is retained is retained with a finalized block. -/
theorem distinguishes_iff {limits : ReplayLimits} {calls : List ReplayCall}
    {buffer : ReplayBuffer} (hrun : runs call (new limits) calls = some buffer)
    (checkpoint : ResumeCheckpoint) :
    buffer.Distinguishes checkpoint ↔
      ((∃ bucket ∈ buffer.buckets, bucket.height = checkpoint.finalizedHeight) →
        ∃ hash, buffer.RetainsFinalized checkpoint.finalizedHeight hash) := by
  have hsound := sound_runs hrun
  have hverify := hsound.verifyCheckpoint_iff checkpoint
  have hheight : ∀ hash, buffer.RetainsFinalized checkpoint.finalizedHeight hash →
      ∃ bucket ∈ buffer.buckets, bucket.height = checkpoint.finalizedHeight := by
    rintro hash ⟨bucket, hmem, update, hupdate, block, heq, -, hblock, -⟩
    have hfiled := hsound.filed bucket hmem update hupdate
    rw [blockHeight, heq] at hfiled
    exact ⟨bucket, hmem, (Option.some.inj hfiled).symm.trans hblock⟩
  rcases buffer.verifyCheckpoint_cases checkpoint with
    ⟨hok, -⟩ | ⟨hfails, -, hretained⟩ | ⟨hfails, -, hnone⟩
  · -- The anchor is retained: the verdict is right.
    have hretains := hverify.mp hok
    refine ⟨fun _ _ => ⟨_, hretains⟩, fun _ => ⟨hverify, ?_, ?_⟩⟩
    · exact iff_of_false (fun h => h.ne_ok () hok) fun h => h.1 hok
    · exact iff_of_false (fun h => h.ne_ok () hok) fun h => h _ hretains
  · -- The height is retained without the anchor.
    have hno : ¬ buffer.RetainsFinalized checkpoint.finalizedHeight
        checkpoint.finalizedBlockHash := fun hretains => hfails.ne_ok () (hverify.mpr hretains)
    have hother : ∀ hash, buffer.RetainsFinalized checkpoint.finalizedHeight hash →
        hash ≠ checkpoint.finalizedBlockHash := by
      rintro hash hretains rfl
      exact hno hretains
    constructor
    · intro h _
      obtain ⟨-, hash, -, hretains⟩ := h.failedPrecondition.mp hfails
      exact ⟨hash, hretains⟩
    · intro h
      obtain ⟨hash, hretains⟩ := h hretained
      refine ⟨hverify, ?_, ?_⟩
      · exact iff_of_true hfails ⟨hfails.ne_ok (), hash, hother hash hretains, hretains⟩
      · refine iff_of_false (fun hrange => ?_) fun h => h hash hretains
        cases hrange.code_eq hfails
  · -- The height is not retained: the verdict is right.
    have hno : ∀ hash, ¬ buffer.RetainsFinalized checkpoint.finalizedHeight hash := by
      intro hash hretains
      obtain ⟨bucket, hmem, heq⟩ := hheight hash hretains
      exact hnone bucket hmem heq
    constructor
    · rintro - ⟨bucket, hmem, heq⟩
      exact absurd heq (hnone bucket hmem)
    · rintro -
      refine ⟨hverify, ?_, iff_of_true hfails hno⟩
      constructor
      · intro hfailed
        cases hfailed.code_eq hfails
      · rintro ⟨-, hash, -, hretains⟩
        exact absurd hretains (hno hash)

/-- Block 10 is finalized, and later accepted once more. -/
def repeatedCalls : List ReplayCall :=
  [.push [sampleBlock 10 "a" true 1] 0, .push [sampleBlock 10 "a" false 2] 50]

def sampleCheckpoint : ResumeCheckpoint := { finalizedHeight := 10, finalizedBlockHash := "a" }

theorem distinguishes_iff_sample :
    ∃ buffer, runs call (new sampleLimits) repeatedCalls = some buffer ∧
      (∃ bucket ∈ buffer.buckets, bucket.height = sampleCheckpoint.finalizedHeight) ∧
      buffer.Distinguishes sampleCheckpoint := by
  obtain ⟨buffer, hrun, -⟩ := calls_isSome sampleLimits repeatedCalls
  have hbuckets : (runs call (new sampleLimits) repeatedCalls).map (·.buckets) =
      some [{ height := 10, insertedAt := 0, updates := [sampleBlock 10 "a" true 1]
              encodedBytes := 40 },
            { height := 10, insertedAt := 50, updates := [sampleBlock 10 "a" false 2]
              encodedBytes := 40 }] := by
    decide
  rw [hrun, Option.map_some, Option.some.injEq] at hbuckets
  have hfinalized : buffer.RetainsFinalized 10 "a" := by
    rw [RetainsFinalized, hbuckets]
    exact ⟨_, List.mem_cons_self, _, List.mem_cons_self, _, rfl, rfl, rfl, rfl⟩
  refine ⟨buffer, hrun, ?_, (distinguishes_iff hrun sampleCheckpoint).mpr fun _ =>
    ⟨"a", hfinalized⟩⟩
  rw [hbuckets]
  exact ⟨_, List.mem_cons_self, rfl⟩

/-- Block 10 accepted, not finalized. -/
def acceptedCalls : List ReplayCall := [.push [sampleBlock 10 "a" false 1] 0]

/-- The accepted block 10 has the very hash of the checkpoint, no block 10 is
finalized, and the answer is a hash mismatch. -/
theorem missing_anchor_refused :
    ¬ ∀ (limits : ReplayLimits) (calls : List ReplayCall) (buffer : ReplayBuffer)
        (checkpoint : ResumeCheckpoint), runs call (new limits) calls = some buffer →
      buffer.Distinguishes checkpoint := by
  intro hall
  obtain ⟨buffer, hrun, -⟩ := calls_isSome sampleLimits acceptedCalls
  have hanswer : (runs call (new sampleLimits) acceptedCalls).map (·.buckets) =
      some [{ height := 10, insertedAt := 0, updates := [sampleBlock 10 "a" false 1]
              encodedBytes := 40 }] := by
    decide
  rw [hrun, Option.map_some, Option.some.injEq] at hanswer
  have hdistinct := hall sampleLimits acceptedCalls buffer sampleCheckpoint hrun
  have hfails : FailsWith .failedPrecondition (buffer.verifyCheckpoint sampleCheckpoint) := by
    unfold verifyCheckpoint
    rw [hanswer]
    exact ⟨_, rfl, rfl⟩
  obtain ⟨-, hash, -, bucket, hmem, update, hupdate, block, heq, hfinal, -⟩ :=
    hdistinct.failedPrecondition.mp hfails
  rw [hanswer, List.mem_singleton] at hmem
  subst hmem
  rw [List.mem_singleton] at hupdate
  subst hupdate
  cases heq
  cases hfinal

/-! ## The anchor of a replay -/

/-- The snapshot contains the block of the checkpoint. -/
def Anchors (checkpoint : ResumeCheckpoint) (snapshot : ReplaySnapshot) : Prop :=
  ∃ update ∈ snapshot.updates,
    IsFinalizedAt checkpoint.finalizedHeight checkpoint.finalizedBlockHash update

/-- The request is valid and its anchor retained; but by `now` every bucket with
the anchor has expired, and a bucket that has not keeps the height available. -/
structure LosesAnchor (buffer : ReplayBuffer) (request : SubscribeRequest)
    (checkpoint : ResumeCheckpoint) (now : Nat) : Prop where
  valid : replayHeight request = .ok (some checkpoint.finalizedHeight)
  verified : buffer.RetainsFinalized checkpoint.finalizedHeight checkpoint.finalizedBlockHash
  available : ∃ bucket ∈ buffer.unexpired now, bucket.height ≤ checkpoint.finalizedHeight
  lost : ∀ bucket ∈ buffer.unexpired now, ∀ update ∈ bucket.updates,
    ¬ IsFinalizedAt checkpoint.finalizedHeight checkpoint.finalizedBlockHash update

/-- The snapshot at a checkpoint's height: refused where no unexpired bucket
reaches down to it, and otherwise every unexpired bucket from it on. -/
theorem Sound.snapshot {buffer : ReplayBuffer} (h : buffer.Sound) (requested now : Nat) :
    ∃ retained result, buffer.snapshot (some requested) now = some (retained, result) ∧
      ((∀ snapshot, result ≠ .ok snapshot) ∧
          (∀ bucket ∈ buffer.unexpired now, requested < bucket.height) ∨
        ∃ snapshot, result = .ok snapshot ∧
          (∃ bucket ∈ buffer.unexpired now, bucket.height ≤ requested) ∧
          snapshot.updates =
            ((buffer.unexpired now).filter (requested ≤ ·.height)).flatMap (·.updates)) := by
  obtain ⟨retained, hevict⟩ := h.bounded.evict_isSome now
  have hbuckets := h.buckets_evict hevict
  refine ⟨retained, retained.readSnapshot (some requested), ?_, ?_⟩
  · rw [ReplayBuffer.snapshot, hevict]
    rfl
  rcases (h.bounded.evict hevict).checkAvailable requested with
    ⟨hok, hlow⟩ | ⟨⟨status, herror, -⟩, habove⟩
  · right
    rw [hbuckets] at hlow
    refine ⟨{ updates := retained.updatesFrom requested, watermark := retained.watermark },
      ?_, hlow, ?_⟩
    · rw [readSnapshot, hok]
      rfl
    · rw [← hbuckets]
      rfl
  · left
    rw [hbuckets] at habove
    refine ⟨fun snapshot => ?_, habove⟩
    rw [readSnapshot, herror]
    intro heq
    cases heq

/-- **When a verified anchor is replayed.** A subscription that succeeds
contains its anchor, unless the anchor expires between the verification and the
snapshot while its height stays available. -/
theorem anchored_iff {limits : ReplayLimits} {calls : List ReplayCall} {buffer : ReplayBuffer}
    (hrun : runs call (new limits) calls = some buffer) {request : SubscribeRequest}
    {checkpoint : ResumeCheckpoint} (hresume : request.resume = some checkpoint) (now : Nat) :
    ∃ buffer' result, subscribeReplay buffer request now = some (buffer', result) ∧
      ((∀ snapshot, result = .ok snapshot → Anchors checkpoint snapshot) ↔
        ¬ buffer.LosesAnchor request checkpoint now) := by
  have hsound := sound_runs hrun
  unfold subscribeReplay
  rw [hresume]
  cases hheight : replayHeight request with
  | error status =>
    refine ⟨buffer, .error status, rfl, iff_of_true (fun snapshot hok => nomatch hok) ?_⟩
    intro hlost
    have hvalid := hlost.valid
    rw [hheight] at hvalid
    cases hvalid
  | ok fromHeight =>
    obtain rfl : fromHeight = some checkpoint.finalizedHeight :=
      ((replayHeight_of_resume hresume).mp hheight).2
    dsimp only [Option.map_some]
    cases hverify : buffer.verifyCheckpoint checkpoint with
    | error status =>
      refine ⟨buffer, .error status, rfl, iff_of_true (fun snapshot hok => nomatch hok) ?_⟩
      intro hlost
      have hok := (hsound.verifyCheckpoint_iff checkpoint).mpr hlost.verified
      rw [hverify] at hok
      cases hok
    | ok _ =>
      have hverified := (hsound.verifyCheckpoint_iff checkpoint).mp hverify
      obtain ⟨retained, result, hsnapshot, hresult⟩ :=
        hsound.snapshot checkpoint.finalizedHeight now
      refine ⟨retained, result, hsnapshot, ?_⟩
      rcases hresult with ⟨hno, habove⟩ | ⟨snapshot, rfl, havailable, hupdates⟩
      · -- The eviction made the height unavailable: the subscription is refused.
        refine iff_of_true (fun snapshot hok => absurd hok (hno snapshot)) fun hlost => ?_
        obtain ⟨bucket, hmem, hle⟩ := hlost.available
        have := habove bucket hmem
        omega
      · constructor
        · intro hall hlost
          obtain ⟨update, hmem, hanchor⟩ := hall snapshot rfl
          rw [hupdates, List.mem_flatMap] at hmem
          obtain ⟨bucket, hbucket, hupdate⟩ := hmem
          exact hlost.lost bucket (List.mem_filter.mp hbucket).1 update hupdate hanchor
        · intro hkept snapshot' hok
          cases hok
          by_contra hno
          refine hkept ⟨hheight, hverified, havailable, fun bucket hbucket update hupdate hanchor =>
            hno ⟨update, ?_, hanchor⟩⟩
          -- The anchor's bucket has the height of the checkpoint.
          have hmem : bucket ∈ buffer.buckets := (List.dropWhile_sublist _).subset hbucket
          have hfiled := hsound.filed bucket hmem update hupdate
          obtain ⟨block, heq, -, hblock, -⟩ := hanchor
          rw [blockHeight, heq] at hfiled
          have hle : checkpoint.finalizedHeight ≤ bucket.height := by
            have := Option.some.inj hfiled
            omega
          rw [hupdates, List.mem_flatMap]
          exact ⟨bucket, List.mem_filter.mpr ⟨hbucket, by simpa using hle⟩, hupdate⟩

def sampleResume : SubscribeRequest := { resume := some sampleCheckpoint }

theorem anchored_iff_sample :
    ∃ buffer, runs call (new sampleLimits) repeatedCalls = some buffer ∧
      ∃ buffer' result, subscribeReplay buffer sampleResume 55 = some (buffer', result) ∧
        ((∀ snapshot, result = .ok snapshot → Anchors sampleCheckpoint snapshot) ↔
          ¬ buffer.LosesAnchor sampleResume sampleCheckpoint 55) := by
  obtain ⟨buffer, hrun, -⟩ := calls_isSome sampleLimits repeatedCalls
  exact ⟨buffer, hrun, anchored_iff hrun rfl 55⟩

/-- At time 70 the finalized block has just expired: it verifies the checkpoint,
and the replay is the accepted block alone. -/
theorem anchor_lost :
    ¬ ∀ (limits : ReplayLimits) (calls : List ReplayCall) (buffer buffer' : ReplayBuffer)
        (request : SubscribeRequest) (checkpoint : ResumeCheckpoint) (now : Nat)
        (snapshot : ReplaySnapshot), runs call (new limits) calls = some buffer →
      InOrder calls → (∀ c ∈ calls, c.time ≤ now) → request.resume = some checkpoint →
      subscribeReplay buffer request now = some (buffer', .ok snapshot) →
      Anchors checkpoint snapshot := by
  intro hall
  obtain ⟨buffer, hrun, -⟩ := calls_isSome sampleLimits repeatedCalls
  have hanswer : ((runs call (new sampleLimits) repeatedCalls).bind fun b =>
      (subscribeReplay b sampleResume 70).map (·.2)) =
      some (.ok { updates := [sampleBlock 10 "a" false 2], watermark := 2 }) := by
    decide
  rw [hrun, Option.bind_some, Option.map_eq_some_iff] at hanswer
  obtain ⟨⟨buffer', result⟩, hsubscribe, rfl⟩ := hanswer
  obtain ⟨update, hmem, block, heq, hfinal, -⟩ :=
    hall sampleLimits repeatedCalls buffer buffer' sampleResume sampleCheckpoint 70 _ hrun
      (by unfold InOrder; decide) (by decide) rfl hsubscribe
  rw [List.mem_singleton] at hmem
  subst hmem
  cases heq
  cases hfinal

end ReplayBuffer

end ZakuraGrpc
