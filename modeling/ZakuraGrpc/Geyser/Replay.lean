import ZakuraGrpc.Lib.Counter
import ZakuraGrpc.Lib.Runs
import ZakuraGrpc.Lib.Suffix
import ZakuraGrpc.Geyser.Payload

/-!
# The replay buffer

Block-scoped updates are retained in buckets, one a source event, and leave
first in, first out under four limits. Instants and durations are nanosecond
counts; counters saturate at `usizeMax`.

The eviction loop has no exit of its own for an empty deque: it spins when a
limit still reads as exceeded there. `evict` is `none` exactly then
(`evictLoop_of_le`).
-/

namespace ZakuraGrpc

def usizeMax : Nat := 2 ^ 64 - 1

/-- `usize::saturating_add`; `saturating_sub` is subtraction of `Nat`. -/
def saturatingAdd (a b : Nat) : Nat := min (a + b) usizeMax

structure ReplayLimits where
  heightCapacity : Nat
  eventCapacity : Nat
  byteCapacity : Nat
  maxAge : Option Nat

structure ReplayBucket where
  height : Nat
  insertedAt : Nat
  updates : List PublishedUpdate
  encodedBytes : Nat
  deriving DecidableEq

/-- The front of the deque is the head of `buckets`. -/
structure ReplayBuffer where
  limits : ReplayLimits
  buckets : List ReplayBucket
  heightCounts : Std.TreeMap Nat Nat
  eventCount : Nat
  encodedBytes : Nat

structure ReplaySnapshot where
  updates : List PublishedUpdate
  watermark : Nat
  deriving DecidableEq

inductive EvictReason where
  | age | height | events | bytes
  deriving DecidableEq, Repr

def outOfRange (message : String) : Status := ⟨.outOfRange, message⟩

namespace ReplayBuffer

def new (limits : ReplayLimits) : ReplayBuffer :=
  { limits := limits, buckets := [], heightCounts := ∅, eventCount := 0, encodedBytes := 0 }

/-! ## Eviction -/

/-- The front bucket is older than the age limit. -/
def frontExpired (buffer : ReplayBuffer) (now : Nat) : Bool :=
  buffer.buckets.head?.any fun bucket =>
    buffer.limits.maxAge.any fun maxAge => maxAge < now - bucket.insertedAt

/-- The limit that asks for an eviction. -/
def evictReason (buffer : ReplayBuffer) (now : Nat) : Option EvictReason :=
  if buffer.frontExpired now then some .age
  else if buffer.limits.heightCapacity < buffer.heightCounts.size then some .height
  else if buffer.limits.eventCapacity < buffer.eventCount then some .events
  else if buffer.limits.byteCapacity < buffer.encodedBytes then some .bytes
  else none

def evictFront (buffer : ReplayBuffer) : ReplayBuffer :=
  match buffer.buckets with
  | [] => buffer
  | bucket :: rest =>
    { buffer with
      buckets := rest
      eventCount := buffer.eventCount - bucket.updates.length
      encodedBytes := buffer.encodedBytes - bucket.encodedBytes
      heightCounts := Counter.release buffer.heightCounts bucket.height }

/-- At most `fuel` iterations of the eviction loop. -/
def evictLoop (now : Nat) : Nat → ReplayBuffer → Option ReplayBuffer
  | 0, buffer => if (buffer.evictReason now).isNone then some buffer else none
  | fuel + 1, buffer =>
    match buffer.evictReason now with
    | none => some buffer
    | some _ => evictLoop now fuel buffer.evictFront

def evict (buffer : ReplayBuffer) (now : Nat) : Option ReplayBuffer :=
  evictLoop now buffer.buckets.length buffer

/-! ## Pushing -/

/-- `push_batch_at`. The updates of another height than the first block-scoped
one are left out; a debug assertion says there are none. -/
def pushBatchAt (buffer : ReplayBuffer) (updates : List PublishedUpdate) (now : Nat) :
    Option ReplayBuffer :=
  if buffer.limits.heightCapacity = 0 then some buffer
  else
    match updates.findSome? fun update => blockHeight update.message with
    | none => buffer.evict now
    | some height =>
      let replayUpdates := updates.filter fun update => blockHeight update.message == some height
      let encodedBytes := (replayUpdates.map (·.encodedLen)).sum
      evict
        { buffer with
          heightCounts := Counter.acquire buffer.heightCounts height
          eventCount := saturatingAdd buffer.eventCount replayUpdates.length
          encodedBytes := saturatingAdd buffer.encodedBytes encodedBytes
          buckets := buffer.buckets ++
            [{ height := height
               insertedAt := now
               updates := replayUpdates
               encodedBytes := encodedBytes }] }
        now

/-! ## Reading -/

def firstAvailableHeight (buffer : ReplayBuffer) : Option Nat := buffer.heightCounts.keys.min?

def latestHeight (buffer : ReplayBuffer) : Option Nat := buffer.heightCounts.keys.max?

/-- The sequence of the newest retained update, `0` for an empty window. -/
def watermark (buffer : ReplayBuffer) : Nat :=
  ((buffer.buckets.getLast?.bind fun bucket => bucket.updates.getLast?).map
    (·.message.sequence)).getD 0

/-- The retained updates from a height on, in order. -/
def updatesFrom (buffer : ReplayBuffer) (requested : Nat) : List PublishedUpdate :=
  (buffer.buckets.filter fun bucket => requested ≤ bucket.height).flatMap (·.updates)

/-- The availability check of `snapshot`. -/
def checkAvailable (buffer : ReplayBuffer) (fromHeight : Option Nat) : Except Status Unit :=
  match fromHeight with
  | none => .ok ()
  | some requested =>
    match buffer.firstAvailableHeight with
    | some firstAvailable =>
      if requested < firstAvailable then
        .error (outOfRange s!"events from height {requested} are not available; first available height is {firstAvailable}")
      else .ok ()
    | none =>
      .error (outOfRange s!"events from height {requested} are not available; the replay window is empty")

/-- What `snapshot` returns of the evicted buffer. -/
def readSnapshot (buffer : ReplayBuffer) (fromHeight : Option Nat) :
    Except Status ReplaySnapshot := do
  buffer.checkAvailable fromHeight
  return { updates := (fromHeight.map buffer.updatesFrom).getD []
           watermark := buffer.watermark }

/-- `snapshot` at time `now`: the evicted buffer and the result. -/
def snapshot (buffer : ReplayBuffer) (fromHeight : Option Nat) (now : Nat) :
    Option (ReplayBuffer × Except Status ReplaySnapshot) :=
  (buffer.evict now).map fun buffer => (buffer, buffer.readSnapshot fromHeight)

/-- The update is a finalized block with this hash. -/
def isFinalizedBlock (hash : String) (update : PublishedUpdate) : Bool :=
  match update.message.update with
  | some (.block block) => block.finalized && block.hash == hash
  | _ => false

def verifyCheckpoint (buffer : ReplayBuffer) (checkpoint : ResumeCheckpoint) :
    Except Status Unit :=
  let available := buffer.buckets.any fun bucket =>
    bucket.height == checkpoint.finalizedHeight &&
      bucket.updates.any (isFinalizedBlock checkpoint.finalizedBlockHash)
  if available then .ok ()
  else if buffer.buckets.any fun bucket => bucket.height == checkpoint.finalizedHeight then
    .error ⟨.failedPrecondition,
      s!"finalized checkpoint hash mismatch at height {checkpoint.finalizedHeight}"⟩
  else
    .error (outOfRange
      s!"finalized checkpoint at height {checkpoint.finalizedHeight} is not retained")

/-! ## The eviction loop -/

theorem evictFront_nil {buffer : ReplayBuffer} (h : buffer.buckets = []) :
    buffer.evictFront = buffer := by
  unfold evictFront; rw [h]

theorem evictFront_cons {buffer : ReplayBuffer} {bucket : ReplayBucket}
    {rest : List ReplayBucket} (h : buffer.buckets = bucket :: rest) :
    buffer.evictFront =
      { buffer with
        buckets := rest
        eventCount := buffer.eventCount - bucket.updates.length
        encodedBytes := buffer.encodedBytes - bucket.encodedBytes
        heightCounts := Counter.release buffer.heightCounts bucket.height } := by
  unfold evictFront; rw [h]

@[simp] theorem limits_evictFront (buffer : ReplayBuffer) :
    buffer.evictFront.limits = buffer.limits := by
  unfold evictFront; split <;> rfl

theorem buckets_evictFront (buffer : ReplayBuffer) :
    buffer.evictFront.buckets = buffer.buckets.tail := by
  unfold evictFront; split <;> simp_all

/-- On an empty deque the loop makes no progress. -/
theorem evictLoop_nil {now : Nat} {buffer : ReplayBuffer} (h : buffer.buckets = []) (fuel : Nat) :
    evictLoop now fuel buffer = evictLoop now 0 buffer := by
  induction fuel with
  | zero => rfl
  | succ fuel ih =>
    simp only [evictLoop, evictFront_nil h]
    cases hr : buffer.evictReason now with
    | none => simp
    | some reason => simp [ih, evictLoop, hr]

/-- The fuel of `evict` is exact: more iterations change nothing, so `evict`
is `none` only where the loop never exits. -/
theorem evictLoop_of_le {now : Nat} {buffer : ReplayBuffer} {fuel : Nat}
    (h : buffer.buckets.length ≤ fuel) : evictLoop now fuel buffer = buffer.evict now := by
  unfold evict
  generalize hn : buffer.buckets.length = n at h
  induction n generalizing buffer fuel with
  | zero => exact evictLoop_nil (List.length_eq_zero_iff.mp hn) fuel
  | succ n ih =>
    obtain ⟨fuel, rfl⟩ : ∃ k, fuel = k + 1 := ⟨fuel - 1, by omega⟩
    have hlen : buffer.evictFront.buckets.length = n := by
      rw [buckets_evictFront, List.length_tail, hn, Nat.add_sub_cancel]
    simp only [evictLoop]
    cases buffer.evictReason now with
    | none => rfl
    | some reason => exact ih hlen (by omega)

/-- **The loop rule.** An invariant of one eviction holds of the result, where
no limit asks for another eviction. -/
theorem evictLoop_invariant {now : Nat} {I : ReplayBuffer → Prop}
    (hfront : ∀ buffer, I buffer → buffer.evictReason now ≠ none → I buffer.evictFront) :
    ∀ {fuel : Nat} {buffer buffer' : ReplayBuffer}, evictLoop now fuel buffer = some buffer' →
      I buffer → I buffer' ∧ buffer'.evictReason now = none := by
  intro fuel
  induction fuel with
  | zero =>
    intro buffer buffer' h hI
    simp only [evictLoop, Option.ite_none_right_eq_some, Option.isNone_iff_eq_none,
      Option.some.injEq] at h
    obtain ⟨hr, rfl⟩ := h
    exact ⟨hI, hr⟩
  | succ fuel ih =>
    intro buffer buffer' h hI
    simp only [evictLoop] at h
    cases hr : buffer.evictReason now with
    | none =>
      simp only [hr, Option.some.injEq] at h
      exact h ▸ ⟨hI, hr⟩
    | some reason =>
      simp only [hr] at h
      exact ih h (hfront buffer hI (by simp [hr]))

theorem evict_invariant {now : Nat} {I : ReplayBuffer → Prop}
    (hfront : ∀ buffer, I buffer → buffer.evictReason now ≠ none → I buffer.evictFront)
    {buffer buffer' : ReplayBuffer} (h : buffer.evict now = some buffer') (hI : I buffer) :
    I buffer' ∧ buffer'.evictReason now = none :=
  evictLoop_invariant hfront h hI

/-- Eviction keeps a suffix of the deque. -/
theorem evict_suffix {now : Nat} {buffer buffer' : ReplayBuffer}
    (h : buffer.evict now = some buffer') :
    buffer'.buckets <:+ buffer.buckets ∧ buffer'.limits = buffer.limits := by
  refine (evict_invariant (I := fun b => b.buckets <:+ buffer.buckets ∧
    b.limits = buffer.limits) (fun b hI _ => ?_) h ⟨List.suffix_rfl, rfl⟩).1
  rw [buckets_evictFront, limits_evictFront]
  exact ⟨(List.tail_suffix _).trans hI.1, hI.2⟩

end ReplayBuffer

end ZakuraGrpc
