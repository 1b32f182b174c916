import ZakuraGrpc.Geyser.Replay

/-!
# The replay window

What the incremental eviction computes: after each call the deque is the
longest suffix of the pushed history that respects the four limits
(`window_longest`), and the counters are the totals of the deque (`Accounts`).

* `history` is the list of all buckets ever pushed, and `Admissible` the four
  limits as a predicate on a window.
* `Bounded` is the part of the accounting that survives saturation. It is
  enough for the eviction loop to end (`evict_isSome`), so every run exists
  (`calls_isSome`).
* `evict_longest` is the loop: it drops the front of the deque while the window
  is not admissible.
-/

namespace ZakuraGrpc

open Runs Suffix

/-! ## Calls and history -/

/-- A call of the buffer with the time it is made at. -/
inductive ReplayCall where
  | push (updates : List PublishedUpdate) (now : Nat)
  | evict (now : Nat)

def ReplayCall.time : ReplayCall → Nat
  | .push _ now => now
  | .evict now => now

/-- The bucket that a batch adds to the deque. -/
def bucketOf (updates : List PublishedUpdate) (now : Nat) : Option ReplayBucket :=
  (updates.findSome? fun update => blockHeight update.message).map fun height =>
    let replayUpdates := updates.filter fun update => blockHeight update.message == some height
    { height := height
      insertedAt := now
      updates := replayUpdates
      encodedBytes := (replayUpdates.map (·.encodedLen)).sum }

/-- The bucket that a call adds. -/
def ReplayCall.bucket : ReplayCall → Option ReplayBucket
  | .push updates now => bucketOf updates now
  | .evict _ => none

/-- All block-scoped batches ever pushed. -/
def history (calls : List ReplayCall) : List ReplayBucket := calls.filterMap ReplayCall.bucket

theorem history_append (calls calls' : List ReplayCall) :
    history (calls ++ calls') = history calls ++ history calls' :=
  List.filterMap_append

theorem history_snoc (calls : List ReplayCall) (call : ReplayCall) :
    history (calls ++ [call]) = history calls ++ call.bucket.toList := by
  rw [history_append]
  cases h : call.bucket <;> simp [history, h]

/-- The time of the last call, `0` before any. -/
def lastTime (calls : List ReplayCall) : Nat := (calls.getLast?.map (·.time)).getD 0

@[simp] theorem lastTime_snoc (calls : List ReplayCall) (call : ReplayCall) :
    lastTime (calls ++ [call]) = call.time := by
  simp [lastTime]

theorem bucketOf_eq_none {updates : List PublishedUpdate} {now : Nat} :
    bucketOf updates now = none ↔ ∀ update ∈ updates, blockHeight update.message = none := by
  simp [bucketOf, List.findSome?_eq_none_iff]

theorem bucketOf_eq_some {updates : List PublishedUpdate} {now : Nat} {bucket : ReplayBucket}
    (h : bucketOf updates now = some bucket) :
    bucket.insertedAt = now ∧ bucket.updates ≠ [] ∧
      bucket.updates =
        updates.filter (fun update => blockHeight update.message == some bucket.height) ∧
      bucket.encodedBytes = (bucket.updates.map (·.encodedLen)).sum := by
  simp only [bucketOf, Option.map_eq_some_iff] at h
  obtain ⟨height, hfind, rfl⟩ := h
  obtain ⟨update, hmem, hheight⟩ := List.exists_of_findSome?_eq_some hfind
  refine ⟨rfl, ?_, rfl, rfl⟩
  have hin : update ∈ updates.filter fun u => blockHeight u.message == some height :=
    List.mem_filter.mpr ⟨hmem, by simp [hheight]⟩
  exact List.ne_nil_of_mem hin

namespace ReplayBuffer

def call (buffer : ReplayBuffer) : ReplayCall → Option ReplayBuffer
  | .push updates now => buffer.pushBatchAt updates now
  | .evict now => buffer.evict now

/-- The buffer with a bucket at the back, before eviction. -/
def append (buffer : ReplayBuffer) (bucket : ReplayBucket) : ReplayBuffer :=
  { buffer with
    heightCounts := Counter.acquire buffer.heightCounts bucket.height
    eventCount := saturatingAdd buffer.eventCount bucket.updates.length
    encodedBytes := saturatingAdd buffer.encodedBytes bucket.encodedBytes
    buckets := buffer.buckets ++ [bucket] }

theorem pushBatchAt_eq (buffer : ReplayBuffer) (updates : List PublishedUpdate) (now : Nat) :
    buffer.pushBatchAt updates now =
      if buffer.limits.heightCapacity = 0 then some buffer
      else
        match bucketOf updates now with
        | none => buffer.evict now
        | some bucket => (buffer.append bucket).evict now := by
  unfold pushBatchAt bucketOf
  split
  · rfl
  · cases updates.findSome? fun update => blockHeight update.message <;> rfl

/-- With a positive capacity a call appends its bucket and evicts. -/
theorem call_eq {buffer : ReplayBuffer} (hcap : 0 < buffer.limits.heightCapacity)
    (call : ReplayCall) :
    buffer.call call = (call.bucket.elim buffer buffer.append).evict call.time := by
  cases call with
  | evict now => rfl
  | push updates now =>
    have hne : buffer.limits.heightCapacity ≠ 0 := by omega
    simp only [ReplayBuffer.call, pushBatchAt_eq, if_neg hne, ReplayCall.bucket, ReplayCall.time]
    cases bucketOf updates now <;> rfl

/-! ## Totals of a window -/

def heights (window : List ReplayBucket) : List Nat := window.map (·.height)

def eventTotal (window : List ReplayBucket) : Nat := (window.map (·.updates.length)).sum

def byteTotal (window : List ReplayBucket) : Nat := (window.map (·.encodedBytes)).sum

@[simp] theorem eventTotal_cons (bucket : ReplayBucket) (window : List ReplayBucket) :
    eventTotal (bucket :: window) = bucket.updates.length + eventTotal window := by
  simp [eventTotal]

@[simp] theorem byteTotal_cons (bucket : ReplayBucket) (window : List ReplayBucket) :
    byteTotal (bucket :: window) = bucket.encodedBytes + byteTotal window := by
  simp [byteTotal]

@[simp] theorem eventTotal_append (window window' : List ReplayBucket) :
    eventTotal (window ++ window') = eventTotal window + eventTotal window' := by
  simp [eventTotal]

@[simp] theorem byteTotal_append (window window' : List ReplayBucket) :
    byteTotal (window ++ window') = byteTotal window + byteTotal window' := by
  simp [byteTotal]

@[simp] theorem eventTotal_singleton (bucket : ReplayBucket) :
    eventTotal [bucket] = bucket.updates.length := by
  simp [eventTotal]

@[simp] theorem byteTotal_singleton (bucket : ReplayBucket) :
    byteTotal [bucket] = bucket.encodedBytes := by
  simp [byteTotal]

/-- The four limits, at time `now`. -/
structure Admissible (limits : ReplayLimits) (now : Nat) (window : List ReplayBucket) : Prop where
  heights : (heights window).toFinset.card ≤ limits.heightCapacity
  events : eventTotal window ≤ limits.eventCapacity
  bytes : byteTotal window ≤ limits.byteCapacity
  age : ∀ bucket ∈ window, ∀ maxAge, limits.maxAge = some maxAge →
    now - bucket.insertedAt ≤ maxAge

/-- A part of an admissible window was admissible at any earlier time. -/
theorem Admissible.anti {limits : ReplayLimits} {now now' : Nat} {s t : List ReplayBucket}
    (h : Admissible limits now t) (hst : s <:+: t) (hnow : now' ≤ now) :
    Admissible limits now' s := by
  obtain ⟨l, r, rfl⟩ := hst
  obtain ⟨hheights, hevents, hbytes, hage⟩ := h
  refine ⟨le_trans (Finset.card_le_card fun x hx => ?_) hheights, ?_, ?_, ?_⟩
  · simp only [List.mem_toFinset, ReplayBuffer.heights, List.mem_map, List.mem_append] at hx ⊢
    obtain ⟨bucket, hmem, rfl⟩ := hx
    exact ⟨bucket, .inl (.inr hmem), rfl⟩
  · simp only [eventTotal_append] at hevents
    omega
  · simp only [byteTotal_append] at hbytes
    omega
  · intro bucket hmem maxAge hmax
    have := hage bucket (by simp [hmem]) maxAge hmax
    omega

/-! ## Termination -/

/-- The counters never exceed the totals of the deque, whatever saturates. -/
structure Bounded (buffer : ReplayBuffer) : Prop where
  counts : Counter.Counts buffer.heightCounts (heights buffer.buckets)
  events : buffer.eventCount ≤ eventTotal buffer.buckets
  bytes : buffer.encodedBytes ≤ byteTotal buffer.buckets

theorem bounded_new (limits : ReplayLimits) : (new limits).Bounded :=
  ⟨Counter.Counts.empty, le_rfl, le_rfl⟩

theorem counts_evictFront {buffer : ReplayBuffer}
    (h : Counter.Counts buffer.heightCounts (heights buffer.buckets)) :
    Counter.Counts buffer.evictFront.heightCounts (heights buffer.evictFront.buckets) := by
  cases hb : buffer.buckets with
  | nil => rwa [evictFront_nil hb]
  | cons bucket rest =>
    rw [evictFront_cons hb]
    rw [hb] at h
    exact h.release

theorem counts_append {buffer : ReplayBuffer}
    (h : Counter.Counts buffer.heightCounts (heights buffer.buckets)) (bucket : ReplayBucket) :
    Counter.Counts (buffer.append bucket).heightCounts
      (heights (buffer.append bucket).buckets) := by
  have hperm : (bucket.height :: heights buffer.buckets).Perm
      (heights (buffer.append bucket).buckets) := by
    simp only [append, heights, List.map_append, List.map_cons, List.map_nil]
    exact (List.perm_append_singleton _ _).symm
  exact (h.acquire bucket.height).perm hperm

theorem Bounded.evictFront {buffer : ReplayBuffer} (h : buffer.Bounded) :
    buffer.evictFront.Bounded := by
  refine ⟨counts_evictFront h.counts, ?_, ?_⟩
  all_goals
    have hevents := h.events
    have hbytes := h.bytes
    cases hb : buffer.buckets with
    | nil => rw [evictFront_nil hb]; assumption
    | cons bucket rest =>
      rw [evictFront_cons hb]
      simp only [hb, eventTotal_cons, byteTotal_cons] at hevents hbytes ⊢
      omega

theorem Bounded.append {buffer : ReplayBuffer} (h : buffer.Bounded) (bucket : ReplayBucket) :
    (buffer.append bucket).Bounded := by
  refine ⟨counts_append h.counts bucket, ?_, ?_⟩
  · have := h.events
    simp only [ReplayBuffer.append, eventTotal_append, eventTotal_singleton, saturatingAdd]
    omega
  · have := h.bytes
    simp only [ReplayBuffer.append, byteTotal_append, byteTotal_singleton, saturatingAdd]
    omega

/-- Nothing asks for an eviction of an empty deque. -/
theorem Bounded.evictReason_nil {buffer : ReplayBuffer} (h : buffer.Bounded)
    (hb : buffer.buckets = []) (now : Nat) : buffer.evictReason now = none := by
  have hsize : buffer.heightCounts.size = 0 := by
    rw [h.counts.size_eq, hb]
    rfl
  have hevents : buffer.eventCount = 0 := by
    have := h.events
    rwa [hb, eventTotal, List.map_nil, List.sum_nil, Nat.le_zero] at this
  have hbytes : buffer.encodedBytes = 0 := by
    have := h.bytes
    rwa [hb, byteTotal, List.map_nil, List.sum_nil, Nat.le_zero] at this
  simp [evictReason, frontExpired, hb, hsize, hevents, hbytes]

/-- **The eviction loop ends**, also where a single batch exceeds a limit. -/
theorem Bounded.evict_isSome {buffer : ReplayBuffer} (h : buffer.Bounded) (now : Nat) :
    ∃ buffer', buffer.evict now = some buffer' := by
  unfold evict
  generalize hn : buffer.buckets.length = n
  induction n generalizing buffer with
  | zero =>
    have hr := h.evictReason_nil (List.length_eq_zero_iff.mp hn) now
    exact ⟨buffer, by simp [evictLoop, hr]⟩
  | succ n ih =>
    simp only [evictLoop]
    cases buffer.evictReason now with
    | none => exact ⟨buffer, rfl⟩
    | some reason =>
      refine ih h.evictFront ?_
      rw [buckets_evictFront, List.length_tail, hn, Nat.add_sub_cancel]

theorem Bounded.evict {buffer buffer' : ReplayBuffer} (h : buffer.Bounded) {now : Nat}
    (he : buffer.evict now = some buffer') : buffer'.Bounded :=
  (evict_invariant (fun _ hb _ => hb.evictFront) he h).1

theorem Bounded.call_isSome {buffer : ReplayBuffer} (h : buffer.Bounded) (call : ReplayCall) :
    ∃ buffer', buffer.call call = some buffer' ∧ buffer'.Bounded := by
  by_cases hcap : 0 < buffer.limits.heightCapacity
  · rw [call_eq hcap]
    have happend : (call.bucket.elim buffer buffer.append).Bounded := by
      cases call.bucket with
      | none => exact h
      | some bucket => exact h.append bucket
    obtain ⟨buffer', he⟩ := happend.evict_isSome call.time
    exact ⟨buffer', he, happend.evict he⟩
  · -- A zero capacity switches replay off: a push does nothing.
    have hzero : buffer.limits.heightCapacity = 0 := by omega
    cases call with
    | evict now =>
      obtain ⟨buffer', he⟩ := h.evict_isSome now
      exact ⟨buffer', he, h.evict he⟩
    | push updates now =>
      refine ⟨buffer, ?_, h⟩
      simp only [ReplayBuffer.call, pushBatchAt_eq, if_pos hzero]

theorem Bounded.call {buffer buffer' : ReplayBuffer} (h : buffer.Bounded) {c : ReplayCall}
    (hcall : buffer.call c = some buffer') : buffer'.Bounded := by
  obtain ⟨after, hafter, hbounded⟩ := h.call_isSome c
  rw [hcall] at hafter
  exact Option.some.inj hafter ▸ hbounded

/-- **Every run exists**: no sequence of calls makes the loop spin. -/
theorem calls_isSome (limits : ReplayLimits) (calls : List ReplayCall) :
    ∃ buffer, runs call (new limits) calls = some buffer ∧ buffer.Bounded := by
  induction calls using List.reverseRecOn with
  | nil => exact ⟨_, rfl, bounded_new limits⟩
  | append_singleton calls c ih =>
    obtain ⟨buffer, hrun, hb⟩ := ih
    obtain ⟨buffer', hcall, hb'⟩ := hb.call_isSome c
    exact ⟨buffer', runs_snoc.mpr ⟨buffer, hrun, hcall⟩, hb'⟩

theorem limits_call {buffer buffer' : ReplayBuffer} {c : ReplayCall}
    (h : buffer.call c = some buffer') : buffer'.limits = buffer.limits := by
  by_cases hcap : 0 < buffer.limits.heightCapacity
  · rw [call_eq hcap] at h
    rw [(evict_suffix h).2]
    cases c.bucket <;> rfl
  · have hzero : buffer.limits.heightCapacity = 0 := by omega
    cases c with
    | evict now => exact (evict_suffix h).2
    | push updates now =>
      simp only [ReplayBuffer.call, pushBatchAt_eq, if_pos hzero, Option.some.injEq] at h
      rw [h]

theorem limits_runs {limits : ReplayLimits} {calls : List ReplayCall} {buffer : ReplayBuffer}
    (h : runs call (new limits) calls = some buffer) : buffer.limits = limits :=
  runs_invariant (I := fun b => b.limits = limits)
    (fun _ _ _ hstep hb => (limits_call hstep).trans hb) h rfl

/-- What is retained is a suffix of the history. -/
theorem suffix_history {limits : ReplayLimits} (hcap : 0 < limits.heightCapacity)
    {calls : List ReplayCall} {buffer : ReplayBuffer}
    (h : runs call (new limits) calls = some buffer) : buffer.buckets <:+ history calls := by
  induction calls using List.reverseRecOn generalizing buffer with
  | nil =>
    cases h
    exact List.suffix_rfl
  | append_singleton calls c ih =>
    obtain ⟨before, hrun, hcall⟩ := runs_snoc.mp h
    have hbefore := ih hrun
    rw [call_eq (limits_runs hrun ▸ hcap)] at hcall
    refine (evict_suffix hcall).1.trans ?_
    rw [history_snoc]
    cases c.bucket with
    | none => simpa using hbefore
    | some bucket => exact List.suffix_append_self_iff.mpr hbefore

/-! ## Accounting -/

/-- The counters are the totals of the deque, and no bucket is empty. -/
structure Accounts (buffer : ReplayBuffer) : Prop where
  counts : Counter.Counts buffer.heightCounts (heights buffer.buckets)
  events : buffer.eventCount = eventTotal buffer.buckets
  bytes : buffer.encodedBytes = byteTotal buffer.buckets
  nonempty : ∀ bucket ∈ buffer.buckets, bucket.updates ≠ []
  bucketBytes : ∀ bucket ∈ buffer.buckets,
    bucket.encodedBytes = (bucket.updates.map (·.encodedLen)).sum

theorem Accounts.bounded {buffer : ReplayBuffer} (h : buffer.Accounts) : buffer.Bounded :=
  ⟨h.counts, h.events.le, h.bytes.le⟩

theorem accounts_new (limits : ReplayLimits) : (new limits).Accounts :=
  ⟨Counter.Counts.empty, rfl, rfl, by simp [new], by simp [new]⟩

theorem Accounts.evictFront {buffer : ReplayBuffer} (h : buffer.Accounts) :
    buffer.evictFront.Accounts := by
  obtain ⟨hcounts, hevents, hbytes, hne, hlen⟩ := h
  refine ⟨counts_evictFront hcounts, ?_, ?_, ?_, ?_⟩
  all_goals
    cases hb : buffer.buckets with
    | nil => rw [evictFront_nil hb]; assumption
    | cons bucket rest =>
      rw [evictFront_cons hb]
      simp only [hb, eventTotal_cons, byteTotal_cons, List.mem_cons, forall_eq_or_imp]
        at hevents hbytes hne hlen ⊢
      first | omega | exact hne.2 | exact hlen.2

/-- Appending keeps the accounts where the sums fit in `usize`. -/
theorem Accounts.append {buffer : ReplayBuffer} (h : buffer.Accounts) {bucket : ReplayBucket}
    (hne : bucket.updates ≠ [])
    (hlen : bucket.encodedBytes = (bucket.updates.map (·.encodedLen)).sum)
    (hevents : eventTotal (buffer.buckets ++ [bucket]) ≤ usizeMax)
    (hbytes : byteTotal (buffer.buckets ++ [bucket]) ≤ usizeMax) :
    (buffer.append bucket).Accounts := by
  refine ⟨counts_append h.counts bucket, ?_, ?_, ?_, ?_⟩
  · have := h.events
    simp only [eventTotal_append, eventTotal_singleton] at hevents
    simp only [ReplayBuffer.append, eventTotal_append, eventTotal_singleton, saturatingAdd]
    omega
  · have := h.bytes
    simp only [byteTotal_append, byteTotal_singleton] at hbytes
    simp only [ReplayBuffer.append, byteTotal_append, byteTotal_singleton, saturatingAdd]
    omega
  · intro b hb
    rcases List.mem_append.mp hb with hb | hb
    · exact h.nonempty b hb
    · rw [List.mem_singleton.mp hb]
      exact hne
  · intro b hb
    rcases List.mem_append.mp hb with hb | hb
    · exact h.bucketBytes b hb
    · rw [List.mem_singleton.mp hb]
      exact hlen

/-! ## The loop computes the longest admissible suffix -/

/-- Buckets in the order of their insertion times. -/
def Ordered (window : List ReplayBucket) : Prop :=
  window.Pairwise fun bucket bucket' => bucket.insertedAt ≤ bucket'.insertedAt

/-- A limit that asks for an eviction is a limit the window exceeds. -/
theorem Accounts.not_admissible {buffer : ReplayBuffer} (h : buffer.Accounts) {now : Nat}
    (hr : buffer.evictReason now ≠ none) : ¬ Admissible buffer.limits now buffer.buckets := by
  intro hadm
  apply hr
  have hexpired : buffer.frontExpired now = false := by
    unfold frontExpired
    cases hb : buffer.buckets with
    | nil => rfl
    | cons bucket rest =>
      cases hmax : buffer.limits.maxAge with
      | none => rfl
      | some maxAge =>
        have := hadm.age bucket (by simp [hb]) maxAge hmax
        simp only [List.head?_cons, Option.any_some, decide_eq_false_iff_not]
        omega
  have hheights := hadm.heights
  have hevents := hadm.events
  have hbytes := hadm.bytes
  rw [← h.counts.size_eq] at hheights
  rw [← h.events] at hevents
  rw [← h.bytes] at hbytes
  simp only [evictReason, hexpired, Bool.false_eq_true, if_false, if_neg (Nat.not_lt.mpr hheights),
    if_neg (Nat.not_lt.mpr hevents), if_neg (Nat.not_lt.mpr hbytes)]

/-- When no limit asks for an eviction, the window is admissible: the front is
the oldest bucket. -/
theorem Accounts.admissible {buffer : ReplayBuffer} (h : buffer.Accounts)
    (hord : Ordered buffer.buckets) {now : Nat} (hr : buffer.evictReason now = none) :
    Admissible buffer.limits now buffer.buckets := by
  simp only [evictReason, ite_eq_iff, reduceCtorEq, and_false, false_or, and_true] at hr
  obtain ⟨hexpired, hheights, hevents, hbytes⟩ := hr
  rw [h.counts.size_eq, Nat.not_lt] at hheights
  rw [h.events, Nat.not_lt] at hevents
  rw [h.bytes, Nat.not_lt] at hbytes
  refine ⟨hheights, hevents, hbytes, fun bucket hmem maxAge hmax => ?_⟩
  cases hb : buffer.buckets with
  | nil => simp [hb] at hmem
  | cons front rest =>
    have hfront : now - front.insertedAt ≤ maxAge := by
      simp only [frontExpired, hb, List.head?_cons, hmax, Option.any_some,
        decide_eq_true_eq, Nat.not_lt] at hexpired
      exact hexpired
    rw [Ordered, hb, List.pairwise_cons] at hord
    rw [hb] at hmem
    rcases List.mem_cons.mp hmem with rfl | hmem
    · exact hfront
    · have := hord.1 bucket hmem
      omega

/-- **The loop rule, applied.** Eviction finds the longest admissible suffix of
the deque and keeps the accounts. -/
theorem Accounts.evict_longest {buffer : ReplayBuffer} (h : buffer.Accounts)
    (hord : Ordered buffer.buckets) (now : Nat) :
    ∃ buffer', buffer.evict now = some buffer' ∧
      IsLongest (Admissible buffer.limits now) buffer.buckets buffer'.buckets ∧
      buffer'.Accounts := by
  obtain ⟨buffer', he⟩ := h.bounded.evict_isSome now
  refine ⟨buffer', he, ?_⟩
  have hloop := evict_invariant
    (I := fun b => Covers (Admissible buffer.limits now) buffer.buckets b.buckets ∧
      b.Accounts ∧ b.limits = buffer.limits)
    (fun b ⟨hcov, hacc, hlim⟩ hr => ?_) he ⟨Covers.refl _ _, h, rfl⟩
  · obtain ⟨⟨hcov, hacc, hlim⟩, hr⟩ := hloop
    have hord' : Ordered buffer'.buckets := hord.sublist hcov.suffix.sublist
    exact ⟨⟨hcov, hlim ▸ hacc.admissible hord' hr⟩, hacc⟩
  · refine ⟨?_, hacc.evictFront, (limits_evictFront b).trans hlim⟩
    cases hb : b.buckets with
    | nil => exact absurd (hacc.bounded.evictReason_nil hb now) hr
    | cons bucket rest =>
      have hnot := hacc.not_admissible hr
      rw [hlim, hb] at hnot
      rw [buckets_evictFront, hb, List.tail_cons]
      exact (hb ▸ hcov).tail hnot

/-! ## The window of a run -/

/-- At every push, what is retained and the new batch fit in `usize`. -/
def SizesFit (limits : ReplayLimits) (calls : List ReplayCall) : Prop :=
  ∀ before call', before ++ [call'] <+: calls → ∀ buffer,
    runs call (new limits) before = some buffer → ∀ bucket, call'.bucket = some bucket →
      eventTotal (buffer.buckets ++ [bucket]) ≤ usizeMax ∧
      byteTotal (buffer.buckets ++ [bucket]) ≤ usizeMax

/-- The calls are made at non-decreasing times. -/
def InOrder (calls : List ReplayCall) : Prop :=
  calls.Pairwise fun call call' => call.time ≤ call'.time

theorem SizesFit.of_prefix {limits : ReplayLimits} {calls calls' : List ReplayCall}
    (h : SizesFit limits calls) (hpre : calls' <+: calls) : SizesFit limits calls' :=
  fun before c hc => h before c (hc.trans hpre)

/-- Sizes fit when those of the whole history do. -/
theorem SizesFit.of_history {limits : ReplayLimits} (hcap : 0 < limits.heightCapacity)
    {calls : List ReplayCall} (hevents : eventTotal (history calls) ≤ usizeMax)
    (hbytes : byteTotal (history calls) ≤ usizeMax) : SizesFit limits calls := by
  rintro before c ⟨after, rfl⟩ buffer hrun bucket hbucket
  have hsuffix : buffer.buckets ++ [bucket] <:+ history (before ++ [c]) := by
    rw [history_snoc, hbucket]
    exact List.suffix_append_self_iff.mpr (suffix_history hcap hrun)
  obtain ⟨evicted, hsplit⟩ := hsuffix
  rw [history_append (before ++ [c]), ← hsplit] at hevents hbytes
  simp only [eventTotal_append, byteTotal_append] at hevents hbytes ⊢
  omega

theorem InOrder.lastTime_le {calls : List ReplayCall} {c : ReplayCall}
    (h : InOrder (calls ++ [c])) : lastTime calls ≤ c.time := by
  unfold lastTime
  cases hlast : calls.getLast? with
  | none => exact Nat.zero_le _
  | some last =>
    exact (List.pairwise_append.mp h).2.2 last (List.mem_of_getLast? hlast) c List.mem_cons_self

theorem insertedAt_eq_time {c : ReplayCall} {bucket : ReplayBucket} (h : c.bucket = some bucket) :
    bucket.insertedAt = c.time := by
  cases c with
  | evict now => cases h
  | push updates now => exact (bucketOf_eq_some h).1

theorem InOrder.ordered_history {calls : List ReplayCall} (h : InOrder calls) :
    Ordered (history calls) := by
  refine List.pairwise_filterMap.mpr (h.imp fun htime bucket hb bucket' hb' => ?_)
  rw [insertedAt_eq_time hb, insertedAt_eq_time hb']
  exact htime

/-- The deque is the longest admissible suffix of the history. -/
structure IsWindow (limits : ReplayLimits) (calls : List ReplayCall) (buffer : ReplayBuffer) :
    Prop where
  longest : IsLongest (Admissible limits (lastTime calls)) (history calls) buffer.buckets
  accounts : buffer.Accounts
  limits_eq : buffer.limits = limits

theorem isWindow_new (limits : ReplayLimits) : IsWindow limits [] (new limits) := by
  refine ⟨⟨Covers.refl _ _, ?_⟩, accounts_new limits, rfl⟩
  exact ⟨Nat.zero_le _, Nat.zero_le _, Nat.zero_le _, by simp [new]⟩

/-- **One call keeps the window.** -/
theorem IsWindow.call {limits : ReplayLimits} (hcap : 0 < limits.heightCapacity)
    {calls : List ReplayCall} {buffer : ReplayBuffer} (h : IsWindow limits calls buffer)
    {c : ReplayCall} (horder : InOrder (calls ++ [c]))
    (hfit : ∀ bucket, c.bucket = some bucket →
      eventTotal (buffer.buckets ++ [bucket]) ≤ usizeMax ∧
      byteTotal (buffer.buckets ++ [bucket]) ≤ usizeMax) :
    ∃ buffer', buffer.call c = some buffer' ∧ IsWindow limits (calls ++ [c]) buffer' := by
  obtain ⟨hlongest, haccounts, hlimits⟩ := h
  have hordered := horder.ordered_history
  have htime : lastTime calls ≤ c.time := horder.lastTime_le
  rw [history_snoc] at hordered
  rw [call_eq (hlimits ▸ hcap)]
  cases hbucket : c.bucket with
  | none =>
    rw [hbucket, Option.toList_none, List.append_nil] at hordered
    obtain ⟨buffer', he, hlongest', haccounts'⟩ :=
      haccounts.evict_longest (hordered.sublist hlongest.suffix.sublist) c.time
    refine ⟨buffer', he, ?_, haccounts', (evict_suffix he).2.trans hlimits⟩
    rw [history_snoc, hbucket, Option.toList_none, List.append_nil, lastTime_snoc]
    rw [hlimits] at hlongest'
    exact hlongest.mono (fun t _ ht => ht.anti List.infix_rfl htime) hlongest'
  | some bucket =>
    obtain ⟨hne, hlen⟩ : bucket.updates ≠ [] ∧
        bucket.encodedBytes = (bucket.updates.map (·.encodedLen)).sum := by
      cases c with
      | evict now => cases hbucket
      | push updates now =>
        obtain ⟨-, hne, -, hlen⟩ := bucketOf_eq_some hbucket
        exact ⟨hne, hlen⟩
    obtain ⟨hevents, hbytes⟩ := hfit bucket hbucket
    have happend := haccounts.append hne hlen hevents hbytes
    rw [hbucket, Option.toList_some] at hordered
    have hsuffix : buffer.buckets ++ [bucket] <:+ history calls ++ [bucket] :=
      List.suffix_append_self_iff.mpr hlongest.suffix
    obtain ⟨buffer', he, hlongest', haccounts'⟩ :=
      happend.evict_longest (hordered.sublist hsuffix.sublist) c.time
    refine ⟨buffer', he, ?_, haccounts', (evict_suffix he).2.trans hlimits⟩
    rw [history_snoc, hbucket, Option.toList_some, lastTime_snoc]
    change IsLongest (Admissible buffer.limits c.time) (buffer.buckets ++ [bucket]) _ at hlongest'
    rw [hlimits] at hlongest'
    exact hlongest.snoc
      (fun t _ ht => ht.anti (List.prefix_append t [bucket]).isInfix htime) hlongest'

/-- Every run exists and keeps the window. -/
theorem isWindow_runs {limits : ReplayLimits} (hcap : 0 < limits.heightCapacity)
    {calls : List ReplayCall} (horder : InOrder calls) (hfit : SizesFit limits calls) :
    ∃ buffer, runs ReplayBuffer.call (new limits) calls = some buffer ∧
      IsWindow limits calls buffer := by
  induction calls using List.reverseRecOn with
  | nil => exact ⟨_, rfl, isWindow_new limits⟩
  | append_singleton calls c ih =>
    obtain ⟨buffer, hrun, hwindow⟩ :=
      ih (List.pairwise_append.mp horder).1 (hfit.of_prefix (List.prefix_append _ _))
    obtain ⟨buffer', hcall, hwindow'⟩ := hwindow.call hcap horder
      (hfit calls c List.prefix_rfl buffer hrun)
    exact ⟨buffer', runs_snoc.mpr ⟨buffer, hrun, hcall⟩, hwindow'⟩

/-- **The replay window.** After every sequence of calls the deque is the
longest admissible suffix of the history, and the counters are its totals. -/
theorem window_longest {limits : ReplayLimits} (hcap : 0 < limits.heightCapacity)
    {calls : List ReplayCall} (horder : InOrder calls) (hfit : SizesFit limits calls) :
    ∃ buffer, runs call (new limits) calls = some buffer ∧
      IsLongest (Admissible limits (lastTime calls)) (history calls) buffer.buckets ∧
      buffer.Accounts := by
  obtain ⟨buffer, hrun, hwindow⟩ := isWindow_runs hcap horder hfit
  exact ⟨buffer, hrun, hwindow.longest, hwindow.accounts⟩

/-! ## A sample run -/

/-- An accepted or finalized block as a published update. -/
def sampleBlock (height : Nat) (hash : String) (finalized : Bool) (sequence : Nat) :
    PublishedUpdate :=
  { message := { sequence := sequence
                 update := some (.block { height := height, hash := hash, finalized := finalized }) }
    encodedLen := 40 }

def sampleLimits : ReplayLimits :=
  { heightCapacity := 2, eventCapacity := 100, byteCapacity := 4000, maxAge := some 60 }

/-- Three heights, then an eviction by age. -/
def sampleCalls : List ReplayCall :=
  [.push [sampleBlock 10 "a" false 1] 0, .push [sampleBlock 11 "b" false 2] 5,
   .push [sampleBlock 12 "c" false 3] 20, .evict 70]

theorem window_longest_sample :
    ∃ buffer, runs call (new sampleLimits) sampleCalls = some buffer ∧
      IsLongest (Admissible sampleLimits (lastTime sampleCalls)) (history sampleCalls)
        buffer.buckets ∧ buffer.Accounts :=
  window_longest (by decide) (by unfold InOrder; decide)
    (SizesFit.of_history (by decide) (by decide) (by decide))

example : (runs call (new sampleLimits) sampleCalls).map (heights ·.buckets) = some [12] := by
  decide

end ReplayBuffer

end ZakuraGrpc
