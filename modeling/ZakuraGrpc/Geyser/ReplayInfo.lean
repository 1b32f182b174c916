import ZakuraGrpc.Geyser.Published
import ZakuraGrpc.Geyser.ReplayGap

/-!
# Replay information

`SubscribeReplayInfo` evicts and describes the window that is left. What it says is
what a subscription at that moment gets (`replay_info_exact`): the first available
height is the lowest that is not refused, a replay from it is the whole window, the
sequences are those of its ends, and the hashes those of the first update at the lowest
height and of the last at the highest.
-/

namespace ZakuraGrpc

open Runs

structure SubscribeReplayInfoResponse where
  firstAvailableHeight : Option Nat := none
  latestHeight : Option Nat := none
  retainedBlockCapacity : Nat := 0
  sessionId : Bytes := []
  firstAvailableSequence : Option Nat := none
  latestSequence : Option Nat := none
  firstAvailableHash : Option String := none
  latestHash : Option String := none
  replayReady : Bool := false
  deriving DecidableEq

def updateBlockHash (update : SubscribeUpdate) : Option String :=
  match update.update with
  | some (.block block) => some block.hash
  | some (.bestChain change) => some change.hash
  | some (.transaction transaction) => some transaction.blockHash
  | some (.utxo utxo) => some utxo.blockHash
  | some (.mempool _) | some (.mempoolTransaction _) | some (.ping _) | some (.pong _)
  | some (.reconnect _) | some (.mempoolSnapshot _) | none => none

namespace ReplayBuffer

/-- The first hash at the first available height. -/
def firstHash (buffer : ReplayBuffer) : Option String :=
  buffer.firstAvailableHeight.bind fun height =>
    ((buffer.buckets.filter (·.height == height)).flatMap (·.updates)).findSome?
      fun update => updateBlockHash update.message

/-- The last hash at the latest height. -/
def latestHash (buffer : ReplayBuffer) : Option String :=
  buffer.latestHeight.bind fun height =>
    ((buffer.buckets.reverse.filter (·.height == height)).flatMap (·.updates.reverse)).findSome?
      fun update => updateBlockHash update.message

def firstUpdate (buffer : ReplayBuffer) : Option PublishedUpdate :=
  buffer.buckets.head?.bind fun bucket => bucket.updates.head?

def lastUpdate (buffer : ReplayBuffer) : Option PublishedUpdate :=
  buffer.buckets.getLast?.bind fun bucket => bucket.updates.getLast?

/-- `replay_info` behind its eviction. -/
def replayInfo (buffer : ReplayBuffer) : SubscribeReplayInfoResponse where
  firstAvailableHeight := buffer.firstAvailableHeight
  latestHeight := buffer.latestHeight
  retainedBlockCapacity := min buffer.limits.heightCapacity u32Max
  sessionId := (buffer.firstUpdate.map (·.message.sessionId)).getD []
  firstAvailableSequence := buffer.firstUpdate.map (·.message.sequence)
  latestSequence := buffer.lastUpdate.map (·.message.sequence)
  firstAvailableHash := buffer.firstHash
  latestHash := buffer.latestHash
  replayReady := buffer.firstUpdate.isSome

/-- All retained updates, in order. -/
def retained (buffer : ReplayBuffer) : List PublishedUpdate := buffer.buckets.flatMap (·.updates)

end ReplayBuffer

/-- The hash is that of the first update in the list at this height. -/
def FirstHashAt (updates : List PublishedUpdate) (height : Option Nat) (hash : String) : Prop :=
  ∃ before update after, updates = before ++ update :: after ∧
    (∀ earlier ∈ before, blockHeight earlier.message ≠ height) ∧
    blockHeight update.message = height ∧ updateBlockHash update.message = some hash

/-- What `info` says of the window, and promises a subscription at the same
moment. -/
structure SubscribeReplayInfoResponse.Exact (info : SubscribeReplayInfoResponse)
    (buffer : ReplayBuffer) (now : Nat) : Prop where
  ready : info.replayReady = true ↔ buffer.retained ≠ []
  together : info.firstAvailableHeight.isSome = info.replayReady ∧
    info.latestHeight.isSome = info.replayReady ∧
    info.firstAvailableSequence.isSome = info.replayReady ∧
    info.latestSequence.isSome = info.replayReady ∧
    info.firstAvailableHash.isSome = info.replayReady ∧ info.latestHash.isSome = info.replayReady
  capacity : info.retainedBlockCapacity = min buffer.limits.heightCapacity u32Max
  session : info.sessionId = (buffer.retained.head?.map (·.message.sessionId)).getD []
  ends : info.firstAvailableSequence = buffer.retained.head?.map (·.message.sequence) ∧
    info.latestSequence = buffer.retained.getLast?.map (·.message.sequence)
  sequences : ∀ update ∈ buffer.retained,
    (∀ first, info.firstAvailableSequence = some first → first ≤ update.message.sequence) ∧
      ∀ latest, info.latestSequence = some latest → update.message.sequence ≤ latest
  heights : ∀ update ∈ buffer.retained, ∃ height, blockHeight update.message = some height ∧
    (∀ first, info.firstAvailableHeight = some first → first ≤ height) ∧
      ∀ latest, info.latestHeight = some latest → height ≤ latest
  firstHash : ∀ hash, info.firstAvailableHash = some hash →
    FirstHashAt buffer.retained info.firstAvailableHeight hash
  latestHash : ∀ hash, info.latestHash = some hash →
    FirstHashAt buffer.retained.reverse info.latestHeight hash
  subscribes : ∀ request : SubscribeRequest, request.resume = none →
    ∀ height, request.fromHeight = some height → ∃ result,
      subscribeReplay buffer request now = some (buffer, result) ∧
      ((∀ first, info.firstAvailableHeight = some first → height < first) → OutOfRange result) ∧
      ∀ first, info.firstAvailableHeight = some first → first ≤ height →
        ∃ snapshot, result = .ok snapshot ∧ info.latestSequence = some snapshot.watermark ∧
          (height = first → snapshot.updates = buffer.retained)

/-! ## The window -/

theorem isSome_updateBlockHash (update : SubscribeUpdate) :
    (updateBlockHash update).isSome = (blockHeight update).isSome := by
  unfold updateBlockHash blockHeight
  cases update.update with
  | none => rfl
  | some payload => cases payload <;> rfl

namespace ReplayBuffer

variable {buffer buffer' : ReplayBuffer} {now : Nat}

/-- A second eviction at the same moment does nothing. -/
theorem evict_evict (h : buffer.evict now = some buffer') : buffer'.evict now = some buffer' := by
  have hnone := (evict_invariant (I := fun _ => True) (fun _ _ _ => trivial) h trivial).2
  unfold evict
  cases buffer'.buckets.length with
  | zero =>
    rw [evictLoop, hnone]
    rfl
  | succ fuel =>
    rw [evictLoop, hnone]

section
variable {updates : List PublishedUpdate} (hretains : Retains updates buffer.buckets)
include hretains

theorem firstUpdate_eq : buffer.firstUpdate = buffer.retained.head? := by
  unfold firstUpdate retained
  cases hb : buffer.buckets with
  | nil => rfl
  | cons bucket rest =>
    have hne := hretains.nonempty bucket (by rw [hb]; exact List.mem_cons_self)
    rw [List.head?_cons, Option.bind_some, List.flatMap_cons, List.head?_append_of_ne_nil _ hne]

theorem lastUpdate_eq : buffer.lastUpdate = buffer.retained.getLast? := by
  unfold lastUpdate retained
  rcases List.eq_nil_or_concat buffer.buckets with hb | ⟨rest, bucket, hb⟩
  · rw [hb]
    rfl
  · have hne := hretains.nonempty bucket (by rw [hb]; simp)
    rw [hb, List.concat_eq_append, List.getLast?_concat, Option.bind_some, List.flatMap_append,
      List.flatMap_singleton, List.getLast?_append_of_ne_nil _ hne]

theorem retained_eq_nil : buffer.retained = [] ↔ buffer.buckets = [] := by
  refine ⟨fun h => ?_, fun h => by rw [retained, h]; rfl⟩
  by_contra hne
  obtain ⟨bucket, hmem⟩ := List.exists_mem_of_ne_nil _ hne
  exact hretains.nonempty bucket hmem (List.flatMap_eq_nil_iff.mp h bucket hmem)

/-- A retained update has the height of its bucket. -/
theorem mem_retained {update : PublishedUpdate} :
    update ∈ buffer.retained ↔ ∃ bucket ∈ buffer.buckets, update ∈ bucket.updates ∧
      blockHeight update.message = some bucket.height := by
  rw [retained, List.mem_flatMap]
  exact ⟨fun ⟨bucket, hbucket, hmem⟩ =>
    ⟨bucket, hbucket, hmem, hretains.height bucket hbucket update hmem⟩,
    fun ⟨bucket, hbucket, hmem, _⟩ => ⟨bucket, hbucket, hmem⟩⟩

/-- The updates of a height are those of its buckets. -/
theorem flatMap_filter_height (height : Nat) :
    (buffer.buckets.filter (·.height == height)).flatMap (·.updates) =
      buffer.retained.filter fun update => blockHeight update.message == some height := by
  have hbuckets := hretains.height
  unfold retained
  generalize buffer.buckets = buckets at hbuckets ⊢
  induction buckets with
  | nil => rfl
  | cons bucket rest ih =>
    have hhere := hbuckets bucket List.mem_cons_self
    have hrest := fun other hmem => hbuckets other (List.mem_cons_of_mem bucket hmem)
    rw [List.flatMap_cons, List.filter_append, ← ih hrest, List.filter_cons]
    by_cases heq : bucket.height = height
    · have hall : (bucket.updates.filter fun update =>
          blockHeight update.message == some height) = bucket.updates := by
        refine List.filter_eq_self.mpr fun update hmem => ?_
        rw [hhere update hmem, heq, beq_self_eq_true]
      rw [if_pos (beq_iff_eq.mpr heq), List.flatMap_cons, hall]
    · have hnone : (bucket.updates.filter fun update =>
          blockHeight update.message == some height) = [] := by
        refine List.filter_eq_nil_iff.mpr fun update hmem => ?_
        rw [hhere update hmem, beq_iff_eq, Option.some_inj]
        exact heq
      rw [if_neg (fun hbeq => heq (beq_iff_eq.mp hbeq)), hnone, List.nil_append]

/-- The same from the end. -/
theorem flatMap_reverse_filter_height (height : Nat) :
    (buffer.buckets.reverse.filter (·.height == height)).flatMap (·.updates.reverse) =
      buffer.retained.reverse.filter fun update => blockHeight update.message == some height := by
  rw [List.filter_reverse, List.filter_reverse, ← flatMap_filter_height hretains,
    List.reverse_flatMap]
  rfl

end

/-- The hash that is looked up at a height of the list is its first one. -/
theorem findHash_of_height {updates : List PublishedUpdate} {height : Nat}
    (hheight : ∃ update ∈ updates, blockHeight update.message = some height) :
    ∃ hash, (updates.filter fun update => blockHeight update.message == some height).findSome?
        (fun update => updateBlockHash update.message) = some hash ∧
      FirstHashAt updates (some height) hash := by
  obtain ⟨found, hmem, hfound⟩ := hheight
  obtain ⟨update, hfind⟩ : ∃ update, updates.find?
      (fun update => blockHeight update.message == some height) = some update := by
    rw [← Option.isSome_iff_exists, List.find?_isSome]
    exact ⟨found, hmem, beq_iff_eq.mpr hfound⟩
  obtain ⟨hat, before, after, rfl, hbefore⟩ := List.find?_eq_some_iff_append.mp hfind
  have hother : ∀ earlier ∈ before, blockHeight earlier.message ≠ some height :=
    fun earlier hearlier heq => by simpa [heq] using hbefore earlier hearlier
  obtain ⟨hash, hhash⟩ : ∃ hash, updateBlockHash update.message = some hash := by
    rw [← Option.isSome_iff_exists, isSome_updateBlockHash, beq_iff_eq.mp hat]
    rfl
  refine ⟨hash, ?_, before, update, after, rfl, hother, beq_iff_eq.mp hat, hhash⟩
  have hnone : (before.filter fun update => blockHeight update.message == some height) = [] :=
    List.filter_eq_nil_iff.mpr fun earlier hearlier => by simpa using hother earlier hearlier
  rw [List.filter_append, hnone, List.nil_append, List.filter_cons, if_pos hat,
    List.findSome?_cons, hhash]

/-! ## The answer -/

theorem max?_congr {l l' : List Nat} (h : ∀ a, a ∈ l ↔ a ∈ l') : l.max? = l'.max? := by
  cases hmax : l.max? with
  | none =>
    rw [List.max?_eq_none_iff] at hmax
    subst hmax
    have hnil : l' = [] :=
      List.eq_nil_iff_forall_not_mem.mpr fun a ha => by simpa using (h a).mpr ha
    rw [hnil]
    rfl
  | some a =>
    obtain ⟨hmem, hle⟩ := List.max?_eq_some_iff.mp hmax
    exact (List.max?_eq_some_iff.mpr
      ⟨(h a).mp hmem, fun b hb => hle b ((h b).mpr hb)⟩).symm

theorem Bounded.latestHeight (h : buffer.Bounded) :
    buffer.latestHeight = (heights buffer.buckets).max? :=
  max?_congr fun a => h.counts.mem_keys a

/-- The replay part of a subscription without a checkpoint, right behind the
eviction. -/
theorem subscribeReplay_at (hevict : buffer.evict now = some buffer) {request : SubscribeRequest}
    (hresume : request.resume = none) :
    subscribeReplay buffer request now =
      some (buffer, buffer.readSnapshot request.fromHeight) := by
  have hheight : replayHeight request = .ok request.fromHeight := by
    rw [replayHeight, hresume]
  rw [subscribeReplay, hheight, hresume]
  dsimp only [Option.map_none]
  rw [snapshot, hevict]
  rfl

section
variable {updates : List PublishedUpdate} (h : buffer.Bounded)
  (hretains : Retains updates buffer.buckets)
include h hretains

omit hretains in
/-- The first available height is the lowest retained. -/
theorem firstAvailableHeight_spec {height : Nat}
    (hfirst : buffer.firstAvailableHeight = some height) :
    height ∈ heights buffer.buckets ∧ ∀ other ∈ heights buffer.buckets, height ≤ other := by
  rw [h.firstAvailableHeight] at hfirst
  exact List.min?_eq_some_iff.mp hfirst

omit hretains in
/-- The latest height is the highest retained. -/
theorem latestHeight_spec {height : Nat} (hlatest : buffer.latestHeight = some height) :
    height ∈ heights buffer.buckets ∧ ∀ other ∈ heights buffer.buckets, other ≤ height := by
  rw [h.latestHeight] at hlatest
  exact List.max?_eq_some_iff.mp hlatest

omit h in
/-- Some retained update has a retained height. -/
theorem exists_at_height {height : Nat} (hmem : height ∈ heights buffer.buckets) :
    ∃ update ∈ buffer.retained, blockHeight update.message = some height := by
  obtain ⟨bucket, hbucket, rfl⟩ := List.mem_map.mp hmem
  obtain ⟨update, hin⟩ := List.exists_mem_of_ne_nil _ (hretains.nonempty bucket hbucket)
  exact ⟨update, List.mem_flatMap.mpr ⟨bucket, hbucket, hin⟩,
    hretains.height bucket hbucket update hin⟩

theorem firstHash_spec {height : Nat} (hfirst : buffer.firstAvailableHeight = some height) :
    ∃ hash, buffer.firstHash = some hash ∧ FirstHashAt buffer.retained (some height) hash := by
  obtain ⟨hmem, -⟩ := firstAvailableHeight_spec h hfirst
  rw [firstHash, hfirst, Option.bind_some, flatMap_filter_height hretains]
  exact findHash_of_height (exists_at_height hretains hmem)

theorem latestHash_spec {height : Nat} (hlatest : buffer.latestHeight = some height) :
    ∃ hash, buffer.latestHash = some hash ∧
      FirstHashAt buffer.retained.reverse (some height) hash := by
  obtain ⟨hmem, -⟩ := latestHeight_spec h hlatest
  rw [latestHash, hlatest, Option.bind_some, flatMap_reverse_filter_height hretains]
  obtain ⟨update, hin, hat⟩ := exists_at_height hretains hmem
  exact findHash_of_height ⟨update, List.mem_reverse.mpr hin, hat⟩

omit h in
/-- The heights between which the retained updates lie. -/
theorem heights_of_retained {update : PublishedUpdate} (hmem : update ∈ buffer.retained) :
    ∃ height ∈ heights buffer.buckets, blockHeight update.message = some height := by
  obtain ⟨bucket, hbucket, -, hat⟩ := (mem_retained hretains).mp hmem
  exact ⟨bucket.height, List.mem_map_of_mem hbucket, hat⟩

/-- What a subscription gets of the window. -/
theorem subscribes_retained (hevict : buffer.evict now = some buffer) {request : SubscribeRequest}
    (hresume : request.resume = none) {height : Nat} (hfrom : request.fromHeight = some height) :
    ∃ result, subscribeReplay buffer request now = some (buffer, result) ∧
      ((∀ first, buffer.firstAvailableHeight = some first → height < first) → OutOfRange result) ∧
      ∀ first, buffer.firstAvailableHeight = some first → first ≤ height →
        ∃ snapshot, result = .ok snapshot ∧
          buffer.lastUpdate.map (·.message.sequence) = some snapshot.watermark ∧
          (height = first → snapshot.updates = buffer.retained) := by
  refine ⟨_, subscribeReplay_at hevict hresume, fun hbelow => ?_, fun first hfirst hle => ?_⟩
  · rw [h.outOfRange_readSnapshot]
    refine ⟨height, hfrom, fun bucket hbucket => ?_⟩
    have hat := List.mem_map_of_mem (f := ReplayBucket.height) hbucket
    cases hfirst : buffer.firstAvailableHeight with
    | none =>
      rw [h.firstAvailableHeight, List.min?_eq_none_iff] at hfirst
      exact absurd hfirst (List.ne_nil_of_mem hat)
    | some first =>
      exact (hbelow first hfirst).trans_le ((firstAvailableHeight_spec h hfirst).2 _ hat)
  · obtain ⟨hmem, hleast⟩ := firstAvailableHeight_spec h hfirst
    have hcheck : buffer.checkAvailable (some height) = .ok () := by
      rw [checkAvailable, hfirst]
      exact if_neg (not_lt.mpr hle)
    refine ⟨{ updates := buffer.updatesFrom height, watermark := buffer.watermark }, ?_, ?_, ?_⟩
    · rw [hfrom, readSnapshot, hcheck]
      rfl
    · have hlast := lastUpdate_eq hretains
      obtain ⟨last, hsome⟩ : ∃ last, buffer.lastUpdate = some last := by
        obtain ⟨found, hfound, -⟩ := exists_at_height hretains hmem
        rw [hlast]
        exact ⟨_, List.getLast?_eq_some_getLast (List.ne_nil_of_mem hfound)⟩
      have hwatermark : buffer.watermark =
          ((buffer.lastUpdate.map (·.message.sequence)).getD 0) := rfl
      rw [hwatermark, hsome]
      rfl
    · intro heq
      subst heq
      have hall : buffer.buckets.filter (fun bucket => height ≤ bucket.height) = buffer.buckets :=
        List.filter_eq_self.mpr fun bucket hbucket =>
          decide_eq_true (hleast _ (List.mem_map_of_mem hbucket))
      show (buffer.buckets.filter fun bucket => height ≤ bucket.height).flatMap (·.updates) = _
      rw [hall]
      rfl

omit h hretains in
/-- The ends of increasing sequences bound them. -/
theorem sequence_bounds {window : List PublishedUpdate} (hinc : Increasing window)
    {update : PublishedUpdate} (hmem : update ∈ window) :
    (∀ first, window.head? = some first → first.message.sequence ≤ update.message.sequence) ∧
      ∀ last, window.getLast? = some last → update.message.sequence ≤ last.message.sequence := by
  refine ⟨fun first hfirst => ?_, fun last hlast => ?_⟩
  · obtain ⟨rest, rfl⟩ := List.head?_eq_some_iff.mp hfirst
    rcases List.mem_cons.mp hmem with rfl | hin
    · exact le_rfl
    · exact ((List.pairwise_cons.mp hinc.order).1 update hin).le
  · obtain ⟨init, rfl⟩ := List.getLast?_eq_some_iff.mp hlast
    rcases List.mem_append.mp hmem with hin | hin
    · exact ((List.pairwise_append.mp hinc.order).2.2 update hin last
        (List.mem_singleton.mpr rfl)).le
    · rw [List.mem_singleton.mp hin]

/-- Both heights are reported, unless the window is empty. -/
theorem isSome_heights :
    buffer.firstAvailableHeight.isSome = !buffer.retained.isEmpty ∧
      buffer.latestHeight.isSome = !buffer.retained.isEmpty := by
  have hempty : buffer.retained.isEmpty = (heights buffer.buckets).isEmpty := by
    rw [Bool.eq_iff_iff, List.isEmpty_iff, List.isEmpty_iff, retained_eq_nil hretains, heights,
      List.map_eq_nil_iff]
  rw [hempty, h.firstAvailableHeight, h.latestHeight]
  cases heights buffer.buckets <;> exact ⟨rfl, rfl⟩

/-- A hash is reported with its height. -/
theorem isSome_hashes :
    buffer.firstHash.isSome = buffer.firstAvailableHeight.isSome ∧
      buffer.latestHash.isSome = buffer.latestHeight.isSome := by
  constructor
  · cases hfirst : buffer.firstAvailableHeight with
    | none =>
      rw [firstHash, hfirst]
      rfl
    | some height =>
      obtain ⟨hash, hhash, -⟩ := firstHash_spec h hretains hfirst
      rw [hhash]
      rfl
  · cases hlatest : buffer.latestHeight with
    | none =>
      rw [latestHash, hlatest]
      rfl
    | some height =>
      obtain ⟨hash, hhash, -⟩ := latestHash_spec h hretains hlatest
      rw [hhash]
      rfl

/-- **The window is what the answer says.** -/
theorem exact_replayInfo (hinc : Increasing updates) (hevict : buffer.evict now = some buffer) :
    buffer.replayInfo.Exact buffer now := by
  have hincreasing : Increasing buffer.retained := hretains.increasing hinc
  have hfirst := firstUpdate_eq hretains
  have hlast := lastUpdate_eq hretains
  have hready : buffer.replayInfo.replayReady = true ↔ buffer.retained ≠ [] := by
    show buffer.firstUpdate.isSome = true ↔ _
    rw [hfirst, List.isSome_head?]
  refine ⟨hready, ?_, rfl, by rw [← hfirst]; rfl, ⟨by rw [← hfirst]; rfl, by rw [← hlast]; rfl⟩,
    fun update hmem => ⟨fun first hsome => ?_, fun latest hsome => ?_⟩,
    fun update hmem => ?_, fun hash hsome => ?_, fun hash hsome => ?_,
    fun request hresume height hfrom => subscribes_retained h hretains hevict hresume hfrom⟩
  · -- The answer is about an empty window, or has all its fields.
    show buffer.firstAvailableHeight.isSome = buffer.firstUpdate.isSome ∧
      buffer.latestHeight.isSome = buffer.firstUpdate.isSome ∧
      (buffer.firstUpdate.map (·.message.sequence)).isSome = buffer.firstUpdate.isSome ∧
      (buffer.lastUpdate.map (·.message.sequence)).isSome = buffer.firstUpdate.isSome ∧
      buffer.firstHash.isSome = buffer.firstUpdate.isSome ∧
      buffer.latestHash.isSome = buffer.firstUpdate.isSome
    obtain ⟨hheight, hheight'⟩ := isSome_heights h hretains
    obtain ⟨hhash, hhash'⟩ := isSome_hashes h hretains
    have hends : buffer.retained.head?.isSome = !buffer.retained.isEmpty ∧
        buffer.retained.getLast?.isSome = !buffer.retained.isEmpty := by
      cases buffer.retained with
      | nil => exact ⟨rfl, rfl⟩
      | cons first rest => exact ⟨rfl, List.getLast?_isSome.mpr (List.cons_ne_nil first rest)⟩
    rw [Option.isSome_map, Option.isSome_map, hfirst, hlast, hhash, hhash', hheight, hheight',
      hends.1, hends.2]
    exact ⟨rfl, rfl, rfl, rfl, rfl, rfl⟩
  · obtain ⟨found, hfound, rfl⟩ := Option.map_eq_some_iff.mp hsome
    exact (sequence_bounds hincreasing hmem).1 found (hfirst ▸ hfound)
  · obtain ⟨found, hfound, rfl⟩ := Option.map_eq_some_iff.mp hsome
    exact (sequence_bounds hincreasing hmem).2 found (hlast ▸ hfound)
  · obtain ⟨height, hheight, hat⟩ := heights_of_retained hretains hmem
    exact ⟨height, hat,
      fun first hfirst => (firstAvailableHeight_spec h hfirst).2 height hheight,
      fun latest hlatest => (latestHeight_spec h hlatest).2 height hheight⟩
  · obtain ⟨height, hheight, -⟩ := Option.bind_eq_some_iff.mp hsome
    obtain ⟨hash', hhash, hat⟩ := firstHash_spec h hretains hheight
    cases hsome.symm.trans hhash
    show FirstHashAt buffer.retained buffer.firstAvailableHeight hash
    rw [hheight]
    exact hat
  · obtain ⟨height, hheight, -⟩ := Option.bind_eq_some_iff.mp hsome
    obtain ⟨hash', hhash, hat⟩ := latestHash_spec h hretains hheight
    cases hsome.symm.trans hhash
    show FirstHashAt buffer.retained.reverse buffer.latestHeight hash
    rw [hheight]
    exact hat

end

end ReplayBuffer

/-! ## The call -/

namespace GrpcService

variable {service : GrpcService} {config : ServerConfig}

/-- `authorize`, then `replay_info`: the service behind the call, and the answer. -/
def subscribeReplayInfo (config : ServerConfig) (service : GrpcService) (request : RpcRequest)
    (now : Nat) : Option (GrpcService × Except Status SubscribeReplayInfoResponse) :=
  match TokenAuth.authorize ⟨config.xToken⟩ request with
  | .error status => some (service, .error status)
  | .ok () =>
    (service.plugin.state.replay.evict now).map fun replay =>
      (service.withReplay replay, .ok replay.replayInfo)

section
variable [ZakuraChain] [WireFormat]

/-- The call is the step of the service. -/
theorem step_replayInfo (hopen : service.closed = false) (request : RpcRequest) (now : Nat) :
    service.step config (.replayInfo request now) =
      (service.subscribeReplayInfo config request now).map Prod.fst := by
  have hevict : service.onPlugin (·.publish (.evict now)) =
      (service.plugin.state.replay.evict now).map service.withReplay := by
    rw [onPlugin, whileOpen, if_neg (Bool.eq_false_iff.mp hopen), GrpcPlugin.publish,
      Publication.step, Publication.evict]
    cases service.plugin.state.replay.evict now <;> rfl
  rw [step, whileOpen, if_neg (Bool.eq_false_iff.mp hopen), hevict, subscribeReplayInfo]
  cases TokenAuth.authorize ⟨config.xToken⟩ request with
  | error status => rfl
  | ok _ =>
    dsimp only
    rw [Option.map_map]
    rfl

/-- **Replay information.** In every run a call gets the status of its token, or an
answer that describes the window that is left behind it, and a subscription at that
moment gets what the answer says. -/
theorem replay_info_exact {events : List ServiceEvent}
    (hrun : runs (step config) (new config) events = some service)
    (hopen : service.closed = false) (request : RpcRequest) (now : Nat) :
    ∃ service' result, service.subscribeReplayInfo config request now = some (service', result) ∧
      service.step config (.replayInfo request now) = some service' ∧
      (∀ status, result = .error status ↔
        TokenAuth.authorize ⟨config.xToken⟩ request = .error status) ∧
      ∀ info, result = .ok info → info.Exact service'.plugin.state.replay now := by
  have hnumbered := (sound_runs hrun).numbered
  obtain ⟨replay, hevict⟩ := hnumbered.bounded.evict_isSome now
  have hexact : replay.replayInfo.Exact replay now := by
    refine ReplayBuffer.exact_replayInfo (hnumbered.bounded.evict hevict)
      (hnumbered.published.retains.of_suffix (ReplayBuffer.evict_suffix hevict).1)
      hnumbered.published.increasing_pushed (ReplayBuffer.evict_evict hevict)
  rw [step_replayInfo hopen, subscribeReplayInfo]
  cases TokenAuth.authorize ⟨config.xToken⟩ request with
  | error status =>
    refine ⟨service, .error status, rfl, rfl, fun status' => ?_, fun info heq => ?_⟩
    · rw [Except.error.injEq, Except.error.injEq]
    · cases heq
  | ok _ =>
    dsimp only
    rw [hevict]
    refine ⟨service.withReplay replay, .ok replay.replayInfo, rfl, rfl, fun status => ?_,
      fun info heq => ?_⟩
    · exact iff_of_false (fun heq => nomatch heq) (fun heq => nomatch heq)
    · cases heq
      exact hexact

end

/-- A block is pushed and half sent. -/
theorem replay_info_exact_sample : ∃ service service' : GrpcService, ∃ result,
    runs (@step hexChain protoWire sampleServerConfig) (new sampleServerConfig)
      [.onEvent sampleEvent, .push 5, .send] = some service ∧
    service.subscribeReplayInfo sampleServerConfig sampleRpc 6 = some (service', result) ∧
    @step hexChain protoWire sampleServerConfig service (.replayInfo sampleRpc 6) =
      some service' ∧
    (∀ status, result = .error status ↔
      TokenAuth.authorize ⟨sampleServerConfig.xToken⟩ sampleRpc = .error status) ∧
    (∀ info, result = .ok info → info.Exact service'.plugin.state.replay 6) ∧
    ∃ info, result = .ok info ∧ info.firstAvailableHeight = some 9 := by
  have hsome : ((runs (@step hexChain protoWire sampleServerConfig) (new sampleServerConfig)
      [.onEvent sampleEvent, .push 5, .send]).filter fun service =>
        service.closed = false ∧ (service.subscribeReplayInfo sampleServerConfig sampleRpc 6).any
          fun answer => answer.2.toOption.any (·.firstAvailableHeight = some 9)).isSome = true := by
    decide +kernel
  obtain ⟨service, hsome⟩ := Option.isSome_iff_exists.mp hsome
  obtain ⟨hrun, hstate⟩ := Option.filter_eq_some_iff.mp hsome
  obtain ⟨hopen, hanswer⟩ := of_decide_eq_true hstate
  obtain ⟨service', result, hinfo, hstep, hstatus, hexact⟩ := @replay_info_exact service
    sampleServerConfig hexChain protoWire _ hrun hopen sampleRpc 6
  refine ⟨service, service', result, hrun, hinfo, hstep, hstatus, hexact, ?_⟩
  rw [hinfo, Option.any_some] at hanswer
  cases result with
  | error status => cases hanswer
  | ok info => exact ⟨info, rfl, of_decide_eq_true hanswer⟩

end GrpcService

end ZakuraGrpc
