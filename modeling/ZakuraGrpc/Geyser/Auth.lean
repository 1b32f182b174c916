import ZakuraGrpc.Lib.Counter
import ZakuraGrpc.Lib.Runs
import ZakuraGrpc.Geyser.Replay

/-!
# Concurrent subscriptions

`SubscriptionTracker` counts the live streams of each subscriber and, when it
enforces its limit, refuses further ones. A stream holds a `SubscriptionGuard`;
dropping the guard gives its place back. Calls and drops hold the lock of the
table from beginning to end, so a step below is one of them.

In every run the table counts the guards that are alive (`exact_accounts`).
-/

namespace ZakuraGrpc

open Runs

/-! ## Subscribers -/

/-- What `acquire` reads of a request: the value of its `x-subscription-id`
metadata and the IP address of its peer. -/
structure SubscriptionRequest where
  subscriptionId : Option Bytes := none
  remoteIp : Option String := none

def isVisibleAscii (byte : UInt8) : Bool := (32 ≤ byte && byte < 127) || byte == 9

/-- `MetadataValue::to_str`. -/
def metadataToStr? (value : Bytes) : Option String :=
  if value.all isVisibleAscii then
    some (String.ofList (value.map fun byte => Char.ofNat byte.toNat))
  else none

def SubscriptionRequest.subscriberId (request : SubscriptionRequest) : String :=
  (((request.subscriptionId.bind metadataToStr?).filter fun value => !value.isEmpty).or
    request.remoteIp).getD "anonymous"

/-! ## The tracker -/

structure SubscriptionTracker where
  counts : Std.TreeMap String Nat
  limit : Nat
  limit_pos : 0 < limit
  enforce : Bool

structure SubscriptionGuard where
  subscriberId : String
  deriving DecidableEq

def resourceExhausted (message : String) : Status := ⟨.resourceExhausted, message⟩

namespace SubscriptionTracker

def new (limit : Nat) (limit_pos : 0 < limit) (enforce : Bool) : SubscriptionTracker where
  counts := ∅
  limit := limit
  limit_pos := limit_pos
  enforce := enforce

/-- `counts.entry(subscriber_id).or_default()`. -/
def orDefault (counts : Std.TreeMap String Nat) (id : String) : Std.TreeMap String Nat :=
  if counts.contains id then counts else counts.insert id 0

/-- The table keeps the entry when the request is refused. -/
def acquire (tracker : SubscriptionTracker) (request : SubscriptionRequest) :
    Except Status SubscriptionGuard × SubscriptionTracker :=
  let id := request.subscriberId
  let counts := orDefault tracker.counts id
  let count := counts.getD id 0
  if tracker.limit ≤ count ∧ tracker.enforce then
    (.error (resourceExhausted
      s!"subscriber {debugQuote id} reached the concurrent subscription limit ({tracker.limit})"),
      { tracker with counts := counts })
  else (.ok ⟨id⟩, { tracker with counts := counts.insert id (saturatingAdd count 1) })

/-- `SubscriptionGuard::drop`. -/
def release (tracker : SubscriptionTracker) (guard : SubscriptionGuard) : SubscriptionTracker :=
  match tracker.counts[guard.subscriberId]? with
  | none => tracker
  | some count =>
    let counts := tracker.counts.insert guard.subscriberId (count - 1)
    { tracker with
      counts := if count - 1 = 0 then counts.erase guard.subscriberId else counts }

end SubscriptionTracker

/-! ## Tracker and guards -/

def isizeMax : Nat := 2 ^ 63 - 1

/-- The tracker and the guards that are alive. -/
structure Subscriptions where
  tracker : SubscriptionTracker
  guards : List SubscriptionGuard

inductive SubscriptionEvent where
  | acquire (request : SubscriptionRequest)
  | drop (guard : SubscriptionGuard)

namespace Subscriptions

def new (limit : Nat) (limit_pos : 0 < limit) (enforce : Bool) : Subscriptions where
  tracker := .new limit limit_pos enforce
  guards := []

/-- A guard holds a reference to the table, as the tracker does. `Arc::clone`
aborts the process rather than count more than `isize::MAX` of them. -/
def step (subscriptions : Subscriptions) : SubscriptionEvent → Option Subscriptions
  | .acquire request =>
    match subscriptions.tracker.acquire request with
    | (.error _, tracker) => some { subscriptions with tracker := tracker }
    | (.ok guard, tracker) =>
      if subscriptions.guards.length < isizeMax then
        some { tracker := tracker, guards := guard :: subscriptions.guards }
      else none
  | .drop guard =>
    if guard ∈ subscriptions.guards then
      some
        { tracker := subscriptions.tracker.release guard
          guards := subscriptions.guards.erase guard }
    else none

/-- The subscribers of the guards that are alive. -/
def subscribers (subscriptions : Subscriptions) : List String :=
  subscriptions.guards.map (·.subscriberId)

/-- How many guards of the subscriber are alive. -/
def live (subscriptions : Subscriptions) (id : String) : Nat := subscriptions.subscribers.count id

end Subscriptions

/-! ## One call, one drop -/

namespace SubscriptionTracker

open Counter

variable {tracker : SubscriptionTracker} {ids : List String}

theorem getD_orDefault (counts : Std.TreeMap String Nat) (id : String) :
    (orDefault counts id).getD id 0 = counts.getD id 0 := by
  unfold orDefault
  split
  · rfl
  · rename_i hnew
    rw [Std.TreeMap.getD_insert_self, Std.TreeMap.getD_eq_fallback_of_contains_eq_false]
    exact Bool.eq_false_iff.mpr hnew

theorem getElem?_insert_orDefault (counts : Std.TreeMap String Nat) (id : String) (count : Nat)
    (other : String) : ((orDefault counts id).insert id count)[other]? =
      (counts.insert id count)[other]? := by
  unfold orDefault
  split
  · rfl
  · simp only [Std.TreeMap.getElem?_insert]
    split <;> rfl

/-- The entry of a subscriber at the limit is there before the call. -/
theorem orDefault_of_counts (h : Counts tracker.counts ids) {id : String}
    (hlimit : tracker.limit ≤ ids.count id) : orDefault tracker.counts id = tracker.counts := by
  have hpos : 0 < ids.count id := Nat.lt_of_lt_of_le tracker.limit_pos hlimit
  have hmem : id ∈ tracker.counts := by
    rw [← Std.TreeMap.mem_keys, h.mem_keys]
    exact List.count_pos_iff.mp hpos
  exact if_pos (Std.TreeMap.mem_iff_contains.mp hmem)

/-- **A call at an enforced limit** is refused and changes nothing. -/
theorem acquire_refused (h : Counts tracker.counts ids) {request : SubscriptionRequest}
    (hlimit : tracker.limit ≤ ids.count request.subscriberId ∧ tracker.enforce = true) :
    ∃ status, tracker.acquire request = (.error status, tracker) := by
  unfold acquire
  dsimp only
  rw [getD_orDefault, h.getD_eq, if_pos hlimit, orDefault_of_counts h hlimit.1]
  exact ⟨_, rfl⟩

/-- **Any other call** gets a guard, and the table counts it. -/
theorem acquire_admitted (h : Counts tracker.counts ids) {request : SubscriptionRequest}
    (hroom : ¬ (tracker.limit ≤ ids.count request.subscriberId ∧ tracker.enforce = true))
    (hfits : ids.length < usizeMax) :
    ∃ counts, tracker.acquire request =
        (.ok ⟨request.subscriberId⟩, { tracker with counts := counts }) ∧
      Counts counts (request.subscriberId :: ids) := by
  have hcount : saturatingAdd (ids.count request.subscriberId) 1 =
      ids.count request.subscriberId + 1 := by
    have hle : ids.count request.subscriberId ≤ ids.length := List.count_le_length
    unfold saturatingAdd
    omega
  unfold acquire
  dsimp only
  rw [getD_orDefault, h.getD_eq, if_neg hroom, hcount]
  refine ⟨_, rfl, (h.acquire request.subscriberId).congr fun id => ?_⟩
  rw [getElem?_insert_orDefault, Counter.acquire, h.getD_eq]

/-- **A drop** takes the guard off the table. -/
theorem release_counts {guard : SubscriptionGuard}
    (h : Counts tracker.counts (guard.subscriberId :: ids)) :
    ∃ counts, tracker.release guard = { tracker with counts := counts } ∧ Counts counts ids := by
  have hentry : tracker.counts[guard.subscriberId]? =
      some (ids.count guard.subscriberId + 1) := by
    rw [h guard.subscriberId, List.count_cons_self, entry_succ]
  unfold release
  rw [hentry]
  refine ⟨_, rfl, h.release.congr fun id => ?_⟩
  rw [Counter.release, hentry]
  dsimp only
  split
  · rw [Std.TreeMap.getElem?_erase, Std.TreeMap.getElem?_insert, Std.TreeMap.getElem?_erase]
    split <;> rfl
  · rfl

end SubscriptionTracker

/-! ## Runs -/

namespace Subscriptions

open Counter

variable {subscriptions subscriptions' : Subscriptions}

/-- The table counts the guards alive, and an enforced limit holds. -/
structure Accounted (limit : Nat) (enforce : Bool) (subscriptions : Subscriptions) : Prop where
  limit_eq : subscriptions.tracker.limit = limit
  enforce_eq : subscriptions.tracker.enforce = enforce
  counts : Counts subscriptions.tracker.counts subscriptions.subscribers
  limited : enforce = true → ∀ id, subscriptions.live id ≤ limit
  length_le : subscriptions.guards.length ≤ isizeMax

variable {limit : Nat} {enforce : Bool}

theorem accounted_new (limit_pos : 0 < limit) :
    (new limit limit_pos enforce).Accounted limit enforce where
  limit_eq := rfl
  enforce_eq := rfl
  counts := Counts.empty
  limited _ _ := Nat.zero_le _
  length_le := Nat.zero_le _

/-- The counts of a reached state fit in `usize`. -/
theorem Accounted.fits (h : subscriptions.Accounted limit enforce) :
    subscriptions.subscribers.length < usizeMax := by
  have hle : isizeMax < usizeMax := by decide
  rw [subscribers, List.length_map]
  exact Nat.lt_of_le_of_lt h.length_le hle

/-- The two outcomes of a call. -/
theorem Accounted.acquire (h : subscriptions.Accounted limit enforce)
    (request : SubscriptionRequest) :
    ((limit ≤ subscriptions.live request.subscriberId ∧ enforce = true) ∧
      ∃ status, subscriptions.tracker.acquire request = (.error status, subscriptions.tracker)) ∨
    (¬ (limit ≤ subscriptions.live request.subscriberId ∧ enforce = true) ∧
      ∃ counts, subscriptions.tracker.acquire request =
          (.ok ⟨request.subscriberId⟩, { subscriptions.tracker with counts := counts }) ∧
        Counts counts (request.subscriberId :: subscriptions.subscribers)) := by
  obtain ⟨rfl, rfl, hcounts, -, -⟩ := id h
  by_cases hlimit : subscriptions.tracker.limit ≤ subscriptions.live request.subscriberId ∧
      subscriptions.tracker.enforce = true
  · exact .inl ⟨hlimit, SubscriptionTracker.acquire_refused hcounts hlimit⟩
  · exact .inr ⟨hlimit, SubscriptionTracker.acquire_admitted hcounts hlimit h.fits⟩

theorem Accounted.admit (h : subscriptions.Accounted limit enforce) {id : String}
    (hroom : ¬ (limit ≤ subscriptions.live id ∧ enforce = true)) {counts : Std.TreeMap String Nat}
    (hcounts : Counts counts (id :: subscriptions.subscribers))
    (hlength : subscriptions.guards.length < isizeMax) :
    Accounted limit enforce
      { tracker := { subscriptions.tracker with counts := counts }
        guards := ⟨id⟩ :: subscriptions.guards } where
  limit_eq := h.limit_eq
  enforce_eq := h.enforce_eq
  counts := hcounts
  limited henforce other := by
    show (id :: subscriptions.subscribers).count other ≤ limit
    by_cases hid : id = other
    · subst hid
      have hlt : subscriptions.live id < limit :=
        Nat.lt_of_not_le fun hle => hroom ⟨hle, henforce⟩
      rw [List.count_cons_self]
      exact hlt
    · rw [List.count_cons_of_ne hid]
      exact h.limited henforce other
  length_le := hlength

theorem Accounted.drop (h : subscriptions.Accounted limit enforce) {guard : SubscriptionGuard}
    (hmem : guard ∈ subscriptions.guards) :
    Accounted limit enforce
      { tracker := subscriptions.tracker.release guard
        guards := subscriptions.guards.erase guard } := by
  have hperm : subscriptions.subscribers.Perm
      (guard.subscriberId :: (subscriptions.guards.erase guard).map (·.subscriberId)) :=
    (List.perm_cons_erase hmem).map _
  obtain ⟨counts, hrelease, hcounts⟩ :=
    SubscriptionTracker.release_counts (h.counts.perm hperm)
  rw [hrelease]
  refine ⟨h.limit_eq, h.enforce_eq, hcounts, fun henforce id => ?_, ?_⟩
  · calc ((subscriptions.guards.erase guard).map (·.subscriberId)).count id
        ≤ (guard.subscriberId ::
            (subscriptions.guards.erase guard).map (·.subscriberId)).count id :=
          List.count_le_count_cons
      _ = subscriptions.live id := (hperm.count_eq id).symm
      _ ≤ limit := h.limited henforce id
  · exact Nat.le_trans List.erase_sublist.length_le h.length_le

/-- **Calls and drops keep the accounts.** -/
theorem Accounted.step (h : subscriptions.Accounted limit enforce) {event : SubscriptionEvent}
    (hstep : subscriptions.step event = some subscriptions') :
    subscriptions'.Accounted limit enforce := by
  cases event with
  | acquire request =>
    rcases h.acquire request with ⟨-, status, hacquire⟩ | ⟨hroom, counts, hacquire, hcounts⟩
    · simp only [Subscriptions.step, hacquire] at hstep
      cases hstep
      exact h
    · simp only [Subscriptions.step, hacquire] at hstep
      split at hstep
      · rename_i hlength
        cases hstep
        exact h.admit hroom hcounts hlength
      · cases hstep
  | drop guard =>
    simp only [Subscriptions.step] at hstep
    split at hstep
    · rename_i hmem
      cases hstep
      exact h.drop hmem
    · cases hstep

/-- The accounts as the outside sees them. -/
structure Exact (limit : Nat) (enforce : Bool) (subscriptions : Subscriptions) : Prop where
  counted : ∀ id, subscriptions.tracker.counts[id]? =
    if subscriptions.live id = 0 then none else some (subscriptions.live id)
  limited : enforce = true → ∀ id, subscriptions.live id ≤ limit
  refuses : ∀ request, (∃ status, (subscriptions.tracker.acquire request).1 = .error status) ↔
    enforce = true ∧ subscriptions.live request.subscriberId = limit
  unchanged : ∀ request status, (subscriptions.tracker.acquire request).1 = .error status →
    (subscriptions.tracker.acquire request).2 = subscriptions.tracker
  cleared : subscriptions.guards = [] → subscriptions.tracker.counts.isEmpty = true

theorem Accounted.exact (h : subscriptions.Accounted limit enforce) :
    subscriptions.Exact limit enforce where
  counted := h.counts
  limited := h.limited
  refuses request := by
    rcases h.acquire request with
      ⟨⟨hlimit, henforce⟩, status, hacquire⟩ | ⟨hlimit, counts, hacquire, -⟩
    · rw [hacquire]
      have heq := Nat.le_antisymm (h.limited henforce request.subscriberId) hlimit
      exact ⟨fun _ => ⟨henforce, heq⟩, fun _ => ⟨status, rfl⟩⟩
    · rw [hacquire]
      refine ⟨fun ⟨status, herror⟩ => (nomatch herror), fun ⟨henforce, heq⟩ => ?_⟩
      exact absurd ⟨Nat.le_of_eq heq.symm, henforce⟩ hlimit
  unchanged request status herror := by
    rcases h.acquire request with ⟨-, status, hacquire⟩ | ⟨-, counts, hacquire, -⟩
    · rw [hacquire]
    · rw [hacquire] at herror
      cases herror
  cleared hguards := by
    have hcounts := h.counts
    rw [subscribers, hguards] at hcounts
    exact hcounts.isEmpty

/-- **Exact accounts.** After any calls and drops the table holds the number of
live guards of each subscriber that has one. An enforced limit is never
exceeded, and a call is refused only at the limit, without a trace. -/
theorem exact_accounts {limit : Nat} (limit_pos : 0 < limit) (enforce : Bool)
    {events : List SubscriptionEvent} {subscriptions : Subscriptions}
    (hrun : runs step (new limit limit_pos enforce) events = some subscriptions) :
    subscriptions.Exact limit enforce := by
  refine Accounted.exact ?_
  exact runs_invariant (fun _ _ _ hstep h => h.step hstep) hrun (accounted_new limit_pos)

/-- Two subscribers at a limit of one; the second call of the first is refused,
and each gives its place back. -/
def sampleSubscriptions : List SubscriptionEvent :=
  [.acquire { remoteIp := some "10.0.0.1" }, .acquire { remoteIp := some "10.0.0.1" },
   .acquire {}, .drop ⟨"10.0.0.1"⟩, .drop ⟨"anonymous"⟩]

theorem exact_accounts_sample : ∃ subscriptions,
    runs step (new 1 Nat.one_pos true) sampleSubscriptions = some subscriptions ∧
      subscriptions.Exact 1 true := by
  have hsome : (runs step (new 1 Nat.one_pos true) sampleSubscriptions).isSome = true := by
    decide +kernel
  obtain ⟨subscriptions, hrun⟩ := Option.isSome_iff_exists.mp hsome
  exact ⟨subscriptions, hrun, exact_accounts Nat.one_pos true hrun⟩

end Subscriptions

end ZakuraGrpc
