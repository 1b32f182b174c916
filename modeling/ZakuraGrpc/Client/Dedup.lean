import ZakuraGrpc.Geyser.Event

/-!
# Duplicate suppression

The keys of the block-scoped updates already delivered, in buckets by height.
When a bucket opens beyond the retention, the oldest bucket and its keys go.
-/

namespace ZakuraGrpc

/-- Session and sequence of an update. -/
abbrev EventKey := Bytes × Nat

def eventKey (update : SubscribeUpdate) : EventKey := (update.sessionId, update.sequence)

def updateHeight (update : SubscribeUpdate) : Option Nat :=
  match update.update with
  | some (.block block) => some block.height
  | some (.bestChain change) => some change.height
  | some (.transaction transaction) => some transaction.height
  | some (.utxo utxo) => some utxo.height
  | some (.mempool _) | some (.mempoolTransaction _) | some (.ping _) | some (.pong _)
  | some (.reconnect _) | some (.mempoolSnapshot _) | none => none

/-- The client and the server agree on what is block-scoped. -/
theorem updateHeight_eq (update : SubscribeUpdate) : updateHeight update = blockHeight update := by
  unfold updateHeight blockHeight
  cases update.update with
  | none => rfl
  | some kind => cases kind <;> rfl

structure HeightBucket where
  height : Nat
  keys : List EventKey
  deriving DecidableEq

structure DedupState where
  seen : Finset EventKey := ∅
  heights : List HeightBucket := []
  heightRetention : Nat
  deriving DecidableEq

namespace DedupState

/-- `DEFAULT_HEIGHT_RETENTION`. -/
def defaultHeightRetention : Nat := 250

def withHeightRetention (heightRetention : Nat) : DedupState :=
  { heightRetention := heightRetention }

/-- Files a key under its height: the first bucket of that height, or a new one. -/
def fileKey (height : Nat) (key : EventKey) : List HeightBucket → List HeightBucket
  | [] => [{ height := height, keys := [key] }]
  | bucket :: rest =>
    if bucket.height = height then { bucket with keys := bucket.keys ++ [key] } :: rest
    else bucket :: fileKey height key rest

def forget (seen : Finset EventKey) (keys : List EventKey) : Finset EventKey :=
  keys.foldl Finset.erase seen

/-- The loop that pops buckets beyond the retention. -/
def popHeights (heightRetention : Nat) :
    Finset EventKey → List HeightBucket → Finset EventKey × List HeightBucket
  | seen, [] => (seen, [])
  | seen, bucket :: rest =>
    if heightRetention < (bucket :: rest).length then
      popHeights heightRetention (forget seen bucket.keys) rest
    else (seen, bucket :: rest)

/-- Whether the update goes to the application, and the state behind it. -/
def observe (state : DedupState) (update : SubscribeUpdate) : DedupState × Bool :=
  match updateHeight update with
  | none => (state, true)
  | some height =>
    if state.heightRetention = 0 then (state, true)
    else if eventKey update ∈ state.seen then (state, false)
    else
      let (seen, heights) := popHeights state.heightRetention
        (insert (eventKey update) state.seen) (fileKey height (eventKey update) state.heights)
      ({ state with seen := seen, heights := heights }, true)

/-! ## What `observe` does -/

theorem forget_subset (seen : Finset EventKey) (keys : List EventKey) :
    forget seen keys ⊆ seen := by
  induction keys generalizing seen with
  | nil => exact Finset.Subset.refl seen
  | cons key keys ih => exact (ih (seen.erase key)).trans (Finset.erase_subset key seen)

theorem popHeights_subset (heightRetention : Nat) (seen : Finset EventKey)
    (heights : List HeightBucket) : (popHeights heightRetention seen heights).1 ⊆ seen := by
  induction heights generalizing seen with
  | nil => exact Finset.Subset.refl seen
  | cons bucket rest ih =>
    unfold popHeights
    split
    · exact (ih (forget seen bucket.keys)).trans (forget_subset seen bucket.keys)
    · exact Finset.Subset.refl seen

/-- A suppressed update has a height, and its key was seen. -/
theorem observe_false {state : DedupState} {update : SubscribeUpdate}
    (h : (state.observe update).2 = false) :
    (updateHeight update).isSome ∧ eventKey update ∈ state.seen ∧
      (state.observe update).1 = state := by
  unfold observe at h ⊢
  cases hheight : updateHeight update with
  | none => simp [hheight] at h
  | some height =>
    simp only [hheight] at h ⊢
    by_cases hretention : state.heightRetention = 0
    · simp [hretention] at h
    rw [if_neg hretention] at h ⊢
    by_cases hseen : eventKey update ∈ state.seen
    · rw [if_pos hseen]
      exact ⟨rfl, hseen, rfl⟩
    · simp [hseen] at h

/-- Only the key of a forwarded block-scoped update is added. -/
theorem mem_seen_observe {state : DedupState} {update : SubscribeUpdate} {key : EventKey}
    (h : key ∈ (state.observe update).1.seen) : key ∈ state.seen ∨
      key = eventKey update ∧ updateHeight update ≠ none ∧ (state.observe update).2 = true := by
  unfold observe at h ⊢
  cases hheight : updateHeight update with
  | none =>
    rw [hheight] at h
    exact .inl h
  | some height =>
    simp only [hheight] at h ⊢
    by_cases hretention : state.heightRetention = 0
    · rw [if_pos hretention] at h
      exact .inl h
    rw [if_neg hretention] at h ⊢
    by_cases hseen : eventKey update ∈ state.seen
    · rw [if_pos hseen] at h
      exact .inl h
    rw [if_neg hseen] at h ⊢
    rcases Finset.mem_insert.mp (popHeights_subset _ _ _ h) with hnew | hold
    · exact .inr ⟨hnew, by simp, rfl⟩
    · exact .inl hold

end DedupState

end ZakuraGrpc
