import ZakuraGrpc.Client.Dedup

/-!
# What is suppressed

`seen` and the deque of height buckets hold the same keys (`Tidy`), and an
update is suppressed exactly when fewer than `heightRetention` buckets have been
opened since the bucket that its key was stored in (`observe_exact`).

The log of a run records each block-scoped update that was accepted, newest
first, and whether it opened a bucket. The n-th bucket from the back of the
deque is the one with n further openings in the log (`Tracks`).
-/

namespace ZakuraGrpc

namespace DedupState

/-! ## Filing and forgetting -/

theorem mem_forget {seen : Finset EventKey} {keys : List EventKey} {key : EventKey} :
    key ∈ forget seen keys ↔ key ∈ seen ∧ key ∉ keys := by
  induction keys generalizing seen with
  | nil => simp [forget]
  | cons first keys ih =>
    have hcons : forget seen (first :: keys) = forget (seen.erase first) keys := rfl
    rw [hcons, ih, Finset.mem_erase, List.mem_cons, not_or]
    tauto

theorem forget_append (seen : Finset EventKey) (keys keys' : List EventKey) :
    forget seen (keys ++ keys') = forget (forget seen keys) keys' := by
  unfold forget
  rw [List.foldl_append]

/-- The loop drops the oldest buckets and forgets their keys. -/
theorem popHeights_eq (retention : Nat) (seen : Finset EventKey) (heights : List HeightBucket) :
    popHeights retention seen heights =
      (forget seen ((heights.take (heights.length - retention)).flatMap (·.keys)),
        heights.drop (heights.length - retention)) := by
  induction heights generalizing seen with
  | nil => simp [popHeights, forget]
  | cons bucket rest ih =>
    unfold popHeights
    by_cases hlt : retention < (bucket :: rest).length
    · have hlen : (bucket :: rest).length - retention = (rest.length - retention) + 1 := by
        rw [List.length_cons] at hlt ⊢
        omega
      rw [if_pos hlt, ih, hlen, List.take_succ_cons, List.drop_succ_cons, List.flatMap_cons,
        forget_append]
    · have hlen : (bucket :: rest).length - retention = 0 := by omega
      rw [if_neg hlt, hlen]
      rfl

/-- A filed key is one key more. -/
theorem fileKey_keys (height : Nat) (key : EventKey) (heights : List HeightBucket) :
    ((fileKey height key heights).flatMap (·.keys)).Perm (key :: heights.flatMap (·.keys)) := by
  induction heights with
  | nil => exact List.Perm.refl _
  | cons bucket rest ih =>
    unfold fileKey
    split
    · rw [List.flatMap_cons, List.flatMap_cons, List.append_assoc]
      exact List.perm_middle
    · rw [List.flatMap_cons, List.flatMap_cons]
      exact (ih.append_left bucket.keys).trans List.perm_middle

theorem fileKey_of_not_mem {height : Nat} {heights : List HeightBucket}
    (h : height ∉ heights.map (·.height)) (key : EventKey) :
    fileKey height key heights = heights ++ [{ height := height, keys := [key] }] := by
  induction heights with
  | nil => rfl
  | cons bucket rest ih =>
    rw [List.map_cons, List.mem_cons, not_or] at h
    have hne : bucket.height ≠ height := fun heq => h.1 heq.symm
    rw [fileKey, if_neg hne, ih h.2, List.cons_append]

/-- The bucket with the key, where it has the height. -/
def addKey (height : Nat) (key : EventKey) (bucket : HeightBucket) : HeightBucket :=
  if bucket.height = height then { bucket with keys := bucket.keys ++ [key] } else bucket

@[simp] theorem height_addKey (height : Nat) (key : EventKey) (bucket : HeightBucket) :
    (addKey height key bucket).height = bucket.height := by
  unfold addKey
  split <;> rfl

theorem mem_addKey {height : Nat} {key key' : EventKey} {bucket : HeightBucket} :
    key' ∈ (addKey height key bucket).keys ↔
      key' ∈ bucket.keys ∨ bucket.height = height ∧ key' = key := by
  unfold addKey
  split
  · rename_i heq
    rw [List.mem_append, List.mem_singleton]
    tauto
  · rename_i hne
    tauto

theorem fileKey_of_mem {height : Nat} {heights : List HeightBucket}
    (hdistinct : (heights.map (·.height)).Nodup) (h : height ∈ heights.map (·.height))
    (key : EventKey) : fileKey height key heights = heights.map (addKey height key) := by
  induction heights with
  | nil => cases h
  | cons bucket rest ih =>
    rw [List.map_cons, List.nodup_cons] at hdistinct
    rw [List.map_cons, List.mem_cons] at h
    rw [fileKey, List.map_cons]
    by_cases heq : bucket.height = height
    · -- No later bucket has the height.
      have hrest : rest.map (addKey height key) = rest := by
        refine (List.map_congr_left fun other hmem => ?_).trans (List.map_id rest)
        have hne : other.height ≠ height := fun hother =>
          hdistinct.1 (List.mem_map.mpr ⟨other, hmem, hother.trans heq.symm⟩)
        rw [addKey, if_neg hne, id]
      rw [if_pos heq, hrest, addKey, if_pos heq]
    · rcases h with h | h
      · exact absurd h.symm heq
      · rw [if_neg heq, ih hdistinct.2 h, addKey, if_neg heq]

/-! ## The set and the deque -/

/-- The buckets have distinct heights and are no more than the retention, no key
is stored twice, and `seen` is what is stored. -/
structure Tidy (state : DedupState) : Prop where
  distinct : (state.heights.map (·.height)).Nodup
  bounded : state.heights.length ≤ state.heightRetention
  disjoint : (state.heights.flatMap (·.keys)).Nodup
  seen : state.seen = (state.heights.flatMap (·.keys)).toFinset

theorem tidy_new (heightRetention : Nat) : (withHeightRetention heightRetention).Tidy :=
  ⟨List.nodup_nil, Nat.zero_le _, List.nodup_nil, rfl⟩

theorem Tidy.mem_seen {state : DedupState} (h : state.Tidy) {key : EventKey} :
    key ∈ state.seen ↔ ∃ bucket ∈ state.heights, key ∈ bucket.keys := by
  rw [h.seen, List.mem_toFinset, List.mem_flatMap]

/-- The deque after a key is filed under a height. -/
def filed (state : DedupState) (height : Nat) (key : EventKey) : List HeightBucket :=
  let heights := fileKey height key state.heights
  heights.drop (heights.length - state.heightRetention)

/-- `seen` after a key is filed under a height. -/
def retained (state : DedupState) (height : Nat) (key : EventKey) : Finset EventKey :=
  let heights := fileKey height key state.heights
  forget (insert key state.seen)
    ((heights.take (heights.length - state.heightRetention)).flatMap (·.keys))

/-- An accepted block-scoped update is filed. -/
theorem observe_of_not_mem {state : DedupState} {update : SubscribeUpdate} {height : Nat}
    (hheight : updateHeight update = some height) (hpos : 1 ≤ state.heightRetention)
    (hnew : eventKey update ∉ state.seen) :
    state.observe update =
      ({ seen := state.retained height (eventKey update)
         heights := state.filed height (eventKey update)
         heightRetention := state.heightRetention }, true) := by
  unfold observe
  rw [hheight]
  dsimp only
  rw [if_neg (by omega), if_neg hnew, popHeights_eq]
  rfl

theorem observe_of_mem {state : DedupState} {update : SubscribeUpdate} {height : Nat}
    (hheight : updateHeight update = some height) (hpos : 1 ≤ state.heightRetention)
    (hseen : eventKey update ∈ state.seen) : state.observe update = (state, false) := by
  unfold observe
  rw [hheight]
  dsimp only
  rw [if_neg (by omega), if_pos hseen]

theorem observe_of_none {state : DedupState} {update : SubscribeUpdate}
    (h : updateHeight update = none) : state.observe update = (state, true) := by
  unfold observe
  rw [h]

theorem observe_of_zero {state : DedupState} (h : state.heightRetention = 0)
    (update : SubscribeUpdate) : state.observe update = (state, true) := by
  unfold observe
  cases updateHeight update with
  | none => rfl
  | some height => exact if_pos h

theorem nodup_fileKey {height : Nat} {heights : List HeightBucket}
    (h : (heights.map (·.height)).Nodup) (key : EventKey) :
    ((fileKey height key heights).map (·.height)).Nodup := by
  by_cases hmem : height ∈ heights.map (·.height)
  · rw [fileKey_of_mem h hmem, List.map_map]
    have hheights : (·.height) ∘ addKey height key = HeightBucket.height := by
      funext bucket
      exact height_addKey height key bucket
    rw [hheights]
    exact h
  · rw [fileKey_of_not_mem hmem, List.map_append, List.map_singleton]
    exact List.nodup_append_comm.mpr (List.nodup_cons.mpr ⟨hmem, h⟩)

theorem Tidy.file {state : DedupState} (h : state.Tidy) (height : Nat) {key : EventKey}
    (hnew : key ∉ state.seen) :
    Tidy
      { seen := state.retained height key
        heights := state.filed height key
        heightRetention := state.heightRetention } := by
  have hperm := fileKey_keys height key state.heights
  have hkeys : ((fileKey height key state.heights).flatMap (·.keys)).Nodup := by
    rw [hperm.nodup_iff, List.nodup_cons, ← List.mem_toFinset, ← h.seen]
    exact ⟨hnew, h.disjoint⟩
  have hall : insert key state.seen =
      ((fileKey height key state.heights).flatMap (·.keys)).toFinset := by
    rw [List.toFinset_eq_of_perm _ _ hperm, List.toFinset_cons, ← h.seen]
  refine ⟨?_, ?_, ?_, ?_⟩
  · exact ((List.drop_sublist _ _).map _).nodup (nodup_fileKey h.distinct key)
  · simp only [filed, List.length_drop]
    omega
  · exact ((List.drop_sublist _ _).flatMap _).nodup hkeys
  · -- The forgotten keys are those of the dropped buckets, which share none with the rest.
    dsimp only [filed, retained]
    generalize fileKey height key state.heights = heights at hkeys hall
    generalize heights.length - state.heightRetention = count
    have hsplit : heights.flatMap (·.keys) =
        (heights.take count).flatMap (·.keys) ++ (heights.drop count).flatMap (·.keys) := by
      rw [← List.flatMap_append, List.take_append_drop]
    rw [hsplit] at hkeys hall
    have hdisjoint := (List.nodup_append.mp hkeys).2.2
    ext stored
    rw [mem_forget, hall, List.mem_toFinset, List.mem_toFinset, List.mem_append]
    constructor
    · rintro ⟨hdropped | hkept, hnot⟩
      · exact absurd hdropped hnot
      · exact hkept
    · intro hkept
      exact ⟨.inr hkept, fun hdropped => hdisjoint stored hdropped stored hkept rfl⟩

/-- **One observation keeps the set and the deque in step.** -/
theorem Tidy.observe {state : DedupState} (h : state.Tidy) (update : SubscribeUpdate) :
    (state.observe update).1.Tidy := by
  by_cases hzero : state.heightRetention = 0
  · rwa [observe_of_zero hzero]
  cases hheight : updateHeight update with
  | none => rwa [observe_of_none hheight]
  | some height =>
    by_cases hseen : eventKey update ∈ state.seen
    · rwa [observe_of_mem hheight (by omega) hseen]
    · rw [observe_of_not_mem hheight (by omega) hseen]
      exact h.file height hseen

/-! ## The log -/

/-- An accepted block-scoped update, and whether it opened a bucket. -/
structure Accept where
  key : EventKey
  height : Nat
  opens : Bool

/-- How many buckets an accept opened. -/
def Accept.opened (accept : Accept) : Nat := if accept.opens then 1 else 0

/-- What an observation adds to the log. -/
def accept (state : DedupState) (update : SubscribeUpdate) : Option Accept :=
  match updateHeight update with
  | none => none
  | some height =>
    if (state.observe update).2 then
      some { key := eventKey update
             height := height
             opens := !state.heights.any (·.height == height) }
    else none

/-- The buckets opened since the last one of this height. -/
def openedAfter (height : Nat) : List Accept → Option Nat
  | [] => none
  | accept :: older =>
    if accept.opens && accept.height == height then some 0
    else (openedAfter height older).map (· + accept.opened)

/-- The buckets opened since the one that the last accept of this key stored it
in. -/
def openedSince (key : EventKey) : List Accept → Option Nat
  | [] => none
  | accept :: older =>
    if accept.key = key then openedAfter accept.height (accept :: older)
    else (openedSince key older).map (· + accept.opened)

/-- The state and the log, newest accept first, after a sequence of calls. -/
def observeAll (heightRetention : Nat) (updates : List SubscribeUpdate) :
    DedupState × List Accept :=
  updates.foldl
    (fun (state, log) update => ((state.observe update).1, (state.accept update).toList ++ log))
    (withHeightRetention heightRetention, [])

theorem observeAll_snoc (heightRetention : Nat) (updates : List SubscribeUpdate)
    (update : SubscribeUpdate) :
    observeAll heightRetention (updates ++ [update]) =
      (((observeAll heightRetention updates).1.observe update).1,
        ((observeAll heightRetention updates).1.accept update).toList ++
          (observeAll heightRetention updates).2) := by
  unfold observeAll
  rw [List.foldl_append]
  rfl

/-- A key that was never accepted is in no bucket. -/
theorem openedSince_eq_none {key : EventKey} {log : List Accept} (h : ∀ a ∈ log, a.key ≠ key) :
    openedSince key log = none := by
  induction log with
  | nil => rfl
  | cons accept older ih =>
    rw [openedSince, if_neg (h accept List.mem_cons_self),
      ih fun a hmem => h a (List.mem_cons_of_mem accept hmem)]
    rfl

/-- The n-th bucket from the back has n openings behind it, and its keys are
those last stored so long ago. -/
structure Tracks (state : DedupState) (log : List Accept) : Prop where
  heights : ∀ n bucket, state.heights.reverse[n]? = some bucket →
    openedAfter bucket.height log = some n
  keys : ∀ key n, n < state.heightRetention →
    (openedSince key log = some n ↔
      ∃ bucket, state.heights.reverse[n]? = some bucket ∧ key ∈ bucket.keys)

theorem tracks_new (heightRetention : Nat) :
    Tracks (withHeightRetention heightRetention) [] := by
  refine ⟨fun n bucket h => ?_, fun key n _ => ⟨fun h => ?_, ?_⟩⟩
  · simp [withHeightRetention] at h
  · cases h
  · rintro ⟨bucket, h, -⟩
    simp [withHeightRetention] at h

theorem reverse_filed (state : DedupState) (height : Nat) (key : EventKey) :
    (state.filed height key).reverse =
      (fileKey height key state.heights).reverse.take state.heightRetention := by
  rw [List.take_reverse]
  rfl

/-- A key filed in a bucket that is there. -/
theorem Tracks.file {state : DedupState} {log : List Accept} (h : Tracks state log)
    (htidy : state.Tidy) {height : Nat} {key : EventKey} (hnew : key ∉ state.seen)
    (hmem : height ∈ state.heights.map (·.height)) :
    Tracks
      { seen := state.retained height key
        heights := state.filed height key
        heightRetention := state.heightRetention }
      ({ key := key, height := height, opens := false } :: log) := by
  have hfiled : (state.filed height key).reverse =
      state.heights.reverse.map (addKey height key) := by
    rw [reverse_filed, fileKey_of_mem htidy.distinct hmem, ← List.map_reverse,
      List.take_of_length_le]
    rw [List.length_map, List.length_reverse]
    exact htidy.bounded
  have hopened : ∀ other, openedAfter other
      ({ key := key, height := height, opens := false } :: log) = openedAfter other log := by
    intro other
    simp [openedAfter, Accept.opened]
  constructor
  · intro n bucket hbucket
    rw [hfiled, List.getElem?_map, Option.map_eq_some_iff] at hbucket
    obtain ⟨old, hold, rfl⟩ := hbucket
    rw [hopened, height_addKey]
    exact h.heights n old hold
  · intro key' n hn
    rw [hfiled, List.getElem?_map]
    simp only [Option.map_eq_some_iff, exists_exists_and_eq_and, mem_addKey]
    by_cases heq : key = key'
    · subst heq
      rw [openedSince, if_pos rfl]
      dsimp only
      rw [hopened]
      constructor
      · intro hsome
        obtain ⟨bucket, hbucket, rfl⟩ := List.mem_map.mp hmem
        obtain ⟨i, hi⟩ := List.mem_iff_getElem?.mp (List.mem_reverse.mpr hbucket)
        have := h.heights i bucket hi
        rw [hsome] at this
        cases this
        exact ⟨bucket, hi, .inr ⟨rfl, rfl⟩⟩
      · rintro ⟨bucket, hbucket, hold | ⟨rfl, -⟩⟩
        · have hin : bucket ∈ state.heights :=
            List.mem_reverse.mp (List.mem_of_getElem? hbucket)
          exact absurd (htidy.mem_seen.mpr ⟨bucket, hin, hold⟩) hnew
        · exact h.heights n bucket hbucket
    · have hkey : ∀ bucket : HeightBucket,
          (key' ∈ bucket.keys ∨ bucket.height = height ∧ key' = key) ↔ key' ∈ bucket.keys := by
        intro bucket
        exact or_iff_left fun hboth => heq hboth.2.symm
      simp only [hkey]
      rw [openedSince, if_neg heq, ← h.keys key' n hn]
      simp [Accept.opened]

/-- A key filed in a new bucket, which may push the oldest one out. -/
theorem Tracks.open {state : DedupState} {log : List Accept} (h : Tracks state log)
    (htidy : state.Tidy) {height : Nat} {key : EventKey} (hnew : key ∉ state.seen)
    (hmem : height ∉ state.heights.map (·.height)) :
    Tracks
      { seen := state.retained height key
        heights := state.filed height key
        heightRetention := state.heightRetention }
      ({ key := key, height := height, opens := true } :: log) := by
  have hfiled : ∀ n, n < state.heightRetention → (state.filed height key).reverse[n]? =
      ({ height := height, keys := [key] } :: state.heights.reverse)[n]? := by
    intro n hn
    rw [reverse_filed, fileKey_of_not_mem hmem, List.reverse_append, List.getElem?_take_of_lt hn]
    rfl
  constructor
  · intro n bucket hbucket
    have hn : n < state.heightRetention := by
      have hlen := (List.getElem?_eq_some_iff.mp hbucket).1
      rw [reverse_filed, List.length_take] at hlen
      omega
    dsimp only at hbucket
    rw [hfiled n hn] at hbucket
    cases n with
    | zero =>
      cases hbucket
      simp [openedAfter]
    | succ n =>
      rw [List.getElem?_cons_succ] at hbucket
      have hin : bucket ∈ state.heights := List.mem_reverse.mp (List.mem_of_getElem? hbucket)
      have hne : height ≠ bucket.height := by
        rintro rfl
        exact hmem (List.mem_map_of_mem hin)
      rw [openedAfter, h.heights n bucket hbucket]
      simp [hne, Accept.opened]
  · intro key' n hn
    dsimp only at hn ⊢
    rw [hfiled n hn]
    by_cases heq : key = key'
    · subst heq
      have hzero : openedSince key
          ({ key := key, height := height, opens := true } :: log) = some 0 := by
        simp [openedSince, openedAfter]
      rw [hzero]
      cases n with
      | zero => simp
      | succ n =>
        refine iff_of_false (by simp) ?_
        rintro ⟨bucket, hbucket, hkey⟩
        rw [List.getElem?_cons_succ] at hbucket
        have hin : bucket ∈ state.heights := List.mem_reverse.mp (List.mem_of_getElem? hbucket)
        exact hnew (htidy.mem_seen.mpr ⟨bucket, hin, hkey⟩)
    · rw [openedSince, if_neg heq]
      cases n with
      | zero =>
        refine iff_of_false (by simp [Accept.opened]) ?_
        rintro ⟨bucket, hbucket, hkey⟩
        cases hbucket
        exact heq (List.mem_singleton.mp hkey).symm
      | succ n =>
        rw [List.getElem?_cons_succ, ← h.keys key' n (by omega)]
        simp [Accept.opened]

/-- **One observation keeps the log in step.** -/
theorem Tracks.observe {state : DedupState} {log : List Accept} (h : Tracks state log)
    (htidy : state.Tidy) (hpos : 1 ≤ state.heightRetention) (update : SubscribeUpdate) :
    Tracks (state.observe update).1 ((state.accept update).toList ++ log) := by
  unfold accept
  cases hheight : updateHeight update with
  | none => rwa [observe_of_none hheight]
  | some height =>
    dsimp only
    by_cases hseen : eventKey update ∈ state.seen
    · rwa [observe_of_mem hheight hpos hseen]
    · rw [observe_of_not_mem hheight hpos hseen]
      dsimp only
      rw [if_pos rfl]
      by_cases hmem : height ∈ state.heights.map (·.height)
      · have hany : state.heights.any (·.height == height) = true := by
          obtain ⟨bucket, hbucket, heq⟩ := List.mem_map.mp hmem
          exact List.any_eq_true.mpr ⟨bucket, hbucket, beq_iff_eq.mpr heq⟩
        rw [hany]
        exact h.file htidy hseen hmem
      · have hany : state.heights.any (·.height == height) = false := by
          refine List.any_eq_false.mpr fun bucket hbucket heq => hmem ?_
          exact List.mem_map.mpr ⟨bucket, hbucket, beq_iff_eq.mp heq⟩
        rw [hany]
        exact h.open htidy hseen hmem

/-! ## All runs -/

theorem heightRetention_observe (state : DedupState) (update : SubscribeUpdate) :
    (state.observe update).1.heightRetention = state.heightRetention := by
  unfold observe
  cases updateHeight update with
  | none => rfl
  | some height =>
    dsimp only
    split
    · rfl
    split
    · rfl
    · rfl

theorem observeAll_invariant {heightRetention : Nat} (hpos : 1 ≤ heightRetention)
    (updates : List SubscribeUpdate) :
    (observeAll heightRetention updates).1.heightRetention = heightRetention ∧
      (observeAll heightRetention updates).1.Tidy ∧
      Tracks (observeAll heightRetention updates).1 (observeAll heightRetention updates).2 := by
  induction updates using List.reverseRecOn with
  | nil => exact ⟨rfl, tidy_new heightRetention, tracks_new heightRetention⟩
  | append_singleton updates update ih =>
    obtain ⟨hretention, htidy, htracks⟩ := ih
    rw [observeAll_snoc]
    exact ⟨(heightRetention_observe _ update).trans hretention, htidy.observe update,
      htracks.observe htidy (by rw [hretention]; exact hpos) update⟩

/-- What `observe` promises of a state with a log: the set and the deque agree,
and it suppresses the keys that were accepted before with fewer than
`heightRetention` buckets opened since the one they were last stored in. -/
structure Exact (heightRetention : Nat) (state : DedupState) (log : List Accept) : Prop where
  distinct : (state.heights.map (·.height)).Nodup
  bounded : state.heights.length ≤ heightRetention
  disjoint : (state.heights.flatMap (·.keys)).Nodup
  seen : ∀ key, key ∈ state.seen ↔ ∃ bucket ∈ state.heights, key ∈ bucket.keys
  suppressed : ∀ update height, updateHeight update = some height →
    ((state.observe update).2 = false ↔
      ∃ n, openedSince (eventKey update) log = some n ∧ n < heightRetention)
  fresh : ∀ update, (∀ accept ∈ log, accept.key ≠ eventKey update) →
    (state.observe update).2 = true
  unchanged : ∀ update, (state.observe update).2 = false → (state.observe update).1 = state

/-- **Exactly the retained repeats are suppressed**, after every sequence of
calls. -/
theorem observe_exact {heightRetention : Nat} (hpos : 1 ≤ heightRetention)
    (updates : List SubscribeUpdate) :
    Exact heightRetention (observeAll heightRetention updates).1
      (observeAll heightRetention updates).2 := by
  obtain ⟨hretention, htidy, htracks⟩ := observeAll_invariant hpos updates
  generalize (observeAll heightRetention updates).1 = state at hretention htidy htracks ⊢
  generalize (observeAll heightRetention updates).2 = log at htracks ⊢
  subst hretention
  have hsince : ∀ key, key ∈ state.seen ↔
      ∃ n, openedSince key log = some n ∧ n < state.heightRetention := by
    intro key
    rw [htidy.mem_seen]
    constructor
    · rintro ⟨bucket, hbucket, hkey⟩
      obtain ⟨n, hn⟩ := List.mem_iff_getElem?.mp (List.mem_reverse.mpr hbucket)
      have hlt : n < state.heightRetention := by
        have hlen := (List.getElem?_eq_some_iff.mp hn).1
        have hbounded := htidy.bounded
        rw [List.length_reverse] at hlen
        omega
      exact ⟨n, (htracks.keys _ n hlt).mpr ⟨bucket, hn, hkey⟩, hlt⟩
    · rintro ⟨n, hsome, hlt⟩
      obtain ⟨bucket, hn, hkey⟩ := (htracks.keys _ n hlt).mp hsome
      exact ⟨bucket, List.mem_reverse.mp (List.mem_of_getElem? hn), hkey⟩
  refine ⟨htidy.distinct, htidy.bounded, htidy.disjoint, fun key => htidy.mem_seen, ?_, ?_, ?_⟩
  · intro update height hheight
    rw [← hsince]
    by_cases hmem : eventKey update ∈ state.seen
    · rw [observe_of_mem hheight hpos hmem]
      exact iff_of_true rfl hmem
    · rw [observe_of_not_mem hheight hpos hmem]
      exact iff_of_false (by simp) hmem
  · intro update hnever
    by_contra hfalse
    obtain ⟨-, hmem, -⟩ := observe_false (Bool.not_eq_true _ ▸ hfalse)
    obtain ⟨n, hsome, -⟩ := (hsince _).mp hmem
    rw [openedSince_eq_none hnever] at hsome
    cases hsome
  · intro update hfalse
    exact (observe_false hfalse).2.2

/-- A block of session `1`. -/
def sampleUpdate (height sequence : Nat) : SubscribeUpdate :=
  { sessionId := [1], sequence := sequence, update := some (.block { height := height }) }

theorem observe_exact_sample :
    Exact 1 (observeAll 1 [sampleUpdate 10 20, sampleUpdate 11 21]).1
      (observeAll 1 [sampleUpdate 10 20, sampleUpdate 11 21]).2 :=
  observe_exact (by decide) [sampleUpdate 10 20, sampleUpdate 11 21]

/-- With one height retained, a later height lets the key pass again. -/
example : ((observeAll 1 [sampleUpdate 10 20, sampleUpdate 11 21]).1.observe
    (sampleUpdate 10 20)).2 = true := by
  decide

end DedupState

end ZakuraGrpc
