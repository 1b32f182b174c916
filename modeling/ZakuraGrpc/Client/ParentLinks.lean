import ZakuraGrpc.Client.ReplayPoint

/-!
# The parents of partial blocks

A best chain update puts a block into the state with its parent's hash. Block,
transaction and UTXO updates carry no parent; those about an accepted block put
it in again, without one. `parent_kept_iff` says in which runs a checkpoint
still lists the parent.
-/

namespace ZakuraGrpc

open Std

/-! ## Updates about one block -/

/-- The blocks a best chain update adds. -/
def connectedBlocks (update : SubscribeUpdate) : List CanonicalBlock :=
  match update.update with
  | some (.bestChain change) =>
    match change.change with
    | some (.grow grow) =>
      [{ height := change.height
         hash := change.hash
         previousBlockHash := grow.previousBlockHash }]
    | some (.reset reset) => reset.connectedBlocks
    | none => []
  | _ => []

/-- The blocks a best chain update takes away. -/
def disconnectedBlocks (update : SubscribeUpdate) : List CanonicalBlock :=
  match update.update with
  | some (.bestChain change) =>
    match change.change with
    | some (.reset reset) => reset.disconnectedBlocks
    | some (.grow _) | none => []
  | _ => []

/-- The blocks a best chain update names. -/
def namedBlocks (update : SubscribeUpdate) : List CanonicalBlock :=
  disconnectedBlocks update ++ connectedBlocks update

/-- The block that a block, transaction or UTXO update is about. -/
def shownBlock (update : SubscribeUpdate) : Option PartialKey :=
  match update.update with
  | some (.block block) => some (block.height, block.hash)
  | some (.transaction transaction) => some (transaction.height, transaction.blockHash)
  | some (.utxo utxo) => some (utxo.height, utxo.blockHash)
  | _ => none

/-- The update is about a finalized block. -/
def showsFinalized (update : SubscribeUpdate) : Bool :=
  match update.update with
  | some (.block block) => block.finalized
  | some (.transaction transaction) =>
    transaction.commitment == BlockCommitment.finalized.toI32
  | some (.utxo utxo) => utxo.commitment == BlockCommitment.finalized.toI32
  | _ => false

/-- What an update about a block does to the state. -/
theorem chainEffect_of_shown {update : SubscribeUpdate} {key : PartialKey}
    (h : shownBlock update = some key) :
    chainEffect update = blockEffect key.1 key.2 (showsFinalized update) := by
  unfold shownBlock at h
  unfold chainEffect showsFinalized
  split at h
  all_goals cases h
  all_goals
    rename_i hkind
    rw [hkind]

/-- What the other updates do. -/
theorem chainEffect_of_not_shown {update : SubscribeUpdate} (h : shownBlock update = none) :
    ∃ removed, chainEffect update = .revise removed (connectedBlocks update) := by
  unfold shownBlock at h
  unfold chainEffect connectedBlocks
  cases hkind : update.update with
  | none => exact ⟨[], rfl⟩
  | some kind =>
    rw [hkind] at h
    cases kind with
    | block block => cases h
    | transaction transaction => cases h
    | utxo utxo => cases h
    | bestChain change =>
      obtain ⟨height, hash, change⟩ := change
      cases change with
      | none => exact ⟨[], rfl⟩
      | some change =>
        cases change with
        | grow grow => exact ⟨[], rfl⟩
        | reset reset => exact ⟨reset.disconnectedBlocks, rfl⟩
    | reconnect reconnect => exact ⟨reconnect.discardedBlocks, rfl⟩
    | mempool _ => exact ⟨[], rfl⟩
    | mempoolTransaction _ => exact ⟨[], rfl⟩
    | ping _ => exact ⟨[], rfl⟩
    | pong _ => exact ⟨[], rfl⟩
    | mempoolSnapshot _ => exact ⟨[], rfl⟩

theorem showsFinalized_of_not_shown {update : SubscribeUpdate} (h : shownBlock update = none) :
    showsFinalized update = false := by
  unfold shownBlock at h
  unfold showsFinalized
  split at h
  all_goals first | rfl | cases h

theorem not_shown_of_connected {update : SubscribeUpdate} {key : PartialKey}
    (h : key ∈ (connectedBlocks update).map partialKey) : shownBlock update = none := by
  unfold connectedBlocks at h
  unfold shownBlock
  split at h
  · rename_i hkind
    rw [hkind]
  · cases h

namespace ChainResumeState

variable {chain : ChainResumeState} {key : PartialKey}

/-! ## One entry -/

theorem getElem?_insertPartial_ne {block : CanonicalBlock} (h : partialKey block ≠ key) :
    (chain.insertPartial block).partialBlocks[key]? = chain.partialBlocks[key]? := by
  unfold insertPartial
  split
  · rw [TreeMap.getElem?_insert, if_neg (fun heq => h (LawfulEqCmp.eq_of_compare heq))]
  · rfl

theorem getElem?_insertPartial_self {block : CanonicalBlock} (h : chain.Above block.height) :
    (chain.insertPartial block).partialBlocks[partialKey block]? = some block := by
  unfold insertPartial
  rw [if_pos ((above_iff chain block.height).mpr h), TreeMap.getElem?_insert_self]

theorem getElem?_foldl_insert {blocks : List CanonicalBlock} (h : key ∉ blocks.map partialKey) :
    (blocks.foldl insertPartial chain).partialBlocks[key]? = chain.partialBlocks[key]? := by
  induction blocks generalizing chain with
  | nil => rfl
  | cons block blocks ih =>
    rw [List.map_cons, List.mem_cons, not_or] at h
    rw [List.foldl_cons, ih h.2, getElem?_insertPartial_ne (Ne.symm h.1)]

theorem getElem?_foldl_remove {blocks : List CanonicalBlock} (h : key ∉ blocks.map partialKey) :
    (blocks.foldl removePartial chain).partialBlocks[key]? = chain.partialBlocks[key]? := by
  induction blocks generalizing chain with
  | nil => rfl
  | cons block blocks ih =>
    rw [List.map_cons, List.mem_cons, not_or] at h
    rw [List.foldl_cons, ih h.2, removePartial, TreeMap.getElem?_erase,
      if_neg (fun heq => h.1 (LawfulEqCmp.eq_of_compare heq).symm)]

/-- A revision leaves the blocks it does not list. -/
theorem getElem?_apply_revise {removed inserted : List CanonicalBlock}
    (hremoved : key ∉ removed.map partialKey) (hinserted : key ∉ inserted.map partialKey) :
    (chain.apply (.revise removed inserted)).partialBlocks[key]? = chain.partialBlocks[key]? := by
  unfold apply
  rw [getElem?_foldl_insert hinserted, getElem?_foldl_remove hremoved]

/-- A finalization leaves the blocks above. -/
theorem getElem?_apply_finalize {height : Nat} {hash : String} (h : height < key.1) :
    (chain.apply (.finalize height hash)).partialBlocks[key]? = chain.partialBlocks[key]? := by
  show (chain.partialBlocks.filter fun key _ => height < key.1)[key]? = _
  rw [TreeMap.getElem?_filter']
  ext block
  rw [Option.filter_eq_some_iff]
  exact and_iff_left (decide_eq_true h)

/-! ## Observed updates -/

/-- The state behind the updates, from the one made of the request. -/
def observed (request : SubscribeRequest) (updates : List SubscribeUpdate) : ChainResumeState :=
  updates.foldl observe (fromRequest request)

theorem observed_snoc (request : SubscribeRequest) (updates : List SubscribeUpdate)
    (update : SubscribeUpdate) :
    observed request (updates ++ [update]) = (observed request updates).observe update :=
  List.foldl_concat ..

/-- The best chain update puts the block into the state with the parent. -/
structure PutsParent (chain : ChainResumeState) (update : SubscribeUpdate) (key : PartialKey)
    (parent : String) : Prop where
  connected : key ∈ (connectedBlocks update).map partialKey
  above : chain.Above key.1
  entry : ((chain.observe update).partialBlocks[key]?).map (·.previousBlockHash) = some parent

/-- `link` puts the block into the state. The updates behind it leave it there,
and none of those about the best chain names it. -/
structure StaysLinked (request : SubscribeRequest) (before : List SubscribeUpdate)
    (link : SubscribeUpdate) (after : List SubscribeUpdate) (key : PartialKey)
    (parent : String) : Prop where
  put : (observed request before).PutsParent link key parent
  stays : ∀ updates, updates <+: after →
    key ∈ (observed request (before ++ link :: updates)).partialBlocks
  unnamed : ∀ update ∈ after, key ∉ (namedBlocks update).map partialKey

variable {update : SubscribeUpdate} {parent : String}

/-- The state holds the block with this parent, above what is finalized. -/
structure HoldsParent (chain : ChainResumeState) (key : PartialKey) (parent : String) : Prop where
  above : chain.Above key.1
  entry : (chain.partialBlocks[key]?).map (·.previousBlockHash) = some parent

theorem HoldsParent.revise (h : chain.HoldsParent key parent)
    {removed inserted : List CanonicalBlock} (hremoved : key ∉ removed.map partialKey)
    (hinserted : key ∉ inserted.map partialKey) :
    (chain.apply (.revise removed inserted)).HoldsParent key parent where
  above := above_apply_revise.mpr h.above
  entry := by
    rw [getElem?_apply_revise hremoved hinserted]
    exact h.entry

theorem HoldsParent.finalize (h : chain.HoldsParent key parent) {height : Nat} {hash : String}
    (hlt : height < key.1) : (chain.apply (.finalize height hash)).HoldsParent key parent where
  above finalized heq := by
    cases heq
    exact hlt
  entry := by
    rw [getElem?_apply_finalize hlt]
    exact h.entry

/-- An update about an accepted block inserts it without its parent. -/
theorem holdsParent_accepted (habove : chain.Above key.1) :
    (chain.apply (.revise [] [⟨key.1, key.2, ""⟩])).HoldsParent key "" where
  above := above_apply_revise.mpr habove
  entry := congrArg (Option.map _) (@getElem?_insertPartial_self chain ⟨key.1, key.2, ""⟩ habove)

/-- **One update.** A block that stays keeps its parent, unless the update is
about it. -/
theorem HoldsParent.observe (h : chain.HoldsParent key parent)
    (hstays : key ∈ (chain.observe update).partialBlocks)
    (hunnamed : key ∉ (namedBlocks update).map partialKey) :
    (chain.observe update).HoldsParent key
      (if shownBlock update = some key then "" else parent) := by
  rw [observe_eq] at hstays ⊢
  cases hshown : shownBlock update with
  | none =>
    obtain ⟨removed, heffect⟩ := chainEffect_of_not_shown hshown
    have hinserted : key ∉ (connectedBlocks update).map partialKey := by
      intro hmem
      exact hunnamed (List.map_subset _ (List.subset_append_right _ _) hmem)
    rw [heffect] at hstays ⊢
    have hremoved : key ∉ removed.map partialKey := by
      rcases mem_apply_revise.mp hstays with ⟨hmem, -⟩ | ⟨hremoved, -⟩
      · exact absurd hmem hinserted
      · exact hremoved
    rw [if_neg nofun]
    exact h.revise hremoved hinserted
  | some shown =>
    rw [chainEffect_of_shown hshown, blockEffect] at hstays ⊢
    by_cases hfinalized : showsFinalized update = true
    · rw [if_pos hfinalized] at hstays ⊢
      -- a block that stays lies above the finalized one
      have hlt : shown.1 < key.1 := (mem_apply_finalize.mp hstays).2
      have hne : some shown ≠ some key := by
        rintro ⟨rfl⟩
        omega
      rw [if_neg hne]
      exact h.finalize hlt
    · rw [if_neg hfinalized]
      by_cases hkey : shown = key
      · rw [hkey, if_pos rfl]
        exact holdsParent_accepted h.above
      · rw [if_neg (fun heq => hkey (Option.some.inj heq))]
        exact h.revise List.not_mem_nil (by simpa [partialKey] using Ne.symm hkey)

/-- **A run.** The parent is lost with the first update about the block. -/
theorem StaysLinked.holdsParent {request : SubscribeRequest}
    {before after : List SubscribeUpdate} {link : SubscribeUpdate}
    (h : StaysLinked request before link after key parent) :
    (observed request (before ++ link :: after)).HoldsParent key
      (if some key ∈ after.map shownBlock then "" else parent) := by
  induction after using List.reverseRecOn with
  | nil =>
    obtain ⟨hconnected, habove, hentry⟩ := h.put
    obtain ⟨removed, heffect⟩ := chainEffect_of_not_shown (not_shown_of_connected hconnected)
    rw [observed_snoc]
    refine ⟨?_, hentry⟩
    rw [observe_eq, heffect, above_apply_revise]
    exact habove
  | append_singleton after update ih =>
    have hafter : StaysLinked request before link after key parent :=
      ⟨h.put, fun updates hstart => h.stays updates (hstart.trans (List.prefix_append _ _)),
        fun update hmem => h.unnamed update (List.mem_append_left _ hmem)⟩
    have hsnoc : before ++ link :: (after ++ [update]) = (before ++ link :: after) ++ [update] := by
      simp
    have hstays := h.stays _ (List.prefix_refl _)
    rw [hsnoc, observed_snoc] at hstays ⊢
    have hholds := (ih hafter).observe hstays (h.unnamed update (by simp))
    rw [List.map_append, List.map_singleton]
    by_cases hlast : shownBlock update = some key
    · rw [if_pos hlast] at hholds
      rw [if_pos (by simp [hlast])]
      exact hholds
    · rw [if_neg hlast] at hholds
      have hmem : some key ∈ after.map shownBlock ++ [shownBlock update] ↔
          some key ∈ after.map shownBlock := by
        simp [Ne.symm hlast]
      rw [if_congr hmem rfl rfl]
      exact hholds

/-! ## Checkpoints -/

theorem keyed_observed (request : SubscribeRequest) (updates : List SubscribeUpdate) :
    Keyed.IsKeyed partialKey (observed request updates).partialBlocks := by
  induction updates using List.reverseRecOn with
  | nil =>
    show Keyed.IsKeyed partialKey (fromRequest request).partialBlocks
    unfold fromRequest
    split
    · exact Keyed.isKeyed_empty
    · exact keyed_fromRequest Keyed.isKeyed_empty
  | append_singleton updates update ih =>
    rw [observed_snoc, observe_eq]
    exact keyed_apply ih _

theorem finalized_observe (chain : ChainResumeState) (update : SubscribeUpdate) :
    (chain.observe update).finalized = none ↔
      chain.finalized = none ∧ showsFinalized update = false := by
  rw [observe_eq]
  cases hshown : shownBlock update with
  | none =>
    obtain ⟨removed, heffect⟩ := chainEffect_of_not_shown hshown
    rw [heffect, finalized_apply_revise, showsFinalized_of_not_shown hshown]
    simp
  | some shown =>
    rw [chainEffect_of_shown hshown]
    cases showsFinalized update with
    | true => exact ⟨nofun, fun h => nomatch h.2⟩
    | false =>
      rw [blockEffect, if_neg Bool.false_ne_true, finalized_apply_revise]
      simp

/-- No block is finalized before one is named. -/
theorem finalized_observed (request : SubscribeRequest) (updates : List SubscribeUpdate) :
    (observed request updates).finalized = none ↔
      request.resume = none ∧ ∀ update ∈ updates, showsFinalized update = false := by
  induction updates using List.reverseRecOn with
  | nil =>
    show (fromRequest request).finalized = none ↔ _
    unfold fromRequest
    split <;> simp [*]
  | append_singleton updates update ih =>
    rw [observed_snoc, finalized_observe, ih]
    simp only [List.mem_append, List.mem_singleton, or_imp, forall_and, forall_eq]
    tauto

end ChainResumeState

/-- The checkpoint lists the block, with this parent only. -/
structure ListsParent (checkpoint : ResumeCheckpoint) (key : PartialKey) (parent : String) :
    Prop where
  listed : ∃ block ∈ checkpoint.partialBlocks, partialKey block = key
  parent : ∀ block ∈ checkpoint.partialBlocks, partialKey block = key →
    block.previousBlockHash = parent

namespace ChainResumeState

variable {chain : ChainResumeState} {key : PartialKey} {parent : String}

/-- A checkpoint, once there is one, lists the entries of the state. -/
theorem checkpoint_lists_iff (hkeyed : Keyed.IsKeyed partialKey chain.partialBlocks)
    {block : CanonicalBlock} (hentry : chain.partialBlocks[key]? = some block) :
    (∀ checkpoint, chain.checkpoint = some checkpoint → ListsParent checkpoint key parent) ↔
      chain.finalized = none ∨ block.previousBlockHash = parent := by
  have hmem : ∀ listed : CanonicalBlock,
      listed ∈ (Keyed.values chain.partialBlocks).reverse ∧ partialKey listed = key ↔
        listed = block := by
    intro listed
    rw [List.mem_reverse, Keyed.mem_values]
    constructor
    · rintro ⟨⟨key', hget⟩, rfl⟩
      rw [Keyed.IsKeyed.iff_getElem?.mp hkeyed key' listed hget, hget] at hentry
      exact Option.some.inj hentry
    · rintro rfl
      exact ⟨⟨key, hentry⟩, Keyed.IsKeyed.iff_getElem?.mp hkeyed key _ hentry⟩
  unfold checkpoint
  cases chain.finalized with
  | none => simp
  | some finalized =>
    simp only [Option.map_some, Option.some.injEq, forall_eq', reduceCtorEq, false_or]
    constructor
    · intro h
      obtain ⟨hlisted, hkey⟩ := (hmem block).mpr rfl
      exact h.parent block hlisted hkey
    · intro heq
      refine ⟨⟨block, (hmem block).mpr rfl⟩, fun listed hlisted hkey => ?_⟩
      rw [(hmem listed).mp ⟨hlisted, hkey⟩]
      exact heq

/-- **When the parent is kept.** While a block stays in the state, behind the
best chain update that put it there, the checkpoint lists it with its parent
exactly when the parent is empty, no update was about the block, or there has
been no checkpoint yet. -/
theorem parent_kept_iff {request : SubscribeRequest} {before after : List SubscribeUpdate}
    {link : SubscribeUpdate} (h : StaysLinked request before link after key parent) :
    (∀ checkpoint, (observed request (before ++ link :: after)).checkpoint = some checkpoint →
        ListsParent checkpoint key parent) ↔
      parent = "" ∨ (∀ update ∈ after, shownBlock update ≠ some key) ∨
        (request.resume = none ∧
          ∀ update ∈ before ++ link :: after, showsFinalized update = false) := by
  obtain ⟨block, hget, hparent⟩ := Option.map_eq_some_iff.mp h.holdsParent.entry
  rw [checkpoint_lists_iff (keyed_observed _ _) hget, hparent, ← finalized_observed]
  by_cases hshown : some key ∈ after.map shownBlock
  · have hsome : ¬ ∀ update ∈ after, shownBlock update ≠ some key := by
      intro hnone
      obtain ⟨update, hmem, heq⟩ := List.mem_map.mp hshown
      exact hnone update hmem heq
    rw [if_pos hshown, eq_comm (b := parent)]
    tauto
  · have hnone : ∀ update ∈ after, shownBlock update ≠ some key := by
      intro update hmem heq
      exact hshown (List.mem_map.mpr ⟨update, hmem, heq⟩)
    rw [if_neg hshown]
    exact ⟨fun _ => .inr (.inl hnone), fun _ => .inr rfl⟩

/-! ## A transaction of a linked block -/

def finalizedBlock : SubscribeUpdate :=
  { update := some (.block { height := 9, hash := "a", finalized := true }) }

def grownBlock : SubscribeUpdate :=
  { update := some (.bestChain
      { height := 10, hash := "b", change := some (.grow { previousBlockHash := "a" }) }) }

def acceptedTransaction : SubscribeUpdate :=
  { update := some (.transaction
      { height := 10, blockHash := "b", commitment := BlockCommitment.accepted.toI32 }) }

theorem staysLinked_sample :
    StaysLinked {} [finalizedBlock] grownBlock [acceptedTransaction] (10, "b") "a" where
  put := ⟨by decide, fun finalized heq => by cases heq; decide, by decide +kernel⟩
  stays updates hstart := by
    rcases List.prefix_cons_iff.mp hstart with rfl | ⟨rest, rfl, hrest⟩
    · exact TreeMap.mem_iff_contains.mpr (by decide +kernel)
    · rw [List.prefix_nil.mp hrest]
      exact TreeMap.mem_iff_contains.mpr (by decide +kernel)
  unnamed update hmem := by
    rw [List.mem_singleton.mp hmem]
    exact List.not_mem_nil

theorem parent_kept_iff_sample :
    (∀ checkpoint, (observed {} [finalizedBlock, grownBlock, acceptedTransaction]).checkpoint =
        some checkpoint → ListsParent checkpoint (10, "b") "a") ↔
      "a" = "" ∨ (∀ update ∈ [acceptedTransaction], shownBlock update ≠ some (10, "b")) ∨
        (({} : SubscribeRequest).resume = none ∧
          ∀ update ∈ [finalizedBlock, grownBlock, acceptedTransaction],
            showsFinalized update = false) :=
  parent_kept_iff staysLinked_sample

/-- The transaction takes the parent of block 10 away. -/
theorem parent_lost :
    ¬ ∀ (request : SubscribeRequest) (before after : List SubscribeUpdate)
        (link : SubscribeUpdate) (key : PartialKey) (parent : String),
      StaysLinked request before link after key parent →
      ∀ checkpoint, (observed request (before ++ link :: after)).checkpoint = some checkpoint →
        ListsParent checkpoint key parent := by
  intro hall
  have hlost : ((observed {} [finalizedBlock, grownBlock, acceptedTransaction]).checkpoint.any
      fun checkpoint => checkpoint.partialBlocks.any fun block =>
        partialKey block = (10, "b") && block.previousBlockHash != "a") = true := by
    decide +kernel
  obtain ⟨checkpoint, hcheckpoint, hany⟩ := (Option.any_eq_true _ _).mp hlost
  obtain ⟨block, hmem, hblock⟩ := List.any_eq_true.mp hany
  simp only [Bool.and_eq_true, decide_eq_true_eq, bne_iff_ne] at hblock
  have hlists := hall {} [finalizedBlock] [acceptedTransaction] grownBlock (10, "b") "a"
    staysLinked_sample checkpoint hcheckpoint
  exact hblock.2 (hlists.parent block hmem hblock.1)

end ChainResumeState

end ZakuraGrpc
