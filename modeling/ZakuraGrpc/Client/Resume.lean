import ZakuraGrpc.Lib.Keyed
import ZakuraGrpc.Geyser.Event

/-!
# The resume state

What a client keeps of the chain to resume at a checkpoint: the last finalized
block and the blocks above it. `observe` folds the updates received.

Eight kinds of updates change the state in two ways only, finalizing a block or
removing and inserting partial blocks. `chainEffect` reads the change off an
update (`observe_eq`); the invariants and the comparison of two states are
proved of `ChainEffect.apply`.
-/

namespace ZakuraGrpc

open Std

/-! ## The state -/

/-- Height and hash of a partial block. -/
abbrev PartialKey := Nat × String

/-- The order of `(u32, String)`. -/
def comparePartialKey : PartialKey → PartialKey → Ordering :=
  compareLex (compareOn Prod.fst) (compareOn Prod.snd)

instance : TransCmp comparePartialKey :=
  inferInstanceAs (TransCmp (compareLex (compareOn Prod.fst) (compareOn Prod.snd)))

instance : LawfulEqCmp comparePartialKey where
  compare_self := ReflCmp.compare_self
  eq_of_compare {a b} h := by
    obtain ⟨hheight, hhash⟩ := compareLex_eq_eq.mp h
    exact Prod.ext (LawfulEqCmp.eq_of_compare hheight) (LawfulEqCmp.eq_of_compare hhash)

def partialKey (block : CanonicalBlock) : PartialKey := (block.height, block.hash)

structure ChainResumeState where
  finalized : Option (Nat × String) := none
  partialBlocks : TreeMap PartialKey CanonicalBlock comparePartialKey := ∅

namespace ChainResumeState

def fromRequest (request : SubscribeRequest) : ChainResumeState :=
  match request.resume with
  | none => {}
  | some checkpoint =>
    { finalized := some (checkpoint.finalizedHeight, checkpoint.finalizedBlockHash)
      partialBlocks := checkpoint.partialBlocks.foldl
        (fun blocks block => blocks.insert (partialKey block) block) ∅ }

def insertPartial (chain : ChainResumeState) (block : CanonicalBlock) : ChainResumeState :=
  if chain.finalized.all fun finalized => finalized.1 < block.height then
    { chain with partialBlocks := chain.partialBlocks.insert (partialKey block) block }
  else chain

def removePartial (chain : ChainResumeState) (block : CanonicalBlock) : ChainResumeState :=
  { chain with partialBlocks := chain.partialBlocks.erase (partialKey block) }

def observeBlock (chain : ChainResumeState) (height : Nat) (hash : String) (finalized : Bool) :
    ChainResumeState :=
  if finalized then
    { finalized := some (height, hash)
      partialBlocks := chain.partialBlocks.filter fun key _ => height < key.1 }
  else chain.insertPartial { height := height, hash := hash }

def observe (chain : ChainResumeState) (update : SubscribeUpdate) : ChainResumeState :=
  match update.update with
  | some (.block block) => chain.observeBlock block.height block.hash block.finalized
  | some (.bestChain change) =>
    match change.change with
    | some (.grow grow) =>
      chain.insertPartial
        { height := change.height
          hash := change.hash
          previousBlockHash := grow.previousBlockHash }
    | some (.reset reset) =>
      reset.connectedBlocks.foldl insertPartial
        (reset.disconnectedBlocks.foldl removePartial chain)
    | none => chain
  | some (.transaction transaction) =>
    chain.observeBlock transaction.height transaction.blockHash
      (transaction.commitment == BlockCommitment.finalized.toI32)
  | some (.utxo utxo) =>
    chain.observeBlock utxo.height utxo.blockHash
      (utxo.commitment == BlockCommitment.finalized.toI32)
  | some (.reconnect reconnect) => reconnect.discardedBlocks.foldl removePartial chain
  | some (.mempool _) | some (.mempoolTransaction _) | some (.ping _) | some (.pong _)
  | some (.mempoolSnapshot _) | none => chain

def checkpoint (chain : ChainResumeState) : Option ResumeCheckpoint :=
  chain.finalized.map fun finalized =>
    { finalizedHeight := finalized.1
      finalizedBlockHash := finalized.2
      partialBlocks := (Keyed.values chain.partialBlocks).reverse }

def clear (_chain : ChainResumeState) : ChainResumeState := {}

end ChainResumeState

/-! ## What an update changes -/

inductive ChainEffect where
  | finalize (height : Nat) (hash : String)
  /-- Removals first, then the insertions above the finalized block. -/
  | revise (removed inserted : List CanonicalBlock)

/-- The effect of an accepted or finalized block. -/
def blockEffect (height : Nat) (hash : String) (finalized : Bool) : ChainEffect :=
  if finalized then .finalize height hash else .revise [] [{ height := height, hash := hash }]

def chainEffect (update : SubscribeUpdate) : ChainEffect :=
  match update.update with
  | some (.block block) => blockEffect block.height block.hash block.finalized
  | some (.bestChain change) =>
    match change.change with
    | some (.grow grow) =>
      .revise []
        [{ height := change.height
           hash := change.hash
           previousBlockHash := grow.previousBlockHash }]
    | some (.reset reset) => .revise reset.disconnectedBlocks reset.connectedBlocks
    | none => .revise [] []
  | some (.transaction transaction) =>
    blockEffect transaction.height transaction.blockHash
      (transaction.commitment == BlockCommitment.finalized.toI32)
  | some (.utxo utxo) =>
    blockEffect utxo.height utxo.blockHash (utxo.commitment == BlockCommitment.finalized.toI32)
  | some (.reconnect reconnect) => .revise reconnect.discardedBlocks []
  | some (.mempool _) | some (.mempoolTransaction _) | some (.ping _) | some (.pong _)
  | some (.mempoolSnapshot _) | none => .revise [] []

/-- Three kinds of updates finalize a block, each with its own height and hash. -/
theorem finalize_cases {update : SubscribeUpdate} {height : Nat} {hash : String}
    (h : chainEffect update = .finalize height hash) :
    (∃ block, update.update = some (.block block) ∧ block.height = height ∧ block.hash = hash) ∨
    (∃ transaction, update.update = some (.transaction transaction) ∧
      transaction.height = height ∧ transaction.blockHash = hash) ∨
    ∃ utxo, update.update = some (.utxo utxo) ∧ utxo.height = height ∧ utxo.blockHash = hash := by
  have hblock : ∀ {height' hash' finalized},
      blockEffect height' hash' finalized = .finalize height hash →
        height' = height ∧ hash' = hash := by
    intro height' hash' finalized heq
    unfold blockEffect at heq
    split at heq
    · cases heq
      exact ⟨rfl, rfl⟩
    · cases heq
  unfold chainEffect at h
  split at h
  · rename_i block hkind
    exact .inl ⟨block, hkind, hblock h⟩
  · split at h <;> cases h
  · rename_i transaction hkind
    exact .inr (.inl ⟨transaction, hkind, hblock h⟩)
  · rename_i utxo hkind
    exact .inr (.inr ⟨utxo, hkind, hblock h⟩)
  all_goals cases h

theorem blockHeight_of_finalize {update : SubscribeUpdate} {height : Nat} {hash : String}
    (h : chainEffect update = .finalize height hash) : blockHeight update = some height := by
  rcases finalize_cases h with ⟨_, hkind, rfl, -⟩ | ⟨_, hkind, rfl, -⟩ | ⟨_, hkind, rfl, -⟩
  all_goals rw [blockHeight, hkind]

namespace ChainResumeState

def apply (chain : ChainResumeState) : ChainEffect → ChainResumeState
  | .finalize height hash => chain.observeBlock height hash true
  | .revise removed inserted => inserted.foldl insertPartial (removed.foldl removePartial chain)

theorem observeBlock_eq (chain : ChainResumeState) (height : Nat) (hash : String)
    (finalized : Bool) :
    chain.observeBlock height hash finalized = chain.apply (blockEffect height hash finalized) := by
  unfold blockEffect
  cases finalized <;> rfl

/-- **One effect per update.** -/
theorem observe_eq (chain : ChainResumeState) (update : SubscribeUpdate) :
    chain.observe update = chain.apply (chainEffect update) := by
  unfold observe chainEffect
  split
  · exact observeBlock_eq _ _ _ _
  · split <;> rfl
  · exact observeBlock_eq _ _ _ _
  · exact observeBlock_eq _ _ _ _
  all_goals rfl

/-! ## Keys -/

@[simp] theorem finalized_removePartial (chain : ChainResumeState) (block : CanonicalBlock) :
    (chain.removePartial block).finalized = chain.finalized := rfl

@[simp] theorem finalized_insertPartial (chain : ChainResumeState) (block : CanonicalBlock) :
    (chain.insertPartial block).finalized = chain.finalized := by
  unfold insertPartial
  split <;> rfl

theorem finalized_foldl_remove (chain : ChainResumeState) (blocks : List CanonicalBlock) :
    (blocks.foldl removePartial chain).finalized = chain.finalized := by
  induction blocks generalizing chain with
  | nil => rfl
  | cons block blocks ih => exact (ih (chain.removePartial block)).trans rfl

theorem finalized_foldl_insert (chain : ChainResumeState) (blocks : List CanonicalBlock) :
    (blocks.foldl insertPartial chain).finalized = chain.finalized := by
  induction blocks generalizing chain with
  | nil => rfl
  | cons block blocks ih =>
    exact (ih (chain.insertPartial block)).trans (finalized_insertPartial chain block)

/-- The height lies above the finalized block. -/
def Above (chain : ChainResumeState) (height : Nat) : Prop :=
  ∀ finalized, chain.finalized = some finalized → finalized.1 < height

theorem above_iff (chain : ChainResumeState) (height : Nat) :
    (chain.finalized.all fun finalized => finalized.1 < height) = true ↔ chain.Above height := by
  unfold Above
  cases chain.finalized <;> simp

/-- Only the finalized height matters. -/
theorem above_congr {chain chain' : ChainResumeState}
    (h : chain.finalized.map (·.1) = chain'.finalized.map (·.1)) (height : Nat) :
    chain.Above height ↔ chain'.Above height := by
  unfold Above
  cases hc : chain.finalized with
  | none =>
    cases hc' : chain'.finalized with
    | none => rfl
    | some finalized' => simp [hc, hc'] at h
  | some finalized =>
    cases hc' : chain'.finalized with
    | none => simp [hc, hc'] at h
    | some finalized' =>
      have hheight : finalized.1 = finalized'.1 := by simpa [hc, hc'] using h
      simp [hheight]

theorem mem_insertPartial {chain : ChainResumeState} {block : CanonicalBlock} {key : PartialKey} :
    key ∈ (chain.insertPartial block).partialBlocks ↔
      (partialKey block = key ∧ chain.Above block.height) ∨ key ∈ chain.partialBlocks := by
  unfold insertPartial
  rw [← above_iff]
  split
  · rename_i habove
    rw [TreeMap.mem_insert, LawfulEqCmp.compare_eq_iff_eq]
    simp [habove]
  · rename_i habove
    simp [habove]

theorem mem_removePartial {chain : ChainResumeState} {block : CanonicalBlock} {key : PartialKey} :
    key ∈ (chain.removePartial block).partialBlocks ↔
      partialKey block ≠ key ∧ key ∈ chain.partialBlocks := by
  unfold removePartial
  rw [TreeMap.mem_erase, Ne, LawfulEqCmp.compare_eq_iff_eq]

theorem mem_foldl_remove {chain : ChainResumeState} {blocks : List CanonicalBlock}
    {key : PartialKey} :
    key ∈ (blocks.foldl removePartial chain).partialBlocks ↔
      key ∉ blocks.map partialKey ∧ key ∈ chain.partialBlocks := by
  induction blocks generalizing chain with
  | nil => simp
  | cons block blocks ih =>
    rw [List.foldl_cons, ih, mem_removePartial, List.map_cons, List.mem_cons, not_or, ne_comm]
    tauto

theorem mem_foldl_insert {chain : ChainResumeState} {blocks : List CanonicalBlock}
    {key : PartialKey} :
    key ∈ (blocks.foldl insertPartial chain).partialBlocks ↔
      (key ∈ blocks.map partialKey ∧ chain.Above key.1) ∨ key ∈ chain.partialBlocks := by
  induction blocks generalizing chain with
  | nil => simp
  | cons block blocks ih =>
    have habove : (chain.insertPartial block).Above key.1 ↔ chain.Above key.1 :=
      above_congr (by rw [finalized_insertPartial]) key.1
    rw [List.foldl_cons, ih, mem_insertPartial, habove, List.map_cons, List.mem_cons]
    constructor
    · rintro (⟨hmem, hkey⟩ | ⟨rfl, hkey⟩ | hmem)
      · exact .inl ⟨.inr hmem, hkey⟩
      · exact .inl ⟨.inl rfl, hkey⟩
      · exact .inr hmem
    · rintro (⟨rfl | hmem, hkey⟩ | hmem)
      · exact .inr (.inl ⟨rfl, hkey⟩)
      · exact .inl ⟨hmem, hkey⟩
      · exact .inr (.inr hmem)

/-- The keys behind a revision. -/
theorem mem_apply_revise {chain : ChainResumeState} {removed inserted : List CanonicalBlock}
    {key : PartialKey} :
    key ∈ (chain.apply (.revise removed inserted)).partialBlocks ↔
      (key ∈ inserted.map partialKey ∧ chain.Above key.1) ∨
        (key ∉ removed.map partialKey ∧ key ∈ chain.partialBlocks) := by
  have habove : (removed.foldl removePartial chain).Above key.1 ↔ chain.Above key.1 :=
    above_congr (by rw [finalized_foldl_remove]) key.1
  unfold apply
  rw [mem_foldl_insert, mem_foldl_remove, habove]

theorem finalized_apply_revise (chain : ChainResumeState) (removed inserted : List CanonicalBlock) :
    (chain.apply (.revise removed inserted)).finalized = chain.finalized := by
  unfold apply
  rw [finalized_foldl_insert, finalized_foldl_remove]

theorem above_apply_revise {chain : ChainResumeState} {removed inserted : List CanonicalBlock}
    {height : Nat} :
    (chain.apply (.revise removed inserted)).Above height ↔ chain.Above height :=
  above_congr (by rw [finalized_apply_revise]) height

/-- The keys behind a finalization. -/
theorem mem_apply_finalize {chain : ChainResumeState} {height : Nat} {hash : String}
    {key : PartialKey} :
    key ∈ (chain.apply (.finalize height hash)).partialBlocks ↔
      key ∈ chain.partialBlocks ∧ height < key.1 := by
  show key ∈ chain.partialBlocks.filter (fun key _ => height < key.1) ↔ _
  rw [TreeMap.mem_filter]
  simp

/-! ## Invariant -/

/-- Partial blocks sit under their own keys, above the finalized block. -/
structure WellFormed (chain : ChainResumeState) : Prop where
  keyed : Keyed.IsKeyed partialKey chain.partialBlocks
  above : ∀ key ∈ chain.partialBlocks, chain.Above key.1

theorem wellFormed_empty : WellFormed {} where
  keyed := Keyed.isKeyed_empty
  above _ hmem := absurd hmem TreeMap.not_mem_emptyc

theorem keyed_insertPartial {chain : ChainResumeState}
    (h : Keyed.IsKeyed partialKey chain.partialBlocks) (block : CanonicalBlock) :
    Keyed.IsKeyed partialKey (chain.insertPartial block).partialBlocks := by
  unfold insertPartial
  split
  · exact h.insert block
  · exact h

theorem keyed_foldl_insert {chain : ChainResumeState}
    (h : Keyed.IsKeyed partialKey chain.partialBlocks) (blocks : List CanonicalBlock) :
    Keyed.IsKeyed partialKey (blocks.foldl insertPartial chain).partialBlocks := by
  induction blocks generalizing chain with
  | nil => exact h
  | cons block blocks ih => exact ih (keyed_insertPartial h block)

theorem keyed_foldl_remove {chain : ChainResumeState}
    (h : Keyed.IsKeyed partialKey chain.partialBlocks) (blocks : List CanonicalBlock) :
    Keyed.IsKeyed partialKey (blocks.foldl removePartial chain).partialBlocks := by
  induction blocks generalizing chain with
  | nil => exact h
  | cons block blocks ih => exact ih (h.erase (partialKey block))

theorem keyed_apply {chain : ChainResumeState} (h : Keyed.IsKeyed partialKey chain.partialBlocks)
    (effect : ChainEffect) : Keyed.IsKeyed partialKey (chain.apply effect).partialBlocks := by
  cases effect with
  | finalize height hash => exact h.filter _
  | revise removed inserted => exact keyed_foldl_insert (keyed_foldl_remove h removed) inserted

/-- **Every effect keeps the state well formed.** -/
theorem WellFormed.apply {chain : ChainResumeState} (h : chain.WellFormed) (effect : ChainEffect) :
    (chain.apply effect).WellFormed := by
  refine ⟨keyed_apply h.keyed effect, fun key hmem => ?_⟩
  cases effect with
  | finalize height hash =>
    intro finalized hfinalized
    cases hfinalized
    exact (mem_apply_finalize.mp hmem).2
  | revise removed inserted =>
    rw [above_apply_revise]
    rcases mem_apply_revise.mp hmem with ⟨-, habove⟩ | ⟨-, hold⟩
    · exact habove
    · exact h.above key hold

theorem WellFormed.observe {chain : ChainResumeState} (h : chain.WellFormed)
    (update : SubscribeUpdate) : (chain.observe update).WellFormed := by
  rw [observe_eq]
  exact h.apply _

end ChainResumeState

end ZakuraGrpc
