import ZakuraGrpc.Wire
import ZakuraGrpc.Geyser.Filter

/-!
# Published updates and payload projection

A published update is encoded once in full. A subscriber gets the projection
its filters ask for; the reduced projections are cached in the update on first
use. The cache is the interior state of an update, passed explicitly.
`payload_eq` shows that it never shows: a delivered message is the fresh
projection, whatever was delivered before.
-/

namespace ZakuraGrpc

/-! ## Projection -/

/-- The part of `apply_payload_projection` shared by the two transaction kinds:
the raw bytes, the inputs and the outputs that the payload keeps. -/
def projectTransaction (payload : TransactionPayload) (transaction : Bytes)
    (inputs : List TransparentInput) (outputs : List TransparentOutput) :
    Bytes × List TransparentInput × List TransparentOutput :=
  match payload with
  | .metaOnly => ([], [], [])
  | .rawOnly => (transaction, [], [])
  | .transparentOnly => ([], inputs, outputs)
  | .unspecified | .full => (transaction, inputs, outputs)

def applyPayloadProjection (message : SubscribeUpdate) (blockPayload : BlockPayload)
    (transactionPayload : TransactionPayload) : SubscribeUpdate :=
  match message.update with
  | some (.block block) =>
    { message with update := some (.block
      { block with
        payload := blockPayload.toI32
        block := if blockPayload = .metaOnly then [] else block.block }) }
  | some (.transaction transaction) =>
    let (raw, inputs, outputs) := projectTransaction transactionPayload transaction.transaction
      transaction.transparentInputs transaction.transparentOutputs
    { message with update := some (.transaction
      { transaction with
        payload := transactionPayload.toI32
        transaction := raw
        transparentInputs := inputs
        transparentOutputs := outputs }) }
  | some (.mempoolTransaction transaction) =>
    let (raw, inputs, outputs) := projectTransaction transactionPayload transaction.transaction
      transaction.transparentInputs transaction.transparentOutputs
    { message with update := some (.mempoolTransaction
      { transaction with
        payload := transactionPayload.toI32
        transaction := raw
        transparentInputs := inputs
        transparentOutputs := outputs }) }
  | some (.bestChain _) | some (.mempool _) | some (.utxo _) | some (.ping _) | some (.pong _)
  | some (.reconnect _) | some (.mempoolSnapshot _) | none => message

/-- What a projection leaves alone. -/
theorem applyPayloadProjection_frame (message : SubscribeUpdate) (blockPayload : BlockPayload)
    (transactionPayload : TransactionPayload) :
    let projected := applyPayloadProjection message blockPayload transactionPayload
    projected.sessionId = message.sessionId ∧ projected.sequence = message.sequence ∧
      projected.mempoolRevision = message.mempoolRevision ∧
      projected.filters = message.filters ∧ blockHeight projected = blockHeight message := by
  unfold applyPayloadProjection
  cases hu : message.update with
  | none => simp
  | some kind => cases kind <;> simp [blockHeight, hu]

theorem applyPayloadProjection_revision (message : SubscribeUpdate) (revision : Option Nat)
    (blockPayload : BlockPayload) (transactionPayload : TransactionPayload) :
    applyPayloadProjection { message with mempoolRevision := revision } blockPayload
        transactionPayload =
      { applyPayloadProjection message blockPayload transactionPayload with
        mempoolRevision := revision } := by
  unfold applyPayloadProjection
  cases hu : message.update with
  | none => simp [hu]
  | some kind => cases kind <;> simp [hu]

/-- The full projection is idempotent: it only writes the payload modes. -/
theorem applyPayloadProjection_full (message : SubscribeUpdate) :
    applyPayloadProjection (applyPayloadProjection message .full .full) .full .full =
      applyPayloadProjection message .full .full := by
  unfold applyPayloadProjection
  cases hu : message.update with
  | none => simp [hu]
  | some kind => cases kind <;> simp [hu, projectTransaction]

/-- A published message with its encoded length (`PublishedUpdate` and
`PreparedPayload`, without the cache). -/
structure PublishedUpdate where
  message : SubscribeUpdate
  encodedLen : Nat
  deriving DecidableEq

section
variable [WireFormat]

/-- `PreparedPayload::new`. -/
def preparedPayload (source : SubscribeUpdate) (blockPayload : BlockPayload)
    (transactionPayload : TransactionPayload) : PublishedUpdate :=
  let message := applyPayloadProjection source blockPayload transactionPayload
  { message := message, encodedLen := encodedLen message }

def PublishedUpdate.new (message : SubscribeUpdate) : PublishedUpdate :=
  preparedPayload message .full .full

end

/-! ## The projection cache -/

/-- The slots of `PayloadProjectionCache`. -/
inductive Projection where
  | blockMeta | transactionMeta | transactionRaw | transactionTransparent
  deriving DecidableEq

/-- The slot of a transaction payload. -/
def TransactionPayload.projection : TransactionPayload → Option Projection
  | .metaOnly => some .transactionMeta
  | .rawOnly => some .transactionRaw
  | .transparentOnly => some .transactionTransparent
  | .unspecified | .full => none

theorem TransactionPayload.projection_inj {p p' : TransactionPayload} {slot : Projection}
    (h : p.projection = some slot) (h' : p'.projection = some slot) : p = p' := by
  cases p <;> cases p' <;> cases h <;> cases h' <;> rfl

/-- The slot a delivery reads; `none` delivers the full message. -/
def PublishedUpdate.projection (update : PublishedUpdate) (blockPayload : BlockPayload)
    (transactionPayload : TransactionPayload) : Option Projection :=
  match update.message.update with
  | some (.block _) => if blockPayload = .metaOnly then some .blockMeta else none
  | some (.transaction _) | some (.mempoolTransaction _) => transactionPayload.projection
  | some (.bestChain _) | some (.mempool _) | some (.utxo _) | some (.ping _) | some (.pong _)
  | some (.reconnect _) | some (.mempoolSnapshot _) | none => none

/-- The slot alone decides the projection: the payload arguments of whoever
filled it do not show. -/
theorem applyPayloadProjection_of_projection {update : PublishedUpdate}
    {blockPayload blockPayload' : BlockPayload}
    {transactionPayload transactionPayload' : TransactionPayload} {slot : Projection}
    (h : update.projection blockPayload transactionPayload = some slot)
    (h' : update.projection blockPayload' transactionPayload' = some slot) :
    applyPayloadProjection update.message blockPayload transactionPayload =
      applyPayloadProjection update.message blockPayload' transactionPayload' := by
  unfold PublishedUpdate.projection at h h'
  cases hu : update.message.update with
  | none => simp [hu] at h
  | some kind =>
    cases kind with
    | block block =>
      simp only [hu] at h h'
      split at h <;> simp_all [applyPayloadProjection]
    | transaction transaction =>
      simp only [hu] at h h'
      obtain rfl := TransactionPayload.projection_inj h h'
      simp [applyPayloadProjection, hu]
    | mempoolTransaction transaction =>
      simp only [hu] at h h'
      obtain rfl := TransactionPayload.projection_inj h h'
      simp [applyPayloadProjection, hu]
    | _ => simp [hu] at h

/-- The contents of the slots. -/
abbrev PayloadProjectionCache := Projection → Option PublishedUpdate

section
variable [WireFormat]

/-- `PublishedUpdate::payload`: reads the slot, filling it on first use. -/
def PublishedUpdate.payload (update : PublishedUpdate) (cache : PayloadProjectionCache)
    (blockPayload : BlockPayload) (transactionPayload : TransactionPayload) :
    PublishedUpdate × PayloadProjectionCache :=
  match update.projection blockPayload transactionPayload with
  | none => (update, cache)
  | some slot =>
    let prepared := (cache slot).getD
      (preparedPayload update.message blockPayload transactionPayload)
    (prepared, Function.update cache slot (some prepared))

/-- The projection computed afresh. -/
def PublishedUpdate.freshPayload (update : PublishedUpdate) (blockPayload : BlockPayload)
    (transactionPayload : TransactionPayload) : PublishedUpdate :=
  match update.projection blockPayload transactionPayload with
  | none => update
  | some _ => preparedPayload update.message blockPayload transactionPayload

/-- Every filled slot holds the fresh projection. -/
def PublishedUpdate.CacheValid (update : PublishedUpdate) (cache : PayloadProjectionCache) :
    Prop :=
  ∀ slot prepared, cache slot = some prepared → ∀ blockPayload transactionPayload,
    update.projection blockPayload transactionPayload = some slot →
    prepared = preparedPayload update.message blockPayload transactionPayload

theorem PublishedUpdate.cacheValid_empty (update : PublishedUpdate) :
    update.CacheValid fun _ => none := by
  intro slot prepared h
  cases h

/-- **The cache is transparent.** A delivery returns the fresh projection and
keeps the cache valid. -/
theorem PublishedUpdate.payload_eq {update : PublishedUpdate} {cache : PayloadProjectionCache}
    (hvalid : update.CacheValid cache) (blockPayload : BlockPayload)
    (transactionPayload : TransactionPayload) :
    (update.payload cache blockPayload transactionPayload).1 =
        update.freshPayload blockPayload transactionPayload ∧
      update.CacheValid (update.payload cache blockPayload transactionPayload).2 := by
  unfold PublishedUpdate.payload PublishedUpdate.freshPayload
  cases hslot : update.projection blockPayload transactionPayload with
  | none => exact ⟨rfl, hvalid⟩
  | some slot =>
    have hprepared : (cache slot).getD
        (preparedPayload update.message blockPayload transactionPayload) =
        preparedPayload update.message blockPayload transactionPayload := by
      cases hc : cache slot with
      | none => rfl
      | some prepared => exact hvalid slot prepared hc _ _ hslot
    refine ⟨hprepared, fun slot' prepared' hget bp tp hp => ?_⟩
    simp only [hprepared, Function.update_apply] at hget
    split at hget
    · rename_i heq
      subst heq
      cases hget
      simp only [preparedPayload, applyPayloadProjection_of_projection hslot hp]
    · exact hvalid slot' prepared' hget bp tp hp

end

end ZakuraGrpc
