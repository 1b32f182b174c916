import ZakuraGrpc.Geyser.Payload

/-!
# The mempool state and its snapshots

The server folds the published mempool updates into `MempoolState`. A snapshot
replays that state to a new subscriber: its ids in chunks, then its details,
all stamped with the revision.

A client that folds the same updates holds a `MempoolView`. The server state
refines the view (`view_applyUpdate`), and folding a snapshot from nothing
gives the view back (`view_snapshot`).
-/

namespace ZakuraGrpc

def mempoolSnapshotIdsPerUpdate : Nat := 1000

structure MempoolState where
  revision : Nat := 0
  entries : Std.TreeMap String (Option PublishedUpdate) := ∅
  summaryTemplate : Option SubscribeUpdate := none

structure MempoolSnapshot where
  revision : Nat
  transactionCount : Nat
  updates : List PublishedUpdate

/-- The action of a summary; an unknown one counts as unspecified. -/
def mempoolAction (change : MempoolUpdate) : MempoolAction :=
  (MempoolAction.ofI32? change.action).getD .unspecified

/-- The id an admitted transaction is kept under. -/
def mempoolKey (transaction : MempoolTransactionUpdate) : String :=
  if transaction.unminedTransactionId.isEmpty then transaction.transactionId
  else transaction.unminedTransactionId

def isMempoolUpdate (update : SubscribeUpdate) : Bool :=
  match update.update with
  | some (.mempool _) | some (.mempoolTransaction _) => true
  | _ => false

namespace MempoolState

/-- `entry(id).or_default()` for each id. -/
def insertIds (entries : Std.TreeMap String (Option PublishedUpdate)) (ids : List String) :
    Std.TreeMap String (Option PublishedUpdate) :=
  ids.foldl (fun entries transactionId => entries.insertIfNew transactionId none) entries

def removeIds (entries : Std.TreeMap String (Option PublishedUpdate)) (ids : List String) :
    Std.TreeMap String (Option PublishedUpdate) :=
  ids.foldl (fun entries transactionId => entries.erase transactionId) entries

/-- One update of the loop of `apply`. -/
def applyUpdate (state : MempoolState) (update : PublishedUpdate) : MempoolState :=
  match update.message.update with
  | some (.mempool change) =>
    let state := { state with summaryTemplate := some update.message }
    match mempoolAction change with
    | .added => { state with entries := insertIds state.entries change.transactionIds }
    | .invalidated | .mined =>
      { state with entries := removeIds state.entries change.transactionIds }
    | .unspecified => state
  | some (.mempoolTransaction transaction) =>
    { state with entries := state.entries.insert (mempoolKey transaction) (some update) }
  | _ => state

def apply (state : MempoolState) (updates : List PublishedUpdate) : MempoolState :=
  updates.foldl applyUpdate state

end MempoolState

/-- `slice::chunks`, with the length of the list as fuel. -/
def chunksFrom {α : Type} (size : Nat) : Nat → List α → List (List α)
  | 0, _ => []
  | _ + 1, [] => []
  | fuel + 1, x :: xs => (x :: xs).take size :: chunksFrom size fuel ((x :: xs).drop size)

def chunks {α : Type} (size : Nat) (xs : List α) : List (List α) :=
  chunksFrom size xs.length xs

section
variable [WireFormat]

namespace MempoolState

/-- The summary of one chunk of ids. -/
def snapshotSummary (state : MempoolState) (transactionIds : List String) : SubscribeUpdate :=
  { state.summaryTemplate.getD default with
    eventType := EventType.mempoolChanged.toI32
    filters := []
    mempoolRevision := some state.revision
    update := some (.mempool
      { action := MempoolAction.added.toI32, transactionIds := transactionIds }) }

/-- The details, in the order of their ids. -/
def details (state : MempoolState) : List PublishedUpdate :=
  state.entries.toList.filterMap (·.2)

def snapshot (state : MempoolState) : MempoolSnapshot :=
  { revision := state.revision
    transactionCount := min state.entries.size u64Max
    updates :=
      if state.entries.isEmpty then []
      else
        (chunks mempoolSnapshotIdsPerUpdate state.entries.keys).map
            (fun chunk => PublishedUpdate.new (state.snapshotSummary chunk)) ++
          state.details.map fun update =>
            PublishedUpdate.new { update.message with mempoolRevision := some state.revision } }

end MempoolState

end

/-! ## The view of a client -/

/-- What is known of the mempool: the ids in it, each with its detail if there
is one. -/
abbrev MempoolView := String → Option (Option SubscribeUpdate)

/-- A detail without the fields that delivery stamps on it. -/
def SubscribeUpdate.detail (message : SubscribeUpdate) : SubscribeUpdate :=
  { message with filters := [], mempoolRevision := none }

namespace MempoolView

def empty : MempoolView := fun _ => none

/-- The ids are in the mempool; a known one keeps its detail. -/
def add (view : MempoolView) (transactionIds : List String) : MempoolView := fun transactionId =>
  if transactionId ∈ transactionIds then some ((view transactionId).getD none)
  else view transactionId

def remove (view : MempoolView) (transactionIds : List String) : MempoolView :=
  fun transactionId => if transactionId ∈ transactionIds then none else view transactionId

def setDetail (view : MempoolView) (transactionId : String) (message : SubscribeUpdate) :
    MempoolView :=
  Function.update view transactionId (some (some message.detail))

/-- One received update. -/
def observe (view : MempoolView) (message : SubscribeUpdate) : MempoolView :=
  match message.update with
  | some (.mempool change) =>
    match mempoolAction change with
    | .added => view.add change.transactionIds
    | .invalidated | .mined => view.remove change.transactionIds
    | .unspecified => view
  | some (.mempoolTransaction transaction) => view.setDetail (mempoolKey transaction) message
  | _ => view

def observeAll (view : MempoolView) (messages : List SubscribeUpdate) : MempoolView :=
  messages.foldl observe view

@[simp] theorem observeAll_nil (view : MempoolView) : view.observeAll [] = view := rfl

@[simp] theorem observeAll_append (view : MempoolView) (messages messages' : List SubscribeUpdate) :
    view.observeAll (messages ++ messages') = (view.observeAll messages).observeAll messages' :=
  List.foldl_append

theorem observeAll_cons (view : MempoolView) (message : SubscribeUpdate)
    (messages : List SubscribeUpdate) :
    view.observeAll (message :: messages) = (view.observe message).observeAll messages := rfl

theorem observe_of_not_mempool (view : MempoolView) {message : SubscribeUpdate}
    (h : isMempoolUpdate message = false) : view.observe message = view := by
  unfold isMempoolUpdate at h
  unfold observe
  split <;> simp_all

/-- The fields that delivery stamps are not read. -/
theorem observe_congr (view : MempoolView) {message message' : SubscribeUpdate}
    (h : message.detail = message'.detail) : view.observe message = view.observe message' := by
  have hupdate : message.detail.update = message'.detail.update := by rw [h]
  change message.update = message'.update at hupdate
  unfold observe setDetail
  rw [hupdate, h]

theorem observeAll_congr (view : MempoolView) {messages messages' : List SubscribeUpdate}
    (h : messages.map (·.detail) = messages'.map (·.detail)) :
    view.observeAll messages = view.observeAll messages' := by
  induction messages generalizing view messages' with
  | nil =>
    rw [List.map_nil, eq_comm, List.map_eq_nil_iff] at h
    rw [h]
  | cons message messages ih =>
    obtain ⟨message', messages', rfl, hhead, htail⟩ := List.map_eq_cons_iff.mp h.symm
    rw [observeAll_cons, observeAll_cons, observe_congr view hhead.symm]
    exact ih _ htail.symm

/-- Only the mempool updates of a stream are read. -/
theorem observeAll_filter (view : MempoolView) (messages : List SubscribeUpdate) :
    view.observeAll (messages.filter isMempoolUpdate) = view.observeAll messages := by
  induction messages generalizing view with
  | nil => rfl
  | cons message messages ih =>
    rw [List.filter_cons]
    cases h : isMempoolUpdate message with
    | true => rw [if_pos rfl, observeAll_cons, observeAll_cons, ih]
    | false =>
      rw [if_neg Bool.false_ne_true, observeAll_cons, observe_of_not_mempool view h, ih]

/-- The details read one after another. -/
theorem add_append (view : MempoolView) (ids ids' : List String) :
    (view.add ids).add ids' = view.add (ids ++ ids') := by
  funext id
  unfold add
  by_cases h : id ∈ ids <;> by_cases h' : id ∈ ids' <;> simp [h, h']

@[simp] theorem add_nil (view : MempoolView) : view.add [] = view := by
  funext id
  simp [add]

end MempoolView

/-! ## The server state refines the view -/

namespace MempoolState

/-- The ids and details of a map of entries. -/
def viewOf (entries : Std.TreeMap String (Option PublishedUpdate)) : MempoolView :=
  fun transactionId => entries[transactionId]?.map (·.map (·.message.detail))

/-- The ids and details the server holds. -/
def view (state : MempoolState) : MempoolView := viewOf state.entries

theorem getElem?_insertIds (entries : Std.TreeMap String (Option PublishedUpdate))
    (ids : List String) (id : String) :
    (insertIds entries ids)[id]? =
      if id ∈ ids then some (entries[id]?.getD none) else entries[id]? := by
  induction ids generalizing entries with
  | nil => rfl
  | cons head ids ih =>
    rw [insertIds, List.foldl_cons, ← insertIds, ih, Std.TreeMap.getElem?_insertIfNew]
    by_cases heq : head = id
    · subst heq
      cases h : entries[head]? <;> simp [Std.TreeMap.mem_iff_isSome_getElem?, h]
    · have hcmp : compare head id ≠ .eq := fun h => heq (Std.LawfulEqCmp.compare_eq_iff_eq.mp h)
      have hne : id ≠ head := fun h => heq h.symm
      simp [hcmp, hne]

theorem getElem?_removeIds (entries : Std.TreeMap String (Option PublishedUpdate))
    (ids : List String) (id : String) :
    (removeIds entries ids)[id]? = if id ∈ ids then none else entries[id]? := by
  induction ids generalizing entries with
  | nil => rfl
  | cons head ids ih =>
    rw [removeIds, List.foldl_cons, ← removeIds, ih, Std.TreeMap.getElem?_erase]
    by_cases heq : head = id
    · subst heq
      simp
    · have hcmp : compare head id ≠ .eq := fun h => heq (Std.LawfulEqCmp.compare_eq_iff_eq.mp h)
      have hne : id ≠ head := fun h => heq h.symm
      simp [hcmp, hne]

theorem viewOf_insertIds (entries : Std.TreeMap String (Option PublishedUpdate))
    (ids : List String) : viewOf (insertIds entries ids) = (viewOf entries).add ids := by
  funext id
  simp only [viewOf, MempoolView.add, getElem?_insertIds]
  split
  · cases entries[id]? <;> rfl
  · rfl

theorem viewOf_removeIds (entries : Std.TreeMap String (Option PublishedUpdate))
    (ids : List String) : viewOf (removeIds entries ids) = (viewOf entries).remove ids := by
  funext id
  simp only [viewOf, MempoolView.remove, getElem?_removeIds]
  split <;> rfl

theorem viewOf_insert (entries : Std.TreeMap String (Option PublishedUpdate)) (id : String)
    (update : PublishedUpdate) :
    viewOf (entries.insert id (some update)) = (viewOf entries).setDetail id update.message := by
  funext id'
  simp only [viewOf, MempoolView.setDetail, Std.TreeMap.getElem?_insert, Function.update_apply,
    Std.LawfulEqCmp.compare_eq_iff_eq, eq_comm (a := id')]
  split <;> rfl

/-- **Refinement.** The server's step on its entries is the client's step on
the view. -/
theorem view_applyUpdate (state : MempoolState) (update : PublishedUpdate) :
    (state.applyUpdate update).view = state.view.observe update.message := by
  unfold applyUpdate MempoolView.observe
  cases hu : update.message.update with
  | none => rfl
  | some kind =>
    cases kind with
    | mempool change =>
      cases ha : mempoolAction change with
      | unspecified => simp only [ha]; rfl
      | added => simp only [ha]; exact viewOf_insertIds state.entries change.transactionIds
      | invalidated => simp only [ha]; exact viewOf_removeIds state.entries change.transactionIds
      | mined => simp only [ha]; exact viewOf_removeIds state.entries change.transactionIds
    | mempoolTransaction transaction =>
      exact viewOf_insert state.entries (mempoolKey transaction) update
    | _ => rfl

theorem view_apply (state : MempoolState) (updates : List PublishedUpdate) :
    (state.apply updates).view = state.view.observeAll (updates.map (·.message)) := by
  induction updates generalizing state with
  | nil => rfl
  | cons update updates ih =>
    rw [apply, List.foldl_cons, List.map_cons, MempoolView.observeAll_cons, ← view_applyUpdate]
    exact ih _

/-! ## Snapshots -/

theorem chunksFrom_flatten {α : Type} {size : Nat} (hsize : 0 < size) :
    ∀ {fuel : Nat} {xs : List α}, xs.length ≤ fuel → (chunksFrom size fuel xs).flatten = xs := by
  intro fuel
  induction fuel with
  | zero =>
    intro xs h
    rw [List.eq_nil_of_length_eq_zero (Nat.le_zero.mp h)]
    rfl
  | succ fuel ih =>
    intro xs h
    cases xs with
    | nil => rfl
    | cons x xs =>
      have hlen : ((x :: xs).drop size).length ≤ fuel := by
        rw [List.length_drop]
        omega
      rw [chunksFrom, List.flatten_cons, ih hlen, List.take_append_drop]

/-- The chunks cover the list, in order. -/
theorem chunks_flatten {α : Type} {size : Nat} (hsize : 0 < size) (xs : List α) :
    (chunks size xs).flatten = xs :=
  chunksFrom_flatten hsize le_rfl

/-- The message is a detail kept under `id`, with its full payload. -/
def IsDetail (id : String) (message : SubscribeUpdate) : Prop :=
  ∃ transaction, message.update = some (.mempoolTransaction transaction) ∧
    mempoolKey transaction = id ∧ applyPayloadProjection message .full .full = message

/-- Every detail is kept under its own id. -/
def EntriesValid (entries : Std.TreeMap String (Option PublishedUpdate)) : Prop :=
  ∀ id update, entries[id]? = some (some update) → IsDetail id update.message

theorem entriesValid_empty : EntriesValid ∅ := by
  intro id update h
  simp at h

theorem EntriesValid.applyUpdate {state : MempoolState} (h : EntriesValid state.entries)
    {update : PublishedUpdate}
    (hfull : applyPayloadProjection update.message .full .full = update.message) :
    EntriesValid (state.applyUpdate update).entries := by
  have hinsert : ∀ ids, EntriesValid (insertIds state.entries ids) := by
    intro ids id found hget
    rw [getElem?_insertIds] at hget
    split at hget
    · cases hentry : state.entries[id]? with
      | none => simp [hentry] at hget
      | some detail =>
        simp only [hentry, Option.getD_some, Option.some.injEq] at hget
        exact h id found (hget ▸ hentry)
    · exact h id found hget
  have hremove : ∀ ids, EntriesValid (removeIds state.entries ids) := by
    intro ids id found hget
    rw [getElem?_removeIds] at hget
    split at hget
    · cases hget
    · exact h id found hget
  unfold MempoolState.applyUpdate
  cases hu : update.message.update with
  | none => exact h
  | some kind =>
    cases kind with
    | mempool change =>
      cases ha : mempoolAction change with
      | unspecified => simp only [ha]; exact h
      | added => simp only [ha]; exact hinsert _
      | invalidated => simp only [ha]; exact hremove _
      | mined => simp only [ha]; exact hremove _
    | mempoolTransaction transaction =>
      intro id found hget
      change (state.entries.insert (mempoolKey transaction) (some update))[id]? = _ at hget
      rw [Std.TreeMap.getElem?_insert] at hget
      split at hget
      · rename_i heq
        simp only [Option.some.injEq] at hget
        subst hget
        exact ⟨transaction, hu, Std.LawfulEqCmp.compare_eq_iff_eq.mp heq, hfull⟩
      · exact h id found hget
    | _ => exact h

theorem EntriesValid.apply {state : MempoolState} (h : EntriesValid state.entries)
    {updates : List PublishedUpdate}
    (hfull : ∀ update ∈ updates,
      applyPayloadProjection update.message .full .full = update.message) :
    EntriesValid (state.apply updates).entries := by
  induction updates generalizing state with
  | nil => exact h
  | cons update updates ih =>
    exact ih (h.applyUpdate (hfull update List.mem_cons_self))
      fun u hu => hfull u (List.mem_cons_of_mem _ hu)

section
variable [WireFormat]

/-- The messages of a snapshot's details, as they are sent. -/
def restamp (revision : Nat) (update : PublishedUpdate) : SubscribeUpdate :=
  (PublishedUpdate.new { update.message with mempoolRevision := some revision }).message

theorem observe_restamp (view : MempoolView) {id : String} {update : PublishedUpdate}
    (h : IsDetail id update.message) (revision : Nat) :
    view.observe (restamp revision update) = view.setDetail id update.message := by
  obtain ⟨transaction, hupdate, hkey, hfull⟩ := h
  have hmessage : restamp revision update =
      { update.message with mempoolRevision := some revision } := by
    show applyPayloadProjection _ .full .full = _
    rw [applyPayloadProjection_revision, hfull]
  have hdetail : (restamp revision update).detail = update.message.detail := by
    rw [hmessage]
    rfl
  rw [view.observe_congr hdetail]
  simp only [MempoolView.observe, hupdate, hkey]

/-- The summaries of the chunks add their ids. -/
theorem observeAll_summaries (state : MempoolState) (view : MempoolView)
    (idChunks : List (List String)) :
    view.observeAll (idChunks.map fun chunk =>
        (PublishedUpdate.new (state.snapshotSummary chunk)).message) =
      view.add idChunks.flatten := by
  induction idChunks generalizing view with
  | nil => simp
  | cons chunk idChunks ih =>
    rw [List.map_cons, MempoolView.observeAll_cons, ih, List.flatten_cons,
      ← MempoolView.add_append]
    rfl

/-- A list of entries whose details are kept under their ids. -/
def PairsValid (pairs : List (String × Option PublishedUpdate)) : Prop :=
  ∀ id update, (id, some update) ∈ pairs → IsDetail id update.message

theorem observeAll_details_of_not_mem {pairs : List (String × Option PublishedUpdate)}
    (hvalid : PairsValid pairs) (view : MempoolView) (revision : Nat) {id : String}
    (hid : ∀ update, (id, some update) ∉ pairs) :
    view.observeAll ((pairs.filterMap (·.2)).map (restamp revision)) id = view id := by
  induction pairs generalizing view with
  | nil => rfl
  | cons pair pairs ih =>
    obtain ⟨key, value⟩ := pair
    have hvalid' : PairsValid pairs := fun i u hu => hvalid i u (List.mem_cons_of_mem _ hu)
    have hid' : ∀ update, (id, some update) ∉ pairs := fun u hu =>
      hid u (List.mem_cons_of_mem _ hu)
    cases value with
    | none => exact ih hvalid' view hid'
    | some update =>
      have hne : id ≠ key := by
        rintro rfl
        exact hid update List.mem_cons_self
      simp only [List.filterMap_cons, List.map_cons, MempoolView.observeAll_cons]
      rw [ih hvalid' _ hid', observe_restamp view (hvalid key update List.mem_cons_self)]
      exact Function.update_of_ne hne _ _

theorem observeAll_details_of_mem {pairs : List (String × Option PublishedUpdate)}
    (hvalid : PairsValid pairs) (view : MempoolView) (revision : Nat) {id : String}
    {update : PublishedUpdate} (hmem : (id, some update) ∈ pairs)
    (huniq : ∀ update', (id, some update') ∈ pairs → update' = update) :
    view.observeAll ((pairs.filterMap (·.2)).map (restamp revision)) id =
      some (some update.message.detail) := by
  induction pairs generalizing view with
  | nil => cases hmem
  | cons pair pairs ih =>
    obtain ⟨key, value⟩ := pair
    have hvalid' : PairsValid pairs := fun i u hu => hvalid i u (List.mem_cons_of_mem _ hu)
    have huniq' : ∀ update', (id, some update') ∈ pairs → update' = update := fun u hu =>
      huniq u (List.mem_cons_of_mem _ hu)
    by_cases hrest : (id, some update) ∈ pairs
    · cases value with
      | none => exact ih hvalid' view hrest huniq'
      | some head => exact ih hvalid' _ hrest huniq'
    · -- The head is the entry of `id`; nothing behind it has that key.
      have hhead : (id, some update) = (key, value) :=
        (List.mem_cons.mp hmem).resolve_right hrest
      cases hhead
      simp only [List.filterMap_cons, List.map_cons, MempoolView.observeAll_cons]
      rw [observeAll_details_of_not_mem hvalid' _ revision
          (fun u hu => hrest (huniq' u hu ▸ hu)),
        observe_restamp view (hvalid id update List.mem_cons_self)]
      exact Function.update_self _ _ _

/-- **Snapshots are faithful.** Folding a snapshot from nothing gives the ids
and details the server holds. -/
theorem view_snapshot {state : MempoolState} (hvalid : EntriesValid state.entries) :
    MempoolView.empty.observeAll (state.snapshot.updates.map (·.message)) = state.view := by
  funext id
  unfold snapshot
  split
  · rename_i hempty
    have hnone : state.entries[id]? = none := Std.TreeMap.getElem?_of_isEmpty hempty
    simp [view, viewOf, hnone, MempoolView.empty]
  · have hpairs : PairsValid state.entries.toList := fun key update hmem =>
      hvalid key update (Std.TreeMap.mem_toList_iff_getElem?_eq_some.mp hmem)
    have hmem : ∀ value, (id, value) ∈ state.entries.toList ↔ state.entries[id]? = some value :=
      fun value => Std.TreeMap.mem_toList_iff_getElem?_eq_some
    simp only [List.map_append, List.map_map, MempoolView.observeAll_append]
    have hsummaries := observeAll_summaries state MempoolView.empty
      (chunks mempoolSnapshotIdsPerUpdate state.entries.keys)
    rw [chunks_flatten (by decide)] at hsummaries
    show MempoolView.observeAll (MempoolView.observeAll _ (List.map (fun chunk =>
      (PublishedUpdate.new (state.snapshotSummary chunk)).message) _))
        (List.map (restamp state.revision) (state.entries.toList.filterMap (·.2))) id = _
    rw [hsummaries]
    cases hentry : state.entries[id]? with
    | none =>
      rw [observeAll_details_of_not_mem hpairs _ _ (fun u hu => by
        rw [hmem, hentry] at hu
        cases hu)]
      have hkeys : id ∉ state.entries.keys := by
        rw [Std.TreeMap.mem_keys, Std.TreeMap.mem_iff_isSome_getElem?, hentry]
        exact Bool.false_ne_true
      simp [MempoolView.add, hkeys, view, viewOf, hentry, MempoolView.empty]
    | some value =>
      have hkeys : id ∈ state.entries.keys := by
        rw [Std.TreeMap.mem_keys, Std.TreeMap.mem_iff_isSome_getElem?, hentry]
        rfl
      cases value with
      | none =>
        rw [observeAll_details_of_not_mem hpairs _ _ (fun u hu => by
          rw [hmem, hentry] at hu
          cases hu)]
        simp [MempoolView.add, hkeys, view, viewOf, hentry, MempoolView.empty]
      | some update =>
        rw [observeAll_details_of_mem hpairs _ _ ((hmem _).mpr hentry) (fun u hu => by
          rw [hmem, hentry] at hu
          cases hu
          rfl)]
        simp [view, viewOf, hentry]

/-- A snapshot holds no block-scoped update. -/
theorem snapshot_not_blockScoped {state : MempoolState} (hvalid : EntriesValid state.entries) :
    ∀ update ∈ state.snapshot.updates, blockHeight update.message = none := by
  intro update hmem
  have hheight : ∀ message, blockHeight (PublishedUpdate.new message).message =
      blockHeight message := fun message =>
    (applyPayloadProjection_frame message .full .full).2.2.2.2
  unfold snapshot at hmem
  split at hmem
  · cases hmem
  rcases List.mem_append.mp hmem with hmem | hmem
  · obtain ⟨chunk, -, rfl⟩ := List.mem_map.mp hmem
    rw [hheight]
    rfl
  · obtain ⟨detail, hdetail, rfl⟩ := List.mem_map.mp hmem
    obtain ⟨⟨id, found⟩, hentry, hfound⟩ := List.mem_filterMap.mp hdetail
    dsimp only at hfound
    subst hfound
    obtain ⟨transaction, hkind, -, -⟩ :=
      hvalid id detail (Std.TreeMap.mem_toList_iff_getElem?_eq_some.mp hentry)
    rw [hheight]
    unfold blockHeight
    rw [hkind]

end

@[simp] theorem revision_applyUpdate (state : MempoolState) (update : PublishedUpdate) :
    (state.applyUpdate update).revision = state.revision := by
  unfold applyUpdate
  split
  · dsimp only
    split <;> rfl
  · rfl
  · rfl

@[simp] theorem revision_apply (state : MempoolState) (updates : List PublishedUpdate) :
    (state.apply updates).revision = state.revision := by
  induction updates generalizing state with
  | nil => rfl
  | cons update updates ih => exact (ih _).trans (revision_applyUpdate state update)

end MempoolState

end ZakuraGrpc
