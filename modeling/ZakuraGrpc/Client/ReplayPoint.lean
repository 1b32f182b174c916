import ZakuraGrpc.Client.Reconnect

/-!
# The replay point of a reconnect

Under `RecoverMissedData` a reconnect resumes from the finalized anchor, or from
some heights below the last one observed. The requests are ones the server's
`replay_height` accepts, and under `Fail` the client never loses its replay
point: once it has one, it does not rejoin at the live head
(`reconnect_wellFormed`).
-/

namespace ZakuraGrpc

open Runs Std

/-! ## Requests -/

/-- The request is one `replay_height` accepts, with the partial blocks in the
order of a checkpoint. -/
structure WellFormedRequest (request : SubscribeRequest) : Prop where
  accepted : ∃ height, replayHeight request = .ok height
  hash : ∀ resume, request.resume = some resume → resume.finalizedBlockHash ≠ ""
  fromHeight : ∀ resume, request.resume = some resume →
    request.fromHeight = some resume.finalizedHeight
  above : ∀ resume, request.resume = some resume → ∀ block ∈ resume.partialBlocks,
    resume.finalizedHeight < block.height
  nodup : ∀ resume, request.resume = some resume → resume.partialBlocks.Nodup
  ordered : ∀ resume, request.resume = some resume →
    (resume.partialBlocks.map (·.height)).Pairwise (· ≥ ·)

/-- The hash of the block an update is about is not empty. -/
def HashSet (update : SubscribeUpdate) : Prop :=
  match update.update with
  | some (.block block) => block.hash ≠ ""
  | some (.bestChain change) => change.hash ≠ ""
  | some (.transaction transaction) => transaction.blockHash ≠ ""
  | some (.utxo utxo) => utxo.blockHash ≠ ""
  | some (.mempool _) | some (.mempoolTransaction _) | some (.ping _) | some (.pong _)
  | some (.reconnect _) | some (.mempoolSnapshot _) | none => True

/-! ## Checkpoints -/

namespace ChainResumeState

/-- A state whose checkpoints the server accepts. -/
structure Resumable (chain : ChainResumeState) : Prop extends WellFormed chain where
  hash : ∀ finalized, chain.finalized = some finalized → finalized.2 ≠ ""

theorem height_le_of_lt {a b : PartialKey} (h : comparePartialKey a b = .lt) : a.1 ≤ b.1 := by
  unfold comparePartialKey compareLex at h
  rcases Ordering.then_eq_lt.mp h with hlt | ⟨heq, -⟩
  · exact Nat.le_of_lt (Nat.compare_eq_lt.mp hlt)
  · exact Nat.le_of_eq (Nat.compare_eq_eq.mp heq)

theorem Resumable.checkpoint {chain : ChainResumeState} (h : chain.Resumable)
    {resume : ResumeCheckpoint} (hresume : chain.checkpoint = some resume) :
    resume.finalizedBlockHash ≠ "" ∧
    (∀ block ∈ resume.partialBlocks, resume.finalizedHeight < block.height) ∧
    resume.partialBlocks.Nodup ∧ (resume.partialBlocks.map (·.height)).Pairwise (· ≥ ·) := by
  obtain ⟨finalized, hfinalized, rfl⟩ := Option.map_eq_some_iff.mp hresume
  refine ⟨h.hash finalized hfinalized, fun block hmem => ?_, ?_, ?_⟩
  · exact h.above _ (h.keyed.mem_of_mem_values (List.mem_reverse.mp hmem)) finalized hfinalized
  · exact List.nodup_reverse.mpr h.keyed.nodup
  · rw [List.map_reverse, List.pairwise_reverse, List.pairwise_map]
    exact h.keyed.pairwise.imp height_le_of_lt

/-- A block is finalized under its own hash. -/
theorem hash_of_finalize {update : SubscribeUpdate} (hhash : HashSet update) {height : Nat}
    {hash : String} (h : chainEffect update = .finalize height hash) : hash ≠ "" := by
  unfold HashSet at hhash
  rcases finalize_cases h with ⟨_, hkind, -, rfl⟩ | ⟨_, hkind, -, rfl⟩ | ⟨_, hkind, -, rfl⟩
  all_goals
    rw [hkind] at hhash
    exact hhash

theorem Resumable.observe {chain : ChainResumeState} (h : chain.Resumable)
    {update : SubscribeUpdate} (hhash : HashSet update) : (chain.observe update).Resumable := by
  refine ⟨h.toWellFormed.observe update, fun finalized hfinalized => ?_⟩
  rw [observe_eq] at hfinalized
  cases heffect : chainEffect update with
  | finalize height hash =>
    rw [heffect] at hfinalized
    cases hfinalized
    exact hash_of_finalize hhash heffect
  | revise removed inserted =>
    rw [heffect, finalized_apply_revise] at hfinalized
    exact h.hash finalized hfinalized

theorem mem_fromRequest {blocks : List CanonicalBlock}
    {partialBlocks : TreeMap PartialKey CanonicalBlock comparePartialKey} {key : PartialKey} :
    key ∈ blocks.foldl (fun blocks block => blocks.insert (partialKey block) block)
        partialBlocks ↔
      key ∈ blocks.map partialKey ∨ key ∈ partialBlocks := by
  induction blocks generalizing partialBlocks with
  | nil => simp
  | cons block blocks ih =>
    rw [List.foldl_cons, ih, TreeMap.mem_insert, LawfulEqCmp.compare_eq_iff_eq, List.map_cons,
      List.mem_cons]
    constructor
    · rintro (hmem | rfl | hmem)
      · exact .inl (.inr hmem)
      · exact .inl (.inl rfl)
      · exact .inr hmem
    · rintro ((rfl | hmem) | hmem)
      · exact .inr (.inl rfl)
      · exact .inl hmem
      · exact .inr (.inr hmem)

theorem keyed_fromRequest {blocks : List CanonicalBlock}
    {partialBlocks : TreeMap PartialKey CanonicalBlock comparePartialKey}
    (h : Keyed.IsKeyed partialKey partialBlocks) :
    Keyed.IsKeyed partialKey
      (blocks.foldl (fun blocks block => blocks.insert (partialKey block) block)
        partialBlocks) := by
  induction blocks generalizing partialBlocks with
  | nil => exact h
  | cons block blocks ih => exact ih (h.insert block)

/-- The initial checkpoint is taken as it is; the server has checked it. -/
theorem resumable_fromRequest {request : SubscribeRequest} {height : Option Nat}
    (haccepted : replayHeight request = .ok height) : (fromRequest request).Resumable := by
  unfold fromRequest
  cases hresume : request.resume with
  | none => exact ⟨wellFormed_empty, fun _ h => nomatch h⟩
  | some resume =>
    obtain ⟨⟨hhash, -, habove⟩, -⟩ := (replayHeight_of_resume hresume).mp haccepted
    refine ⟨⟨keyed_fromRequest Keyed.isKeyed_empty, fun key hmem finalized hfinalized => ?_⟩,
      fun finalized hfinalized => ?_⟩
    · cases hfinalized
      rcases mem_fromRequest.mp hmem with hmem | hmem
      · obtain ⟨block, hblock, rfl⟩ := List.mem_map.mp hmem
        exact habove block hblock
      · exact absurd hmem TreeMap.not_mem_emptyc
    · cases hfinalized
      exact hhash

end ChainResumeState

/-! ## The client's requests -/

namespace Client

variable {config : ReconnectConfig} {client client' : Client} {event : ClientEvent}

/-- The client has something to resume from. -/
def HasReplayPoint (client : Client) : Prop :=
  client.chain.finalized ≠ none ∨ client.checkpoint ≠ none

theorem reconnectRequest_recover {heightRetention : Nat}
    (hpolicy : config.policy = .recoverMissedData heightRetention) (client : Client) :
    client.reconnectRequest config =
      { client.currentRequest with
        resume := client.chain.checkpoint
        fromHeight := (client.chain.checkpoint.map (·.finalizedHeight)).or
          ((client.checkpoint.map (· - config.checkpointHeightBuffer)).or
            client.currentRequest.fromHeight) } := by
  unfold reconnectRequest
  rw [hpolicy]

/-- The height the server reads off a reconnect request is the one it names. -/
theorem replayHeight_reconnectRequest {heightRetention : Nat}
    (hpolicy : config.policy = .recoverMissedData heightRetention) {height : Option Nat}
    (h : replayHeight (client.reconnectRequest config) = .ok height) :
    height = (client.reconnectRequest config).fromHeight := by
  rw [reconnectRequest_recover hpolicy] at h ⊢
  cases hresume : client.chain.checkpoint with
  | none =>
    rw [hresume] at h
    exact (Except.ok.inj h).symm
  | some resume =>
    rw [hresume] at h
    exact ((replayHeight_of_resume rfl).mp h).2

/-- A resumable state makes well formed requests. -/
theorem wellFormed_reconnectRequest {heightRetention : Nat}
    (hpolicy : config.policy = .recoverMissedData heightRetention)
    (h : client.chain.Resumable) : WellFormedRequest (client.reconnectRequest config) := by
  rw [reconnectRequest_recover hpolicy]
  have hheight : ∀ resume, client.chain.checkpoint = some resume →
      (client.chain.checkpoint.map (·.finalizedHeight)).or
        ((client.checkpoint.map (· - config.checkpointHeightBuffer)).or
          client.currentRequest.fromHeight) = some resume.finalizedHeight := by
    intro resume hresume
    rw [hresume]
    rfl
  refine
    { accepted := ?_
      hash := fun resume hresume => (h.checkpoint hresume).1
      fromHeight := hheight
      above := fun resume hresume => (h.checkpoint hresume).2.1
      nodup := fun resume hresume => (h.checkpoint hresume).2.2.1
      ordered := fun resume hresume => (h.checkpoint hresume).2.2.2 }
  cases hresume : client.chain.checkpoint with
  | none => exact ⟨_, rfl⟩
  | some resume =>
    obtain ⟨hhash, habove, -, -⟩ := h.checkpoint hresume
    refine ⟨some resume.finalizedHeight, ?_⟩
    rw [replayHeight_of_resume rfl]
    refine ⟨⟨hhash, fun height hsome => ?_, habove⟩, rfl⟩
    cases hsome
    rfl

/-- With something to resume from, the request names a height. -/
theorem named_reconnectRequest {heightRetention : Nat}
    (hpolicy : config.policy = .recoverMissedData heightRetention)
    (h : client.chain.Resumable) (hpoint : client.HasReplayPoint) :
    ∃ height, replayHeight (client.reconnectRequest config) = .ok (some height) := by
  obtain ⟨height, haccepted⟩ := (wellFormed_reconnectRequest hpolicy h).accepted
  cases hresume : (client.reconnectRequest config).resume with
  | some resume =>
    obtain ⟨-, rfl⟩ := (replayHeight_of_resume hresume).mp haccepted
    exact ⟨_, haccepted⟩
  | none =>
    have hheight := haccepted
    unfold replayHeight at hheight
    rw [hresume] at hheight
    cases hheight
    rw [reconnectRequest_recover hpolicy] at hresume
    have hfinalized : client.chain.finalized = none := Option.map_eq_none_iff.mp hresume
    rcases hpoint with hpoint | hpoint
    · exact absurd hfinalized hpoint
    · obtain ⟨checkpoint, hcheckpoint⟩ := Option.ne_none_iff_exists'.mp hpoint
      refine ⟨checkpoint - config.checkpointHeightBuffer, ?_⟩
      rw [haccepted, reconnectRequest_recover hpolicy, hcheckpoint]
      change client.chain.checkpoint = none at hresume
      simp only [hresume]
      rfl

/-! ## What a step keeps -/

/-- The state makes resumable requests, and the one in hand is its own. -/
structure ReplayInv (config : ReconnectConfig) (client : Client) : Prop where
  chain : client.chain.Resumable
  request : ∀ request retries skipped, client.phase = .connecting request retries skipped →
    request = client.reconnectRequest config

/-- **One step under `Fail`.** -/
theorem ReplayInv.step (hfail : config.replayGapPolicy = .fail) (h : client.ReplayInv config)
    (hhash : ∀ update accepted, event = .message update accepted → HashSet update)
    (hstep : client.step (some config) event = some client') : client'.ReplayInv config := by
  constructor
  · cases step_moves hstep with
    | stay _ hkeeps hrequest hquiet =>
      rw [hkeeps.chain]
      exact h.chain
    | observe update accepted hobserves =>
      rw [hobserves.chain]
      exact h.chain.observe (hhash update accepted rfl)
    | forget _ hskips hforgets => exact absurd hskips (not_skipsGap hfail event)
  · intro request retries skipped hphase
    exact request_step hfail h.request hstep hphase

/-- Without a checkpoint the current request has no height. -/
theorem fromHeight_step
    (h : client.checkpoint = none → client.currentRequest.fromHeight = none)
    (hstep : client.step (some config) event = some client')
    (hnone : client'.checkpoint = none) : client'.currentRequest.fromHeight = none := by
  cases step_moves hstep with
  | stay _ hkeeps hrequest hquiet =>
    rcases hrequest with hrequest | ⟨request, sent, -, hping, hrequest⟩
    · rw [hrequest]
      rw [hkeeps.checkpoint] at hnone
      exact h hnone
    · rw [hrequest, commandRequest, hping]
      rfl
  | observe update accepted hobserves =>
    rw [hobserves.currentRequest]
    rw [hobserves.checkpoint, Option.or_eq_none_iff] at hnone
    exact h hnone.2
  | forget _ hskips hforgets =>
    rw [hforgets.currentRequest]

/-- A replay point is kept, and a block-scoped update that is observed sets one. -/
theorem HasReplayPoint.step (hfail : config.replayGapPolicy = .fail)
    (h : client.HasReplayPoint ∨ ∃ update accepted, event = .message update accepted ∧
      updateHeight update ≠ none)
    (hstep : client.step (some config) event = some client') :
    client'.HasReplayPoint ∨ client'.phase = .stopped := by
  cases step_moves hstep with
  | stay _ hkeeps hrequest hquiet =>
    rcases h with hpoint | ⟨update, accepted, hevent, hheight⟩
    · left
      unfold HasReplayPoint
      rw [hkeeps.chain, hkeeps.checkpoint]
      exact hpoint
    · exact .inr ((hquiet update accepted hevent).resolve_left hheight)
  | observe update accepted hobserves =>
    left
    cases hheight : updateHeight update with
    | some height =>
      right
      rw [hobserves.checkpoint, hheight]
      simp
    | none =>
      rcases h with hpoint | ⟨_, _, hevent, hne⟩
      · rcases hpoint with hfinalized | hold
        · left
          rw [hobserves.chain, ChainResumeState.observe_eq]
          cases chainEffect update with
          | finalize height hash => exact fun h => nomatch h
          | revise removed inserted =>
            rw [ChainResumeState.finalized_apply_revise]
            exact hfinalized
        · right
          rw [hobserves.checkpoint, hheight]
          exact hold
      · cases hevent
        exact absurd hheight hne
  | forget _ hskips hforgets => exact absurd hskips (not_skipsGap hfail event)

/-- The initial request's replay point is the client's. -/
theorem hasReplayPoint_new {initial : SubscribeRequest} {height : Nat}
    (h : replayHeight initial = .ok (some height)) :
    (new (some config) initial).HasReplayPoint := by
  unfold HasReplayPoint new ChainResumeState.fromRequest
  cases hresume : initial.resume with
  | some resume => exact .inl fun h => nomatch h
  | none =>
    right
    unfold replayHeight at h
    rw [hresume] at h
    have hheight : initial.fromHeight = some height := Except.ok.inj h
    simp [hheight]

/-- What a run keeps. -/
theorem replayInv_run (hfail : config.replayGapPolicy = .fail) {initial : SubscribeRequest}
    {height : Option Nat} (haccepted : replayHeight initial = .ok height)
    {events : List ClientEvent}
    (hhashes : ∀ update accepted, .message update accepted ∈ events → HashSet update)
    (hrun : runs (step (some config)) (new (some config) initial) events = some client) :
    client.ReplayInv config ∧
      ((∃ height, replayHeight initial = .ok (some height)) ∨
          (∃ update accepted, .message update accepted ∈ events ∧ updateHeight update ≠ none) →
        client.HasReplayPoint ∨ client.phase = .stopped) := by
  induction events using List.reverseRecOn generalizing client with
  | nil =>
    cases hrun
    refine ⟨⟨ChainResumeState.resumable_fromRequest haccepted,
      fun _ _ _ hphase => (by cases hphase)⟩, ?_⟩
    rintro (⟨height, hnamed⟩ | ⟨_, _, hmem, -⟩)
    · exact .inl (hasReplayPoint_new hnamed)
    · cases hmem
  | append_singleton events event ih =>
    obtain ⟨before, hbefore, hstep⟩ := runs_snoc.mp hrun
    obtain ⟨hinv, hpoint⟩ := ih
      (fun update accepted hmem => hhashes update accepted (List.mem_append_left _ hmem)) hbefore
    refine ⟨hinv.step hfail (fun update accepted hevent => ?_) hstep, fun hnamed => ?_⟩
    · exact hhashes update accepted (by simp [hevent])
    · refine HasReplayPoint.step hfail ?_ hstep
      have hcases : ((∃ height, replayHeight initial = .ok (some height)) ∨
          ∃ update accepted, .message update accepted ∈ events ∧ updateHeight update ≠ none) ∨
          ∃ update accepted, event = .message update accepted ∧ updateHeight update ≠ none := by
        rcases hnamed with hnamed | ⟨update, accepted, hmem, hheight⟩
        · exact .inl (.inl hnamed)
        · rcases List.mem_append.mp hmem with hmem | hmem
          · exact .inl (.inr ⟨update, accepted, hmem, hheight⟩)
          · exact .inr ⟨update, accepted, (List.mem_singleton.mp hmem).symm, hheight⟩
      refine hcases.imp (fun hold => ?_) id
      exact (hpoint hold).resolve_right (active_of_step hstep)

/-- **Reconnect requests.** In every run the request of a reconnect is well
formed; and once the initial request named a replay point, or a block-scoped
update was received, it names one. -/
theorem reconnect_wellFormed {heightRetention : Nat}
    (hpolicy : config.policy = .recoverMissedData heightRetention)
    (hfail : config.replayGapPolicy = .fail) {initial : SubscribeRequest}
    {height : Option Nat} (haccepted : replayHeight initial = .ok height)
    {events : List ClientEvent}
    (hhashes : ∀ update accepted, .message update accepted ∈ events → HashSet update)
    (hrun : runs (step (some config)) (new (some config) initial) events = some client)
    {request : SubscribeRequest} {retries : Nat} {skipped : Bool}
    (hphase : client.phase = .connecting request retries skipped) :
    WellFormedRequest request ∧
      ((∃ height, replayHeight initial = .ok (some height)) ∨
          (∃ update accepted, .message update accepted ∈ events ∧ updateHeight update ≠ none) →
        ∃ height, replayHeight request = .ok (some height)) := by
  obtain ⟨hinv, hpoint⟩ := replayInv_run hfail haccepted hhashes hrun
  rw [hinv.request request retries skipped hphase]
  refine ⟨wellFormed_reconnectRequest hpolicy hinv.chain, fun hnamed => ?_⟩
  rcases hpoint hnamed with hpoint | hstopped
  · exact named_reconnectRequest hpolicy hinv.chain hpoint
  · rw [hphase] at hstopped
    cases hstopped

/-! ## A sample run -/

/-- A block is finalized, two are accepted above it and a filter command is sent
before the stream ends. -/
def anchoredEvents : List ClientEvent :=
  [.message { update := some (.block { height := 100, hash := "f", finalized := true }) } true,
   .message { update := some (.block { height := 101, hash := "p" }) } true,
   .message { update := some (.block { height := 102, hash := "q" }) } true,
   .command { eventTypes := [1] } true, .disconnect .ended]

theorem reconnect_wellFormed_anchored :
    ∃ client request, runs (step (some {})) (new (some {}) { fromHeight := some 90 })
        anchoredEvents = some client ∧ client.phase = .connecting request 8 false ∧
      WellFormedRequest request ∧ ∃ height, replayHeight request = .ok (some height) := by
  have hhashes : ∀ update accepted, .message update accepted ∈ anchoredEvents →
      HashSet update := by
    intro update accepted hmem
    simp only [anchoredEvents, List.mem_cons, ClientEvent.message.injEq, List.not_mem_nil,
      reduceCtorEq, or_false] at hmem
    rcases hmem with ⟨rfl, -⟩ | ⟨rfl, -⟩ | ⟨rfl, -⟩ <;> simp [HashSet]
  obtain ⟨client, hrun⟩ : ∃ client, runs (step (some {}))
      (new (some {}) { fromHeight := some 90 }) anchoredEvents = some client := ⟨_, rfl⟩
  obtain ⟨request, hphase⟩ : ∃ request, client.phase = .connecting request 8 false := by
    cases hrun
    exact ⟨_, rfl⟩
  obtain ⟨hformed, hnamed⟩ := @reconnect_wellFormed {} client 250 rfl rfl
    { fromHeight := some 90 } (some 90) rfl anchoredEvents hhashes hrun request 8 false hphase
  exact ⟨client, request, hrun, hphase, hformed, hnamed (.inl ⟨90, rfl⟩)⟩

end Client

end ZakuraGrpc
