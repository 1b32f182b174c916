import ZakuraGrpc.Client.Reconnect

/-!
# Rollback and duplicate suppression

The client folds every update it observes into its `ChainResumeState`; the
application sees those that pass the dedup state, and can fold them the same
way. After a reconnect the two folds part: the notice makes both discard the
partial blocks, the replay brings the blocks back to the client, and the dedup
state, which has seen them, keeps them from the application.

`application_agrees` says when the folds agree.
-/

namespace ZakuraGrpc

open Runs Std

namespace ChainResumeState

/-! ## Comparing two states -/

/-- The same partial blocks. -/
def SameKeys (chain chain' : ChainResumeState) : Prop :=
  ∀ key, key ∈ chain.partialBlocks ↔ key ∈ chain'.partialBlocks

theorem SameKeys.symm {chain chain' : ChainResumeState} (h : chain.SameKeys chain') :
    chain'.SameKeys chain := fun key => (h key).symm

theorem SameKeys.trans {chain chain' chain'' : ChainResumeState} (h : chain.SameKeys chain')
    (h' : chain'.SameKeys chain'') : chain.SameKeys chain'' :=
  fun key => (h key).trans (h' key)

/-- The effect leaves the partial blocks as they are: it finalizes below all of
them, or inserts blocks that are there and removes blocks that are not or that it
puts back. -/
def Redundant (chain : ChainResumeState) : ChainEffect → Prop
  | .finalize height _ => ∀ key ∈ chain.partialBlocks, height < key.1
  | .revise removed inserted =>
    (∀ key ∈ inserted.map partialKey, chain.Above key.1 → key ∈ chain.partialBlocks) ∧
      ∀ key ∈ removed.map partialKey, key ∈ chain.partialBlocks →
        key ∈ inserted.map partialKey ∧ chain.Above key.1

theorem redundant_iff (chain : ChainResumeState) (effect : ChainEffect) :
    chain.Redundant effect ↔ (chain.apply effect).SameKeys chain := by
  cases effect with
  | finalize height hash =>
    constructor
    · intro hkeys key
      rw [mem_apply_finalize]
      exact and_iff_left_of_imp (hkeys key)
    · intro h key hmem
      exact (mem_apply_finalize.mp ((h key).mpr hmem)).2
  | revise removed inserted =>
    constructor
    · rintro ⟨hinserted, hremoved⟩ key
      rw [mem_apply_revise]
      constructor
      · rintro (⟨hmem, habove⟩ | ⟨-, hmem⟩)
        · exact hinserted key hmem habove
        · exact hmem
      · intro hmem
        by_cases hin : key ∈ removed.map partialKey
        · exact .inl (hremoved key hin hmem)
        · exact .inr ⟨hin, hmem⟩
    · intro h
      refine ⟨fun key hmem habove => ?_, fun key hin hmem => ?_⟩
      · exact (h key).mp (mem_apply_revise.mpr (.inl ⟨hmem, habove⟩))
      · rcases mem_apply_revise.mp ((h key).mpr hmem) with hback | ⟨hout, -⟩
        · exact hback
        · exact absurd hin hout

/-- The effect admits the same new blocks to both states: each lies above the
finalized heights of both, or of neither. -/
def Alike (chain chain' : ChainResumeState) : ChainEffect → Prop
  | .finalize _ _ => True
  | .revise removed inserted =>
    ∀ key ∈ inserted.map partialKey, (key ∈ chain.partialBlocks → key ∈ removed.map partialKey) →
      (chain.Above key.1 ↔ chain'.Above key.1)

theorem alike_iff {chain chain' : ChainResumeState} (h : chain'.SameKeys chain)
    (effect : ChainEffect) :
    chain.Alike chain' effect ↔ (chain'.apply effect).SameKeys (chain.apply effect) := by
  cases effect with
  | finalize height hash =>
    refine iff_of_true trivial fun key => ?_
    rw [mem_apply_finalize, mem_apply_finalize, h key]
  | revise removed inserted =>
    constructor
    · intro halike key
      rw [mem_apply_revise, mem_apply_revise, h key]
      by_cases hold : key ∉ removed.map partialKey ∧ key ∈ chain.partialBlocks
      · exact iff_of_true (.inr hold) (.inr hold)
      · rw [or_iff_left hold, or_iff_left hold]
        refine and_congr_right fun hmem => (halike key hmem fun hpartial => ?_).symm
        exact not_not.mp fun hout => hold ⟨hout, hpartial⟩
    · intro hsame key hmem hgone
      have hold : ¬ (key ∉ removed.map partialKey ∧ key ∈ chain.partialBlocks) :=
        fun hold => hold.1 (hgone hold.2)
      have hkey := hsame key
      rw [mem_apply_revise, mem_apply_revise, h key, or_iff_left hold, or_iff_left hold,
        and_iff_right hmem, and_iff_right hmem] at hkey
      exact hkey.symm

end ChainResumeState

/-! ## The application's blocks -/

namespace Client

/-- The chain state the application gets by folding what it was sent. -/
def applicationChain (initial : SubscribeRequest) (client : Client) : ChainResumeState :=
  client.forwarded.foldl ChainResumeState.observe (.fromRequest initial)

/-- The key of a block-scoped update is retained. -/
def Suppresses (client : Client) (update : SubscribeUpdate) : Prop :=
  updateHeight update ≠ none ∧ ∃ dedup, client.dedup = some dedup ∧
    dedup.heightRetention ≠ 0 ∧ eventKey update ∈ dedup.seen

/-- The step keeps the partial blocks of the client and of the application the
same: an update held back changes none, an update shown brings the same ones to
both, and a replay point given up has none. -/
structure Open (config : ReconnectConfig) (initial : SubscribeRequest) (client : Client)
    (event : ClientEvent) : Prop where
  suppressed : ∀ update accepted, event = .message update accepted →
    client.Suppresses update → client.chain.Redundant (chainEffect update)
  shown : ∀ update, event = .message update true → ¬ client.Suppresses update →
    client.chain.Alike (client.applicationChain initial) (chainEffect update)
  skipped : client.SkipsGap config event → ∀ key, key ∉ client.chain.partialBlocks

variable {config : ReconnectConfig} {client client' : Client}

theorem suppresses_iff (client : Client) (update : SubscribeUpdate) :
    client.Suppresses update ↔ (client.observe update).2 = false := by
  unfold Suppresses observe
  cases hdedup : client.dedup with
  | none => simp
  | some dedup =>
    constructor
    · rintro ⟨hheight, _, hsome, hretention, hseen⟩
      cases hsome
      obtain ⟨height, hheight⟩ := Option.ne_none_iff_exists'.mp hheight
      simp [DedupState.observe, hheight, hretention, hseen]
    · intro hfalse
      obtain ⟨hheight, hseen, -⟩ := DedupState.observe_false hfalse
      refine ⟨Option.isSome_iff_ne_none.mp hheight, dedup, rfl, fun hzero => ?_, hseen⟩
      obtain ⟨height, hheight⟩ := Option.isSome_iff_exists.mp hheight
      simp [DedupState.observe, hheight, hzero] at hfalse

/-! ## Steps -/

theorem suppressed_step {update : SubscribeUpdate} {accepted : Bool}
    (hsuppresses : client.Suppresses update)
    (hstep : client.step (some config) (.message update accepted) = some client') :
    client'.forwarded = client.forwarded ∧ client'.chain = client.chain.observe update := by
  have hsuppressed := (suppresses_iff client update).mp hsuppresses
  obtain ⟨-, rfl⟩ := message_spec hstep
  rcases handleUpdate_spec config client update accepted with
    ⟨hnone, -⟩ | ⟨-, heq⟩ | ⟨-, hfresh, -⟩ | ⟨-, hfresh, -⟩
  · exact absurd hnone hsuppresses.1
  · rw [heq, chain_observe, forwarded, output_observe, forwarded]
    exact ⟨rfl, rfl⟩
  · rw [hsuppressed] at hfresh
    cases hfresh
  · rw [hsuppressed] at hfresh
    cases hfresh

/-- A message taken that is not held back changes both states alike; a keepalive
has no effect to show. -/
theorem shown_step {update : SubscribeUpdate} (hshown : ¬ client.Suppresses update)
    (hstep : client.step (some config) (.message update true) = some client')
    (initial : SubscribeRequest) :
    client'.chain = client.chain.apply (chainEffect update) ∧
      client'.applicationChain initial =
        (client.applicationChain initial).apply (chainEffect update) := by
  have hfresh : (client.observe update).2 = true := by
    rw [suppresses_iff, Bool.not_eq_false] at hshown
    exact hshown
  have hforward : (handleUpdate.forward client update true).chain =
        client.chain.apply (chainEffect update) ∧
      (handleUpdate.forward client update true).applicationChain initial =
        (client.applicationChain initial).apply (chainEffect update) := by
    rw [← ChainResumeState.observe_eq, ← ChainResumeState.observe_eq]
    simp [handleUpdate.forward, hfresh, applicationChain, forwarded, Except.toOption]
  have hkeepalive : chainEffect update = .revise [] [] →
      client.chain = client.chain.apply (chainEffect update) ∧
        client.applicationChain initial =
          (client.applicationChain initial).apply (chainEffect update) := by
    intro hnone
    rw [hnone]
    exact ⟨rfl, rfl⟩
  obtain ⟨-, rfl⟩ := message_spec hstep
  unfold handleUpdate
  split
  · rename_i hping
    exact hkeepalive (by rw [chainEffect, hping])
  · rename_i hpong
    split
    · exact hkeepalive (by rw [chainEffect, hpong])
    · exact hforward
  · exact hforward

/-- A message that nobody takes changes neither. -/
theorem lost_step {update : SubscribeUpdate} (hshown : ¬ client.Suppresses update)
    (hstep : client.step (some config) (.message update false) = some client') :
    client'.forwarded = client.forwarded ∧ client'.chain = client.chain := by
  have hfresh : (client.observe update).2 ≠ false :=
    fun hfalse => hshown ((suppresses_iff client update).mpr hfalse)
  obtain ⟨-, rfl⟩ := message_spec hstep
  rcases handleUpdate_spec config client update false with
    ⟨-, heq | heq⟩ | ⟨hfalse, -⟩ | ⟨htaken, -⟩ | ⟨-, -, heq⟩
  · rw [heq]
    exact ⟨rfl, rfl⟩
  · rw [heq]
    have hkeeps := (lost_moves config client
      "subscription request stream closed while replying to server ping").1
    exact ⟨hkeeps.forwarded, hkeeps.chain⟩
  · exact absurd hfalse hfresh
  · cases htaken
  · rw [heq]
    exact ⟨rfl, rfl⟩

theorem skipped_step {event : ClientEvent} (hskips : client.SkipsGap config event)
    (hstep : client.step (some config) event = some client') :
    client'.forwarded = client.forwarded ∧ client'.chain = client.chain.clear := by
  unfold SkipsGap at hskips
  split at hskips
  · obtain ⟨hpolicy, hcode⟩ := hskips
    obtain ⟨-, rfl⟩ := disconnect_spec hstep
    simp only [disconnected, hcode, isRecoverableStatus, hpolicy]
    exact ⟨rfl, rfl⟩
  · obtain ⟨hpolicy, hrange, request, retries, hphase⟩ := hskips
    obtain ⟨request', retries', skipped, hphase', rfl⟩ := attempt_spec hstep
    rw [hphase] at hphase'
    cases hphase'
    rename_i error
    have hrecoverable : isRecoverableClientError error = false := by
      unfold isOutOfRangeError at hrange
      unfold isRecoverableClientError
      split at hrange
      · cases hrange
      · simp only [beq_iff_eq] at hrange
        simp [hrange]
    simp only [attempted, hrecoverable, connectFailed, hrange, hpolicy]
    exact ⟨rfl, rfl⟩
  · exact hskips.elim

/-! ## Agreement -/

/-- The client and the application hold the same partial blocks. -/
def Agrees (initial : SubscribeRequest) (client : Client) : Prop :=
  (client.applicationChain initial).SameKeys client.chain

theorem agrees_new (config : ReconnectConfig) (initial : SubscribeRequest) :
    (new (some config) initial).Agrees initial := fun _ => Iff.rfl

/-- A step that hides nothing keeps the agreement. -/
theorem Agrees.step {initial : SubscribeRequest} {event : ClientEvent}
    (h : client.Agrees initial) (hopen : client.Open config initial event)
    (hstep : client.step (some config) event = some client') : client'.Agrees initial := by
  unfold Agrees at h ⊢
  have hkept : client'.forwarded = client.forwarded →
      client'.applicationChain initial = client.applicationChain initial := by
    intro hforwarded
    rw [applicationChain, applicationChain, hforwarded]
  cases step_moves hstep with
  | stay _ hkeeps hrequest hquiet =>
    rw [hkept hkeeps.forwarded, hkeeps.chain]
    exact h
  | observe update accepted hobserves =>
    by_cases hsuppresses : client.Suppresses update
    · obtain ⟨hforwarded, hchain⟩ := suppressed_step hsuppresses hstep
      rw [hkept hforwarded, hchain, ChainResumeState.observe_eq]
      have hredundant := hopen.suppressed update accepted rfl hsuppresses
      exact h.trans ((ChainResumeState.redundant_iff _ _).mp hredundant).symm
    · cases accepted with
      | true =>
        obtain ⟨hchain, happlication⟩ := shown_step hsuppresses hstep initial
        rw [hchain, happlication]
        exact (ChainResumeState.alike_iff h _).mp (hopen.shown update rfl hsuppresses)
      | false =>
        obtain ⟨hforwarded, hchain⟩ := lost_step hsuppresses hstep
        rw [hkept hforwarded, hchain]
        exact h
  | forget _ hskips hforgets =>
    rw [hkept hforgets.forwarded, hforgets.chain]
    intro key
    refine (h key).trans (iff_of_false (hopen.skipped hskips key) ?_)
    exact TreeMap.not_mem_emptyc

/-- A step between two states that agree hides nothing. -/
theorem Agrees.open {initial : SubscribeRequest} {event : ClientEvent}
    (h : client.Agrees initial) (hstep : client.step (some config) event = some client')
    (h' : client'.Agrees initial) : client.Open config initial event := by
  unfold Agrees at h h'
  constructor
  · rintro update accepted rfl hsuppresses
    obtain ⟨hforwarded, hchain⟩ := suppressed_step hsuppresses hstep
    rw [applicationChain, hforwarded, hchain, ChainResumeState.observe_eq] at h'
    exact (ChainResumeState.redundant_iff _ _).mpr (h'.symm.trans h)
  · rintro update rfl hsuppresses
    obtain ⟨hchain, happlication⟩ := shown_step hsuppresses hstep initial
    rw [hchain, happlication] at h'
    exact (ChainResumeState.alike_iff h _).mpr h'
  · intro hskips key hmem
    obtain ⟨hforwarded, hchain⟩ := skipped_step hskips hstep
    rw [applicationChain, hforwarded, hchain] at h'
    exact TreeMap.not_mem_emptyc ((h' key).mp ((h key).mpr hmem))

/-- **When the application agrees.** The partial blocks it holds are the client's
in every state of a run exactly when every step of the run is open: what it keeps
from the application is redundant, and what it shows is admitted by both. -/
theorem application_agrees (config : ReconnectConfig) (initial : SubscribeRequest)
    (events : List ClientEvent) :
    (∀ client, Visits (step (some config)) (new (some config) initial) events client →
        ∀ key, key ∈ (client.applicationChain initial).partialBlocks ↔
          key ∈ client.chain.partialBlocks) ↔
      ∀ client event client',
        Takes (step (some config)) (new (some config) initial) events client event client' →
        client.Open config initial event := by
  constructor
  · intro hagrees client event client' htakes
    obtain ⟨fs, -, -, hstep⟩ := id htakes
    exact Agrees.open (hagrees client htakes.source) hstep (hagrees client' htakes.target)
  · intro hopen client hvisits
    refine visits_invariant (I := fun client => client.Agrees initial) ?_ (agrees_new _ _) hvisits
    intro t event t' htakes h
    obtain ⟨fs, -, -, hstep⟩ := id htakes
    exact h.step (hopen t event t' htakes) hstep

/-! ## A replay after a rollback -/

def sampleBlockUpdate (height : Nat) (hash : String) (finalized : Bool) (sequence : Nat) :
    SubscribeUpdate :=
  { sessionId := [1], sequence := sequence
    update := some (.block { height := height, hash := hash, finalized := finalized }) }

/-- Block 100 is finalized and block 101 accepted; the reconnected server tells
the client to discard block 101 and replays both. -/
def rollbackEvents : List ClientEvent :=
  [.message (sampleBlockUpdate 100 "f" true 1) true,
   .message (sampleBlockUpdate 101 "p" false 2) true,
   .disconnect .ended, .attempt (.ok ()),
   .message (reconnectUpdate
     { finalizedHeight := 100, finalizedBlockHash := "f"
       partialBlocks := [{ height := 101, hash := "p" }] }) true,
   .message (sampleBlockUpdate 100 "f" true 1) true,
   .message (sampleBlockUpdate 101 "p" false 2) true]

/-- The replayed block is back in the client's state and stays away from the
application. -/
theorem rollback_lost :
    ¬ ∀ (config : ReconnectConfig) (heightRetention : Nat) (initial : SubscribeRequest)
        (events : List ClientEvent) (client : Client),
      config.policy = .recoverMissedData heightRetention →
      runs (step (some config)) (new (some config) initial) events = some client →
      ∀ key, key ∈ (client.applicationChain initial).partialBlocks ↔
        key ∈ client.chain.partialBlocks := by
  intro hall
  have hlost : ((runs (step (some {})) (new (some {}) {}) rollbackEvents).any fun client =>
      client.chain.partialBlocks.contains (101, "p") &&
        !(client.applicationChain {}).partialBlocks.contains (101, "p")) = true := by
    decide +kernel
  obtain ⟨client, hrun, hkeys⟩ := (Option.any_eq_true _ _).mp hlost
  simp only [Bool.and_eq_true, Bool.not_eq_true'] at hkeys
  have hin := (hall {} 250 {} rollbackEvents client rfl hrun (101, "p")).mpr
    (TreeMap.mem_iff_contains.mpr hkeys.1)
  rw [TreeMap.mem_iff_contains, hkeys.2] at hin
  cases hin

end Client

end ZakuraGrpc
