import ZakuraGrpc.System.Delivery
import ZakuraGrpc.System.Heard

/-!
# Replay gaps without a loss

The client asks again some heights below the last one it knows. The server
refuses a height below all it retains with `OUT_OF_RANGE`, and it retains
nothing below the first height it ever pushed. So a client that is still within
`checkpoint_height_buffer` of that height is refused although nothing was
evicted. `not_refuses_iff` is the exact condition, and `reaches_heard` says what it
means for the messages received.

A finalized anchor is asked for as it is, so once the client has one it is not
refused.
-/

namespace ZakuraGrpc

open Runs
open Publication (pushed)

/-- Some update of the list is block-scoped at the height. -/
def HasHeight (updates : List PublishedUpdate) (height : Nat) : Prop :=
  ∃ update ∈ updates, blockHeight update.message = some height

theorem HasHeight.mono {updates updates' : List PublishedUpdate} {height : Nat}
    (h : HasHeight updates height) (hsubset : updates ⊆ updates') : HasHeight updates' height := by
  obtain ⟨update, hmem, hheight⟩ := h
  exact ⟨update, hsubset hmem, hheight⟩

/-- A window that holds all blocks of a stream has their heights. -/
theorem Retains.hasHeight_iff {updates : List PublishedUpdate} {window : List ReplayBucket}
    (h : Retains updates window) (hall : window.flatMap (·.updates) = blocks updates)
    (height : Nat) : (∃ bucket ∈ window, bucket.height = height) ↔ HasHeight updates height := by
  constructor
  · rintro ⟨bucket, hbucket, rfl⟩
    obtain ⟨update, hupdate⟩ := List.exists_mem_of_ne_nil _ (h.nonempty bucket hbucket)
    have hblock : update ∈ blocks updates := by
      rw [← hall]
      exact List.mem_flatMap.mpr ⟨bucket, hbucket, hupdate⟩
    exact ⟨update, (List.mem_filter.mp hblock).1, h.height bucket hbucket update hupdate⟩
  · rintro ⟨update, hmem, hheight⟩
    have hblock : update ∈ blocks updates :=
      List.mem_filter.mpr ⟨hmem, by rw [hheight]; rfl⟩
    rw [← hall] at hblock
    obtain ⟨bucket, hbucket, hupdate⟩ := List.mem_flatMap.mp hblock
    have heq := h.height bucket hbucket update hupdate
    rw [hheight] at heq
    exact ⟨bucket, hbucket, (Option.some.inj heq).symm⟩

/-! ## The client -/

namespace Client

variable {config : ReconnectConfig} {client client' : Client} {updates : List PublishedUpdate}

/-- The finalized anchor is a height that was pushed, and the requests are made
of the client's state. The one behind a skipped gap keeps the anchor. -/
structure AnchoredIn (config : ReconnectConfig) (updates : List PublishedUpdate)
    (client : Client) : Prop where
  finalized : ∀ finalized, client.chain.finalized = some finalized → HasHeight updates finalized.1
  fromHeight : client.checkpoint = none → client.currentRequest.fromHeight = none
  request : ∀ request retries, client.phase = .connecting request retries false →
    request = client.reconnectRequest config
  skipped : ∀ request retries, client.phase = .connecting request retries true →
    request.fromHeight = none ∧
      ∀ resume, request.resume = some resume → HasHeight updates resume.finalizedHeight

theorem anchoredIn_new {initial : SubscribeRequest} (hresume : initial.resume = none) :
    (new (some config) initial).AnchoredIn config updates where
  finalized finalized hfinalized := by
    unfold new ChainResumeState.fromRequest at hfinalized
    rw [hresume] at hfinalized
    cases hfinalized
  fromHeight h := h
  request _ _ hphase := by cases hphase
  skipped _ _ hphase := by cases hphase

theorem AnchoredIn.mono {updates' : List PublishedUpdate} (h : client.AnchoredIn config updates)
    (hsubset : updates ⊆ updates') : client.AnchoredIn config updates' where
  finalized finalized hfinalized := (h.finalized finalized hfinalized).mono hsubset
  fromHeight := h.fromHeight
  request := h.request
  skipped request retries hphase :=
    ⟨(h.skipped request retries hphase).1, fun resume hresume =>
      ((h.skipped request retries hphase).2 resume hresume).mono hsubset⟩

/-- **One step of the client**, whose messages were pushed. -/
theorem AnchoredIn.step {heightRetention : Nat}
    (hpolicy : config.policy = .recoverMissedData heightRetention)
    (h : client.AnchoredIn config updates) {event : ClientEvent}
    (hmessage : ∀ update accepted, event = .message update accepted →
      ∀ height, blockHeight update = some height → HasHeight updates height)
    (hstep : client.step (some config) event = some client') :
    client'.AnchoredIn config updates := by
  refine ⟨fun finalized hfinalized => ?_, fromHeight_step h.fromHeight hstep, ?_, ?_⟩
  · cases step_moves hstep with
    | stay _ hkeeps hrequest hquiet =>
      rw [hkeeps.chain] at hfinalized
      exact h.finalized finalized hfinalized
    | observe update accepted hobserves =>
      rw [hobserves.chain, ChainResumeState.observe_eq] at hfinalized
      cases heffect : chainEffect update with
      | finalize height hash =>
        rw [heffect] at hfinalized
        cases hfinalized
        exact hmessage update accepted rfl height (blockHeight_of_finalize heffect)
      | revise removed inserted =>
        rw [heffect, ChainResumeState.finalized_apply_revise] at hfinalized
        exact h.finalized finalized hfinalized
    | forget _ hskips hforgets =>
      rw [hforgets.chain] at hfinalized
      cases hfinalized
  · intro request retries hphase
    rcases step_connects hstep hphase with
      ⟨-, hrequest⟩ | ⟨retries', hbefore, rfl⟩ | ⟨hskipped, -⟩
    · exact hrequest
    · exact h.request request retries' hbefore
    · cases hskipped
  · intro request retries hphase
    rcases step_connects hstep hphase with
      ⟨hskipped, -⟩ | ⟨retries', hbefore, rfl⟩ |
        ⟨-, -, request', retries', error, hbefore, -, -, rfl⟩
    · cases hskipped
    · exact h.skipped request retries' hbefore
    · refine ⟨rfl, fun resume hresume => ?_⟩
      change request'.resume = some resume at hresume
      rw [h.request request' retries' hbefore, reconnectRequest_recover hpolicy] at hresume
      obtain ⟨finalized, hfinalized, rfl⟩ := Option.map_eq_some_iff.mp hresume
      exact h.finalized finalized hfinalized

/-- The client has a finalized anchor, or some height of the list is not above
its checkpoint less the buffer. -/
def Reaches (config : ReconnectConfig) (updates : List PublishedUpdate) (client : Client) : Prop :=
  client.chain.finalized ≠ none ∨ ∀ checkpoint, client.checkpoint = some checkpoint →
    ∃ height, HasHeight updates height ∧ height ≤ checkpoint - config.checkpointHeightBuffer

/-- A client that received these messages has a finalized block, or its last height less
the buffer is not below all heights of the list. -/
def ReceivedReaches (config : ReconnectConfig) (updates : List PublishedUpdate)
    (initial : SubscribeRequest) (received : List SubscribeUpdate) : Prop :=
  (latest finalizes received).or (initial.resume.map (·.finalizedHeight)) ≠ none ∨
    ∀ last, (latest blockHeight received).or initial.fromHeight = some last →
      ∃ height, HasHeight updates height ∧ height ≤ last - config.checkpointHeightBuffer

theorem Tracks.reaches_iff {initial : SubscribeRequest} {received : List SubscribeUpdate}
    (h : client.Tracks initial received) (config : ReconnectConfig)
    (updates : List PublishedUpdate) :
    client.Reaches config updates ↔ ReceivedReaches config updates initial received := by
  unfold Reaches ReceivedReaches
  rw [← h.finalized, ← h.checkpoint, Ne, Ne, Option.map_eq_none_iff]

end Client

/-! ## The session -/

namespace Session

/-- The buffer's accounting is sound, what is in flight was pushed, and the
client's anchor as well. -/
structure GapInv [WireFormat] (config : SessionConfig) (session : Session) : Prop where
  flight : session.FlightInv fun _ => True
  bounded : session.replay.Bounded
  client : ∀ client, session.client = some client →
    client.AnchoredIn config.reconnect session.pushed

theorem gapInv_new [WireFormat] (config : SessionConfig) : (new config).GapInv config where
  flight := flightInv_new _ config
  bounded := ReplayBuffer.bounded_new config.limits
  client _ h := by cases h

section
variable [WireFormat] [ZakuraChain]
variable {config : SessionConfig} {session session' : Session}

/-- **When a request is refused for a gap.** -/
theorem accept_outOfRange (hbounded : session.replay.Bounded) {request : SubscribeRequest}
    {now : Nat} {replay : ReplayBuffer} {result : Except Status Connection}
    (h : session.accept config request now = some (replay, result)) :
    replay.Bounded ∧
      (request.resume = none → (OutOfRange result ↔
        (∃ filter, EventFilter.new request config.filterLimits = .ok filter) ∧
        ∃ height, request.fromHeight = some height ∧
          ∀ bucket ∈ replay.buckets, height < bucket.height)) ∧
      ∀ resume, request.resume = some resume →
        (∃ bucket ∈ replay.buckets, bucket.height = resume.finalizedHeight) →
        ¬ OutOfRange result := by
  rcases accept_cases h with ⟨status, hfilter, rfl, rfl⟩ | ⟨filter, answer, hfilter, hreplay, rfl⟩
  · have hnot : ¬ OutOfRange (.error status : Except Status Connection) :=
      not_outOfRange_of_refusal (EventFilter.failsIn_new request config.filterLimits status hfilter)
    refine ⟨hbounded, fun _ => ⟨fun hrange => absurd hrange hnot, ?_⟩, fun _ _ _ => hnot⟩
    rintro ⟨⟨filter, hok⟩, -⟩
    rw [hfilter] at hok
    cases hok
  · have hresult : OutOfRange (answer.map (session.connect filter request)) ↔
        OutOfRange answer := by
      cases answer with
      | error status => exact ⟨fun ⟨_, heq, hcode⟩ => ⟨_, rfl, by cases heq; exact hcode⟩,
          fun ⟨_, heq, hcode⟩ => ⟨_, rfl, by cases heq; exact hcode⟩⟩
      | ok snapshot => exact iff_of_false (not_outOfRange_ok _) (not_outOfRange_ok _)
    obtain ⟨hbounded', hnone, hsome⟩ := subscribeReplay_outOfRange hbounded hreplay
    refine ⟨hbounded', fun hresume => ?_, fun resume hresume hretained => ?_⟩
    · rw [hresult, hnone hresume]
      exact ⟨fun hbelow => ⟨⟨filter, hfilter⟩, hbelow⟩, fun hboth => hboth.2⟩
    · rw [hresult]
      exact hsome resume hresume hretained

/-- **One step of the session.** -/
theorem GapInv.step {heightRetention : Nat}
    (hpolicy : config.reconnect.policy = .recoverMissedData heightRetention)
    (hresume : config.initial.resume = none) (h : session.GapInv config) {event : SessionEvent}
    (hstep : session.step config event = some session') : session'.GapInv config := by
  obtain ⟨-, hgrows⟩ := step_grows hstep
  refine ⟨h.flight.step hstep fun _ _ => trivial, ?_, fun client' hclient' => ?_⟩
  · rcases step_publication hstep with ⟨publish, hpublish⟩ | ⟨_, _, _, haccept, -⟩ | heq
    · exact Publication.step_bounded hpublish h.bounded
    · exact (accept_outOfRange h.bounded haccept).1
    · rw [heq]
      exact h.bounded
  · rcases step_client hstep with ⟨heq, -⟩ | ⟨-, -, hnew⟩ |
      ⟨client, client'', event', hclient, hclientStep, hclient'', hhears, -⟩
    · rw [heq] at hclient'
      exact (h.client client' hclient').mono hgrows.subset
    · rw [hnew] at hclient'
      cases hclient'
      exact Client.anchoredIn_new hresume
    · rw [hclient''] at hclient'
      cases hclient'
      refine ((h.client client hclient).step hpolicy ?_ hclientStep).mono hgrows.subset
      intro update accepted heq height hheight
      obtain ⟨connection, hconnection, hmem⟩ := mem_of_hears hhears heq
      have hdelivered := h.flight.delivered hconnection hmem (by rw [hheight]; simp)
      obtain ⟨source, hsource, hsame⟩ := hdelivered.height
      exact ⟨source, hsource, hsame.trans hheight⟩

/-! ## Refused reconnects -/

/-- The server refuses the request with `OUT_OF_RANGE`. -/
def Refuses (config : SessionConfig) (session : Session) (request : SubscribeRequest)
    (now : Nat) : Prop :=
  ∃ replay result, session.accept config request now = some (replay, result) ∧ OutOfRange result

instance (config : SessionConfig) (session : Session) (request : SubscribeRequest) (now : Nat) :
    Decidable (session.Refuses config request now) :=
  decidable_of_iff
    ((session.accept config request now).any fun answer => OutOfRange answer.2)
    (by simp [Refuses, Option.any_eq_true])

/-- What a retained window makes of a reconnect request. -/
theorem GapInv.not_outOfRange_iff {heightRetention : Nat}
    (hpolicy : config.reconnect.policy = .recoverMissedData heightRetention)
    (h : session.GapInv config) {client : Client} (hclient : session.client = some client)
    {request : SubscribeRequest} {retries : Nat} {skipped : Bool}
    (hphase : client.phase = .connecting request retries skipped) {now : Nat}
    {replay : ReplayBuffer} {result : Except Status Connection}
    (haccept : session.accept config request now = some (replay, result))
    (hheights : ∀ height, (∃ bucket ∈ replay.buckets, bucket.height = height) ↔
      HasHeight session.pushed height) :
    ¬ OutOfRange result ↔
      (∀ filter, EventFilter.new request config.filterLimits ≠ .ok filter) ∨ skipped = true ∨
        client.Reaches config.reconnect session.pushed := by
  have hinv := h.client client hclient
  obtain ⟨-, hnone, hsome⟩ := accept_outOfRange h.bounded haccept
  cases skipped with
  | true =>
    obtain ⟨hfrom, hresume⟩ := hinv.skipped request retries hphase
    refine iff_of_true ?_ (.inr (.inl rfl))
    cases hcheckpoint : request.resume with
    | none =>
      rw [hnone hcheckpoint]
      rintro ⟨-, height, hheight, -⟩
      rw [hfrom] at hheight
      cases hheight
    | some resume =>
      exact hsome resume hcheckpoint ((hheights _).mpr (hresume resume hcheckpoint))
  | false =>
    have hrequest := hinv.request request retries hphase
    rw [Client.reconnectRequest_recover hpolicy] at hrequest
    cases hfinalized : client.chain.finalized with
    | some finalized =>
      refine iff_of_true ?_ (.inr (.inr (.inl (by rw [hfinalized]; simp))))
      have hresume : request.resume = client.chain.checkpoint := by rw [hrequest]
      unfold ChainResumeState.checkpoint at hresume
      rw [hfinalized, Option.map_some] at hresume
      exact hsome _ hresume ((hheights _).mpr (hinv.finalized finalized hfinalized))
    | none =>
      have hresume : request.resume = none := by
        rw [hrequest, ChainResumeState.checkpoint, hfinalized]
        rfl
      have hfrom : request.fromHeight =
          client.checkpoint.map (· - config.reconnect.checkpointHeightBuffer) := by
        rw [hrequest, ChainResumeState.checkpoint, hfinalized]
        cases hcheckpoint : client.checkpoint with
        | none => exact hinv.fromHeight hcheckpoint
        | some checkpoint => rfl
      have hreaches : client.Reaches config.reconnect session.pushed ↔
          ∀ checkpoint, client.checkpoint = some checkpoint →
            ∃ height, HasHeight session.pushed height ∧
              height ≤ checkpoint - config.reconnect.checkpointHeightBuffer :=
        or_iff_right (fun hne => hne hfinalized)
      rw [hnone hresume, hfrom, hreaches]
      constructor
      · intro hnot
        by_cases hfilter : ∃ filter, EventFilter.new request config.filterLimits = .ok filter
        · refine .inr (.inr fun checkpoint hcheckpoint => ?_)
          by_contra hbelow
          refine hnot ⟨hfilter, _, by rw [hcheckpoint]; rfl, fun bucket hbucket => ?_⟩
          by_contra hle
          exact hbelow ⟨bucket.height, (hheights _).mp ⟨bucket, hbucket, rfl⟩, Nat.not_lt.mp hle⟩
        · exact .inl fun filter hok => hfilter ⟨filter, hok⟩
      · rintro (hrefused | hskip | hreach) ⟨⟨filter, hok⟩, height, hheight, habove⟩
        · exact hrefused filter hok
        · cases hskip
        · obtain ⟨checkpoint, hcheckpoint, rfl⟩ := Option.map_eq_some_iff.mp hheight
          obtain ⟨height, hhas, hle⟩ := hreach checkpoint hcheckpoint
          obtain ⟨bucket, hbucket, rfl⟩ := (hheights height).mpr hhas
          exact absurd hle (Nat.not_le.mpr (habove bucket hbucket))

/-- **When a reconnect is refused for a gap.** In a run that never evicts, a
reconnect request is not refused with `OUT_OF_RANGE` if and only if its filter is
refused anyway, it is the one behind a skipped gap, or the client's replay point
reaches a pushed height. -/
theorem not_refuses_iff {heightRetention : Nat}
    (hpolicy : config.reconnect.policy = .recoverMissedData heightRetention)
    (hresume : config.initial.resume = none) {events : List SessionEvent}
    (hkeeps : ∀ visited, Visits (step config) (new config) events visited → visited.KeepsAll)
    {now : Nat}
    (htakes : Takes (step config) (new config) events session (.attempt now) session')
    {client : Client} (hclient : session.client = some client) {request : SubscribeRequest}
    {retries : Nat} {skipped : Bool}
    (hphase : client.phase = .connecting request retries skipped) :
    ¬ session.Refuses config request now ↔
      (∀ filter, EventFilter.new request config.filterLimits ≠ .ok filter) ∨ skipped = true ∨
        client.Reaches config.reconnect session.pushed := by
  have hinv : ∀ {visited}, Visits (step config) (new config) events visited →
      visited.GapInv config := fun hvisits =>
    visits_invariant (fun _ _ _ htaken h => by
      obtain ⟨_, -, -, hstep⟩ := htaken
      exact h.step hpolicy hresume hstep) (gapInv_new config) hvisits
  obtain ⟨-, -, -, hstep⟩ := id htakes
  obtain ⟨client0, request0, retries0, skipped0, replay, result, hclient0, hphase0, haccept,
    hafter⟩ := attempt_spec hstep
  rw [hclient] at hclient0
  cases hclient0
  rw [hphase] at hphase0
  cases hphase0
  have hreplay : session'.toPublication = { session.toPublication with replay := replay } := by
    rcases hafter with ⟨_, _, -, -, rfl⟩ | ⟨_, -, rfl⟩ <;> rfl
  have hall := hkeeps session' htakes.target
  have hretains := (hinv htakes.target).flight.publish.retains
  rw [hreplay] at hretains
  rw [hreplay] at hall
  have hrefuses : session.Refuses config request now ↔ OutOfRange result := by
    constructor
    · rintro ⟨replay', result', haccept', hrange⟩
      rw [haccept] at haccept'
      cases haccept'
      exact hrange
    · exact fun hrange => ⟨replay, result, haccept, hrange⟩
  rw [hrefuses]
  exact (hinv htakes.source).not_outOfRange_iff hpolicy hclient hphase haccept
    (hretains.hasHeight_iff hall)

/-- **Whom the server refuses.** Whether a client reaches a pushed height is decided by
the messages that it received, since it last skipped a gap where it did. -/
theorem reaches_heard {events : List SessionEvent}
    (hrun : runs (step config) (new config) events = some session) {client : Client}
    (hclient : session.client = some client) (hgoes : client.phase ≠ .stopped) :
    (client.Reaches config.reconnect session.pushed ↔
      Client.ReceivedReaches config.reconnect session.pushed config.initial
        (heard config events).updates) ∨
    config.reconnect.replayGapPolicy = .skipToLive ∧ ∃ since,
      since <:+ (heard config events).updates ∧
      (client.Reaches config.reconnect session.pushed ↔
        Client.ReceivedReaches config.reconnect session.pushed
          (Client.withoutHeights config.initial) since) := by
  rcases (tracks_heard hrun).client client hclient hgoes with
    htracks | ⟨hpolicy, since, hsince, htracks⟩
  · exact .inl (htracks.reaches_iff _ _)
  · exact .inr ⟨hpolicy, since, hsince, htracks.reaches_iff _ _⟩

end

/-! ## Two reconnects -/

def gapConfig : SessionConfig where
  limits := { heightCapacity := 4, eventCapacity := 100, byteCapacity := 4000, maxAge := none }
  capacity := 8
  filterLimits := {}
  reconnect := {}
  initial := { fromHeight := some 100 }

/-- The first block is at height 100, where the client subscribes; then its
stream ends. -/
def gapEvents (finalized : Bool) : List SessionEvent :=
  [.publication (.prepare [(ReplayBuffer.sampleBlock 100 "b" finalized 1).message]),
   .publication (.push 0), .publication .send, .publication .finish,
   .subscribe 1, .receive true, .disconnect .ended]

/-- The client asks again, and the condition holds of its request. -/
def asksAgain (condition : Session → Client → SubscribeRequest → Bool) (session : Session) :
    Bool :=
  (@step protoWire hexChain gapConfig session (.attempt 2)).isSome &&
    session.client.any fun client =>
      match client.phase with
      | .connecting request _ _ => condition session client request
      | .active | .stopped => false

theorem asksAgain_run {finalized : Bool}
    {condition : Session → Client → SubscribeRequest → Bool}
    (h : (runs (@step protoWire hexChain gapConfig) (new gapConfig) (gapEvents finalized)).any
      (asksAgain condition) = true) :
    ∃ session session' client request retries skipped,
      Takes (@step protoWire hexChain gapConfig) (new gapConfig)
        (gapEvents finalized ++ [.attempt 2]) session (.attempt 2) session' ∧
      session.client = some client ∧ client.phase = .connecting request retries skipped ∧
      condition session client request = true := by
  obtain ⟨session, hsession, hasks⟩ := (Option.any_eq_true _ _).mp h
  obtain ⟨hstep, hclient⟩ := Bool.and_eq_true_iff.mp hasks
  obtain ⟨session', hstep⟩ := Option.isSome_iff_exists.mp hstep
  obtain ⟨client, hclient, hcondition⟩ := (Option.any_eq_true _ _).mp hclient
  split at hcondition
  · rename_i request retries skipped hphase
    exact ⟨session, session', client, request, retries, skipped,
      ⟨gapEvents finalized, List.prefix_rfl, hsession, hstep⟩, hclient, hphase, hcondition⟩
  · cases hcondition
  · cases hcondition

theorem keepsAll_gapEvents (finalized : Bool) : ∀ visited,
    Visits (@step protoWire hexChain gapConfig) (new gapConfig)
      (gapEvents finalized ++ [.attempt 2]) visited → visited.KeepsAll := by
  intro visited hvisits
  have hall : visitsAll (@step protoWire hexChain gapConfig)
      (fun visited => decide visited.KeepsAll) (new gapConfig)
      (gapEvents finalized ++ [.attempt 2]) = true := by
    cases finalized <;> decide +kernel
  exact of_decide_eq_true (of_visitsAll hall hvisits)

/-- With the block finalized the client asks for it as it is. -/
theorem not_refuses_iff_finalized : ∃ session session' client request retries skipped,
    Takes (@step protoWire hexChain gapConfig) (new gapConfig) (gapEvents true ++ [.attempt 2])
      session (.attempt 2) session' ∧
    session.client = some client ∧ client.phase = .connecting request retries skipped ∧
    ¬ @Refuses protoWire hexChain gapConfig session request 2 := by
  obtain ⟨session, session', client, request, retries, skipped, htakes, hclient, hphase,
    hfinalized⟩ := @asksAgain_run true (fun _ client _ => client.chain.finalized.isSome)
      (by decide +kernel)
  have hne : client.chain.finalized ≠ none := Option.isSome_iff_ne_none.mp hfinalized
  exact ⟨session, session', client, request, retries, skipped, htakes, hclient, hphase,
    (@not_refuses_iff protoWire hexChain gapConfig session session' 250 rfl rfl
      (gapEvents true ++ [.attempt 2]) (keepsAll_gapEvents true) 2 htakes client hclient request
      retries skipped hphase).mpr (.inr (.inr (.inl hne)))⟩

/-- **A spurious gap.** Accepted only, it is asked for from two heights below and
refused, though nothing was evicted. -/
theorem accepted_block_refused : ∃ session session' client request retries skipped,
    (∀ visited, Visits (@step protoWire hexChain gapConfig) (new gapConfig)
      (gapEvents false ++ [.attempt 2]) visited → visited.KeepsAll) ∧
    Takes (@step protoWire hexChain gapConfig) (new gapConfig) (gapEvents false ++ [.attempt 2])
      session (.attempt 2) session' ∧
    session.client = some client ∧ client.phase = .connecting request retries skipped ∧
    request.fromHeight = some 98 ∧ @Refuses protoWire hexChain gapConfig session request 2 := by
  obtain ⟨session, session', client, request, retries, skipped, htakes, hclient, hphase,
    hrefused⟩ := @asksAgain_run false (fun session _ request => request.fromHeight == some 98 &&
      decide (@Refuses protoWire hexChain gapConfig session request 2)) (by decide +kernel)
  simp only [Bool.and_eq_true, beq_iff_eq, decide_eq_true_eq] at hrefused
  exact ⟨session, session', client, request, retries, skipped, keepsAll_gapEvents false, htakes,
    hclient, hphase, hrefused⟩

end Session

end ZakuraGrpc
