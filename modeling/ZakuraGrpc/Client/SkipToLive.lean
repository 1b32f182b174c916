import ZakuraGrpc.Client.Reconnect

/-!
# Skipping to live

Under `SkipToLive` a refused replay point is given up and the client connects
again at the live head. `OUT_OF_RANGE` reaches it on two paths: as the end of a
stream, and as the answer to a reconnect. The first resets all of the replay
point before the request is made (`skips_of_stream`). The second has the request
in hand and clears its `from_height` only, so a `resume` checkpoint stays in
(`skips_of_attempt`).
-/

namespace ZakuraGrpc

open Runs

/-- The request asks for no replay, and no replay window makes the server refuse
it. -/
structure AsksForLive (request : SubscribeRequest) : Prop where
  fromHeight : request.fromHeight = none
  resume : request.resume = none
  replayHeight : replayHeight request = .ok none
  accepted : ∀ replay now replay' status,
    subscribeReplay replay request now = some (replay', .error status) →
      status.code ≠ .outOfRange ∧ status.code ≠ .failedPrecondition

/-- Neither field set is enough. -/
theorem asksForLive_iff (request : SubscribeRequest) :
    AsksForLive request ↔ request.fromHeight = none ∧ request.resume = none := by
  constructor
  · intro h
    exact ⟨h.fromHeight, h.resume⟩
  · rintro ⟨hheight, hresume⟩
    have hreplay : replayHeight request = .ok none := by
      rw [replayHeight, hresume, ← hheight]
    refine ⟨hheight, hresume, hreplay, fun replay now replay' status h => ?_⟩
    simp only [subscribeReplay, hreplay, hresume, Option.map_none, ReplayBuffer.snapshot,
      Option.map_eq_some_iff, Prod.mk.injEq] at h
    obtain ⟨evicted, -, -, hread⟩ := h
    cases hread

namespace Client

variable {config : ReconnectConfig} {client client' : Client}

/-- A recoverable failure is no refusal of the replay point. -/
theorem not_outOfRange_of_recoverable {error : ClientError}
    (h : isRecoverableClientError error = true) : isOutOfRangeError error = false := by
  cases error with
  | transport error => rfl
  | status status =>
    simp only [isRecoverableClientError, Bool.and_eq_true, bne_iff_ne] at h
    simp only [isOutOfRangeError, beq_eq_false_iff_ne]
    exact h.1

/-- Retries keep the request and the rest of the client. -/
theorem retries_run {request : SubscribeRequest} {retries : Nat} {skipped : Bool}
    {failures : List ClientError}
    (hfailures : ∀ error ∈ failures, isRecoverableClientError error = true)
    (hrun : runs (step (some config))
      { client with phase := .connecting request retries skipped }
      (failures.map fun error => .attempt (.error error)) = some client') :
    (∃ retries, client' = { client with phase := .connecting request retries skipped }) ∨
      client'.phase = .stopped := by
  refine runs_invariant_of
    (P := fun event => ∃ error, event = .attempt (.error error) ∧
      isRecoverableClientError error = true)
    (I := fun s => (∃ retries, s = { client with phase := .connecting request retries skipped }) ∨
      s.phase = .stopped) ?_ ?_ hrun (.inl ⟨retries, rfl⟩)
  · rintro s event s' ⟨error, rfl, hrecoverable⟩ hstep (⟨retries, rfl⟩ | hstopped)
    · obtain ⟨request', retries', skipped', hphase, rfl⟩ := attempt_spec hstep
      cases hphase
      rcases attempted_spec config { client with phase := .connecting request retries skipped }
          request retries skipped (.error error) with
        ⟨hok, -⟩ | ⟨_, retries', -, -, -, heq⟩ | ⟨_, -, heq⟩ | ⟨_, herror, -, hrange, -⟩ |
        ⟨_, _, -, -, -, -, heq⟩
      · cases hok
      · exact .inl ⟨retries', heq⟩
      · rw [heq]
        exact .inr rfl
      · cases herror
        rw [not_outOfRange_of_recoverable hrecoverable] at hrange
        cases hrange
      · rw [heq]
        exact .inr rfl
    · obtain ⟨_, _, _, hphase, -⟩ := attempt_spec hstep
      rw [hstopped] at hphase
      cases hphase
  · intro event hmem
    obtain ⟨error, herror, rfl⟩ := List.mem_map.mp hmem
    exact ⟨error, rfl, hfailures error herror⟩

/-- The request behind a refused replay point. -/
theorem skip_run (hpolicy : config.replayGapPolicy = .skipToLive) {failures : List ClientError}
    (hfailures : ∀ error ∈ failures, isRecoverableClientError error = true) {status : Status}
    (hcode : status.code = .outOfRange)
    (hrun : runs (step (some config)) (client.beginReconnect config)
      (failures.map (fun error => .attempt (.error error)) ++
        [.attempt (.error (.status status))]) = some client') :
    client'.phase =
      .connecting (skipRequest (client.reconnectRequest config)) config.backoff.maxRetries true := by
  obtain ⟨s, hretries, hlast⟩ := runs_snoc.mp hrun
  obtain ⟨request, retries, skipped, hphase, rfl⟩ := attempt_spec hlast
  rcases retries_run hfailures hretries with ⟨retries', rfl⟩ | hstopped
  · cases hphase
    have hrecoverable : isRecoverableClientError (.status status) = false := by
      simp [isRecoverableClientError, hcode]
    have hrange : isOutOfRangeError (.status status) = true := by
      simp [isOutOfRangeError, hcode]
    simp only [attempted, hrecoverable, connectFailed, hrange, hpolicy]
    rfl
  · rw [hstopped] at hphase
    cases hphase

/-- What is left of the replay point in the follow-up request. -/
theorem skipRequest_live_iff (config : ReconnectConfig) (client : Client) :
    AsksForLive (skipRequest (client.reconnectRequest config)) ↔
      config.policy = .skipMissedData ∨ client.chain.finalized = none := by
  rw [asksForLive_iff, and_iff_right (show (skipRequest _).fromHeight = none from rfl)]
  unfold skipRequest reconnectRequest
  cases config.policy with
  | skipMissedData => simp
  | recoverMissedData heightRetention => simp [ChainResumeState.checkpoint]

/-- **The refused reconnect.** The follow-up connection asks for live exactly
when the client holds no finalized anchor or does not recover missed data. -/
theorem skips_of_attempt (hpolicy : config.replayGapPolicy = .skipToLive) (client : Client)
    {failures : List ClientError}
    (hfailures : ∀ error ∈ failures, isRecoverableClientError error = true) {status : Status}
    (hcode : status.code = .outOfRange) {client' : Client}
    (hrun : runs (step (some config)) (client.beginReconnect config)
      (failures.map (fun error => .attempt (.error error)) ++
        [.attempt (.error (.status status))]) = some client') :
    ∃ request, client'.phase = .connecting request config.backoff.maxRetries true ∧
      (AsksForLive request ↔
        config.policy = .skipMissedData ∨ client.chain.finalized = none) :=
  ⟨_, skip_run hpolicy hfailures hcode hrun, skipRequest_live_iff config client⟩

/-- **The refused stream.** Here the request is made from the reset state, and it
asks for live. -/
theorem skips_of_stream (hpolicy : config.replayGapPolicy = .skipToLive) {status : Status}
    (hcode : status.code = .outOfRange)
    (hstep : client.step (some config) (.disconnect (.status status)) = some client') :
    ∃ request, client'.phase = .connecting request config.backoff.maxRetries false ∧
      AsksForLive request := by
  obtain ⟨-, rfl⟩ := disconnect_spec hstep
  have hbegin : client.disconnected (some config) (.status status) =
      client.forgetReplayPoint.beginReconnect config := by
    simp only [disconnected, hcode, isRecoverableStatus, hpolicy]
    rfl
  rw [hbegin]
  refine ⟨_, rfl, (asksForLive_iff _).mpr ?_⟩
  unfold reconnectRequest
  cases config.policy with
  | skipMissedData => exact ⟨rfl, rfl⟩
  | recoverMissedData heightRetention => exact ⟨rfl, rfl⟩

/-! ## An anchor that has been evicted -/

def skipConfig : ReconnectConfig := { replayGapPolicy := .skipToLive }

/-- A client that has seen block 100 finalized. -/
def anchoredClient : Client :=
  { new (some skipConfig) {} with chain := { finalized := some (100, "f") } }

def refusedAnchor : Status := outOfRange "finalized checkpoint at height 100 is not retained"

theorem skips_of_attempt_retried :
    ∃ client', runs (step (some skipConfig)) (anchoredClient.beginReconnect skipConfig)
        [.attempt (.error (.transport "refused")), .attempt (.error (.status refusedAnchor))] =
          some client' ∧
      ∃ request, client'.phase = .connecting request skipConfig.backoff.maxRetries true ∧
        (AsksForLive request ↔
          skipConfig.policy = .skipMissedData ∨ anchoredClient.chain.finalized = none) :=
  ⟨_, rfl, @skips_of_attempt skipConfig rfl anchoredClient [.transport "refused"] (by decide)
    refusedAnchor rfl _ rfl⟩

/-- The follow-up request still carries the refused checkpoint. -/
theorem anchor_not_skipped :
    ¬ ∀ (config : ReconnectConfig) (client client' : Client) (status : Status),
      config.replayGapPolicy = .skipToLive → status.code = .outOfRange →
      runs (step (some config)) (client.beginReconnect config)
        [.attempt (.error (.status status))] = some client' →
      ∃ request, client'.phase = .connecting request config.backoff.maxRetries true ∧
        AsksForLive request := by
  intro hall
  obtain ⟨request, hphase, hlive⟩ := hall skipConfig anchoredClient _ refusedAnchor rfl rfl rfl
  have hresume := hlive.resume
  cases hphase
  cases hresume

end Client

end ZakuraGrpc
