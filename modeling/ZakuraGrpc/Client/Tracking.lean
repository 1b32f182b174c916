import ZakuraGrpc.Client.Application
import ZakuraGrpc.Client.ParentLinks
import ZakuraGrpc.Client.ReplayPoint

/-!
# The replay point and the updates received

What a client resumes from is a matter of what it received: the block last finalized
to it and the height it saw last, or what its first request named. `Tracks` says so of
the state that `handle_update` keeps (`Tracks.step`); a skipped gap starts it over.
-/

namespace ZakuraGrpc

/-! ## What updates say -/

/-- The height of the block that the update finalizes. -/
def finalizes (update : SubscribeUpdate) : Option Nat :=
  if showsFinalized update then blockHeight update else none

/-- Only a block-scoped update finalizes. -/
theorem finalizes_of_blockHeight {update : SubscribeUpdate} (h : blockHeight update = none) :
    finalizes update = none := by
  unfold finalizes
  split
  · exact h
  · rfl

theorem ChainResumeState.finalizedHeight_observe (chain : ChainResumeState)
    (update : SubscribeUpdate) : (chain.observe update).finalized.map (·.1) =
      (finalizes update).or (chain.finalized.map (·.1)) := by
  rw [observe_eq, finalizes]
  cases hshown : shownBlock update with
  | none =>
    obtain ⟨removed, heffect⟩ := chainEffect_of_not_shown hshown
    rw [heffect, finalized_apply_revise, showsFinalized_of_not_shown hshown]
    rfl
  | some shown =>
    have heffect := chainEffect_of_shown hshown
    cases hfinalized : showsFinalized update with
    | false =>
      rw [heffect, hfinalized, blockEffect, if_neg Bool.false_ne_true, finalized_apply_revise]
      rfl
    | true =>
      rw [hfinalized, blockEffect, if_pos rfl] at heffect
      rw [heffect, if_pos rfl, blockHeight_of_finalize heffect]
      rfl

/-- The field of the last update that has it. -/
def latest {α : Type} (field : SubscribeUpdate → Option α) (updates : List SubscribeUpdate) :
    Option α :=
  updates.reverse.findSome? field

@[simp] theorem latest_snoc {α : Type} (field : SubscribeUpdate → Option α)
    (updates : List SubscribeUpdate) (update : SubscribeUpdate) :
    latest field (updates ++ [update]) = (field update).or (latest field updates) := by
  unfold latest
  rw [List.reverse_append, List.findSome?_append]
  congr 1
  cases hfield : field update <;> simp [hfield]

/-! ## What a client keeps of them -/

namespace Client

/-- From where a client asks that began with the request and received the updates: the
block last finalized, or the one the request resumes from; without one the height last
received, or the one the request names, less the buffer. -/
def replayPoint (config : ReconnectConfig) (initial : SubscribeRequest)
    (updates : List SubscribeUpdate) : Option Nat :=
  ((latest finalizes updates).or (initial.resume.map (·.finalizedHeight))).or
    (((latest blockHeight updates).or initial.fromHeight).map
      (· - config.checkpointHeightBuffer))

/-- The client's replay point is that of the updates. -/
structure Tracks (initial : SubscribeRequest) (updates : List SubscribeUpdate) (client : Client) :
    Prop where
  finalized : client.chain.finalized.map (·.1) =
    (latest finalizes updates).or (initial.resume.map (·.finalizedHeight))
  checkpoint : client.checkpoint = (latest blockHeight updates).or initial.fromHeight

theorem tracks_new (reconnect : Option ReconnectConfig) (initial : SubscribeRequest) :
    (new reconnect initial).Tracks initial [] where
  finalized := by
    unfold new ChainResumeState.fromRequest
    cases initial.resume <;> rfl
  checkpoint := rfl

variable {config : ReconnectConfig} {client client' : Client} {initial : SubscribeRequest}
  {updates : List SubscribeUpdate} {event : ClientEvent}

theorem received_eq_some {update : SubscribeUpdate} :
    event.received = some update ↔ ∃ accepted, event = .message update accepted := by
  cases event <;> simp [ClientEvent.received]

/-- What is asked for behind a skipped gap. -/
def withoutHeights (request : SubscribeRequest) : SubscribeRequest :=
  { request with fromHeight := none, resume := none }

/-- **One step.** A message received counts, and a skipped gap starts over. -/
theorem Tracks.step (h : client.Tracks initial updates)
    (hstep : client.step (some config) event = some client') :
    client'.phase = .stopped ∨ client'.Tracks initial (updates ++ event.received.toList) ∨
      client.SkipsGap config event ∧ client'.Tracks (withoutHeights initial) [] := by
  cases step_moves hstep with
  | stay _ hkeeps hcurrent hquiet =>
    cases hreceived : event.received with
    | none =>
      refine .inr (.inl ?_)
      rw [Option.toList_none, List.append_nil]
      exact ⟨by rw [hkeeps.chain, h.finalized], by rw [hkeeps.checkpoint, h.checkpoint]⟩
    | some update =>
      obtain ⟨accepted, rfl⟩ := received_eq_some.mp hreceived
      rcases hquiet update accepted rfl with hnone | hstopped
      · rw [updateHeight_eq] at hnone
        refine .inr (.inl ⟨?_, ?_⟩)
        · rw [hkeeps.chain, h.finalized, Option.toList_some, latest_snoc,
            finalizes_of_blockHeight hnone, Option.none_or]
        · rw [hkeeps.checkpoint, h.checkpoint, Option.toList_some, latest_snoc, hnone,
            Option.none_or]
      · exact .inl hstopped
  | observe update accepted hobserves =>
    refine .inr (.inl ⟨?_, ?_⟩)
    · rw [hobserves.chain, ChainResumeState.finalizedHeight_observe, h.finalized, ← Option.or_assoc]
      exact congrArg (Option.or · _) (latest_snoc finalizes updates update).symm
    · rw [hobserves.checkpoint, updateHeight_eq, h.checkpoint, ← Option.or_assoc]
      exact congrArg (Option.or · _) (latest_snoc blockHeight updates update).symm
  | forget _ hskips hforgets =>
    refine .inr (.inr ⟨hskips, ?_, ?_⟩)
    · rw [hforgets.chain]
      rfl
    · rw [hforgets.checkpoint]
      rfl

end Client

end ZakuraGrpc
