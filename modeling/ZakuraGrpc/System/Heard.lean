import ZakuraGrpc.Client.Tracking
import ZakuraGrpc.System.SessionStep

/-!
# What the client of a session has heard

`heard` gathers along a run the messages that the client takes off its connections,
and those it had when it last tried to connect. What each step of the client keeps of
them holds in every run (`HeardInv.step`); its replay point is theirs, or that of the
last of them behind a gap that it skipped (`tracks_heard`).
-/

namespace ZakuraGrpc

open Runs

/-- The messages received, and those received before the last attempt to connect. -/
structure Heard where
  updates : List SubscribeUpdate := []
  asking : List SubscribeUpdate := []

namespace Session

def hear (heard : Heard) (session : Session) (event : SessionEvent) : Heard where
  updates := heard.updates ++ (session.hears event).toList
  asking := if event.isAttempt then heard.updates else heard.asking

/-- What holds of a client and the messages it received, of the client now and of the
one that asked for the connection. -/
structure HeardInv (P : List SubscribeUpdate → Client → Prop) (heard : Heard) (session : Session) :
    Prop where
  silent : session.client = none → heard.updates = []
  client : ∀ client, session.client = some client → client.phase ≠ .stopped →
    P heard.updates client
  asking : ∀ before connection, session.log.resumed = some before →
    session.connection = some connection → P heard.asking before

section
variable [WireFormat] [ZakuraChain] {config : SessionConfig} {session session' : Session}
  {P : List SubscribeUpdate → Client → Prop}

/-- The messages that the client takes along the events. -/
def heard (config : SessionConfig) (events : List SessionEvent) : Heard :=
  gather (step config) hear {} (new config) events

omit [WireFormat] [ZakuraChain] in
theorem heardInv_new : HeardInv P {} (new config) where
  silent _ := rfl
  client _ h := by cases h
  asking _ _ h := by cases h

/-- **One step of the session**, from what one step of the client keeps. -/
theorem HeardInv.step {heard : Heard} {event : SessionEvent}
    (hnew : P [] (.new (some config.reconnect) config.initial))
    (hclient : ∀ client clientEvent client', session.client = some client →
      clientEvent.received = session.hears event →
      client.step (some config.reconnect) clientEvent = some client' → client'.phase ≠ .stopped →
      P heard.updates client → P (heard.updates ++ clientEvent.received.toList) client')
    (h : HeardInv P heard session) (hstep : session.step config event = some session') :
    HeardInv P (hear heard session event) session' := by
  have hturn := step_client hstep
  refine ⟨fun hnone => ?_, fun client' hclient' hgoes => ?_,
    fun before connection' hresumed hconnection' => ?_⟩
  · rcases hturn with ⟨heq, hsilent⟩ | ⟨-, -, hsome⟩ | ⟨_, _, _, -, -, hsome, -⟩
    · rw [heq] at hnone
      rw [hear, hsilent, h.silent hnone]
      rfl
    · rw [hsome] at hnone
      cases hnone
    · rw [hsome] at hnone
      cases hnone
  · rcases hturn with ⟨heq, hsilent⟩ | ⟨hnone, ⟨now, rfl⟩, hsome⟩ |
      ⟨client, client'', clientEvent, hbefore, hclientStep, hsome, hreceived, -⟩
    · rw [heq] at hclient'
      rw [hear, hsilent, Option.toList_none, List.append_nil]
      exact h.client client' hclient' hgoes
    · rw [hsome] at hclient'
      cases hclient'
      rw [hear, h.silent hnone]
      exact hnew
    · rw [hsome] at hclient'
      cases hclient'
      rw [hear, ← hreceived]
      exact hclient client clientEvent client' hbefore hreceived hclientStep hgoes
        (h.client client hbefore (Client.active_of_step hclientStep))
  · rcases step_connection hstep hconnection' with
      ⟨joined, hjoins⟩ | ⟨connection, hconnection, hkept⟩
    · rw [hjoins.resumed] at hresumed
      subst hresumed
      obtain ⟨_, now, -, rfl, hbefore, -, retries, skipped, hphase⟩ := hjoins.accepted
      exact h.client before hbefore (by rw [hphase]; simp)
    · rw [hkept.log] at hresumed
      rw [hear, hkept.attempts]
      exact h.asking before connection hresumed hconnection

/-- The messages gathered one step on. -/
theorem heard_snoc {events : List SessionEvent} {event : SessionEvent}
    (hrun : runs (step config) (new config) events = some session)
    (hstep : session.step config event = some session') :
    heard config (events ++ [event]) = hear (heard config events) session event :=
  gather_snoc hrun hstep

/-- The client has the replay point of the messages, or, behind a gap that it skipped,
of the last of them. -/
def TracksHeard (config : SessionConfig) (updates : List SubscribeUpdate) (client : Client) :
    Prop :=
  client.Tracks config.initial updates ∨ config.reconnect.replayGapPolicy = .skipToLive ∧
    ∃ since, since <:+ updates ∧ client.Tracks (Client.withoutHeights config.initial) since

/-- **The replay point is that of the messages heard.** -/
theorem tracks_heard {events : List SessionEvent}
    (hrun : runs (step config) (new config) events = some session) :
    HeardInv (TracksHeard config) (heard config events) session := by
  refine takes_history
    (J := fun events session => HeardInv (TracksHeard config) (heard config events) session)
    (fun events session event session' _ hbefore hstep h => ?_) heardInv_new hrun
  rw [heard_snoc hbefore hstep]
  refine h.step (.inl (Client.tracks_new _ _))
    (fun client clientEvent client' _ _ hclientStep hgoes htracks => ?_) hstep
  have hskip : client.SkipsGap config.reconnect clientEvent →
      config.reconnect.replayGapPolicy = .skipToLive := by
    intro hskips
    cases hpolicy : config.reconnect.replayGapPolicy with
    | fail => exact absurd hskips (Client.not_skipsGap hpolicy clientEvent)
    | skipToLive => rfl
  rcases htracks with htracks | ⟨hpolicy, since, ⟨earlier, hsplit⟩, htracks⟩
  · rcases htracks.step hclientStep with hstopped | hkeeps | ⟨hskips, hover⟩
    · exact absurd hstopped hgoes
    · exact .inl hkeeps
    · exact .inr ⟨hskip hskips, [], List.nil_suffix, hover⟩
  · rcases htracks.step hclientStep with hstopped | hkeeps | ⟨-, hover⟩
    · exact absurd hstopped hgoes
    · refine .inr ⟨hpolicy, _, ⟨earlier, ?_⟩, hkeeps⟩
      rw [← hsplit, List.append_assoc]
    · exact .inr ⟨hpolicy, [], List.nil_suffix, hover⟩

end

end Session

end ZakuraGrpc
