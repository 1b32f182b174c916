import ZakuraGrpc.System.Delivery
import ZakuraGrpc.System.Heard

/-!
# What a reconnect recovers

Under `RecoverMissedData` the client asks to replay from its finalized block, or
from some heights below the last block-scoped update it received. The replay
holds every retained update from that height on, so what was published during
the outage below it stays unheard: a block of a lower side chain, a finalized
block behind accepted ones, or all of it when nothing was received yet.
`recovers_iff` says that nothing else does.
-/

namespace ZakuraGrpc

open Runs
open Publication (pushed)

/-! ## The replay point -/

namespace Client

/-- The height is not below the finalized block or, without one, the checkpoint
less the buffer. -/
def ReachesBack (config : ReconnectConfig) (client : Client) (height : Nat) : Prop :=
  match client.chain.finalized with
  | some finalized => finalized.1 ≤ height
  | none => ∃ checkpoint, client.checkpoint = some checkpoint ∧
    checkpoint - config.checkpointHeightBuffer ≤ height

/-- The request of a reconnect asks for what the client reaches back to. -/
theorem reachesBack_iff {config : ReconnectConfig} {client : Client} {heightRetention : Nat}
    (hpolicy : config.policy = .recoverMissedData heightRetention)
    (hfrom : client.checkpoint = none → client.currentRequest.fromHeight = none) (height : Nat) :
    client.ReachesBack config height ↔
      ∃ asked, (client.reconnectRequest config).fromHeight = some asked ∧ asked ≤ height := by
  rw [reconnectRequest_recover hpolicy]
  unfold ReachesBack ChainResumeState.checkpoint
  cases hfinalized : client.chain.finalized with
  | some finalized =>
    dsimp only [Option.map_some, Option.some_or]
    simp
  | none =>
    cases hcheckpoint : client.checkpoint with
    | none => simp [hfrom hcheckpoint]
    | some checkpoint => simp

/-- Which heights those are is a matter of what the client received. -/
theorem Tracks.reachesBack_iff {client : Client} {initial : SubscribeRequest}
    {received : List SubscribeUpdate} (h : client.Tracks initial received)
    (config : ReconnectConfig) (height : Nat) : client.ReachesBack config height ↔
      ∃ point ∈ replayPoint config initial received, point ≤ height := by
  unfold ReachesBack replayPoint
  rw [← h.finalized, ← h.checkpoint]
  cases client.chain.finalized with
  | some finalized => simp
  | none => cases client.checkpoint <;> simp

end Client

/-! ## Messages and their keys -/

theorem Increasing.eq_of_sequence {updates : List PublishedUpdate} (h : Increasing updates)
    {update update' : PublishedUpdate} (hmem : update ∈ updates) (hmem' : update' ∈ updates)
    (hsequence : update.message.sequence = update'.message.sequence) : update = update' := by
  have hnodup : (updates.map fun update => update.message.sequence).Nodup :=
    List.pairwise_map.mpr (h.order.imp fun hlt => Nat.ne_of_lt hlt)
  exact List.inj_on_of_nodup_map hnodup hmem hmem' hsequence

section
variable [WireFormat] {filter : EventFilter} {updates : List PublishedUpdate}
  {message message' : SubscribeUpdate}

/-- The messages of one filter are known by their keys. -/
theorem DeliveredFrom.eq_of_key (hincreasing : Increasing updates)
    (h : DeliveredFrom (· = filter) updates message)
    (h' : DeliveredFrom (· = filter) updates message')
    (hkey : eventKey message = eventKey message') : message = message' := by
  obtain ⟨update, hmem, _, rfl, hdeliver⟩ := h
  obtain ⟨update', hmem', _, rfl, hdeliver'⟩ := h'
  have hsequence : update.message.sequence = update'.message.sequence := by
    rw [← (deliver_frame hdeliver).2.1, ← (deliver_frame hdeliver').2.1]
    exact congrArg Prod.snd hkey
  rw [hincreasing.eq_of_sequence hmem hmem' hsequence, hdeliver'] at hdeliver
  exact (Option.some.inj hdeliver).symm

/-! ## The client -/

namespace Client

variable {config : ReconnectConfig} {initial : SubscribeRequest} {client client' : Client}

/-- The update went to the application. -/
def Received (filter : EventFilter) (client : Client) (update : PublishedUpdate) : Prop :=
  ∃ message, deliver filter update = some message ∧ message ∈ client.forwarded

/-- The client keeps its request and the keys of what it forwarded. -/
structure Recovering (config : ReconnectConfig) (initial : SubscribeRequest)
    (filter : EventFilter) (updates : List PublishedUpdate) (client : Client) : Prop where
  currentRequest : client.currentRequest = initial
  fromHeight : client.checkpoint = none → client.currentRequest.fromHeight = none
  request : ∀ request retries skipped, client.phase = .connecting request retries skipped →
    request = client.reconnectRequest config
  seen : ∀ dedup, client.dedup = some dedup → ∀ key ∈ dedup.seen,
    ∃ message ∈ client.forwarded, blockHeight message ≠ none ∧ eventKey message = key
  forwarded : ∀ message ∈ client.forwarded, blockHeight message ≠ none →
    DeliveredFrom (· = filter) updates message

theorem recovering_new (config : ReconnectConfig) (initial : SubscribeRequest)
    (filter : EventFilter) (updates : List PublishedUpdate) :
    (new (some config) initial).Recovering config initial filter updates where
  currentRequest := rfl
  fromHeight h := h
  request _ _ _ hphase := by cases hphase
  seen dedup hdedup key hkey := by
    unfold new at hdedup
    dsimp only [Option.bind_some] at hdedup
    split at hdedup
    · cases hdedup
    · cases hdedup
      cases hkey
  forwarded message hmem := by cases hmem

theorem Recovering.mono {updates' : List PublishedUpdate}
    (h : client.Recovering config initial filter updates) (hsubset : updates ⊆ updates') :
    client.Recovering config initial filter updates' :=
  { h with
    forwarded := fun message hmem hheight => (h.forwarded message hmem hheight).mono hsubset }

/-- **One step of the client**, whose messages were delivered and whose commands
are pings. -/
theorem Recovering.step (hfail : config.replayGapPolicy = .fail)
    (h : client.Recovering config initial filter updates) {event : ClientEvent}
    (hmessage : ∀ update accepted, event = .message update accepted → blockHeight update ≠ none →
      DeliveredFrom (· = filter) updates update)
    (hcommand : ∀ request sent, event = .command request sent → request.ping ≠ none)
    (hstep : client.step (some config) event = some client') :
    client'.Recovering config initial filter updates := by
  have hrequest : ∀ request retries skipped, client'.phase = .connecting request retries skipped →
      request = client'.reconnectRequest config := fun _ _ _ hphase =>
    request_step hfail h.request hstep hphase
  have hfrom := fromHeight_step h.fromHeight hstep
  cases step_moves hstep with
  | stay _ hkeeps hcurrent hquiet =>
    refine ⟨?_, hfrom, hrequest, ?_, ?_⟩
    · rcases hcurrent with hcurrent | ⟨request, sent, hevent, hping, -⟩
      · rw [hcurrent]
        exact h.currentRequest
      · exact absurd hping (hcommand request sent hevent)
    · rw [hkeeps.dedup, hkeeps.forwarded]
      exact h.seen
    · rw [hkeeps.forwarded]
      exact h.forwarded
  | observe update accepted hobserves =>
    refine ⟨by rw [hobserves.currentRequest]; exact h.currentRequest, hfrom, hrequest, ?_, ?_⟩
    · intro dedup hdedup key hkey
      rw [hobserves.dedup] at hdedup
      obtain ⟨before, hbefore, rfl, hfresh⟩ := dedup_observe hdedup
      rw [hobserves.forwarded]
      rcases DedupState.mem_seen_observe hkey with hold | ⟨rfl, hheight, hnew⟩
      · obtain ⟨message, hmem, hmessage⟩ := h.seen before hbefore key hold
        exact ⟨message, List.mem_append_left _ hmem, hmessage⟩
      · rw [updateHeight_eq] at hheight
        rw [hfresh, hnew, if_pos rfl]
        exact ⟨update, List.mem_append_right _ List.mem_cons_self, hheight, rfl⟩
    · intro message hmem hheight
      rw [hobserves.forwarded] at hmem
      rcases List.mem_append.mp hmem with hmem | hmem
      · exact h.forwarded message hmem hheight
      · split at hmem
        · rw [List.mem_singleton.mp hmem] at hheight ⊢
          exact hmessage update accepted rfl hheight
        · cases hmem
  | forget _ hskips hforgets => exact absurd hskips (not_skipsGap hfail event)

/-- A block-scoped message that a client takes and goes on has been forwarded: now,
or when its key was seen. -/
theorem Recovering.forwards (hincreasing : Increasing updates)
    (h : client.Recovering config initial filter updates) {message : SubscribeUpdate}
    {accepted : Bool} (hheight : blockHeight message ≠ none)
    (hdelivered : DeliveredFrom (· = filter) updates message)
    (hstep : client.step (some config) (.message message accepted) = some client')
    (hgoes : client'.phase ≠ .stopped) : message ∈ client'.forwarded := by
  cases step_moves hstep with
  | stay _ hkeeps hcurrent hquiet =>
    rcases hquiet message accepted rfl with hnone | hstopped
    · rw [updateHeight_eq] at hnone
      exact absurd hnone hheight
    · exact absurd hstopped hgoes
  | observe _ _ hobserves =>
    rw [hobserves.forwarded]
    cases hfresh : (client.observe message).2 with
    | true => exact List.mem_append_right _ List.mem_cons_self
    | false =>
      obtain ⟨dedup, hdedup, hseen, -⟩ := suppressed_observe hfresh
      obtain ⟨earlier, hearlier, hblock, hkey⟩ := h.seen dedup hdedup _ hseen
      have heq := (h.forwarded earlier hearlier hblock).eq_of_key hincreasing hdelivered hkey
      exact List.mem_append_left _ (heq ▸ hearlier)
  | forget _ hskips hforgets => exact hskips.elim

/-- The client has the replay point of the updates, and forwarded those of them that are
block-scoped. -/
structure Hears (initial : SubscribeRequest) (received : List SubscribeUpdate) (client : Client) :
    Prop extends client.Tracks initial received where
  forwarded : ∀ message, blockHeight message ≠ none →
    (message ∈ client.forwarded ↔ message ∈ received)

omit [WireFormat] in
theorem hears_new (reconnect : Option ReconnectConfig) (initial : SubscribeRequest) :
    (new reconnect initial).Hears initial [] where
  toTracks := tracks_new reconnect initial
  forwarded _ _ := Iff.rfl

/-- **One step of the client**, whose message was delivered. -/
theorem Hears.step (hfail : config.replayGapPolicy = .fail) (hincreasing : Increasing updates)
    (hrecovering : client.Recovering config initial filter updates)
    {received : List SubscribeUpdate} (h : client.Hears initial received) {event : ClientEvent}
    (hmessage : ∀ update accepted, event = .message update accepted → blockHeight update ≠ none →
      DeliveredFrom (· = filter) updates update)
    (hstep : client.step (some config) event = some client') (hgoes : client'.phase ≠ .stopped) :
    client'.Hears initial (received ++ event.received.toList) := by
  have htracks : client'.Tracks initial (received ++ event.received.toList) := by
    rcases h.toTracks.step hstep with hstopped | hkeeps | ⟨hskips, -⟩
    · exact absurd hstopped hgoes
    · exact hkeeps
    · exact absurd hskips (not_skipsGap hfail event)
  obtain ⟨hgrows, hnew⟩ := forwarded_step hstep
  refine ⟨htracks, fun message hheight => ⟨fun hmem => ?_, fun hmem => ?_⟩⟩
  · rcases hnew message hmem with hold | ⟨accepted, rfl⟩
    · exact List.mem_append_left _ ((h.forwarded message hheight).mp hold)
    · exact List.mem_append_right _ (List.mem_singleton_self message)
  · rcases List.mem_append.mp hmem with hold | hnew
    · exact hgrows ((h.forwarded message hheight).mpr hold)
    · obtain ⟨accepted, rfl⟩ := received_eq_some.mp (Option.mem_toList.mp hnew)
      exact hrecovering.forwards hincreasing hheight (hmessage message accepted rfl hheight) hstep
        hgoes

end Client

end

/-! ## The session -/

namespace Session

/-- The block-scoped updates sent since the first subscription joined, up to
where the current connection did. -/
def missed (session : Session) : List PublishedUpdate :=
  blocks ((session.sent.take session.log.joined).drop session.log.firstJoin)

theorem missed_subset (session : Session) :
    session.missed ⊆ blocks (session.sent.take session.log.joined) := by
  intro update hmem
  obtain ⟨hdrop, hblock⟩ := List.mem_filter.mp hmem
  exact List.mem_filter.mpr ⟨List.mem_of_mem_drop hdrop, hblock⟩

section
variable [WireFormat]

/-- How a connection continues a run: `before` is the client that asked for it,
`client` the one that has it. -/
structure Continues (config : ReconnectConfig) (filter : EventFilter) (session : Session)
    (before client : Client) (connection : Connection) : Prop where
  /-- What the request reached back to is replayed. -/
  complete : ∀ update ∈ blocks (session.sent.take session.log.joined), ∀ height message,
    blockHeight update.message = some height → before.ReachesBack config height →
    deliver filter update = some message →
    message ∈ client.forwarded ∨ message ∈ connection.replaying
  /-- Nothing else is, up to the join. -/
  sound : ∀ message, message ∈ client.forwarded ∨ message ∈ connection.replaying →
    ∀ height, blockHeight message = some height →
    message ∈ before.forwarded ∨ before.ReachesBack config height ∨
      DeliveredFrom (· = filter) (session.sent.drop session.log.joined) message
  kept : before.forwarded ⊆ client.forwarded
  fromHeight : before.checkpoint = none → before.currentRequest.fromHeight = none

/-- The filter in use never changes, and a connection continues the run. -/
structure RecoveryInv (config : SessionConfig) (filter : EventFilter) (session : Session) :
    Prop where
  flight : session.FlightInv (· = filter)
  requests : ∀ connection, session.connection = some connection →
    ∀ request ∈ connection.requests, request.ping ≠ none
  client : ∀ client, session.client = some client →
    client.Recovering config.reconnect config.initial filter session.pushed
  first : ∀ connection, session.connection = some connection → session.log.resumed = none →
    session.log.joined = session.log.firstJoin
  continues : ∀ before client connection, session.log.resumed = some before →
    session.client = some client → session.connection = some connection →
    session.Continues config.reconnect filter before client connection

theorem recoveryInv_new (config : SessionConfig) (filter : EventFilter) :
    (new config).RecoveryInv config filter where
  flight := flightInv_new _ config
  requests _ h := by cases h
  client _ h := by cases h
  first _ h := by cases h
  continues _ _ _ _ h := by cases h

variable {config : SessionConfig} {session session' : Session} {filter : EventFilter}

/-- A message on its way stays there or is forwarded, and nothing comes back. -/
theorem Receives.keeps (h : session.RecoveryInv config filter) {connection connection' : Connection}
    (hconnection : session.connection = some connection) {client' : Client}
    (hclient' : session'.client = some client')
    (hreceives : Receives config session session' connection connection') :
    ∃ client, session.client = some client ∧ client.forwarded ⊆ client'.forwarded ∧
      (∀ message ∈ connection.replaying, blockHeight message ≠ none →
        message ∈ client'.forwarded ∨ message ∈ connection'.replaying) ∧
      ∀ message, message ∈ client'.forwarded ∨ message ∈ connection'.replaying →
        (message ∈ client.forwarded ∨ message ∈ connection.replaying) ∨
          .ok message ∈ connection.live := by
  cases hreceives with
  | idle hclient hreplaying =>
    rw [hclient] at hclient'
    refine ⟨client', hclient', List.Subset.refl _, fun message hmem _ => .inr ?_,
      fun message hmem => .inl ?_⟩
    · rw [hreplaying]
      exact hmem
    · rw [hreplaying] at hmem
      exact hmem
  | live client after event hbefore hstep hafter hactive hreplaying hmessage =>
    rw [hafter] at hclient'
    cases hclient'
    obtain ⟨hgrows, hnew⟩ := Client.forwarded_step hstep
    refine ⟨client, hbefore, hgrows, fun message hmem _ => .inr ?_, fun message hmem => ?_⟩
    · rw [hreplaying]
      exact hmem
    · rcases hmem with hmem | hmem
      · rcases hnew message hmem with hold | ⟨accepted, hevent⟩
        · exact .inl (.inl hold)
        · exact .inr (hmessage message accepted hevent)
      · rw [hreplaying] at hmem
        exact .inl (.inr hmem)
  | replayed client after update accepted hbefore hstep hafter hactive hreplaying =>
    rw [hafter] at hclient'
    cases hclient'
    obtain ⟨hgrows, hnew⟩ := Client.forwarded_step hstep
    have hhead : update ∈ connection.replaying := by
      rw [hreplaying]
      exact List.mem_cons_self
    refine ⟨client, hbefore, hgrows, fun message hmem hheight => ?_, fun message hmem => ?_⟩
    · rw [hreplaying] at hmem
      rcases List.mem_cons.mp hmem with rfl | hmem
      · left
        exact (h.client client hbefore).forwards h.flight.publish.increasing_pushed hheight
          (h.flight.delivered hconnection (.inl hhead) hheight) hstep (by rw [hactive]; simp)
      · exact .inr hmem
    · rcases hmem with hmem | hmem
      · rcases hnew message hmem with hold | ⟨_, hevent⟩
        · exact .inl (.inl hold)
        · cases hevent
          exact .inl (.inr hhead)
      · refine .inl (.inr ?_)
        rw [hreplaying]
        exact List.mem_cons_of_mem update hmem

/-! ## What is recovered -/

/-- Every missed update that matches was forwarded. -/
def AllReceived (filter : EventFilter) (session : Session) (client : Client) : Prop :=
  ∀ update ∈ session.missed, (filter.matched update.message).isSome → client.Received filter update

/-- The current connection was asked for from a height, one not above any
matching update that the client still missed. -/
def AsksForMissed (config : ReconnectConfig) (filter : EventFilter) (session : Session) : Prop :=
  ∀ before, session.log.resumed = some before → ∀ update ∈ session.missed,
    (filter.matched update.message).isSome → ¬ before.Received filter update →
    ∃ asked height, (before.reconnectRequest config).fromHeight = some asked ∧
      blockHeight update.message = some height ∧ asked ≤ height

/-- The client that asked for the current connection had every missed update that
matches, or reached back to it. -/
def ReachedBack (config : ReconnectConfig) (filter : EventFilter) (session : Session) : Prop :=
  ∀ before, session.log.resumed = some before → ∀ update ∈ session.missed,
    (filter.matched update.message).isSome → before.Received filter update ∨
      ∃ height, blockHeight update.message = some height ∧ before.ReachesBack config height

/-- Every missed update that matches was among those received when the current
connection was asked for, or lay not below the point they gave to ask from. -/
def MissedReached (config : SessionConfig) (filter : EventFilter) (session : Session)
    (received : List SubscribeUpdate) : Prop :=
  ∀ update ∈ session.missed, ∀ message ∈ deliver filter update, message ∈ received ∨
    ∃ point ∈ Client.replayPoint config.reconnect config.initial received,
      ∃ height ∈ blockHeight update.message, point ≤ height

instance (config : SessionConfig) (filter : EventFilter) (session : Session)
    (received : List SubscribeUpdate) : Decidable (session.MissedReached config filter received) :=
  inferInstanceAs (Decidable (∀ update ∈ session.missed, ∀ message ∈ deliver filter update,
    message ∈ received ∨ ∃ point ∈ Client.replayPoint config.reconnect config.initial received,
      ∃ height ∈ blockHeight update.message, point ≤ height))

theorem matched_iff_deliver (filter : EventFilter) (update : PublishedUpdate) :
    (filter.matched update.message).isSome ↔ ∃ message, deliver filter update = some message := by
  rw [deliver, Option.isSome_iff_exists]
  constructor
  · rintro ⟨filterMatch, hmatched⟩
    exact ⟨_, by rw [hmatched]; rfl⟩
  · rintro ⟨message, hdeliver⟩
    obtain ⟨filterMatch, hmatched, -⟩ := Option.map_eq_some_iff.mp hdeliver
    exact ⟨filterMatch, hmatched⟩

/-- An update sent before the join is none of those sent after it. -/
theorem RecoveryInv.not_delivered_after (h : session.RecoveryInv config filter)
    {update : PublishedUpdate} (hmem : update ∈ session.sent.take session.log.joined)
    {message : SubscribeUpdate} (hdeliver : deliver filter update = some message) :
    ¬ DeliveredFrom (· = filter) (session.sent.drop session.log.joined) message := by
  rintro ⟨update', hmem', _, rfl, hdeliver'⟩
  have hsent : Increasing session.sent :=
    h.flight.publish.increasing_pushed.sublist (List.sublist_append_left _ _)
  have horder := hsent.order
  rw [← List.take_append_drop session.log.joined session.sent, List.pairwise_append] at horder
  have hlt := horder.2.2 update hmem update' hmem'
  rw [← (deliver_frame hdeliver).2.1, ← (deliver_frame hdeliver').2.1] at hlt
  exact Nat.lt_irrefl _ hlt

/-- Nothing is missed on the first connection. -/
theorem RecoveryInv.missed_eq_nil (h : session.RecoveryInv config filter) {connection : Connection}
    (hconnection : session.connection = some connection) (hresumed : session.log.resumed = none) :
    session.missed = [] := by
  rw [missed, h.first connection hconnection hresumed, List.drop_take_self]
  rfl

/-- With the replay consumed, the missed updates received are those the client
had and those its replay point reached. -/
theorem RecoveryInv.allReceived_iff (h : session.RecoveryInv config filter) {client : Client}
    (hclient : session.client = some client) {connection : Connection}
    (hconnection : session.connection = some connection) (hconsumed : connection.replaying = []) :
    session.AllReceived filter client ↔ session.ReachedBack config.reconnect filter := by
  constructor
  · intro hall before hresumed update hmissed hmatched
    have hcontinues := h.continues before client connection hresumed hclient hconnection
    obtain ⟨message, hdeliver, hforwarded⟩ := hall update hmissed hmatched
    obtain ⟨htake, hblock⟩ := List.mem_filter.mp (missed_subset session hmissed)
    obtain ⟨height, hheight⟩ := Option.isSome_iff_exists.mp hblock
    have hsame : blockHeight message = some height := by
      rw [(deliver_frame hdeliver).2.2, hheight]
    rcases hcontinues.sound message (.inl hforwarded) height hsame with hbefore | hreaches | hlater
    · exact .inl ⟨message, hdeliver, hbefore⟩
    · exact .inr ⟨height, hheight, hreaches⟩
    · exact absurd hlater (h.not_delivered_after htake hdeliver)
  · intro hreached update hmissed hmatched
    cases hresumed : session.log.resumed with
    | none =>
      rw [h.missed_eq_nil hconnection hresumed] at hmissed
      cases hmissed
    | some before =>
      have hcontinues := h.continues before client connection hresumed hclient hconnection
      rcases hreached before hresumed update hmissed hmatched with
        ⟨message, hdeliver, hbefore⟩ | ⟨height, hheight, hreaches⟩
      · exact ⟨message, hdeliver, hcontinues.kept hbefore⟩
      · obtain ⟨message, hdeliver⟩ := (matched_iff_deliver filter update).mp hmatched
        refine ⟨message, hdeliver, ?_⟩
        have hmem := hcontinues.complete update (missed_subset session hmissed) height message
          hheight hreaches hdeliver
        rw [hconsumed] at hmem
        exact hmem.resolve_right List.not_mem_nil

/-- The heights asked for are those the replay point gives. -/
theorem RecoveryInv.asksForMissed_iff {heightRetention : Nat}
    (hpolicy : config.reconnect.policy = .recoverMissedData heightRetention)
    (h : session.RecoveryInv config filter) {client : Client}
    (hclient : session.client = some client) {connection : Connection}
    (hconnection : session.connection = some connection) :
    session.AsksForMissed config.reconnect filter ↔
      session.ReachedBack config.reconnect filter := by
  have hreaches : ∀ before, session.log.resumed = some before → ∀ height,
      before.ReachesBack config.reconnect height ↔
        ∃ asked, (before.reconnectRequest config.reconnect).fromHeight = some asked ∧
          asked ≤ height := fun before hresumed =>
    Client.reachesBack_iff hpolicy
      (h.continues before client connection hresumed hclient hconnection).fromHeight
  constructor
  · intro hasks before hresumed update hmissed hmatched
    by_cases hreceived : before.Received filter update
    · exact .inl hreceived
    · obtain ⟨asked, height, hasked, hheight, hle⟩ :=
        hasks before hresumed update hmissed hmatched hreceived
      exact .inr ⟨height, hheight, (hreaches before hresumed height).mpr ⟨asked, hasked, hle⟩⟩
  · intro hreached before hresumed update hmissed hmatched hnot
    rcases hreached before hresumed update hmissed hmatched with
      hreceived | ⟨height, hheight, hback⟩
    · exact absurd hreceived hnot
    · obtain ⟨asked, hasked, hle⟩ := (hreaches before hresumed height).mp hback
      exact ⟨asked, height, hasked, hheight, hle⟩

/-- What the client reached back to is a matter of what it had received. -/
theorem RecoveryInv.reachedBack_iff (h : session.RecoveryInv config filter) {heard : Heard}
    (hheard : HeardInv (fun received client => client.Hears config.initial received) heard session)
    {connection : Connection} (hconnection : session.connection = some connection) :
    session.ReachedBack config.reconnect filter ↔
      session.MissedReached config filter heard.asking := by
  have hblock : ∀ update ∈ session.missed, ∀ message, deliver filter update = some message →
      blockHeight message ≠ none := by
    intro update hmissed message hdeliver
    obtain ⟨-, hblock⟩ := List.mem_filter.mp (missed_subset session hmissed)
    rw [(deliver_frame hdeliver).2.2]
    exact Option.isSome_iff_ne_none.mp hblock
  constructor
  · intro hreached update hmissed message hdeliver
    cases hresumed : session.log.resumed with
    | none =>
      rw [h.missed_eq_nil hconnection hresumed] at hmissed
      cases hmissed
    | some before =>
      have hhears := hheard.asking before connection hresumed hconnection
      rcases hreached before hresumed update hmissed
        ((matched_iff_deliver filter update).mpr ⟨message, hdeliver⟩) with
        ⟨message', hdeliver', hforwarded⟩ | ⟨height, hheight, hback⟩
      · obtain rfl : message' = message :=
          Option.some.inj (hdeliver'.symm.trans (Option.mem_def.mp hdeliver))
        exact .inl ((hhears.forwarded message' (hblock update hmissed message' hdeliver)).mp
          hforwarded)
      · obtain ⟨point, hpoint, hle⟩ := (hhears.toTracks.reachesBack_iff _ height).mp hback
        exact .inr ⟨point, hpoint, height, hheight, hle⟩
  · intro hreached before hresumed update hmissed hmatched
    have hhears := hheard.asking before connection hresumed hconnection
    obtain ⟨message, hdeliver⟩ := (matched_iff_deliver filter update).mp hmatched
    rcases hreached update hmissed message hdeliver with
      hmem | ⟨point, hpoint, height, hheight, hle⟩
    · exact .inl ⟨message, hdeliver,
        (hhears.forwarded message (hblock update hmissed message hdeliver)).mpr hmem⟩
    · exact .inr ⟨height, hheight,
        (hhears.toTracks.reachesBack_iff _ height).mpr ⟨point, hpoint, hle⟩⟩

/-! ## Steps -/

variable [ZakuraChain]

/-- A connection is joined with the filter of the initial request. -/
theorem Joins.filter_eq {heightRetention : Nat}
    (hpolicy : config.reconnect.policy = .recoverMissedData heightRetention)
    (hfilter : EventFilter.new config.initial config.filterLimits = .ok filter)
    (h : session.RecoveryInv config filter) {event : SessionEvent} {client : Option Client}
    {connection : Connection} (hjoins : Joins config session session' event client connection) :
    connection.filter = filter ∧ connection.requests = [] := by
  obtain ⟨request, now, haccept, hclient⟩ := hjoins.accepted
  obtain ⟨-, -, hconnection⟩ := accept_spec haccept
  obtain ⟨filter', fromHeight, hnew, -, hconnect⟩ := hconnection connection rfl
  have hrequest : EventFilter.new request config.filterLimits =
      EventFilter.new config.initial config.filterLimits := by
    cases client with
    | none => rw [hclient.1]
    | some client =>
      obtain ⟨-, hclient, -, retries, skipped, hphase⟩ := hclient
      have hinv := h.client client hclient
      rw [hinv.request request retries skipped hphase, Client.reconnectRequest_recover hpolicy,
        hinv.currentRequest]
      rfl
  rw [hrequest, hfilter] at hnew
  cases hnew
  rw [hconnect]
  exact ⟨rfl, rfl⟩

/-- **What a reconnect replays**, when nothing was evicted: the updates it
reaches back to. -/
theorem Joins.mem_replaying {heightRetention : Nat}
    (hpolicy : config.reconnect.policy = .recoverMissedData heightRetention)
    (hfilter : EventFilter.new config.initial config.filterLimits = .ok filter)
    (h : session.RecoveryInv config filter) {event : SessionEvent} {before : Client}
    {connection : Connection}
    (hjoins : Joins config session session' event (some before) connection)
    (hkeeps : session'.KeepsAll) {message : SubscribeUpdate} {height : Nat}
    (hheight : blockHeight message = some height) :
    message ∈ connection.replaying ↔ before.ReachesBack config.reconnect height ∧
      ∃ update ∈ blocks session.pushed, deliver filter update = some message := by
  obtain ⟨request, now, haccept, -, hclient, -, retries, skipped, hphase⟩ := hjoins.accepted
  obtain ⟨hsuffix, -, hconnection⟩ := accept_spec haccept
  obtain ⟨filter', fromHeight, -, hfrom, hconnect⟩ := hconnection connection rfl
  have hfilter' : filter' = filter := by
    have heq := (hjoins.filter_eq hpolicy hfilter h).1
    rw [hconnect] at heq
    exact heq
  have hinv := h.client before hclient
  rw [hinv.request request retries skipped hphase] at hfrom
  have hretains := h.flight.publish.retains.of_suffix hsuffix
  have hall : session'.replay.buckets.flatMap (·.updates) = blocks session.pushed := by
    have hkeeps : session'.replay.buckets.flatMap (·.updates) = blocks session'.pushed := hkeeps
    rw [hkeeps, hjoins.publication]
    rfl
  rw [hconnect, replaying_connect h.flight.valid _ _ _ (by rw [hheight]; simp), hfilter',
    Client.reachesBack_iff hpolicy hinv.fromHeight,
    ← Client.replayHeight_reconnectRequest hpolicy hfrom]
  constructor
  · rintro ⟨update, hupdate, hdeliver⟩
    obtain ⟨asked, hasked, bucket, hbucket, hle, hin⟩ := mem_replayed.mp hupdate
    have hsame : blockHeight update.message = some height := by
      rw [← (deliver_frame hdeliver).2.2, hheight]
    rw [hretains.height bucket hbucket update hin, Option.some.injEq] at hsame
    refine ⟨⟨asked, hasked, by omega⟩, update, ?_, hdeliver⟩
    rw [← hall]
    exact List.mem_flatMap.mpr ⟨bucket, hbucket, hin⟩
  · rintro ⟨⟨asked, hasked, hle⟩, update, hupdate, hdeliver⟩
    rw [← hall] at hupdate
    obtain ⟨bucket, hbucket, hin⟩ := List.mem_flatMap.mp hupdate
    have hsame : blockHeight update.message = some height := by
      rw [← (deliver_frame hdeliver).2.2, hheight]
    rw [hretains.height bucket hbucket update hin, Option.some.injEq] at hsame
    exact ⟨update, mem_replayed.mpr ⟨asked, hasked, bucket, hbucket, by omega, hin⟩, hdeliver⟩

/-- A reconnect continues the run. -/
theorem Joins.continues {heightRetention : Nat}
    (hpolicy : config.reconnect.policy = .recoverMissedData heightRetention)
    (hfilter : EventFilter.new config.initial config.filterLimits = .ok filter)
    (h : session.RecoveryInv config filter) {event : SessionEvent} {before : Client}
    {connection : Connection}
    (hjoins : Joins config session session' event (some before) connection)
    (hkeeps : session'.KeepsAll) : session'.Continues config.reconnect filter before
      { before with phase := .active } connection where
  complete update hupdate height message hheight hreaches hdeliver := by
    right
    have hsame : blockHeight message = some height := by
      rw [(deliver_frame hdeliver).2.2, hheight]
    rw [hjoins.mem_replaying hpolicy hfilter h hkeeps hsame]
    refine ⟨hreaches, update, ?_, hdeliver⟩
    rw [hjoins.joined, hjoins.publication, List.take_length] at hupdate
    rw [pushed, blocks_append]
    exact List.mem_append_left _ hupdate
  sound message hmem height hheight := by
    rcases hmem with hmem | hmem
    · exact .inl hmem
    · exact .inr (.inl ((hjoins.mem_replaying hpolicy hfilter h hkeeps hheight).mp hmem).1)
  kept := List.Subset.refl _
  fromHeight := by
    obtain ⟨_, _, -, -, hclient, -⟩ := hjoins.accepted
    exact (h.client before hclient).fromHeight

/-- A step that keeps the connection continues the run with it. -/
theorem KeepsConnection.continues (h : session.RecoveryInv config filter) {event : SessionEvent}
    (hstep : session.step config event = some session') {connection connection' : Connection}
    (hconnection : session.connection = some connection)
    (hkept : KeepsConnection config session session' event connection connection')
    {before client' : Client} (hresumed : session'.log.resumed = some before)
    (hclient' : session'.client = some client') :
    session'.Continues config.reconnect filter before client' connection' := by
  obtain ⟨client, hclient, hgrows, hreplayed, hnew⟩ :=
    hkept.receives.keeps h hconnection hclient'
  rw [hkept.log] at hresumed
  have hcontinues := h.continues before client connection hresumed hclient hconnection
  have hconnectionInv := h.flight.connection connection hconnection
  obtain ⟨sent, hsent⟩ := (step_grows hstep).1
  have hjoined : session.log.joined ≤ session.sent.length :=
    hconnectionInv.joined_le.trans hconnectionInv.position_le
  refine ⟨fun update hupdate height message hheight hreaches hdeliver => ?_,
    fun message hmem height hheight => ?_, List.Subset.trans hcontinues.kept hgrows,
    hcontinues.fromHeight⟩
  · rw [hkept.log, ← hsent, List.take_append_of_le_length hjoined] at hupdate
    rcases hcontinues.complete update hupdate height message hheight hreaches hdeliver with
      hforwarded | hreplaying
    · exact .inl (hgrows hforwarded)
    · refine hreplayed message hreplaying ?_
      rw [(deliver_frame hdeliver).2.2, hheight]
      simp
  · rw [hkept.log, ← hsent, List.drop_append_of_le_length hjoined]
    rcases hnew message hmem with hold | hlive
    · refine (hcontinues.sound message hold height hheight).imp id (Or.imp id fun hdrop => ?_)
      exact hdrop.mono (List.subset_append_left _ _)
    · refine .inr (.inr ?_)
      exact (hconnectionInv.live message hlive (by rw [hheight]; simp)).mono
        (List.subset_append_left _ _)

/-- **One step of the session**, which evicts nothing and whose commands are
pings. -/
theorem RecoveryInv.step {heightRetention : Nat}
    (hpolicy : config.reconnect.policy = .recoverMissedData heightRetention)
    (hfail : config.reconnect.replayGapPolicy = .fail)
    (hfilter : EventFilter.new config.initial config.filterLimits = .ok filter)
    (h : session.RecoveryInv config filter) {event : SessionEvent}
    (hcommand : ∀ request sent, event = .command request sent → request.ping ≠ none)
    (hkeeps : session'.KeepsAll) (hstep : session.step config event = some session') :
    session'.RecoveryInv config filter := by
  have hfixed : ∀ connection, session'.connection = some connection →
      connection.filter = filter ∧ ∀ request ∈ connection.requests, request.ping ≠ none := by
    intro connection' hconnection'
    rcases step_connection hstep hconnection' with
      ⟨client, hjoins⟩ | ⟨connection, hconnection, hkept⟩
    · obtain ⟨heq, hrequests⟩ := hjoins.filter_eq hpolicy hfilter h
      rw [hrequests]
      exact ⟨heq, by simp⟩
    · have hqueue := h.requests connection hconnection
      constructor
      · rcases hkept.filter with hsame | ⟨request, hmem, hping⟩
        · rw [hsame]
          exact (h.flight.connection connection hconnection).filter
        · exact absurd hping (hqueue request hmem)
      · intro request hmem
        rcases hkept.requests request hmem with
          hold | ⟨ping, rfl⟩ | ⟨client, command, sent, hevent, rfl⟩
        · exact hqueue request hold
        · exact Option.some_ne_none _
        · have hping := hcommand command sent hevent
          rw [Client.commandRequest, if_neg (by simpa using hping)]
          exact hping
  refine
    { flight := h.flight.step hstep fun connection hconnection => (hfixed connection hconnection).1
      requests := fun connection hconnection => (hfixed connection hconnection).2
      client := fun client' hclient' => ?_
      first := fun connection' hconnection' hresumed => ?_
      continues := fun before client' connection' hresumed hclient' hconnection' => ?_ }
  · have hpushed := (step_grows hstep).2.subset
    rcases step_client hstep with ⟨heq, -⟩ | ⟨-, -, hnew⟩ |
      ⟨client, client'', clientEvent, hclient, hclientStep, hclient'', hhears, hsame⟩
    · rw [heq] at hclient'
      exact (h.client client' hclient').mono hpushed
    · rw [hnew] at hclient'
      cases hclient'
      exact Client.recovering_new _ _ _ _
    · rw [hclient''] at hclient'
      cases hclient'
      refine ((h.client client hclient).step hfail (fun update accepted hevent hheight => ?_)
        (fun request sent hevent => hcommand request sent (hsame request sent hevent))
        hclientStep).mono hpushed
      obtain ⟨connection, hconnection, hmem⟩ := mem_of_hears hhears hevent
      exact h.flight.delivered hconnection hmem hheight
  · rcases step_connection hstep hconnection' with
      ⟨client, hjoins⟩ | ⟨connection, hconnection, hkept⟩
    · rw [hjoins.resumed] at hresumed
      rw [hjoins.joined, hjoins.firstJoin, hresumed]
      rfl
    · rw [hkept.log] at hresumed ⊢
      exact h.first connection hconnection hresumed
  · rcases step_connection hstep hconnection' with
      ⟨client, hjoins⟩ | ⟨connection, hconnection, hkept⟩
    · rw [hjoins.resumed] at hresumed
      subst hresumed
      obtain ⟨_, _, -, -, -, hafter, -⟩ := hjoins.accepted
      rw [hafter] at hclient'
      cases hclient'
      exact hjoins.continues hpolicy hfilter h hkeeps
    · exact hkept.continues h hstep hconnection hresumed hclient'

/-- **When a reconnect recovers all.** In a run that never evicts, with the filter
of the initial request throughout, a client that has consumed the replay of its
connection has every missed update that matches if and only if each of them was among
the messages received when it asked for the connection, or lay not below the point that
these messages and the initial request gave to ask from; and if and only if the height
asked for lies above none that was still missed. -/
theorem recovers_iff {heightRetention : Nat}
    (hpolicy : config.reconnect.policy = .recoverMissedData heightRetention)
    (hfail : config.reconnect.replayGapPolicy = .fail)
    (hfilter : EventFilter.new config.initial config.filterLimits = .ok filter)
    {events : List SessionEvent}
    (hkeeps : ∀ visited, Visits (step config) (new config) events visited → visited.KeepsAll)
    (hcommands : ∀ request sent, .command request sent ∈ events → request.ping ≠ none)
    (hrun : runs (step config) (new config) events = some session) {client : Client}
    (hclient : session.client = some client) {connection : Connection}
    (hconnection : session.connection = some connection) (hconsumed : connection.replaying = []) :
    (session.AllReceived filter client ↔
        session.MissedReached config filter (heard config events).asking) ∧
      (session.AsksForMissed config.reconnect filter ↔
        session.MissedReached config filter (heard config events).asking) := by
  obtain ⟨hinv, hheard⟩ : session.RecoveryInv config filter ∧
      HeardInv (fun received client => client.Hears config.initial received)
        (heard config events) session := by
    refine takes_history (J := fun events session => session.RecoveryInv config filter ∧
      HeardInv (fun received client => client.Hears config.initial received)
        (heard config events) session)
      (fun earlier before event after hearlier hbefore hstep h => ?_) ⟨recoveryInv_new config filter, heardInv_new⟩ hrun
    refine ⟨h.1.step hpolicy hfail hfilter (fun request sent hevent => ?_)
      (hkeeps after ⟨_, hearlier, runs_snoc.mpr ⟨before, hbefore, hstep⟩⟩) hstep, ?_⟩
    · have hmem : event ∈ events :=
        hearlier.subset (List.mem_append_right earlier List.mem_cons_self)
      exact hcommands request sent (hevent ▸ hmem)
    · rw [heard_snoc hbefore hstep]
      refine h.2.step (Client.hears_new _ _)
        (fun client clientEvent client' hclient hreceived hclientStep hgoes hhears => ?_) hstep
      refine hhears.step hfail h.1.flight.publish.increasing_pushed (h.1.client client hclient)
        (fun update accepted hevent hheight => ?_) hclientStep hgoes
      obtain ⟨connection, hconnection, hmem⟩ := mem_of_hears hreceived hevent
      exact h.1.flight.delivered hconnection hmem hheight
  rw [← hinv.reachedBack_iff hheard hconnection]
  exact ⟨hinv.allReceived_iff hclient hconnection hconsumed,
    hinv.asksForMissed_iff hpolicy hclient hconnection⟩

end

/-! ## An outage -/

def outageConfig : SessionConfig where
  limits := { heightCapacity := 4, eventCapacity := 100, byteCapacity := 4000, maxAge := none }
  capacity := 8
  filterLimits := {}
  reconnect := {}
  initial := {}

/-- The filter of the empty request. -/
def outageFilter : EventFilter :=
  { defaultAll := true, legacy := none, named := [], needsAddresses := false }

def publishBlock (height : Nat) (finalized : Bool) (sequence : Nat) : List SessionEvent :=
  [.publication (.prepare [(ReplayBuffer.sampleBlock height "a" finalized sequence).message]),
   .publication (.push sequence), .publication .send, .publication .finish]

/-- The client receives block 150. Its stream ends, another block is published,
and it connects again and receives `replayed` messages. -/
def outageEvents (height : Nat) (finalized : Bool) (replayed : Nat) : List SessionEvent :=
  publishBlock 100 false 1 ++ [.subscribe 1] ++ publishBlock 150 false 2 ++
    [.serve, .receive true, .disconnect .ended] ++ publishBlock height finalized 3 ++
    [.attempt 3] ++ List.replicate replayed (.receive true)

/-- What the samples have in common: nothing is evicted, no command is sent, and
the replay is consumed. -/
theorem outageEvents_run {height : Nat} {finalized : Bool} {replayed : Nat}
    {condition : Session → Client → Bool}
    (hkeeps : visitsAll (@step protoWire hexChain outageConfig)
      (fun visited => decide visited.KeepsAll) (new outageConfig)
      (outageEvents height finalized replayed) = true)
    (hrun : (runs (@step protoWire hexChain outageConfig) (new outageConfig)
      (outageEvents height finalized replayed)).any (fun session =>
        session.client.any (condition session) &&
          session.connection.any fun connection => connection.replaying.isEmpty) = true) :
    (∀ visited, Visits (@step protoWire hexChain outageConfig) (new outageConfig)
      (outageEvents height finalized replayed) visited → visited.KeepsAll) ∧
    (∀ request sent, .command request sent ∈ outageEvents height finalized replayed →
      request.ping ≠ none) ∧
    ∃ session client connection, runs (@step protoWire hexChain outageConfig) (new outageConfig)
        (outageEvents height finalized replayed) = some session ∧
      session.client = some client ∧ session.connection = some connection ∧
      connection.replaying = [] ∧ condition session client = true := by
  refine ⟨fun visited hvisits => of_decide_eq_true (of_visitsAll hkeeps hvisits),
    fun request sent hmem => ?_, ?_⟩
  · simp [outageEvents, publishBlock] at hmem
  · simp only [Option.any_eq_true, Bool.and_eq_true, List.isEmpty_iff] at hrun
    obtain ⟨session, hsession, ⟨client, hclient, hcondition⟩, connection, hconnection, hconsumed⟩ :=
      hrun
    exact ⟨session, client, connection, hsession, hclient, hconnection, hconsumed, hcondition⟩

/-- The next block is replayed, behind the one received. -/
theorem recovers_iff_next : ∃ session client connection,
    runs (@step protoWire hexChain outageConfig) (new outageConfig) (outageEvents 151 false 2) =
      some session ∧
    session.client = some client ∧ session.connection = some connection ∧
    session.missed ≠ [] ∧ @AllReceived protoWire outageFilter session client ∧
    @AsksForMissed protoWire outageConfig.reconnect outageFilter session := by
  obtain ⟨hkeeps, hcommands, session, client, connection, hrun, hclient, hconnection, hconsumed,
    hreached⟩ :=
    @outageEvents_run 151 false 2 (fun session _ => decide (session.missed ≠ [] ∧
      @MissedReached protoWire outageConfig outageFilter session
        (@heard protoWire hexChain outageConfig (outageEvents 151 false 2)).asking))
      (by decide +kernel) (by decide +kernel)
  obtain ⟨hmissed, hreached⟩ := of_decide_eq_true hreached
  obtain ⟨hreceived, hasks⟩ := @recovers_iff protoWire outageConfig session outageFilter hexChain
    250 rfl rfl rfl (outageEvents 151 false 2) hkeeps hcommands hrun client hclient connection
    hconnection hconsumed
  exact ⟨session, client, connection, hrun, hclient, hconnection, hmissed, hreceived.mpr hreached,
    hasks.mpr hreached⟩

/-- **A lost update.** Block 50 is finalized during the outage. The client asks
from height 148, and is never sent the finalized block. -/
theorem finalized_block_lost :
    (∀ visited, Visits (@step protoWire hexChain outageConfig) (new outageConfig)
      (outageEvents 50 true 1) visited → visited.KeepsAll) ∧
    (∀ request sent, .command request sent ∈ outageEvents 50 true 1 → request.ping ≠ none) ∧
    ∃ session client connection,
      runs (@step protoWire hexChain outageConfig) (new outageConfig) (outageEvents 50 true 1) =
        some session ∧
      session.client = some client ∧ session.connection = some connection ∧
      connection.replaying = [] ∧ ¬ @AllReceived protoWire outageFilter session client := by
  obtain ⟨hkeeps, hcommands, session, client, connection, hrun, hclient, hconnection, hconsumed,
    hlost⟩ := @outageEvents_run 50 true 1
      (fun session client => session.missed.any fun update =>
        (outageFilter.matched update.message).isSome &&
          !(@deliver protoWire outageFilter update).any (· ∈ client.forwarded))
      (by decide +kernel) (by decide +kernel)
  refine ⟨hkeeps, hcommands, session, client, connection, hrun, hclient, hconnection, hconsumed,
    fun hall => ?_⟩
  simp only [List.any_eq_true, Bool.and_eq_true] at hlost
  obtain ⟨update, hmissed, hmatched, hlost⟩ := hlost
  obtain ⟨message, hdeliver, hforwarded⟩ := hall update hmissed hmatched
  rw [hdeliver] at hlost
  simp [hforwarded] at hlost

end Session

end ZakuraGrpc
