import ZakuraGrpc.System.Session

/-!
# What is in flight

The block-scoped messages on a connection are updates of the server as one of
the subscription's filters delivers them: the replayed ones were pushed before
the client joined, the live ones are sent since.
-/

namespace ZakuraGrpc

open Publication (pushed prepared PublishEvent)

namespace Session

/-- A connection with fewer messages. -/
structure Within (connection connection' : Connection) : Prop where
  filter : connection.filter = connection'.filter
  position : connection.position = connection'.position
  replaying : connection.replaying ⊆ connection'.replaying
  live : connection.live ⊆ connection'.live

theorem within_enqueue (connection : Connection) (request : SubscribeRequest) :
    Within (enqueue connection request) connection :=
  ⟨rfl, rfl, List.Subset.refl _, List.Subset.refl _⟩

theorem within_enqueueReply (connection : Connection) (update : SubscribeUpdate)
    (accepted : Bool) : Within (enqueueReply connection update accepted) connection := by
  unfold enqueueReply
  split
  · split
    · exact within_enqueue connection _
    · exact ⟨rfl, rfl, List.Subset.refl _, List.Subset.refl _⟩
  · exact ⟨rfl, rfl, List.Subset.refl _, List.Subset.refl _⟩

theorem Within.trans {first second third : Connection} (h : Within first second)
    (h' : Within second third) : Within first third :=
  ⟨h.filter.trans h'.filter, h.position.trans h'.position,
    List.Subset.trans h.replaying h'.replaying, List.Subset.trans h.live h'.live⟩

/-- What a snapshot replays. -/
theorem mem_replayed {replay : ReplayBuffer} {fromHeight : Option Nat} {update : PublishedUpdate} :
    update ∈ (fromHeight.map replay.updatesFrom).getD [] ↔
      ∃ height, fromHeight = some height ∧ ∃ bucket ∈ replay.buckets,
        height ≤ bucket.height ∧ update ∈ bucket.updates := by
  cases fromHeight with
  | none => simp
  | some height =>
    simp [ReplayBuffer.updatesFrom, and_assoc]

end Session

section
variable [WireFormat]

/-- The message is one of the updates as a filter in use delivers it. -/
def DeliveredFrom (usable : EventFilter → Prop) (updates : List PublishedUpdate)
    (message : SubscribeUpdate) : Prop :=
  ∃ update ∈ updates, ∃ filter, usable filter ∧ deliver filter update = some message

variable {usable : EventFilter → Prop} {updates updates' : List PublishedUpdate}
  {message : SubscribeUpdate}

theorem DeliveredFrom.mono (h : DeliveredFrom usable updates message)
    (hsubset : updates ⊆ updates') : DeliveredFrom usable updates' message := by
  obtain ⟨update, hmem, hfilter⟩ := h
  exact ⟨update, hsubset hmem, hfilter⟩

/-- A delivered message has the height of its update. -/
theorem DeliveredFrom.height (h : DeliveredFrom usable updates message) :
    ∃ update ∈ updates, blockHeight update.message = blockHeight message := by
  obtain ⟨update, hmem, filter, -, hdeliver⟩ := h
  exact ⟨update, hmem, (deliver_frame hdeliver).2.2.symm⟩

namespace Session

variable {config : SessionConfig} {session session' : Session} {connection connection' : Connection}

structure ConnectionInv (usable : EventFilter → Prop) (session : Session)
    (connection : Connection) : Prop where
  filter : usable connection.filter
  joined_le : session.log.joined ≤ connection.position
  position_le : connection.position ≤ session.sent.length
  replaying : ∀ message ∈ connection.replaying, blockHeight message ≠ none →
    DeliveredFrom usable session.pushed message
  live : ∀ message, .ok message ∈ connection.live → blockHeight message ≠ none →
    DeliveredFrom usable (session.sent.drop session.log.joined) message

structure FlightInv (usable : EventFilter → Prop) (session : Session) : Prop where
  publish : session.PublishInv
  valid : MempoolState.EntriesValid session.mempool.entries
  connection : ∀ connection, session.connection = some connection →
    session.ConnectionInv usable connection

/-- The messages on a connection were pushed. -/
theorem FlightInv.delivered (h : session.FlightInv usable)
    (hconnection : session.connection = some connection)
    (hmem : message ∈ connection.replaying ∨ .ok message ∈ connection.live)
    (hheight : blockHeight message ≠ none) : DeliveredFrom usable session.pushed message := by
  have hinv := h.connection connection hconnection
  rcases hmem with hmem | hmem
  · exact hinv.replaying message hmem hheight
  · refine (hinv.live message hmem hheight).mono ?_
    exact List.Subset.trans (List.drop_sublist _ _).subset (List.subset_append_left _ _)

theorem flightInv_new (usable : EventFilter → Prop) (config : SessionConfig) :
    (new config).FlightInv usable where
  publish := Publication.publishInv_new config.limits
  valid := MempoolState.entriesValid_empty
  connection _ h := by cases h

/-- The server's other readers and a stronger history keep a connection. -/
theorem ConnectionInv.mono (h : session.ConnectionInv usable connection)
    (hsent : session.sent <+: session'.sent) (hpushed : session.pushed <+: session'.pushed)
    (hjoined : session'.log.joined = session.log.joined) :
    session'.ConnectionInv usable connection where
  filter := h.filter
  joined_le := by rw [hjoined]; exact h.joined_le
  position_le := h.position_le.trans hsent.length_le
  replaying message hmem hheight := (h.replaying message hmem hheight).mono hpushed.subset
  live message hmem hheight := by
    rw [hjoined]
    exact (h.live message hmem hheight).mono (hsent.drop _).subset

theorem ConnectionInv.within (h : session.ConnectionInv usable connection')
    (hwithin : Within connection connection') : session.ConnectionInv usable connection where
  filter := by rw [hwithin.filter]; exact h.filter
  joined_le := by rw [hwithin.position]; exact h.joined_le
  position_le := by rw [hwithin.position]; exact h.position_le
  replaying message hmem := h.replaying message (hwithin.replaying hmem)
  live message hmem := h.live message (hwithin.live hmem)

/-- A step of the client takes messages off its connection or drops it. -/
theorem FlightInv.clientStep (h : session.FlightInv usable) {next : Option Connection}
    {event : ClientEvent} (hstep : session.clientStep config next event = some session')
    (hwithin : ∀ connection, next = some connection → ∃ connection',
      session.connection = some connection' ∧ Within connection connection') :
    session'.FlightInv usable := by
  obtain ⟨client, client', -, -, rfl⟩ := clientStep_spec hstep
  refine ⟨h.publish, h.valid, fun connection hconnection => ?_⟩
  dsimp only at hconnection
  split at hconnection
  · obtain ⟨connection', hconnection', hwithin⟩ := hwithin connection hconnection
    exact ((h.connection connection' hconnection').within hwithin).mono List.prefix_rfl
      List.prefix_rfl rfl
  · cases hconnection

theorem FlightInv.receiveUpdate (h : session.FlightInv usable)
    (hconnection : session.connection = some connection') (hwithin : Within connection connection')
    {update : SubscribeUpdate} {accepted : Bool}
    (hstep : session.receiveUpdate config connection update accepted = some session') :
    session'.FlightInv usable := by
  refine h.clientStep hstep fun next hnext => ⟨connection', hconnection, ?_⟩
  rw [Option.some.injEq] at hnext
  subst hnext
  exact (within_enqueueReply connection update accepted).trans hwithin

/-- A live update goes out to the client. -/
theorem ConnectionInv.serveNext (h : session.ConnectionInv usable connection)
    (hturn : session.serveNext config connection = some connection') :
    session.ConnectionInv usable connection' := by
  unfold Session.serveNext at hturn
  split at hturn
  · cases hturn
    refine ⟨h.filter, h.joined_le, h.position_le, h.replaying, fun message hmem => ?_⟩
    rcases List.mem_append.mp hmem with hmem | hmem
    · exact h.live message hmem
    · simp at hmem
  · obtain ⟨update, hget, rfl⟩ := Option.map_eq_some_iff.mp hturn
    obtain ⟨hlt, hupdate⟩ := List.getElem?_eq_some_iff.mp hget
    refine ⟨h.filter, Nat.le_succ_of_le h.joined_le, hlt, h.replaying, fun message hmem => ?_⟩
    rcases List.mem_append.mp hmem with hmem | hmem
    · exact h.live message hmem
    · intro _
      simp only [List.mem_map, Option.mem_toList, Except.ok.injEq, exists_eq_right] at hmem
      unfold receiveLive at hmem
      split at hmem
      · cases hmem
      dsimp only at hmem
      split at hmem
      · cases hmem
      refine ⟨update, ?_, connection.filter, h.filter, hmem⟩
      have hposition := h.joined_le
      rw [List.mem_drop_iff_getElem]
      refine ⟨connection.position - session.log.joined, by omega, ?_⟩
      simp only [Nat.add_sub_cancel' hposition, hupdate]

/-- A request changes the filter; its answer has no height. -/
theorem ConnectionInv.takeNext [ZakuraChain] (h : session.ConnectionInv usable connection)
    (hturn : takeNext config connection = some connection')
    (husable : usable connection'.filter) : session.ConnectionInv usable connection' := by
  unfold Session.takeNext at hturn
  split at hturn
  · cases hturn
  split at hturn
  · rename_i filter response happly
    cases hturn
    refine ⟨husable, h.joined_le, h.position_le, h.replaying, fun message hmem hheight => ?_⟩
    rcases List.mem_append.mp hmem with hmem | hmem
    · exact h.live message hmem hheight
    · simp only [List.mem_map, Option.mem_toList, Except.ok.injEq, exists_eq_right] at hmem
      subst hmem
      rcases applySubscriptionRequest_ok happly with ⟨ping, -, -, hpong⟩ | ⟨-, -, hnone⟩
      · cases hpong
        exact absurd rfl hheight
      · cases hnone
  · cases hturn
    refine ⟨h.filter, h.joined_le, h.position_le, h.replaying, fun message hmem => ?_⟩
    rcases List.mem_append.mp hmem with hmem | hmem
    · exact h.live message hmem
    · simp at hmem

/-- The block-scoped messages a connection begins with. -/
theorem replaying_connect (hvalid : MempoolState.EntriesValid session.mempool.entries)
    (filter : EventFilter) (request : SubscribeRequest) (snapshot : ReplaySnapshot)
    {message : SubscribeUpdate} (hheight : blockHeight message ≠ none) :
    message ∈ (session.connect filter request snapshot).replaying ↔
      ∃ update ∈ snapshot.updates, deliver filter update = some message := by
  unfold connect
  refine blockScoped_initialUpdates (fun mempool hmempool => ?_) hheight
  split at hmempool
  · cases hmempool
    exact MempoolState.snapshot_not_blockScoped hvalid
  · cases hmempool

/-- Joining the stream. -/
theorem FlightInv.join [ZakuraChain] (h : session.FlightInv usable) {request : SubscribeRequest}
    {now : Nat} {replay : ReplayBuffer} {connection : Connection} {client : Option Client}
    {log : SessionLog}
    (haccept : session.accept config request now = some (replay, .ok connection))
    (hlog : log.joined = session.sent.length) (husable : usable connection.filter) :
    FlightInv usable
      { session with
        replay := replay, client := client, connection := some connection, log := log } := by
  obtain ⟨hsuffix, hlimits, hconnection⟩ := accept_spec haccept
  obtain ⟨filter, fromHeight, -, -, hconnect⟩ := hconnection connection rfl
  refine ⟨h.publish.evict rfl rfl hsuffix hlimits, h.valid, fun connection' hsome => ?_⟩
  cases hsome
  refine
    { filter := husable
      joined_le := by
        rw [hconnect, hlog]
        exact le_rfl
      position_le := by
        rw [hconnect]
        exact le_rfl
      replaying := fun message hmem hheight => ?_
      live := fun message hmem => by
        rw [hconnect] at hmem
        cases hmem }
  rw [hconnect, replaying_connect h.valid filter request _ hheight] at hmem
  obtain ⟨update, hupdate, hdeliver⟩ := hmem
  obtain ⟨height, -, bucket, hbucket, -, hin⟩ := mem_replayed.mp hupdate
  refine ⟨update, ?_, filter, ?_, hdeliver⟩
  · refine List.mem_of_mem_filter (p := fun u => (blockHeight u.message).isSome) ?_
    exact h.publish.retains.suffix.subset
      (List.mem_flatMap.mpr ⟨bucket, hsuffix.subset hbucket, hin⟩)
  · rw [hconnect] at husable
    exact husable

/-- **Every step keeps what is in flight**, with the filters that are in use. -/
theorem FlightInv.step [ZakuraChain] (h : session.FlightInv usable) {event : SessionEvent}
    (hstep : session.step config event = some session')
    (husable : ∀ connection, session'.connection = some connection → usable connection.filter) :
    session'.FlightInv usable := by
  have hturn : ∀ {turn : Connection → Option Connection},
      session.serverTurn turn = some session' →
      (∀ connection connection', session.ConnectionInv usable connection →
        turn connection = some connection' → usable connection'.filter →
        session.ConnectionInv usable connection') → session'.FlightInv usable := by
    intro turn hserver hkeeps
    obtain ⟨connection, connection', hconnection, hnext, rfl⟩ := serverTurn_spec hserver
    refine ⟨h.publish, h.valid, fun connection'' hsome => ?_⟩
    cases hsome
    exact (hkeeps connection connection' (h.connection connection hconnection) hnext
      (husable connection' rfl)).mono List.prefix_rfl List.prefix_rfl rfl
  cases event with
  | publication event =>
    obtain ⟨publication, hpublication, rfl⟩ := Option.map_eq_some_iff.mp hstep
    obtain ⟨hsent, hpushed, hvalid⟩ := Publication.step_grows hpublication
    exact ⟨h.publish.step hpublication, hvalid h.valid, fun connection hconnection =>
      (h.connection connection hconnection).mono hsent hpushed rfl⟩
  | subscribe now =>
    obtain ⟨-, replay, result, haccept, ⟨status, -, rfl⟩ | ⟨connection, rfl, rfl⟩⟩ :=
      subscribe_spec hstep
    · obtain ⟨hsuffix, hlimits, -⟩ := accept_spec haccept
      exact ⟨h.publish.evict rfl rfl hsuffix hlimits, h.valid, fun connection hconnection =>
        (h.connection connection hconnection).mono List.prefix_rfl List.prefix_rfl rfl⟩
    · exact h.join haccept rfl (husable connection rfl)
  | attempt now =>
    obtain ⟨client, request, retries, skipped, replay, result, -, -, haccept,
      ⟨status, client', -, -, rfl⟩ | ⟨connection, rfl, rfl⟩⟩ := attempt_spec hstep
    · obtain ⟨hsuffix, hlimits, -⟩ := accept_spec haccept
      exact ⟨h.publish.evict rfl rfl hsuffix hlimits, h.valid,
        fun connection hconnection => by cases hconnection⟩
    · exact h.join haccept rfl (husable connection rfl)
  | unreachable error =>
    obtain ⟨-, hclient⟩ := unreachable_spec hstep
    exact h.clientStep hclient fun _ hnone => by cases hnone
  | serve => exact hturn hstep fun _ _ hinv hnext _ => hinv.serveNext hnext
  | serverPing id =>
    refine hturn hstep fun connection connection' hinv hnext _ => ?_
    cases hnext
    refine ⟨hinv.filter, hinv.joined_le, hinv.position_le, hinv.replaying,
      fun message hmem hheight => ?_⟩
    rcases List.mem_append.mp hmem with hmem | hmem
    · exact hinv.live message hmem hheight
    · cases List.mem_singleton.mp hmem
      exact absurd rfl hheight
  | takeRequest => exact hturn hstep fun _ _ hinv hnext hfilter => hinv.takeNext hnext hfilter
  | command request sent =>
    obtain ⟨client, hclient, hclientStep⟩ := Option.bind_eq_some_iff.mp hstep
    refine h.clientStep hclientStep fun connection hconnection => ?_
    obtain ⟨connection', hconnection', rfl⟩ := Option.map_eq_some_iff.mp hconnection
    refine ⟨connection', hconnection', ?_⟩
    split
    · exact within_enqueue connection' _
    · exact ⟨rfl, rfl, List.Subset.refl _, List.Subset.refl _⟩
  | commandsClosed =>
    exact h.clientStep hstep fun connection hconnection =>
      ⟨connection, hconnection, rfl, rfl, List.Subset.refl _, List.Subset.refl _⟩
  | receive accepted =>
    obtain ⟨connection, hconnection, ⟨update, rest, hreplaying, hreceive⟩ |
      ⟨update, rest, -, hlive, hreceive⟩ | ⟨status, -, hclientStep⟩⟩ := receive_spec hstep
    · have hwithin : Within { connection with replaying := rest } connection :=
        ⟨rfl, rfl, by rw [hreplaying]; exact List.subset_cons_self update rest,
          List.Subset.refl _⟩
      exact h.receiveUpdate hconnection hwithin hreceive
    · have hwithin : Within { connection with live := rest } connection :=
        ⟨rfl, rfl, List.Subset.refl _, by rw [hlive]; exact List.subset_cons_self _ rest⟩
      exact h.receiveUpdate hconnection hwithin hreceive
    · exact h.clientStep hclientStep fun _ hnone => by cases hnone
  | disconnect cause => exact h.clientStep hstep fun _ hnone => by cases hnone

end Session

end

end ZakuraGrpc
