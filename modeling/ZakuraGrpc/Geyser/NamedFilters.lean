import ZakuraGrpc.Geyser.Filter

/-!
# Named filters are independent

`EventFilter.matched` gives a named filter the verdict it would get alone in a
request (`matched_independent`). The filters of a request share one context,
whose address list is built when some filter uses addresses; a filter that does
not use them never reads it (`CompiledFilter.matches_eq`).
-/

namespace ZakuraGrpc

/-! ## The shared context -/

/-- The match of a filter by itself. -/
def CompiledFilter.verdict (filter : CompiledFilter) (update : SubscribeUpdate) : Bool :=
  filter.matches (UpdateContext.new update filter.usesAddresses)

/-- A context that has the addresses a filter uses serves it as its own would. -/
theorem CompiledFilter.matches_eq {filter : CompiledFilter} {needsAddresses : Bool}
    (h : filter.usesAddresses = true → needsAddresses = true) (update : SubscribeUpdate) :
    filter.matches (UpdateContext.new update needsAddresses) = filter.verdict update := by
  unfold verdict
  cases huses : filter.usesAddresses with
  | true => rw [h huses]
  | false =>
    have hfree : ∀ addresses, filter.addressesMatch addresses = true := by
      intro addresses
      unfold addressesMatch
      rw [huses]
      rfl
    simp only [CompiledFilter.matches, UpdateContext.new, hfree]

section
variable [ZakuraChain]

/-! ## Accepted requests -/

/-- What `EventFilter.new` checks of one named filter. -/
structure CompilesAs (limits : FilterLimits) (name : String) (filter : SubscribeRequestFilter)
    (compiled : CompiledFilter) : Prop where
  name : validateName name limits = .ok ()
  nonempty : (filterIsEmpty filter && !limits.allowAll) = false
  filter : CompiledFilter.fromProto filter limits = .ok compiled

theorem CompilesAs.unique {limits : FilterLimits} {name : String}
    {filter : SubscribeRequestFilter} {compiled compiled' : CompiledFilter}
    (h : CompilesAs limits name filter compiled) (h' : CompilesAs limits name filter compiled') :
    compiled = compiled' := by
  have heq := h.filter
  rw [h'.filter] at heq
  exact (Except.ok.inj heq).symm

theorem compileNamed_cons {limits : FilterLimits} {name : String}
    {filter : SubscribeRequestFilter} {rest : List (String × SubscribeRequestFilter)}
    {named : List (String × CompiledFilter)} :
    compileNamed limits ((name, filter) :: rest) = .ok named ↔
      ∃ compiled others, CompilesAs limits name filter compiled ∧
        compileNamed limits rest = .ok others ∧ named = (name, compiled) :: others := by
  rw [compileNamed, Except.bind_eq_ok]
  constructor
  · rintro ⟨⟨⟩, hname, h⟩
    split at h
    · obtain ⟨_, hthrow, -⟩ := Except.bind_eq_ok.mp h
      cases hthrow
    · rename_i hempty
      obtain ⟨compiled, hfilter, h⟩ := Except.bind_eq_ok.mp h
      obtain ⟨others, hothers, h⟩ := Except.bind_eq_ok.mp h
      rw [Except.pure_eq_ok] at h
      exact ⟨compiled, others, ⟨hname, Bool.not_eq_true _ ▸ hempty, hfilter⟩, hothers, h.symm⟩
  · rintro ⟨compiled, others, ⟨hname, hempty, hfilter⟩, hothers, rfl⟩
    refine ⟨(), hname, ?_⟩
    rw [hempty, if_neg Bool.false_ne_true]
    refine Except.bind_eq_ok.mpr ⟨compiled, hfilter, ?_⟩
    exact Except.bind_eq_ok.mpr ⟨others, hothers, rfl⟩

/-- The names stay in place. -/
theorem names_compileNamed {limits : FilterLimits}
    {filters : List (String × SubscribeRequestFilter)} {named : List (String × CompiledFilter)}
    (h : compileNamed limits filters = .ok named) : named.map (·.1) = filters.map (·.1) := by
  induction filters generalizing named with
  | nil =>
    cases h
    rfl
  | cons entry rest ih =>
    obtain ⟨compiled, others, -, hothers, rfl⟩ := compileNamed_cons.mp h
    rw [List.map_cons, List.map_cons, ih hothers]

theorem mem_compileNamed {limits : FilterLimits}
    {filters : List (String × SubscribeRequestFilter)} {named : List (String × CompiledFilter)}
    (h : compileNamed limits filters = .ok named) {name : String} {compiled : CompiledFilter} :
    (name, compiled) ∈ named ↔
      ∃ filter, (name, filter) ∈ filters ∧ CompilesAs limits name filter compiled := by
  induction filters generalizing named with
  | nil =>
    cases h
    simp
  | cons entry rest ih =>
    obtain ⟨first, others, hfirst, hothers, rfl⟩ := compileNamed_cons.mp h
    rw [List.mem_cons, ih hothers]
    constructor
    · rintro (heq | ⟨filter, hmem, hcompiles⟩)
      · cases heq
        exact ⟨entry.2, List.mem_cons_self, hfirst⟩
      · exact ⟨filter, List.mem_cons_of_mem entry hmem, hcompiles⟩
    · rintro ⟨filter, hmem, hcompiles⟩
      rcases List.mem_cons.mp hmem with heq | hmem
      · subst heq
        rw [hcompiles.unique hfirst]
        exact .inl rfl
      · exact .inr ⟨filter, hmem, hcompiles⟩

/-- The list compiles when each filter does. -/
theorem compileNamed_isOk {limits : FilterLimits}
    {filters : List (String × SubscribeRequestFilter)} :
    (∃ named, compileNamed limits filters = .ok named) ↔
      ∀ entry ∈ filters, ∃ compiled, CompilesAs limits entry.1 entry.2 compiled := by
  induction filters with
  | nil => exact iff_of_true ⟨[], rfl⟩ fun entry hmem => nomatch hmem
  | cons entry rest ih =>
    rw [List.forall_mem_cons, ← ih]
    constructor
    · rintro ⟨named, h⟩
      obtain ⟨compiled, others, hcompiles, hothers, -⟩ := compileNamed_cons.mp h
      exact ⟨⟨compiled, hcompiles⟩, others, hothers⟩
    · rintro ⟨⟨compiled, hcompiles⟩, others, hothers⟩
      exact ⟨_, compileNamed_cons.mpr ⟨compiled, others, hcompiles, hothers, rfl⟩⟩

/-- The legacy filter of a list of event types. -/
def compileLegacy (eventTypes : List Int) (limits : FilterLimits) :
    Except Status (Option CompiledFilter) :=
  if eventTypes.isEmpty then .ok none
  else some <$> CompiledFilter.fromProto { eventTypes := eventTypes } limits

/-- What an event filter is made of. -/
structure EventFilter.IsCompiled (request : SubscribeRequest) (limits : FilterLimits)
    (filter : EventFilter) : Prop where
  size : request.filters.entries.length ≤ limits.maxNamedFilters
  defaultAll : filter.defaultAll =
    (request.eventTypes.isEmpty && request.filters.entries.isEmpty)
  allowed : (filter.defaultAll && !limits.allowAll) = false
  legacy : compileLegacy request.eventTypes limits = .ok filter.legacy
  named : ∃ named,
    compileNamed limits (request.filters.entries.map fun entry => (entry.1, entry.2)) =
      .ok named ∧ filter.named = named.insertionSort fun left right => left.1 ≤ right.1
  needsAddresses : filter.needsAddresses =
    (filter.legacy.any CompiledFilter.usesAddresses ||
      filter.named.any fun (_, filter) => filter.usesAddresses)

/-- `EventFilter.new`, stage by stage. -/
theorem EventFilter.new_eq (request : SubscribeRequest) (limits : FilterLimits) :
    EventFilter.new request limits =
      let defaultAll := request.eventTypes.isEmpty && request.filters.entries.isEmpty
      if limits.maxNamedFilters < request.filters.entries.length then
        .error (invalidArgument s!"at most {limits.maxNamedFilters} named filters are allowed")
      else if defaultAll && !limits.allowAll then
        .error (invalidArgument "an empty filter is disabled; select at least one event type")
      else
        compileLegacy request.eventTypes limits >>= fun legacy =>
        compileNamed limits (request.filters.entries.map fun entry => (entry.1, entry.2)) >>=
          fun named =>
        let named := named.insertionSort fun left right => left.1 ≤ right.1
        .ok
          { defaultAll := defaultAll
            legacy := legacy
            named := named
            needsAddresses := legacy.any CompiledFilter.usesAddresses ||
              named.any fun (_, filter) => filter.usesAddresses } := by
  unfold EventFilter.new compileLegacy
  dsimp only
  split
  · rfl
  split
  · split <;> rfl
  split <;> rfl

theorem EventFilter.new_eq_ok {request : SubscribeRequest} {limits : FilterLimits}
    {filter : EventFilter} :
    EventFilter.new request limits = .ok filter ↔ filter.IsCompiled request limits := by
  rw [EventFilter.new_eq]
  dsimp only
  constructor
  · intro h
    split at h
    · cases h
    rename_i hsize
    split at h
    · cases h
    rename_i hallowed
    obtain ⟨legacy, hlegacy, h⟩ := Except.bind_eq_ok.mp h
    obtain ⟨named, hnamed, h⟩ := Except.bind_eq_ok.mp h
    cases h
    exact ⟨Nat.not_lt.mp hsize, rfl, Bool.not_eq_true _ ▸ hallowed, hlegacy, ⟨named, hnamed, rfl⟩,
      rfl⟩
  · intro h
    obtain ⟨named, hnamed, hsorted⟩ := h.named
    have hallowed := h.allowed
    rw [h.defaultAll] at hallowed
    rw [if_neg (Nat.not_lt.mpr h.size), hallowed, if_neg Bool.false_ne_true]
    refine Except.bind_eq_ok.mpr ⟨filter.legacy, h.legacy, ?_⟩
    refine Except.bind_eq_ok.mpr ⟨named, hnamed, ?_⟩
    rw [← hsorted, ← h.needsAddresses, ← h.defaultAll]

theorem compileLegacy_eq_ok {eventTypes : List Int} {limits : FilterLimits}
    {legacy : Option CompiledFilter} :
    compileLegacy eventTypes limits = .ok legacy ↔
      eventTypes = [] ∧ legacy = none ∨ eventTypes ≠ [] ∧ ∃ compiled, legacy = some compiled ∧
        CompiledFilter.fromProto { eventTypes := eventTypes } limits = .ok compiled := by
  unfold compileLegacy
  cases eventTypes with
  | nil =>
    rw [List.isEmpty_nil, if_pos rfl, Except.ok.injEq]
    simp [eq_comm]
  | cons first rest =>
    rw [List.isEmpty_cons, if_neg Bool.false_ne_true]
    show Except.map some _ = _ ↔ _
    rw [Except.map_eq_ok]
    simp [eq_comm, and_comm]

/-! ## The compiled names -/

namespace EventFilter.IsCompiled

variable {request : SubscribeRequest} {limits : FilterLimits} {filter : EventFilter}

/-- The named filters of a request, by name. -/
theorem mem_named (h : filter.IsCompiled request limits) {name : String}
    {compiled : CompiledFilter} :
    (name, compiled) ∈ filter.named ↔ ∃ named, request.filters.lookup name = some named ∧
      CompilesAs limits name named compiled := by
  obtain ⟨named, hnamed, hsorted⟩ := h.named
  rw [hsorted, (List.perm_insertionSort _ _).mem_iff, mem_compileNamed hnamed]
  refine exists_congr fun source => and_congr_left fun _ => ?_
  rw [← Option.mem_def, AList.mem_lookup_iff, List.mem_map]
  constructor
  · rintro ⟨entry, hmem, heq⟩
    cases heq
    exact hmem
  · intro hmem
    exact ⟨⟨name, source⟩, hmem, rfl⟩

/-- The names of the filters are strictly ascending. -/
theorem names_ascending (h : filter.IsCompiled request limits) :
    (filter.named.map (·.1)).Pairwise (· < ·) := by
  obtain ⟨named, hnamed, hsorted⟩ := h.named
  have hkeys : (named.map (·.1)).Nodup := by
    rw [names_compileNamed hnamed, List.map_map]
    exact request.filters.nodupKeys
  have hperm : (filter.named.map (·.1)).Perm (named.map (·.1)) := by
    rw [hsorted]
    exact (List.perm_insertionSort _ _).map _
  have hle : filter.named.Pairwise fun left right => left.1 ≤ right.1 := by
    rw [hsorted]
    exact List.pairwise_insertionSort _ _
  have hne := List.pairwise_map.mp (hperm.nodup_iff.mpr hkeys)
  exact List.pairwise_map.mpr ((hle.and hne).imp fun hboth => lt_of_le_of_ne hboth.1 hboth.2)

/-- A filter of the request finds the addresses it uses in the shared context. -/
theorem matches_named (h : filter.IsCompiled request limits) {entry : String × CompiledFilter}
    (hmem : entry ∈ filter.named) (update : SubscribeUpdate) :
    entry.2.matches (UpdateContext.new update filter.needsAddresses) = entry.2.verdict update := by
  refine CompiledFilter.matches_eq (fun huses => ?_) update
  rw [h.needsAddresses, Bool.or_eq_true, List.any_eq_true]
  exact .inr ⟨entry, hmem, huses⟩

theorem matches_legacy (h : filter.IsCompiled request limits) {compiled : CompiledFilter}
    (hlegacy : filter.legacy = some compiled) (update : SubscribeUpdate) :
    compiled.matches (UpdateContext.new update filter.needsAddresses) =
      compiled.verdict update := by
  refine CompiledFilter.matches_eq (fun huses => ?_) update
  rw [h.needsAddresses, hlegacy, Bool.or_eq_true]
  exact .inl huses

/-- The match of a request from the verdicts of its filters. -/
theorem matched_eq (h : filter.IsCompiled request limits) (update : SubscribeUpdate) :
    filter.matched update =
      let legacyMatches := filter.legacy.any (·.verdict update)
      let matchedNamed := filter.named.filter fun (_, filter) => filter.verdict update
      if !filter.defaultAll && !legacyMatches && matchedNamed.isEmpty then none
      else some
        { names := matchedNamed.map (·.1)
          blockPayload :=
            if filter.defaultAll || legacyMatches ||
                matchedNamed.any (fun (_, filter) => filter.blockPayload == .full) then .full
            else .metaOnly
          transactionPayload :=
            if filter.defaultAll || legacyMatches then .full
            else richestTransactionPayload (matchedNamed.map (·.2)) } := by
  have hnamed : filter.named.filter
      (fun entry => entry.2.matches (UpdateContext.new update filter.needsAddresses)) =
      filter.named.filter fun entry => entry.2.verdict update :=
    List.filter_congr fun entry hmem => h.matches_named hmem update
  have hlegacy : filter.legacy.any
      (·.matches (UpdateContext.new update filter.needsAddresses)) =
      filter.legacy.any (·.verdict update) := by
    cases hcompiled : filter.legacy with
    | none => rfl
    | some compiled => exact h.matches_legacy hcompiled update
  unfold EventFilter.matched
  dsimp only
  rw [hnamed, hlegacy]

theorem matched_eq_none (h : filter.IsCompiled request limits) (update : SubscribeUpdate) :
    filter.matched update = none ↔ filter.defaultAll = false ∧
      (∀ compiled, filter.legacy = some compiled → compiled.verdict update = false) ∧
      ∀ entry ∈ filter.named, entry.2.verdict update = false := by
  have hempty : (filter.named.filter fun entry => entry.2.verdict update).isEmpty = true ↔
      ∀ entry ∈ filter.named, entry.2.verdict update = false := by
    rw [List.isEmpty_iff, List.filter_eq_nil_iff]
    exact forall₂_congr fun entry _ => Bool.not_eq_true _ ▸ Iff.rfl
  have hlegacy : filter.legacy.any (·.verdict update) = false ↔
      ∀ compiled, filter.legacy = some compiled → compiled.verdict update = false := by
    cases filter.legacy with
    | none => simp
    | some compiled => simp
  rw [h.matched_eq]
  dsimp only
  rw [← hempty, ← hlegacy]
  split
  · rename_i hnone
    simpa [and_assoc] using hnone
  · rename_i hsome
    refine iff_of_false (by simp) fun hall => hsome ?_
    simp [hall.1, hall.2.1, hall.2.2]

end EventFilter.IsCompiled

/-- The names that an update is delivered with. -/
def EventFilter.matchedNames (filter : EventFilter) (update : SubscribeUpdate) : List String :=
  ((filter.matched update).map (·.names)).getD []

theorem EventFilter.IsCompiled.matchedNames_eq {request : SubscribeRequest}
    {limits : FilterLimits} {filter : EventFilter} (h : filter.IsCompiled request limits)
    (update : SubscribeUpdate) : filter.matchedNames update =
      (filter.named.filter fun entry => entry.2.verdict update).map (·.1) := by
  unfold EventFilter.matchedNames
  rw [h.matched_eq]
  dsimp only
  split
  · rename_i hnone
    rw [Bool.and_eq_true, List.isEmpty_iff] at hnone
    rw [hnone.2]
    rfl
  · rfl

/-! ## One filter alone -/

/-- The request is accepted and its filter matches. -/
def MatchesAlone (limits : FilterLimits) (request : SubscribeRequest) (update : SubscribeUpdate) :
    Prop :=
  ∃ filter, EventFilter.new request limits = .ok filter ∧ filter.matched update ≠ none

/-- The request of one named filter. -/
def aloneNamed (name : String) (filter : SubscribeRequestFilter) : SubscribeRequest :=
  { filters := AList.singleton name filter }

/-- The request of the event types without the named filters. -/
def aloneLegacy (request : SubscribeRequest) : SubscribeRequest :=
  { eventTypes := request.eventTypes }

theorem matchesAlone_iff {limits : FilterLimits} {request : SubscribeRequest}
    {filter : EventFilter} (h : filter.IsCompiled request limits) (update : SubscribeUpdate) :
    MatchesAlone limits request update ↔ filter.matched update ≠ none := by
  have hnew := EventFilter.new_eq_ok.mpr h
  constructor
  · rintro ⟨filter', hnew', hmatched⟩
    rw [hnew] at hnew'
    cases hnew'
    exact hmatched
  · intro hmatched
    exact ⟨filter, hnew, hmatched⟩

/-- A named filter of an accepted request is accepted alone, with the same
verdict. -/
theorem matchesAlone_named {limits : FilterLimits} (hsize : 1 ≤ limits.maxNamedFilters)
    {name : String} {source : SubscribeRequestFilter} {compiled : CompiledFilter}
    (h : CompilesAs limits name source compiled) (update : SubscribeUpdate) :
    MatchesAlone limits (aloneNamed name source) update ↔ compiled.verdict update = true := by
  have hcompiled : EventFilter.IsCompiled (aloneNamed name source) limits
      { defaultAll := false
        legacy := none
        named := [(name, compiled)]
        needsAddresses := compiled.usesAddresses } := by
    refine ⟨hsize, rfl, rfl, rfl, ⟨[(name, compiled)], ?_, rfl⟩, ?_⟩
    · exact compileNamed_cons.mpr ⟨compiled, [], h, rfl, rfl⟩
    · simp
  rw [matchesAlone_iff hcompiled, Ne, hcompiled.matched_eq_none]
  simp

theorem matchesAlone_legacy {limits : FilterLimits} {request : SubscribeRequest}
    {compiled : CompiledFilter} (htypes : request.eventTypes ≠ [])
    (h : CompiledFilter.fromProto { eventTypes := request.eventTypes } limits = .ok compiled)
    (update : SubscribeUpdate) :
    MatchesAlone limits (aloneLegacy request) update ↔ compiled.verdict update = true := by
  have hempty : request.eventTypes.isEmpty = false := by
    cases htypes' : request.eventTypes with
    | nil => exact absurd htypes' htypes
    | cons first rest => rfl
  have hcompiled : EventFilter.IsCompiled (aloneLegacy request) limits
      { defaultAll := false
        legacy := some compiled
        named := []
        needsAddresses := compiled.usesAddresses } := by
    refine ⟨Nat.zero_le _, ?_, rfl, ?_, ⟨[], rfl, rfl⟩, ?_⟩
    · simp only [aloneLegacy, hempty, Bool.false_and]
    · exact compileLegacy_eq_ok.mpr (.inr ⟨htypes, compiled, rfl, h⟩)
    · simp
  rw [matchesAlone_iff hcompiled, Ne, hcompiled.matched_eq_none]
  simp

/-! ## Independence -/

theorem EventFilter.IsCompiled.compiles {request : SubscribeRequest} {limits : FilterLimits}
    {filter : EventFilter} (h : filter.IsCompiled request limits) {name : String}
    {source : SubscribeRequestFilter} (hsource : request.filters.lookup name = some source) :
    1 ≤ limits.maxNamedFilters ∧ ∃ compiled, CompilesAs limits name source compiled := by
  have hmem : (⟨name, source⟩ : Sigma fun _ : String => SubscribeRequestFilter) ∈
      request.filters.entries := AList.mem_lookup_iff.mp hsource
  obtain ⟨named, hnamed, -⟩ := h.named
  refine ⟨(List.length_pos_of_mem hmem).trans_le h.size, ?_⟩
  exact compileNamed_isOk.mp ⟨named, hnamed⟩ (name, source) (List.mem_map.mpr ⟨_, hmem, rfl⟩)

/-- Two lists of strictly ascending names with the same filters are one. -/
theorem EventFilter.IsCompiled.named_unique {request request' : SubscribeRequest}
    {limits : FilterLimits} {filter filter' : EventFilter}
    (h : filter.IsCompiled request limits) (h' : filter'.IsCompiled request' limits)
    (hlookup : ∀ name, request'.filters.lookup name = request.filters.lookup name) :
    filter'.named = filter.named := by
  have hnodup : ∀ {named : List (String × CompiledFilter)},
      (named.map (·.1)).Pairwise (· < ·) → named.Nodup := by
    intro named hascending
    exact (List.pairwise_map.mp hascending).imp fun hlt heq => absurd (heq ▸ hlt) (lt_irrefl _)
  have hperm : filter'.named.Perm filter.named := by
    refine (List.perm_ext_iff_of_nodup (hnodup h'.names_ascending)
      (hnodup h.names_ascending)).mpr fun ⟨name, compiled⟩ => ?_
    rw [h'.mem_named, h.mem_named, hlookup]
  refine List.Perm.eq_of_pairwise ?_ (List.pairwise_map.mp h'.names_ascending)
    (List.pairwise_map.mp h.names_ascending) hperm
  intro left right _ _ hlt hgt
  exact absurd hgt (lt_asymm hlt)

/-- The iteration order of the map of filters does not show. -/
theorem EventFilter.new_perm {request request' : SubscribeRequest} {limits : FilterLimits}
    {filter : EventFilter} (h : EventFilter.new request limits = .ok filter)
    (htypes : request'.eventTypes = request.eventTypes)
    (hperm : request'.filters.entries.Perm request.filters.entries) :
    EventFilter.new request' limits = .ok filter := by
  have hcompiled := EventFilter.new_eq_ok.mp h
  obtain ⟨named', hnamed'⟩ : ∃ named', compileNamed limits
      (request'.filters.entries.map fun entry => (entry.1, entry.2)) = .ok named' := by
    rw [compileNamed_isOk]
    obtain ⟨named, hnamed, -⟩ := hcompiled.named
    intro entry hmem
    exact compileNamed_isOk.mp ⟨named, hnamed⟩ entry ((hperm.map _).mem_iff.mp hmem)
  have hdefault : (request'.eventTypes.isEmpty && request'.filters.entries.isEmpty) =
      (request.eventTypes.isEmpty && request.filters.entries.isEmpty) := by
    rw [htypes, hperm.isEmpty_eq]
  have hcompiled' : EventFilter.IsCompiled request' limits
      { defaultAll := request'.eventTypes.isEmpty && request'.filters.entries.isEmpty
        legacy := filter.legacy
        named := named'.insertionSort fun left right => left.1 ≤ right.1
        needsAddresses := filter.legacy.any CompiledFilter.usesAddresses ||
          (named'.insertionSort fun left right => left.1 ≤ right.1).any
            fun (_, filter) => filter.usesAddresses } := by
    refine ⟨hperm.length_eq.trans_le hcompiled.size, rfl, ?_, ?_, ⟨named', hnamed', rfl⟩, rfl⟩
    · rw [hdefault, ← hcompiled.defaultAll]
      exact hcompiled.allowed
    · rw [htypes]
      exact hcompiled.legacy
  have hnamed := hcompiled.named_unique hcompiled' fun name => AList.perm_lookup hperm
  dsimp only at hnamed
  rw [EventFilter.new_eq_ok.mpr hcompiled', hnamed, hdefault, ← hcompiled.defaultAll,
    ← hcompiled.needsAddresses]

/-- What independence says of a compiled request and an update. -/
structure IndependentMatch (request : SubscribeRequest) (limits : FilterLimits)
    (filter : EventFilter) (update : SubscribeUpdate) : Prop where
  ascending : (filter.matchedNames update).Pairwise (· < ·)
  names : ∀ name, name ∈ filter.matchedNames update ↔
    ∃ source, request.filters.lookup name = some source ∧
      MatchesAlone limits (aloneNamed name source) update
  unmatched : filter.matched update = none ↔
    (∀ name source, request.filters.lookup name = some source →
      ¬ MatchesAlone limits (aloneNamed name source) update) ∧
    (request.eventTypes ≠ [] → ¬ MatchesAlone limits (aloneLegacy request) update) ∧
    ¬ (request.eventTypes = [] ∧ request.filters.entries = [])
  order : ∀ request', request'.eventTypes = request.eventTypes →
    request'.filters.entries.Perm request.filters.entries →
    EventFilter.new request' limits = .ok filter
  others : ∀ request' filter', EventFilter.new request' limits = .ok filter' →
    ∀ name, request'.filters.lookup name = request.filters.lookup name →
      (name ∈ filter'.matchedNames update ↔ name ∈ filter.matchedNames update)

theorem EventFilter.IsCompiled.mem_matchedNames {request : SubscribeRequest}
    {limits : FilterLimits} {filter : EventFilter} (h : filter.IsCompiled request limits)
    (update : SubscribeUpdate) (name : String) : name ∈ filter.matchedNames update ↔
      ∃ source, request.filters.lookup name = some source ∧
        MatchesAlone limits (aloneNamed name source) update := by
  rw [h.matchedNames_eq, List.mem_map]
  constructor
  · rintro ⟨⟨name, compiled⟩, hmem, rfl⟩
    obtain ⟨hnamed, hverdict⟩ := List.mem_filter.mp hmem
    obtain ⟨source, hsource, hcompiles⟩ := h.mem_named.mp hnamed
    exact ⟨source, hsource, (matchesAlone_named (h.compiles hsource).1 hcompiles update).mpr
      hverdict⟩
  · rintro ⟨source, hsource, halone⟩
    obtain ⟨hsize, compiled, hcompiles⟩ := h.compiles hsource
    have hverdict := (matchesAlone_named hsize hcompiles update).mp halone
    exact ⟨(name, compiled),
      List.mem_filter.mpr ⟨h.mem_named.mpr ⟨source, hsource, hcompiles⟩, hverdict⟩, rfl⟩

/-- The match of a named filter of a request is the verdict of its compiled
form. -/
theorem EventFilter.IsCompiled.mem_matchedNames_iff {request : SubscribeRequest}
    {limits : FilterLimits} {filter : EventFilter} (h : filter.IsCompiled request limits)
    {name : String} {source : SubscribeRequestFilter}
    (hsource : request.filters.lookup name = some source) :
    ∃ compiled, CompilesAs limits name source compiled ∧ ∀ update,
      (name ∈ filter.matchedNames update ↔ compiled.verdict update = true) := by
  obtain ⟨hsize, compiled, hcompiles⟩ := h.compiles hsource
  refine ⟨compiled, hcompiles, fun update => ?_⟩
  rw [h.mem_matchedNames update, ← matchesAlone_named hsize hcompiles update]
  constructor
  · rintro ⟨source', hsource', halone⟩
    rw [hsource] at hsource'
    cases hsource'
    exact halone
  · intro halone
    exact ⟨source, hsource, halone⟩

/-- **Named filters are independent of each other.** -/
theorem matched_independent {request : SubscribeRequest} {limits : FilterLimits}
    {filter : EventFilter} (h : EventFilter.new request limits = .ok filter)
    (update : SubscribeUpdate) : IndependentMatch request limits filter update := by
  have hcompiled := EventFilter.new_eq_ok.mp h
  have hmem := hcompiled.mem_matchedNames update
  refine ⟨?_, hmem, ?_, fun request' htypes hperm => EventFilter.new_perm h htypes hperm, ?_⟩
  · rw [hcompiled.matchedNames_eq]
    exact hcompiled.names_ascending.sublist ((List.filter_sublist).map _)
  · have hdefault : filter.defaultAll = false ↔
        ¬ (request.eventTypes = [] ∧ request.filters.entries = []) := by
      rw [hcompiled.defaultAll, ← Bool.not_eq_true, Bool.and_eq_true, List.isEmpty_iff,
        List.isEmpty_iff]
    have hlegacy : (∀ compiled, filter.legacy = some compiled →
        compiled.verdict update = false) ↔
        (request.eventTypes ≠ [] → ¬ MatchesAlone limits (aloneLegacy request) update) := by
      rcases compileLegacy_eq_ok.mp hcompiled.legacy with
        ⟨hnil, hnone⟩ | ⟨htypes, compiled, hsome, hproto⟩
      · rw [hnone]
        exact iff_of_true (fun compiled heq => nomatch heq) fun hne => absurd hnil hne
      · rw [hsome, matchesAlone_legacy htypes hproto, Bool.not_eq_true]
        exact ⟨fun hall _ => hall compiled rfl, fun hfalse other heq =>
          Option.some.inj heq ▸ hfalse htypes⟩
    have hnamed : (∀ entry ∈ filter.named, entry.2.verdict update = false) ↔
        ∀ name source, request.filters.lookup name = some source →
          ¬ MatchesAlone limits (aloneNamed name source) update := by
      constructor
      · intro hall name source hsource
        obtain ⟨hsize, compiled, hcompiles⟩ := hcompiled.compiles hsource
        rw [matchesAlone_named hsize hcompiles, Bool.not_eq_true]
        exact hall (name, compiled) (hcompiled.mem_named.mpr ⟨source, hsource, hcompiles⟩)
      · intro hall entry hentry
        obtain ⟨source, hsource, hcompiles⟩ := hcompiled.mem_named.mp hentry
        have hnot := hall entry.1 source hsource
        rwa [matchesAlone_named (hcompiled.compiles hsource).1 hcompiles,
          Bool.not_eq_true] at hnot
    rw [hcompiled.matched_eq_none, hdefault, hlegacy, hnamed]
    tauto
  · intro request' filter' h' name hlookup
    rw [(EventFilter.new_eq_ok.mp h').mem_matchedNames update name, hlookup, ← hmem name]

end

/-- Asks for the payments of one transaction, of 30 zatoshis or more, to a key that is
spelled as a TEX address. -/
def sampleWallet : SubscribeRequestFilter :=
  { transactionIds := [String.ofList (List.replicate 64 'A')]
    addressInclude := ["tex1qcrqvpsxqcrqvpsxqcrqvpsxqcrqvpsxsx2mtr"]
    hasTransparent := some true
    minValueZat := some 30
    transactionPayload := TransactionPayload.transparentOnly.toI32 }

/-- Three named filters, given in descending order. -/
def sampleNamedRequest : SubscribeRequest :=
  { filters := ((AList.singleton "all" {}).insert "blocks"
      { eventTypes := [EventType.blockAccepted.toI32]
        minHeight := some 9
        blockPayload := BlockPayload.metaOnly.toI32 }).insert "wallet" sampleWallet }

/-- A block with its bytes, which the first two select. -/
def sampleAccepted : SubscribeUpdate :=
  { eventType := EventType.blockAccepted.toI32
    update := some (.block
      { height := 9
        hash := String.ofList (List.replicate 64 '9')
        block := [1, 2, 3]
        payload := BlockPayload.full.toI32 }) }

/-- A transaction that all but the second select. -/
def samplePayment : SubscribeUpdate :=
  { eventType := EventType.transaction.toI32
    update := some (.transaction
      { transactionId := String.ofList (List.replicate 64 'a')
        transaction := [4, 5, 6]
        height := 9
        transparentOutputs :=
          [{ valueZat := 40
             lockScript := sampleLockScript
             address := some "t1JRTH1TbJ2yTvVmi94YtEw6cDnhn3HoMp7" }]
        transparentOutputValueZat := 40
        hasTransparent := true }) }

theorem new_sampleNamedRequest : ∃ filter,
    @EventFilter.new addressChain sampleNamedRequest {} = .ok filter ∧
      decide (filter.matchedNames samplePayment = ["all", "wallet"]) = true :=
  Except.exists_of_any (by decide +kernel)

theorem matched_independent_sample : ∃ filter,
    @EventFilter.new addressChain sampleNamedRequest {} = .ok filter ∧
      filter.matchedNames samplePayment = ["all", "wallet"] ∧
      @IndependentMatch addressChain sampleNamedRequest {} filter samplePayment := by
  obtain ⟨filter, h, hnames⟩ := new_sampleNamedRequest
  exact ⟨filter, h, of_decide_eq_true hnames,
    @matched_independent addressChain _ _ _ h samplePayment⟩

end ZakuraGrpc
