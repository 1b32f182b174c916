import ZakuraGrpc.Geyser.Filter

/-!
# Whose fault a refused filter is

`EventFilter::new` reads the reject lists of the configuration again for every
request and answers `internal` where one does not parse. `FilterLimits::validate`
read them with the same parsers: under validated limits a refused filter is always
the request's fault (`badRequest_new`).
-/

namespace ZakuraGrpc

/-- The request is at fault. -/
def BadRequest (status : Status) : Prop := status.code = .invalidArgument

theorem badRequest_error {α : Type} (message : String) :
    Except.FailsIn BadRequest (.error (invalidArgument message) : Except Status α) :=
  Except.failsIn_error rfl

section
variable [chain : ZakuraChain]

open ZakuraChain

/-! ## Validated limits -/

/-- Every reject list reads. -/
structure FilterLimits.Readable (limits : FilterLimits) : Prop where
  transactionIds : (limits.transactionIdReject.mapM canonicalTransactionIdString).isSome
  transparentAddresses :
    (limits.transparentAddressReject.mapM canonicalTransparentAddressString).isSome
  addressInclude : (limits.addressIncludeReject.mapM canonicalTransparentAddressString).isSome
  addressExclude : (limits.addressExcludeReject.mapM canonicalTransparentAddressString).isSome
  addressRequired : (limits.addressRequiredReject.mapM canonicalTransparentAddressString).isSome

omit chain in
/-- A loop of checks that passes has passed every one. -/
theorem isSome_of_forM {α : Type} {check : String → Except ConfigError Unit}
    {canonical : String → Option α} (hcheck : ∀ value, check value = .ok () →
      (canonical value).isSome) {values : List String} (h : values.forM check = .ok ()) :
    (values.mapM canonical).isSome := by
  induction values with
  | nil => rfl
  | cons value rest ih =>
    have h : (check value >>= fun _ => rest.forM check) = .ok () := h
    obtain ⟨_, hvalue, hrest⟩ := Except.bind_eq_ok.mp h
    obtain ⟨form, hform⟩ := Option.isSome_iff_exists.mp (hcheck value hvalue)
    obtain ⟨forms, hforms⟩ := Option.isSome_iff_exists.mp (ih hrest)
    rw [List.mapM_cons, hform, hforms]
    rfl

theorem isSome_of_validateAddressReject {filter : String} {addresses : List String}
    (h : FilterLimits.validateAddressReject filter addresses = .ok ()) :
    (addresses.mapM canonicalTransparentAddressString).isSome := by
  refine isSome_of_forM (fun address hok => ?_) h
  unfold canonicalTransparentAddressString
  split at hok
  · rename_i parsed hparse
    rw [hparse]
    rfl
  · cases hok

/-- What is checked at the start is read for every request. -/
theorem FilterLimits.readable_of_validate {limits : FilterLimits}
    (h : limits.validate = .ok ()) : limits.Readable := by
  have hthrow : ∀ {condition : Prop} [Decidable condition] {error : ConfigError}
      {rest : Unit → Except ConfigError Unit},
      (if condition then throw error >>= rest else rest ()) = .ok () → rest () = .ok () := by
    intro condition _ error rest hif
    split at hif
    · cases hif
    · exact hif
  unfold FilterLimits.validate at h
  replace h := hthrow h
  replace h := hthrow h
  replace h := hthrow h
  obtain ⟨_, hids, h⟩ := Except.bind_eq_ok.mp h
  obtain ⟨_, hlegacy, h⟩ := Except.bind_eq_ok.mp h
  obtain ⟨_, hincluded, h⟩ := Except.bind_eq_ok.mp h
  obtain ⟨_, hexcluded, hrequired⟩ := Except.bind_eq_ok.mp h
  refine ⟨isSome_of_forM (fun transactionId hok => ?_) hids,
    isSome_of_validateAddressReject hlegacy, isSome_of_validateAddressReject hincluded,
    isSome_of_validateAddressReject hexcluded, isSome_of_validateAddressReject hrequired⟩
  unfold canonicalTransactionIdString
  split at hok
  · rename_i parsed hparse
    rw [hparse]
    rfl
  · cases hok

/-! ## The stages of a filter -/

omit chain in
theorem badRequest_validateListSize (field : String) (actual maximum : Nat) :
    Except.FailsIn BadRequest (validateListSize field actual maximum) := by
  unfold validateListSize
  split
  · exact badRequest_error _
  · exact Except.failsIn_ok ()

omit chain in
theorem badRequest_validateName (name : String) (limits : FilterLimits) :
    Except.FailsIn BadRequest (validateName name limits) := by
  unfold validateName
  split
  · exact badRequest_error _
  split
  · exact badRequest_error _
  · exact Except.failsIn_ok ()

omit chain in
theorem badRequest_compileKinds (eventTypes : List Int) (kinds : Nat) :
    Except.FailsIn BadRequest (compileKinds eventTypes kinds) := by
  induction eventTypes generalizing kinds with
  | nil => exact Except.failsIn_ok kinds
  | cons kind rest ih =>
    unfold compileKinds
    split
    · exact badRequest_error _
    · exact badRequest_error _
    · exact ih _

omit chain in
theorem badRequest_compileValues (canonical : String → Option String) (rejected : List String)
    (invalid refused : String → String) (values : List String) :
    Except.FailsIn BadRequest (compileValues canonical rejected
      (fun value => invalidArgument (invalid value))
      (fun value => invalidArgument (refused value)) values) := by
  induction values with
  | nil => exact Except.failsIn_ok _
  | cons value rest ih =>
    unfold compileValues
    split
    · exact badRequest_error _
    split
    · exact badRequest_error _
    · exact ih.bind fun forms => Except.failsIn_ok _

omit chain in
theorem badRequest_okOr {α : Type} {message : String} (value : Option α) :
    Except.FailsIn BadRequest (okOr value (invalidArgument message)) := by
  cases value with
  | none => exact badRequest_error _
  | some value => exact Except.failsIn_ok value

omit chain in
/-- A list that reads is never blamed. -/
theorem badRequest_readable {α : Type} {value : Option α} (h : value.isSome) (status : Status) :
    Except.FailsIn BadRequest (okOr value status) := by
  obtain ⟨forms, rfl⟩ := Option.isSome_iff_exists.mp h
  exact Except.failsIn_ok forms

theorem badRequest_compileTransactionIds {rejected : List String}
    (h : (rejected.mapM canonicalTransactionIdString).isSome) (values : List String)
    (maximum : Nat) :
    Except.FailsIn BadRequest (compileTransactionIds values maximum rejected) := by
  refine (badRequest_validateListSize _ _ _).bind fun _ => ?_
  refine (badRequest_readable h _).bind fun rejected => ?_
  exact badRequest_compileValues _ _ _ _ values

theorem badRequest_compileAddresses {rejected : List String}
    (h : (rejected.mapM canonicalTransparentAddressString).isSome) (field : String)
    (values : List String) (maximum : Nat) :
    Except.FailsIn BadRequest (compileAddresses field values maximum rejected) := by
  refine (badRequest_validateListSize _ _ _).bind fun _ => ?_
  refine (badRequest_readable h _).bind fun rejected => ?_
  exact badRequest_compileValues _ _ _ _ values

theorem CompiledFilter.badRequest_fromProto {limits : FilterLimits} (h : limits.Readable)
    (filter : SubscribeRequestFilter) :
    Except.FailsIn BadRequest (CompiledFilter.fromProto filter limits) := by
  unfold CompiledFilter.fromProto
  split
  · exact badRequest_error _
  refine (badRequest_compileKinds _ _).bind fun kinds => ?_
  refine (badRequest_compileTransactionIds h.transactionIds _ _).bind fun transactionIds => ?_
  refine (badRequest_compileAddresses h.transparentAddresses _ _ _).bind fun legacyAddresses => ?_
  refine (badRequest_compileAddresses h.addressInclude _ _ _).bind fun addressInclude => ?_
  refine (badRequest_compileAddresses h.addressExclude _ _ _).bind fun addressExclude => ?_
  refine (badRequest_compileAddresses h.addressRequired _ _ _).bind fun addressRequired => ?_
  refine (badRequest_okOr _).bind fun blockPayload => ?_
  refine (badRequest_okOr _).bind fun transactionPayload => ?_
  exact Except.failsIn_ok _

theorem badRequest_compileNamed {limits : FilterLimits} (h : limits.Readable)
    (filters : List (String × SubscribeRequestFilter)) :
    Except.FailsIn BadRequest (compileNamed limits filters) := by
  induction filters with
  | nil => exact Except.failsIn_ok _
  | cons entry rest ih =>
    obtain ⟨name, filter⟩ := entry
    unfold compileNamed
    refine (badRequest_validateName _ _).bind fun _ => ?_
    split
    · exact badRequest_error _
    refine (CompiledFilter.badRequest_fromProto h _).bind fun compiled => ?_
    exact ih.bind fun rest => Except.failsIn_ok _

/-- **Under validated limits a refused filter is the request's fault.** -/
theorem EventFilter.badRequest_new {limits : FilterLimits} (hvalid : limits.validate = .ok ())
    (request : SubscribeRequest) :
    Except.FailsIn BadRequest (EventFilter.new request limits) := by
  have h := FilterLimits.readable_of_validate hvalid
  have hnamed : ∀ (filters : List (String × SubscribeRequestFilter))
      (result : List (String × CompiledFilter) → EventFilter),
      Except.FailsIn BadRequest (compileNamed limits filters >>= fun named => pure (result named)) :=
    fun filters result => (badRequest_compileNamed h filters).bind fun _ => Except.failsIn_ok _
  unfold EventFilter.new
  dsimp only
  split
  · exact badRequest_error _
  split
  · split <;> exact badRequest_error _
  split
  · exact hnamed _ _
  · exact ((CompiledFilter.badRequest_fromProto h _).map _).bind fun legacy => hnamed _ _

end

end ZakuraGrpc
