import ZakuraGrpc.Geyser.NamedFilters

/-!
# Reject lists

A list binds its field in every spelling (`Binds`): no value of the field reads
as the transaction of a rejected entry, or as an address of its destination
(`SameDestination`), because values and lists are compared in canonical form.
The lists belong to fields, not to the compiled sets: the values of
`transparent_addresses` are checked against `transparent_address_reject` alone
and then join the include set. So the include set avoids
`address_include_reject` but for what the alias brings in
(`EventFilter.fields_bound`, `alias_not_bound`).
-/

namespace ZakuraGrpc

/-- The canonical forms of the list are not in the set. -/
def Avoids (canonical : String → Option String) (rejected : List String)
    (forms : Finset String) : Prop :=
  ∀ entry ∈ rejected, ∀ form, canonical entry = some form → form ∉ forms

/-- No value of the field reads as what an entry of the list reads as. -/
def Apart {α : Type} (read : String → Option α) (same : α → α → Prop)
    (values rejected : List String) : Prop :=
  ∀ value ∈ values, ∀ entry ∈ rejected, ∀ x y,
    read value = some x → read entry = some y → ¬ same x y

/-- The set holds the canonical forms of the values, and none of the rejected
ones. The values are apart from the rejected entries by what they read as,
however they are spelled. -/
structure Binds {α : Type} (read : String → Option α) (same : α → α → Prop)
    (canonical : String → Option String) (values rejected : List String)
    (forms : Finset String) : Prop where
  mem : ∀ form, form ∈ forms ↔ ∃ value ∈ values, canonical value = some form
  avoids : Avoids canonical rejected forms
  apart : Apart read same values rejected

/-- The canonical forms of a list that reads. -/
theorem mem_of_mapM_eq_some {canonical : String → Option String} {entries forms : List String}
    (h : entries.mapM canonical = some forms) {entry : String} (hmem : entry ∈ entries)
    {form : String} (hform : canonical entry = some form) : form ∈ forms := by
  induction entries generalizing forms with
  | nil => cases hmem
  | cons head rest ih =>
    rw [List.mapM_cons] at h
    obtain ⟨first, hfirst, h⟩ := Option.bind_eq_some_iff.mp h
    obtain ⟨others, hothers, h⟩ := Option.bind_eq_some_iff.mp h
    cases h
    rcases List.mem_cons.mp hmem with rfl | hmem
    · rw [hfirst] at hform
      cases hform
      exact List.mem_cons_self
    · exact List.mem_cons_of_mem first (ih hothers hmem)

theorem binds_of_compileValues {α : Type} {read : String → Option α} {same : α → α → Prop}
    {canonical : String → Option String}
    (hreads : ∀ value x, read value = some x → ∃ form, canonical value = some form)
    (hsame : ∀ value entry x y, read value = some x → read entry = some y → same x y →
      canonical value = canonical entry)
    {rejected forms : List String} (hrejected : rejected.mapM canonical = some forms)
    {invalid refused : String → Status} {values : List String} {compiled : Finset String}
    (h : compileValues canonical forms invalid refused values = .ok compiled) :
    Binds read same canonical values rejected compiled := by
  have hmem := mem_compileValues h
  have havoids : Avoids canonical rejected compiled := fun _ hentry form hform hcompiled =>
    not_rejected_of_compileValues h form hcompiled (mem_of_mapM_eq_some hrejected hentry hform)
  refine ⟨hmem, havoids, fun value hvalue entry hentry x y hx hy hxy => ?_⟩
  obtain ⟨form, hform⟩ := hreads value x hx
  have hentryForm : canonical entry = some form := by
    rw [← hsame value entry x y hx hy hxy]
    exact hform
  exact havoids entry hentry form hentryForm ((hmem form).mpr ⟨value, hvalue, hform⟩)

/-- The addresses pay the same key or script: they are the same, or one is the
TEX address of the other's network kind and key hash. -/
inductive SameDestination : Address → Address → Prop
  | same (address : Address) : SameDestination address address
  | tex (networkKind : NetworkKind) (keyHash : Vector UInt8 20) :
    SameDestination (.tex networkKind keyHash) (.payToPublicKeyHash networkKind keyHash)
  | publicKeyHash (networkKind : NetworkKind) (keyHash : Vector UInt8 20) :
    SameDestination (.payToPublicKeyHash networkKind keyHash) (.tex networkKind keyHash)

theorem SameDestination.canonical {address address' : Address}
    (h : SameDestination address address') :
    canonicalTransparentAddress address = canonicalTransparentAddress address' := by
  cases h with
  | same => rfl
  | tex => rfl
  | publicKeyHash => rfl

section
variable [ZakuraChain]

/-- A list of transaction IDs binds its field: none reads as a rejected hash. -/
abbrev BindsIds (values rejected : List String) (ids : Finset String) : Prop :=
  Binds ZakuraChain.parseTransactionHash Eq canonicalTransactionIdString values rejected ids

/-- A list of addresses binds its field: none reads as an address of a rejected
destination. -/
abbrev BindsAddresses (values rejected : List String) (addresses : Finset String) : Prop :=
  Binds ZakuraChain.parseAddress SameDestination canonicalTransparentAddressString values rejected
    addresses

theorem binds_of_compileTransactionIds {values : List String} {maximum : Nat}
    {rejected : List String} {ids : Finset String}
    (h : compileTransactionIds values maximum rejected = .ok ids) :
    BindsIds values rejected ids := by
  obtain ⟨forms, invalid, refused, hforms, hvalues⟩ := compileTransactionIds_ok h
  refine binds_of_compileValues (fun value hash hhash => ?_)
    (fun value entry hash hash' hvalue hentry hsame => ?_) hforms hvalues
  · exact ⟨_, by rw [canonicalTransactionIdString, hhash, Option.map_some]⟩
  · rw [canonicalTransactionIdString, canonicalTransactionIdString, hvalue, hentry, hsame]

theorem binds_of_compileAddresses {field : String} {values : List String} {maximum : Nat}
    {rejected : List String} {addresses : Finset String}
    (h : compileAddresses field values maximum rejected = .ok addresses) :
    BindsAddresses values rejected addresses := by
  obtain ⟨forms, invalid, refused, hforms, hvalues⟩ := compileAddresses_ok h
  refine binds_of_compileValues (fun value address haddress => ?_)
    (fun value entry address address' hvalue hentry hsame => ?_) hforms hvalues
  · exact ⟨_, by rw [canonicalTransparentAddressString, haddress, Option.map_some]⟩
  · rw [canonicalTransparentAddressString, canonicalTransparentAddressString, hvalue, hentry,
      Option.map_some, Option.map_some, hsame.canonical]

/-- Every effective set avoids the reject list of its name. -/
structure CompiledFilter.AvoidsRejects (limits : FilterLimits) (compiled : CompiledFilter) :
    Prop where
  transactionIds : Avoids canonicalTransactionIdString limits.transactionIdReject
    compiled.transactionIds
  addressInclude : Avoids canonicalTransparentAddressString limits.addressIncludeReject
    compiled.addressInclude
  addressExclude : Avoids canonicalTransparentAddressString limits.addressExcludeReject
    compiled.addressExclude
  addressRequired : Avoids canonicalTransparentAddressString limits.addressRequiredReject
    compiled.addressRequired

/-- Every field is bound by its own reject list. The include set has two fields,
each with its list. -/
structure CompiledFilter.BoundByFields (limits : FilterLimits) (source : SubscribeRequestFilter)
    (compiled : CompiledFilter) : Prop where
  transactionIds : BindsIds source.transactionIds limits.transactionIdReject
    compiled.transactionIds
  addressInclude : ∃ included legacy, compiled.addressInclude = included ∪ legacy ∧
    BindsAddresses source.addressInclude limits.addressIncludeReject included ∧
    BindsAddresses source.transparentAddresses limits.transparentAddressReject legacy
  addressExclude : BindsAddresses source.addressExclude limits.addressExcludeReject
    compiled.addressExclude
  addressRequired : BindsAddresses source.addressRequired limits.addressRequiredReject
    compiled.addressRequired

theorem CompiledFilter.boundByFields {source : SubscribeRequestFilter} {limits : FilterLimits}
    {compiled : CompiledFilter} (h : CompiledFilter.fromProto source limits = .ok compiled) :
    compiled.BoundByFields limits source := by
  have hcompiled := CompiledFilter.fromProto_isCompiled h
  obtain ⟨legacy, included, hlegacy, hincluded, hunion⟩ := hcompiled.addressInclude
  exact
    { transactionIds := binds_of_compileTransactionIds hcompiled.transactionIds
      addressInclude := ⟨included, legacy, hunion, binds_of_compileAddresses hincluded,
        binds_of_compileAddresses hlegacy⟩
      addressExclude := binds_of_compileAddresses hcompiled.addressExclude
      addressRequired := binds_of_compileAddresses hcompiled.addressRequired }

/-- **The reject lists bind the fields** of every filter of an accepted request;
the filter of the request's own event types has no such values. -/
theorem EventFilter.fields_bound {request : SubscribeRequest} {limits : FilterLimits}
    {filter : EventFilter} (h : EventFilter.new request limits = .ok filter) :
    (∀ name compiled, (name, compiled) ∈ filter.named → ∃ source,
        request.filters.lookup name = some source ∧ compiled.BoundByFields limits source) ∧
      ∀ compiled, filter.legacy = some compiled →
        compiled.BoundByFields limits { eventTypes := request.eventTypes } := by
  have hcompiled := EventFilter.new_eq_ok.mp h
  refine ⟨fun name compiled hmem => ?_, fun compiled hlegacy => ?_⟩
  · obtain ⟨source, hsource, hcompiles⟩ := hcompiled.mem_named.mp hmem
    exact ⟨source, hsource, CompiledFilter.boundByFields hcompiles.filter⟩
  · have hcompile := hcompiled.legacy
    rw [hlegacy, compileLegacy_eq_ok] at hcompile
    rcases hcompile with ⟨-, hnone⟩ | ⟨-, compiled', hsome, hproto⟩
    · cases hnone
    · cases hsome
      exact CompiledFilter.boundByFields hproto

end

/-! ## An alias that is not bound -/

/-- The P2PKH address cannot be included, and one transaction not be named. -/
def includeRejectLimits : FilterLimits :=
  { transactionIdReject := [String.ofList (List.replicate 64 'a')]
    addressIncludeReject := ["t1JRTH1TbJ2yTvVmi94YtEw6cDnhn3HoMp7"] }

/-- The same key in the deprecated field, spelled as a TEX address, and another
transaction in upper case. -/
def aliasFilter : SubscribeRequestFilter :=
  { transactionIds := [String.ofList (List.replicate 64 'B')]
    transparentAddresses := ["tex1qcrqvpsxqcrqvpsxqcrqvpsxqcrqvpsxsx2mtr"] }

def aliasRequest : SubscribeRequest := { filters := AList.singleton "wallet" aliasFilter }

theorem fromProto_aliasFilter : ∃ compiled,
    @CompiledFilter.fromProto addressChain aliasFilter includeRejectLimits = .ok compiled :=
  Except.exists_of_isOk (by decide +kernel)

theorem new_aliasRequest : ∃ filter,
    @EventFilter.new addressChain aliasRequest includeRejectLimits = .ok filter :=
  Except.exists_of_isOk (by decide +kernel)

theorem fields_bound_alias : ∃ filter,
    @EventFilter.new addressChain aliasRequest includeRejectLimits = .ok filter ∧
      (∀ name compiled, (name, compiled) ∈ filter.named → ∃ source,
        aliasRequest.filters.lookup name = some source ∧
          @CompiledFilter.BoundByFields addressChain includeRejectLimits source compiled) ∧
      ∀ compiled, filter.legacy = some compiled →
        @CompiledFilter.BoundByFields addressChain includeRejectLimits
          { eventTypes := aliasRequest.eventTypes } compiled := by
  obtain ⟨filter, h⟩ := new_aliasRequest
  exact ⟨filter, h, @EventFilter.fields_bound addressChain _ _ _ h⟩

/-- The include set of that request holds the address that `address_include`
rejects. -/
theorem alias_not_bound :
    ¬ ∀ (_ : ZakuraChain) (limits : FilterLimits) (request : SubscribeRequest)
        (filter : EventFilter) (name : String) (compiled : CompiledFilter),
      limits.validate = .ok () → EventFilter.new request limits = .ok filter →
      (name, compiled) ∈ filter.named → compiled.AvoidsRejects limits := by
  intro hall
  obtain ⟨filter, h⟩ := new_aliasRequest
  obtain ⟨compiled, hproto⟩ := fromProto_aliasFilter
  have hmem := (@EventFilter.IsCompiled.mem_named addressChain _ _ _
    ((@EventFilter.new_eq_ok addressChain _ _ _).mp h) "wallet" compiled).mpr
      ⟨aliasFilter, rfl, @CompilesAs.mk addressChain _ _ _ _ rfl rfl hproto⟩
  have havoids := hall addressChain includeRejectLimits aliasRequest filter "wallet" compiled
    (by decide +kernel) h hmem
  obtain ⟨included, legacy, hunion, -, hlegacy⟩ :=
    @CompiledFilter.BoundByFields.addressInclude addressChain _ _ _
      (@CompiledFilter.boundByFields addressChain _ _ _ hproto)
  -- The TEX spelling in the deprecated field compiles to the rejected P2PKH form.
  refine @CompiledFilter.AvoidsRejects.addressInclude addressChain _ _ havoids _
    List.mem_cons_self "t1JRTH1TbJ2yTvVmi94YtEw6cDnhn3HoMp7" (by decide) ?_
  rw [hunion]
  exact Finset.mem_union_right included
    ((hlegacy.mem _).mpr ⟨_, List.mem_cons_self, by decide⟩)

end ZakuraGrpc
