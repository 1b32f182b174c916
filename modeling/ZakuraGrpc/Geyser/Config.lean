import ZakuraGrpc.Chain

/-!
# Configuration

The filter limits a server installs and their validation. The reject lists
must parse, so that compiling a filter never meets an unreadable entry.
-/

namespace ZakuraGrpc

/-- Limits for legacy and named subscription filters. -/
structure FilterLimits where
  maxNamedFilters : Nat := 32
  maxEventTypes : Nat := 7
  maxNameBytes : Nat := 128
  maxTransactionIds : Nat := 256
  transactionIdReject : List String := []
  maxTransparentAddresses : Nat := 256
  transparentAddressReject : List String := []
  maxAddressInclude : Nat := 256
  addressIncludeReject : List String := []
  maxAddressExclude : Nat := 256
  addressExcludeReject : List String := []
  maxAddressRequired : Nat := 256
  addressRequiredReject : List String := []
  allowAll : Bool := true

/-- The errors of `FilterLimits::validate`. -/
inductive ConfigError where
  | zeroMaxNamedFilters
  | zeroMaxEventTypes
  | zeroMaxFilterNameBytes
  | invalidRejectedTransactionId (transactionId : String)
  | invalidRejectedTransparentAddress (filter address : String)
  deriving DecidableEq

section
variable [chain : ZakuraChain]

open ZakuraChain

def FilterLimits.validateAddressReject (filter : String) (addresses : List String) :
    Except ConfigError Unit :=
  addresses.forM fun address =>
    match parseAddress address with
    | some _ => .ok ()
    | none => .error (.invalidRejectedTransparentAddress filter address)

def FilterLimits.validate (limits : FilterLimits) : Except ConfigError Unit := do
  if limits.maxNamedFilters = 0 then throw .zeroMaxNamedFilters
  if limits.maxEventTypes = 0 then throw .zeroMaxEventTypes
  if limits.maxNameBytes = 0 then throw .zeroMaxFilterNameBytes
  limits.transactionIdReject.forM fun transactionId =>
    match parseTransactionHash transactionId with
    | some _ => .ok ()
    | none => .error (.invalidRejectedTransactionId transactionId)
  validateAddressReject "transparent_address_reject" limits.transparentAddressReject
  validateAddressReject "address_include_reject" limits.addressIncludeReject
  validateAddressReject "address_exclude_reject" limits.addressExcludeReject
  validateAddressReject "address_required_reject" limits.addressRequiredReject

end

end ZakuraGrpc
