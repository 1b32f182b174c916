import ZakuraGrpc.Geyser.Plugin
import ZakuraGrpc.Geyser.Subscription

/-!
# The server's configuration

`Config` with the fields the service reads besides those of the plugin, and its
validation: the checks in their order, and the field and text of each error.

`validate_iff` says what a validated configuration guarantees. The service builds
its channels from it: `tokio` panics on an empty one.
-/

namespace ZakuraGrpc

/-! ## Configuration -/

/-- The text forms of gRPC metadata: `parse::<AsciiMetadataValue>()`. -/
class MetadataFormat where
  parse : String → Option Bytes

structure ServerConfig extends Config where
  broadcastCapacity : Nat := 100000
  clientChannelCapacity : Nat := 10000
  subscriptionPingIntervalSeconds : Option Nat := some 15
  maxDecodingMessageSize : Nat := 4 * 1024 * 1024
  maxEncodingMessageSize : Nat := 50 * 1024 * 1024
  xToken : Option String := none
  subscriptionLimit : Nat := 1000
  /-- `subscription_limit` is a `NonZeroUsize`. -/
  subscriptionLimit_pos : 0 < subscriptionLimit := by decide
  subscriptionLimitEnforce : Bool := false
  filterLimits : FilterLimits := {}

/-- `ConfigError`; the variants of `FilterLimits::validate` are in `filterLimits`. -/
inductive ServerConfigError where
  | zeroReplayMaxEvents | zeroReplayMaxBytes | zeroReplayMaxAge
  | zeroBroadcastCapacity | zeroClientChannelCapacity | zeroSubscriptionPingInterval
  | zeroMaxDecodingMessageSize | zeroMaxEncodingMessageSize
  | zeroEventEncodingThreads | zeroParallelEncodingMinTransactions
  | emptyToken | invalidToken
  | filterLimits (error : ConfigError)
  deriving DecidableEq

/-- The field that the error is about. -/
def ConfigError.field : ConfigError → String
  | .zeroMaxNamedFilters => "filter_limits.max_named_filters"
  | .zeroMaxEventTypes => "filter_limits.max_event_types"
  | .zeroMaxFilterNameBytes => "filter_limits.max_name_bytes"
  | .invalidRejectedTransactionId _ => "filter_limits.transaction_id_reject"
  | .invalidRejectedTransparentAddress filter _ => s!"filter_limits.{filter}"

def ConfigError.message : ConfigError → String
  | .zeroMaxNamedFilters => "filter_limits.max_named_filters must be greater than zero"
  | .zeroMaxEventTypes => "filter_limits.max_event_types must be greater than zero"
  | .zeroMaxFilterNameBytes => "filter_limits.max_name_bytes must be greater than zero"
  | .invalidRejectedTransactionId transactionId =>
    "filter_limits.transaction_id_reject contains invalid transaction ID " ++
      debugQuote transactionId
  | .invalidRejectedTransparentAddress filter address =>
    s!"filter_limits.{filter} contains invalid transparent address {debugQuote address}"

def ServerConfigError.field : ServerConfigError → String
  | .zeroReplayMaxEvents => "replay_max_events"
  | .zeroReplayMaxBytes => "replay_max_bytes"
  | .zeroReplayMaxAge => "replay_max_age_seconds"
  | .zeroBroadcastCapacity => "broadcast_capacity"
  | .zeroClientChannelCapacity => "client_channel_capacity"
  | .zeroSubscriptionPingInterval => "subscription_ping_interval_seconds"
  | .zeroMaxDecodingMessageSize => "max_decoding_message_size"
  | .zeroMaxEncodingMessageSize => "max_encoding_message_size"
  | .zeroEventEncodingThreads => "event_encoding_threads"
  | .zeroParallelEncodingMinTransactions => "parallel_encoding_min_transactions"
  | .emptyToken | .invalidToken => "x_token"
  | .filterLimits error => error.field

def ServerConfigError.message : ServerConfigError → String
  | .zeroReplayMaxEvents => "replay_max_events must be greater than zero"
  | .zeroReplayMaxBytes => "replay_max_bytes must be greater than zero"
  | .zeroReplayMaxAge => "replay_max_age_seconds must be omitted or greater than zero"
  | .zeroBroadcastCapacity => "broadcast_capacity must be greater than zero"
  | .zeroClientChannelCapacity => "client_channel_capacity must be greater than zero"
  | .zeroSubscriptionPingInterval =>
    "subscription_ping_interval_seconds must be greater than zero when configured"
  | .zeroMaxDecodingMessageSize => "max_decoding_message_size must be greater than zero"
  | .zeroMaxEncodingMessageSize => "max_encoding_message_size must be greater than zero"
  | .zeroEventEncodingThreads => "event_encoding_threads must be greater than zero"
  | .zeroParallelEncodingMinTransactions =>
    "parallel_encoding_min_transactions must be greater than zero"
  | .emptyToken => "x_token must be omitted or contain at least one character"
  | .invalidToken => "x_token must be valid ASCII gRPC metadata"
  | .filterLimits error => error.message

/-- An error names the field it checks. -/
theorem ServerConfigError.message_field (error : ServerConfigError) :
    ∃ rest, error.message = error.field ++ rest := by
  cases error with
  | filterLimits error =>
    cases error with
    | invalidRejectedTransactionId transactionId =>
      have hsplit : "filter_limits.transaction_id_reject contains invalid transaction ID " =
          "filter_limits.transaction_id_reject" ++ " contains invalid transaction ID " := by simp
      refine ⟨" contains invalid transaction ID " ++ debugQuote transactionId, ?_⟩
      show "filter_limits.transaction_id_reject contains invalid transaction ID " ++
        debugQuote transactionId = _
      rw [hsplit, String.append_assoc]
      rfl
    | invalidRejectedTransparentAddress filter address =>
      refine ⟨" contains invalid transparent address " ++ debugQuote address, ?_⟩
      show "filter_limits." ++ filter ++ " contains invalid transparent address " ++
        debugQuote address = _
      rw [String.append_assoc]
      rfl
    | zeroMaxNamedFilters =>
      show ∃ rest, "filter_limits.max_named_filters must be greater than zero" =
        "filter_limits.max_named_filters" ++ rest
      exact ⟨" must be greater than zero", by simp⟩
    | zeroMaxEventTypes =>
      show ∃ rest, "filter_limits.max_event_types must be greater than zero" =
        "filter_limits.max_event_types" ++ rest
      exact ⟨" must be greater than zero", by simp⟩
    | zeroMaxFilterNameBytes =>
      show ∃ rest, "filter_limits.max_name_bytes must be greater than zero" =
        "filter_limits.max_name_bytes" ++ rest
      exact ⟨" must be greater than zero", by simp⟩
  | zeroReplayMaxAge => exact ⟨" must be omitted or greater than zero", by simp [message, field]⟩
  | zeroSubscriptionPingInterval =>
    exact ⟨" must be greater than zero when configured", by simp [message, field]⟩
  | emptyToken =>
    exact ⟨" must be omitted or contain at least one character", by simp [message, field]⟩
  | invalidToken => exact ⟨" must be valid ASCII gRPC metadata", by simp [message, field]⟩
  | _ => exact ⟨" must be greater than zero", by simp [message, field]⟩

namespace ServerConfig

/-- `FilterLimits::validate` as `Config::validate` calls it. -/
def validateFilterLimits [ZakuraChain] (limits : FilterLimits) : Except ServerConfigError Unit :=
  limits.validate.mapError .filterLimits

/-- One check of `Config::validate`. -/
def reject (condition : Prop) [Decidable condition] (error : ServerConfigError) :
    Except ServerConfigError Unit :=
  if condition then .error error else .ok ()

def validate [ZakuraChain] [MetadataFormat] (config : ServerConfig) :
    Except ServerConfigError Unit := do
  reject (config.broadcastCapacity = 0) .zeroBroadcastCapacity
  reject (config.replayMaxEvents = 0) .zeroReplayMaxEvents
  reject (config.replayMaxBytes = 0) .zeroReplayMaxBytes
  reject (config.replayMaxAgeSeconds = some 0) .zeroReplayMaxAge
  reject (config.clientChannelCapacity = 0) .zeroClientChannelCapacity
  reject (config.subscriptionPingIntervalSeconds = some 0) .zeroSubscriptionPingInterval
  reject (config.maxDecodingMessageSize = 0) .zeroMaxDecodingMessageSize
  reject (config.maxEncodingMessageSize = 0) .zeroMaxEncodingMessageSize
  reject (config.eventEncodingThreads = 0) .zeroEventEncodingThreads
  reject (config.parallelEncodingMinTransactions = 0) .zeroParallelEncodingMinTransactions
  reject (config.xToken.any (·.isEmpty)) .emptyToken
  reject (config.xToken.any fun token => (MetadataFormat.parse token).isNone) .invalidToken
  validateFilterLimits config.filterLimits

/-! ## What validation guarantees -/

/-- Every check of `validate` passes. -/
structure Valid [ZakuraChain] [MetadataFormat] (config : ServerConfig) : Prop where
  broadcastCapacity : 0 < config.broadcastCapacity
  replayMaxEvents : 0 < config.replayMaxEvents
  replayMaxBytes : 0 < config.replayMaxBytes
  replayMaxAge : config.replayMaxAgeSeconds ≠ some 0
  clientChannelCapacity : 0 < config.clientChannelCapacity
  pingInterval : config.subscriptionPingIntervalSeconds ≠ some 0
  maxDecodingMessageSize : 0 < config.maxDecodingMessageSize
  maxEncodingMessageSize : 0 < config.maxEncodingMessageSize
  eventEncodingThreads : 0 < config.eventEncodingThreads
  parallelEncodingMinTransactions : 0 < config.parallelEncodingMinTransactions
  token : ∀ token, config.xToken = some token →
    token ≠ "" ∧ (MetadataFormat.parse token).isSome
  filterLimits : config.filterLimits.validate = .ok ()

theorem reject_bind {condition : Prop} [Decidable condition] {error : ServerConfigError}
    {rest : Unit → Except ServerConfigError Unit} :
    (reject condition error >>= rest) = .ok () ↔ ¬ condition ∧ rest () = .ok () := by
  unfold reject
  by_cases hcondition : condition
  · simp [hcondition, bind, Except.bind]
  · simp [hcondition, bind, Except.bind]

theorem validate_iff [ZakuraChain] [MetadataFormat] (config : ServerConfig) :
    config.validate = .ok () ↔ config.Valid := by
  unfold validate
  simp only [reject_bind]
  have hlimits : validateFilterLimits config.filterLimits = .ok () ↔
      config.filterLimits.validate = .ok () := by
    unfold validateFilterLimits
    cases config.filterLimits.validate <;> simp [Except.mapError]
  rw [hlimits]
  constructor
  · rintro ⟨h1, h2, h3, h4, h5, h6, h7, h8, h9, h10, h11, h12, h13⟩
    refine ⟨by omega, by omega, by omega, h4, by omega, h6, by omega, by omega, by omega,
      by omega, fun token htoken => ?_, h13⟩
    rw [htoken] at h11 h12
    simp only [Option.any_some, String.isEmpty_iff, Option.isNone_iff_eq_none] at h11 h12
    exact ⟨h11, Option.isSome_iff_ne_none.mpr h12⟩
  · rintro ⟨h1, h2, h3, h4, h5, h6, h7, h8, h9, h10, h11, h12⟩
    refine ⟨by omega, by omega, by omega, h4, by omega, h6, by omega, by omega, by omega,
      by omega, ?_, ?_, h12⟩
    · cases htoken : config.xToken with
      | none => simp
      | some token => simpa [String.isEmpty_iff] using (h11 token htoken).1
    · cases htoken : config.xToken with
      | none => simp
      | some token =>
        have hparse := (h11 token htoken).2
        simpa using Option.isSome_iff_ne_none.mp hparse

/-- The defaults pass. -/
theorem valid_default [ZakuraChain] [MetadataFormat] : ({} : ServerConfig).Valid where
  broadcastCapacity := by decide
  replayMaxEvents := by decide
  replayMaxBytes := by decide
  replayMaxAge := by decide
  clientChannelCapacity := by decide
  pingInterval := by decide
  maxDecodingMessageSize := by decide
  maxEncodingMessageSize := by decide
  eventEncodingThreads := by decide
  parallelEncodingMinTransactions := by decide
  token _ h := nomatch h
  filterLimits := rfl

/-- The ring keeps the next power of two of the configured capacity. -/
def ringCapacity (config : ServerConfig) : Nat := config.broadcastCapacity.nextPowerOfTwo

/-- What `GrpcService` hands to each of its tasks. -/
def settings (config : ServerConfig) : SubscriptionTask.Settings where
  filterLimits := config.filterLimits
  pingInterval := config.subscriptionPingIntervalSeconds

end ServerConfig

end ZakuraGrpc
