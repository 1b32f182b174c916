import ZakuraGrpc.Geyser.Slots

/-!
# Credentials

A client that `ZakuraGrpcBuilder` made puts its token and its subscription ID on every
request, those of its reconnects included. `admitted_iff` says whom the service lets in
for it: metadata is bytes on the way, and the server reads back only visible ASCII.
-/

namespace ZakuraGrpc

open Runs

/-! ## The client's side -/

structure MetadataInterceptor where
  xToken : Option Bytes
  subscriptionId : Option Bytes

/-- `Interceptor::call`: it inserts what the client has. -/
def MetadataInterceptor.call (interceptor : MetadataInterceptor) (request : RpcRequest) :
    Except Status RpcRequest := do
  let request := match interceptor.xToken with
    | some value => { request with xToken := some value }
    | none => request
  let request := match interceptor.subscriptionId with
    | some value => { request with subscriptionId := some value }
    | none => request
  return request

/-- The metadata of the builder. -/
structure ZakuraGrpcBuilder where
  xToken : Option Bytes := none
  subscriptionId : Option Bytes := none

inductive ZakuraGrpcBuilderError where
  /-- `InvalidMetadataValue` keeps nothing of the value. -/
  | metadata
  deriving DecidableEq

namespace ZakuraGrpcBuilder

/-- `value.map(TryInto::try_into).transpose()`. -/
def metadataValue [MetadataFormat] (value : Option String) :
    Except ZakuraGrpcBuilderError (Option Bytes) :=
  match value with
  | none => .ok none
  | some value =>
    match MetadataFormat.parse value with
    | none => .error .metadata
    | some bytes => .ok (some bytes)

/-- `ZakuraGrpcBuilder::x_token`. -/
def withXToken [MetadataFormat] (builder : ZakuraGrpcBuilder) (value : Option String) :
    Except ZakuraGrpcBuilderError ZakuraGrpcBuilder := do
  return { builder with xToken := ← metadataValue value }

/-- `ZakuraGrpcBuilder::subscription_id`. -/
def withSubscriptionId [MetadataFormat] (builder : ZakuraGrpcBuilder) (value : Option String) :
    Except ZakuraGrpcBuilderError ZakuraGrpcBuilder := do
  return { builder with subscriptionId := ← metadataValue value }

/-- The interceptor of `ZakuraGrpcBuilder::build`. -/
def interceptor (builder : ZakuraGrpcBuilder) : MetadataInterceptor where
  xToken := builder.xToken
  subscriptionId := builder.subscriptionId

end ZakuraGrpcBuilder

/-! ## Metadata on the way -/

/-- Metadata that parses is the text's own bytes. -/
class LawfulMetadataFormat [MetadataFormat] : Prop where
  parse_bytes : ∀ {value : String} {bytes : Bytes}, MetadataFormat.parse value = some bytes →
    bytes = value.toList.flatMap String.utf8EncodeChar

def isVisibleChar (c : Char) : Bool := (32 ≤ c.toNat && c.toNat < 127) || c.toNat == 9

/-- The text that the server reads back. -/
def Visible (value : String) : Prop := ∀ c ∈ value.toList, isVisibleChar c = true

instance (value : String) : Decidable (Visible value) :=
  inferInstanceAs (Decidable (∀ c ∈ value.toList, isVisibleChar c = true))

theorem isVisibleAscii_ofNat {n : Nat} (h : n < 256) :
    isVisibleAscii (UInt8.ofNat n) = ((32 ≤ n && n < 127) || n == 9) := by
  have hall : ∀ n : Fin 256, isVisibleAscii (UInt8.ofNat n) =
      ((32 ≤ n.val && n.val < 127) || n.val == 9) := by decide +kernel
  exact hall ⟨n, h⟩

/-- A lead byte beyond ASCII is not visible. -/
theorem isVisibleAscii_lead {n : Nat} (hlow : 128 ≤ n) (hhigh : n < 256) (rest : Bytes) :
    (UInt8.ofNat n :: rest).all isVisibleAscii = false := by
  have hnot : isVisibleAscii (UInt8.ofNat n) = false := by
    rw [isVisibleAscii_ofNat hhigh]
    simp only [Bool.or_eq_false_iff, Bool.and_eq_false_iff, decide_eq_false_iff_not,
      beq_eq_false_iff_ne]
    omega
  rw [List.all_cons, hnot, Bool.false_and]

/-- A character is visible where its bytes are, and then it is one byte. -/
theorem utf8EncodeChar_visible (c : Char) :
    (String.utf8EncodeChar c).all isVisibleAscii = isVisibleChar c ∧
      (isVisibleChar c = true → String.utf8EncodeChar c = [UInt8.ofNat c.toNat]) := by
  have hval : c.val.toNat = c.toNat := rfl
  by_cases hascii : c.toNat ≤ 127
  · have hone : String.utf8EncodeChar c = [UInt8.ofNat c.toNat] := by
      unfold String.utf8EncodeChar
      rw [hval, if_pos hascii]
    refine ⟨?_, fun _ => hone⟩
    rw [hone, List.all_cons, List.all_nil, Bool.and_true, isVisibleAscii_ofNat (by omega)]
    rfl
  · have hnot : isVisibleChar c = false := by
      unfold isVisibleChar
      simp only [Bool.or_eq_false_iff, Bool.and_eq_false_iff, decide_eq_false_iff_not,
        beq_eq_false_iff_ne]
      omega
    refine ⟨?_, fun hvisible => ?_⟩
    · rw [hnot]
      unfold String.utf8EncodeChar
      rw [hval, if_neg hascii]
      split
      · exact isVisibleAscii_lead (by omega) (by omega) _
      split
      · exact isVisibleAscii_lead (by omega) (by omega) _
      · exact isVisibleAscii_lead (by omega) (by omega) _
    · rw [hnot] at hvisible
      cases hvisible

theorem all_visible_iff (chars : List Char) :
    (chars.flatMap String.utf8EncodeChar).all isVisibleAscii = true ↔
      ∀ c ∈ chars, isVisibleChar c = true := by
  induction chars with
  | nil => simp
  | cons c rest ih =>
    rw [List.flatMap_cons, List.all_append, Bool.and_eq_true, ih, (utf8EncodeChar_visible c).1,
      List.forall_mem_cons]

/-- A visible text has a byte for each of its characters. -/
theorem bytes_of_visible {chars : List Char} (h : ∀ c ∈ chars, isVisibleChar c = true) :
    chars.flatMap String.utf8EncodeChar = chars.map fun c => UInt8.ofNat c.toNat := by
  induction chars with
  | nil => rfl
  | cons c rest ih =>
    obtain ⟨hc, hrest⟩ := List.forall_mem_cons.mp h
    rw [List.flatMap_cons, (utf8EncodeChar_visible c).2 hc, ih hrest]
    rfl

/-- Visible characters come back from their bytes. -/
theorem chars_of_bytes {chars : List Char} (h : ∀ c ∈ chars, isVisibleChar c = true) :
    (chars.flatMap String.utf8EncodeChar).map (fun byte => Char.ofNat byte.toNat) = chars := by
  have hback : ∀ c ∈ chars, Char.ofNat (UInt8.ofNat c.toNat).toNat = c := by
    intro c hmem
    have hc := h c hmem
    have hsmall : c.toNat < 256 := by
      unfold isVisibleChar at hc
      simp only [Bool.or_eq_true, Bool.and_eq_true, decide_eq_true_eq, beq_iff_eq] at hc
      omega
    rw [UInt8.toNat_ofNat_of_lt' hsmall, Char.ofNat_toNat]
  rw [bytes_of_visible h, List.map_map]
  exact (List.map_congr_left hback).trans (List.map_id' chars)

/-- **Metadata comes back** where it is visible, and is not read otherwise. -/
theorem metadataToStr?_parse [MetadataFormat] [LawfulMetadataFormat] {value : String}
    {bytes : Bytes} (h : MetadataFormat.parse value = some bytes) :
    metadataToStr? bytes = if Visible value then some value else none := by
  rw [LawfulMetadataFormat.parse_bytes h]
  unfold metadataToStr?
  by_cases hvisible : Visible value
  · rw [if_pos hvisible, if_pos ((all_visible_iff _).mpr hvisible), chars_of_bytes hvisible,
      String.ofList_toList]
  · rw [if_neg hvisible, if_neg fun hall => hvisible ((all_visible_iff _).mp hall)]

/-! ## What the server reads -/

section
variable [MetadataFormat] [LawfulMetadataFormat]

omit [LawfulMetadataFormat] in
theorem metadataValue_some {value : String} {bytes : Bytes}
    (h : MetadataFormat.parse value = some bytes) :
    ZakuraGrpcBuilder.metadataValue (some value) = .ok (some bytes) := by
  unfold ZakuraGrpcBuilder.metadataValue
  dsimp only
  rw [h]

/-- The value that the metadata of a client stands for. -/
theorem metadataValue_ok {value : Option String} {bytes : Option Bytes}
    (h : ZakuraGrpcBuilder.metadataValue value = .ok bytes) :
    bytes.bind metadataToStr? = value.filter fun value => decide (Visible value) := by
  unfold ZakuraGrpcBuilder.metadataValue at h
  cases value with
  | none =>
    cases h
    rfl
  | some value =>
    dsimp only at h
    cases hparse : MetadataFormat.parse value with
    | none =>
      rw [hparse] at h
      cases h
    | some parsed =>
      rw [hparse] at h
      cases h
      rw [Option.bind_some, metadataToStr?_parse hparse, Option.filter_some]
      simp only [decide_eq_true_eq]

/-- A client with this token and this subscription ID. -/
def Built (token id : Option String) (builder : ZakuraGrpcBuilder) : Prop :=
  (ZakuraGrpcBuilder.withXToken {} token >>= fun builder => builder.withSubscriptionId id) =
    .ok builder

/-- What a request of the client carries. -/
structure Carries (token id : Option String) (remoteIp : Option String) (request : RpcRequest) :
    Prop where
  token : request.xToken.bind metadataToStr? =
    token.filter fun value => decide (Visible value)
  id : request.subscriptionId.bind metadataToStr? =
    id.filter fun value => decide (Visible value)
  remoteIp : request.remoteIp = remoteIp

/-- The request as it arrives; the peer's address is the server's to see. -/
theorem carries_call {token id : Option String} {builder : ZakuraGrpcBuilder}
    (hbuilt : Built token id builder) {remoteIp : Option String} {request : RpcRequest}
    (hcall : builder.interceptor.call { remoteIp := remoteIp } = .ok request) :
    Carries token id remoteIp request := by
  obtain ⟨first, hfirst, hbuilt⟩ := Except.bind_eq_ok.mp hbuilt
  obtain ⟨xToken, htoken, hfirst⟩ := Except.bind_eq_ok.mp hfirst
  obtain ⟨subscriptionId, hid, hbuilt⟩ := Except.bind_eq_ok.mp hbuilt
  cases hfirst
  cases hbuilt
  cases hcall
  refine ⟨?_, ?_, ?_⟩
  · rw [← metadataValue_ok htoken]
    cases xToken <;> cases subscriptionId <;> rfl
  · rw [← metadataValue_ok hid]
    cases xToken <;> cases subscriptionId <;> rfl
  · cases xToken <;> cases subscriptionId <;> rfl

omit [MetadataFormat] [LawfulMetadataFormat] in
/-- Whom the server takes the client for. -/
def subscriberOf (id remoteIp : Option String) : String :=
  ((id.filter fun value => decide (Visible value ∧ value ≠ "")).or remoteIp).getD "anonymous"

omit [MetadataFormat] [LawfulMetadataFormat] in
theorem Carries.subscriberId {token id remoteIp : Option String} {request : RpcRequest}
    (h : Carries token id remoteIp request) :
    request.toSubscriptionRequest.subscriberId = subscriberOf id remoteIp := by
  unfold SubscriptionRequest.subscriberId subscriberOf
  have hboth : (fun value : String => decide (Visible value) && !value.isEmpty) =
      fun value => decide (Visible value ∧ value ≠ "") := by
    funext value
    rw [Bool.eq_iff_iff, Bool.and_eq_true, decide_eq_true_eq, decide_eq_true_eq,
      Bool.not_eq_true', ← Bool.not_eq_true, String.isEmpty_iff]
  rw [h.id, h.remoteIp, Option.filter_filter, hboth]

/-- The client has the server's token, where the server has one. -/
def HasToken (config : ServerConfig) (token : Option String) : Prop :=
  ∀ expected, config.xToken = some expected → token = some expected ∧ Visible expected

omit [MetadataFormat] [LawfulMetadataFormat] in
theorem Carries.authorize_iff {config : ServerConfig} {token id remoteIp : Option String}
    {request : RpcRequest} (h : Carries token id remoteIp request) :
    TokenAuth.authorize ⟨config.xToken⟩ request = .ok () ↔ HasToken config token := by
  unfold TokenAuth.authorize HasToken
  cases hexpected : config.xToken with
  | none => exact iff_of_true rfl fun _ hnone => nomatch hnone
  | some expected =>
    dsimp only
    rw [h.token]
    have hsame : ((token.filter fun value => decide (Visible value)).any (· == expected)) = true ↔
        token = some expected ∧ Visible expected := by
      rw [Option.any_eq_true]
      simp only [Option.filter_eq_some_iff, decide_eq_true_eq, beq_iff_eq]
      constructor
      · rintro ⟨_, ⟨htoken, hvisible⟩, rfl⟩
        exact ⟨htoken, hvisible⟩
      · rintro ⟨htoken, hvisible⟩
        exact ⟨expected, ⟨htoken, hvisible⟩, rfl⟩
    by_cases hany : ((token.filter fun value => decide (Visible value)).any (· == expected)) = true
    · rw [if_pos hany]
      refine iff_of_true rfl fun expected' heq => ?_
      cases heq
      exact hsame.mp hany
    · rw [if_neg hany]
      exact iff_of_false (fun herror => by cases herror) fun hall =>
        hany (hsame.mpr (hall expected rfl))

end

/-! ## Admission -/

namespace GrpcService

section
variable [ZakuraChain] [WireFormat] {config : ServerConfig} {service service' : GrpcService}

/-- A slot of the subscriber is free, or nobody counts. -/
def HasSlot (config : ServerConfig) (service : GrpcService) (id : String) : Prop :=
  config.subscriptionLimitEnforce = true → service.inProgressOf id < config.subscriptionLimit

/-- **Admission.** In every run a call of a built client that the service takes becomes a
call of the client's own subscriber where the client has the token and a free slot, and
no call at all otherwise. -/
theorem admitted_iff [MetadataFormat] [LawfulMetadataFormat] {events : List ServiceEvent}
    (hrun : runs (step config) (new config) events = some service)
    {token id remoteIp : Option String} {builder : ZakuraGrpcBuilder}
    (hbuilt : Built token id builder) {request : RpcRequest}
    (hcall : builder.interceptor.call { remoteIp := remoteIp } = .ok request)
    (hstep : service.step config (.call request) = some service') :
    (HasToken config token ∧ service.HasSlot config (subscriberOf id remoteIp) →
        service'.calls = service.calls ++ [{ guard := ⟨subscriberOf id remoteIp⟩ }]) ∧
      (¬ (HasToken config token ∧ service.HasSlot config (subscriberOf id remoteIp)) →
        service'.calls = service.calls) := by
  have hcarries := carries_call hbuilt hcall
  have hslots := (slots_runs hrun).exact
  obtain ⟨-, hstep⟩ := whileOpen_spec hstep
  have hid := hcarries.subscriberId
  have hslot : (∃ status,
      (service.subscriptions.tracker.acquire request.toSubscriptionRequest).1 = .error status) ↔
        ¬ service.HasSlot config (subscriberOf id remoteIp) := by
    rw [hslots.refuses, hid]
    unfold HasSlot
    rw [Classical.not_imp]
    refine and_congr_right fun henforce => ?_
    have hlimited := hslots.limited henforce (subscriberOf id remoteIp)
    omega
  rcases call_spec hstep with ⟨⟨status, hauth⟩, rfl⟩ | ⟨hauth, -, hcases⟩
  · refine ⟨fun hadmitted => ?_, fun _ => rfl⟩
    rw [hcarries.authorize_iff.mpr hadmitted.1] at hauth
    cases hauth
  · rcases hcases with ⟨status, hrefused, heq⟩ | ⟨guard, hadmitted, heq⟩
    · have hnone := hslot.mp ⟨status, hrefused⟩
      refine ⟨fun hboth => absurd hboth.2 hnone, fun _ => ?_⟩
      rw [heq]
    · have hfree : service.HasSlot config (subscriberOf id remoteIp) := by
        by_contra hnone
        obtain ⟨status, hrefused⟩ := hslot.mpr hnone
        rw [hadmitted] at hrefused
        cases hrefused
      refine ⟨fun _ => ?_, fun hnot => absurd ⟨hcarries.authorize_iff.mp hauth, hfree⟩ hnot⟩
      have hguard : guard = ⟨subscriberOf id remoteIp⟩ :=
        congrArg SubscriptionGuard.mk ((subscriberId_acquire hadmitted).trans hid)
      rw [heq, hguard]

end

/-- Visible ASCII parses. -/
@[reducible] def visibleMetadata : MetadataFormat where
  parse value :=
    if Visible value then some (value.toList.map fun c => UInt8.ofNat c.toNat) else none

theorem lawful_visibleMetadata : @LawfulMetadataFormat visibleMetadata := by
  refine @LawfulMetadataFormat.mk visibleMetadata fun {value bytes} hparse => ?_
  change (if Visible value then some (value.toList.map fun c => UInt8.ofNat c.toNat) else none) =
    some bytes at hparse
  split at hparse
  · rename_i hvisible
    rw [bytes_of_visible hvisible]
    exact (Option.some.inj hparse).symm
  · cases hparse

/-- A client with the sample server's token. -/
def sampleBuilder : ZakuraGrpcBuilder where
  xToken := some [116, 111, 107, 101, 110]
  subscriptionId := some [105, 110, 100, 101, 120, 101, 114]

theorem parse_of_visible {value : String} (h : Visible value) :
    @MetadataFormat.parse visibleMetadata value =
      some (value.toList.map fun c => UInt8.ofNat c.toNat) := if_pos h

theorem built_sampleBuilder :
    @Built visibleMetadata (some "token") (some "indexer") sampleBuilder := by
  have htoken := @metadataValue_some visibleMetadata "token" [116, 111, 107, 101, 110]
    ((parse_of_visible (by simp [Visible, isVisibleChar])).trans
      (congrArg some (by decide +kernel)))
  have hid := @metadataValue_some visibleMetadata "indexer" [105, 110, 100, 101, 120, 101, 114]
    ((parse_of_visible (by simp [Visible, isVisibleChar])).trans
      (congrArg some (by decide +kernel)))
  refine Except.bind_eq_ok.mpr ⟨_, Except.bind_eq_ok.mpr ⟨_, htoken, rfl⟩, ?_⟩
  exact Except.bind_eq_ok.mpr ⟨_, hid, rfl⟩

theorem admitted_iff_sample : ∃ service service' request,
    runs (@step hexChain protoWire sampleServerConfig) (new sampleServerConfig)
        sampleServiceEvents = some service ∧
      @Built visibleMetadata (some "token") (some "indexer") sampleBuilder ∧
      sampleBuilder.interceptor.call { remoteIp := some "10.0.0.1" } = .ok request ∧
      @step hexChain protoWire sampleServerConfig service (.call request) = some service' ∧
      (HasToken sampleServerConfig (some "token") ∧
          service.HasSlot sampleServerConfig (subscriberOf (some "indexer") (some "10.0.0.1")) →
        service'.calls = service.calls ++
          [{ guard := ⟨subscriberOf (some "indexer") (some "10.0.0.1")⟩ }]) ∧
      (¬ (HasToken sampleServerConfig (some "token") ∧
          service.HasSlot sampleServerConfig (subscriberOf (some "indexer") (some "10.0.0.1"))) →
        service'.calls = service.calls) := by
  have hsome : ((runs (@step hexChain protoWire sampleServerConfig) (new sampleServerConfig)
      sampleServiceEvents).bind fun service => @step hexChain protoWire sampleServerConfig service
        (.call
          { subscriptionId := sampleBuilder.subscriptionId
            remoteIp := some "10.0.0.1"
            xToken := sampleBuilder.xToken })).isSome = true := by
    decide +kernel
  obtain ⟨service', hboth⟩ := Option.isSome_iff_exists.mp hsome
  obtain ⟨service, hrun, hstep⟩ := Option.bind_eq_some_iff.mp hboth
  exact ⟨service, service', _, hrun, built_sampleBuilder, rfl, hstep,
    @admitted_iff hexChain protoWire sampleServerConfig service service' visibleMetadata
      lawful_visibleMetadata _ hrun _ _ _ _ built_sampleBuilder _ rfl hstep⟩

end GrpcService

end ZakuraGrpc
