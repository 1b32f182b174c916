import ZakuraGrpc.Geyser.PayloadUnion

/-!
# Encoded lengths

A published update is encoded once for its length, without filter names;
`send_filtered` adds the names of each subscriber and the length of their
encoding. The sum is the length of the message that is sent
(`cached_len_exact`).

Lengths of values in memory fit in `usize`, and none of the sums here wraps.
-/

namespace ZakuraGrpc

/-! ## Varints -/

/-- The loop of `encoded_varint_len`. -/
def encodedVarintLenLoop (value len : Nat) : Nat :=
  if 0x80 ≤ value then encodedVarintLenLoop (value >>> 7) (len + 1) else len
termination_by value
decreasing_by
  rw [Nat.shiftRight_eq_div_pow]
  omega

def encodedVarintLen (value : Nat) : Nat := encodedVarintLenLoop value 1

/-- A varint has one byte for each digit to the base 128. -/
theorem length_encodeVarint (value : Nat) :
    (encodeVarint value).length = Nat.log 128 value + 1 := by
  induction value using encodeVarint.induct with
  | case1 value hlt =>
    rw [encodeVarint, if_pos hlt, Nat.log_of_lt hlt]
    rfl
  | case2 value hge ih =>
    rw [encodeVarint, if_neg hge, List.length_cons, ih,
      ← Nat.log_of_one_lt_of_le (by decide) (Nat.le_of_not_lt hge)]

/-- The loop makes one turn for each digit but the last. -/
theorem encodedVarintLenLoop_eq (value len : Nat) :
    encodedVarintLenLoop value len = len + Nat.log 128 value := by
  induction value, len using encodedVarintLenLoop.induct with
  | case1 value len hge ih =>
    have hshift : value >>> 7 = value / 128 := Nat.shiftRight_eq_div_pow value 7
    rw [encodedVarintLenLoop, if_pos hge, ih, hshift,
      Nat.log_of_one_lt_of_le (by decide) hge]
    omega
  | case2 value len hlt =>
    rw [encodedVarintLenLoop, if_neg hlt, Nat.log_of_lt (Nat.lt_of_not_le hlt)]
    rfl

theorem encodedVarintLen_eq (value : Nat) :
    encodedVarintLen value = (encodeVarint value).length := by
  rw [encodedVarintLen, encodedVarintLenLoop_eq, length_encodeVarint, Nat.add_comm]

/-- A `usize` is shifted away in at most nine turns. -/
theorem encodedVarintLen_le {value : Nat} (h : value ≤ usizeMax) : encodedVarintLen value ≤ 10 := by
  have hlt : value < 128 ^ 10 := by
    unfold usizeMax at h
    omega
  have hlog : Nat.log 128 value < 10 := Nat.log_lt_of_lt_pow' (by decide) hlt
  rw [encodedVarintLen_eq, length_encodeVarint]
  exact hlog

/-- The low seven bits of the bytes are the digits. -/
theorem ofDigits_encodeVarint (value : Nat) :
    Nat.ofDigits 128 ((encodeVarint value).map fun byte => byte.toNat % 128) = value := by
  induction value using encodeVarint.induct with
  | case1 value hlt =>
    have hbyte : (UInt8.ofNat value).toNat % 128 = value := by
      rw [UInt8.toNat_ofNat']
      omega
    rw [encodeVarint, if_pos hlt, List.map_singleton, Nat.ofDigits_singleton, hbyte]
  | case2 value hge ih =>
    have hbyte : (UInt8.ofNat (value % 0x80 + 0x80)).toNat % 128 = value % 128 := by
      rw [UInt8.toNat_ofNat']
      omega
    rw [encodeVarint, if_neg hge, List.map_cons, Nat.ofDigits_cons, ih, hbyte]
    exact Nat.mod_add_div value 128

/-! ## Names -/

def encodedFilterNamesLen (names : List String) : Nat :=
  (names.map fun name => 1 + encodedVarintLen name.utf8ByteSize + name.utf8ByteSize).sum

theorem length_toList_loop (bytes : ByteArray) (i : Nat) (taken : List UInt8) :
    (ByteArray.toList.loop bytes i taken).length = taken.length + (bytes.size - i) := by
  induction i, taken using ByteArray.toList.loop.induct bytes with
  | case1 i taken hlt ih =>
    rw [ByteArray.toList.loop, if_pos hlt, ih, List.length_cons]
    omega
  | case2 i taken hge =>
    rw [ByteArray.toList.loop, if_neg hge, List.length_reverse]
    omega

theorem length_encodeFilterName (name : String) : (encodeFilterName name).length =
    1 + encodedVarintLen name.utf8ByteSize + name.utf8ByteSize := by
  have hbytes : name.toUTF8.toList.length = name.utf8ByteSize := by
    rw [ByteArray.toList, length_toList_loop]
    simp
  rw [encodeFilterName, List.length_append, List.length_cons, hbytes, encodedVarintLen_eq]
  omega

theorem encodedFilterNamesLen_eq (names : List String) :
    encodedFilterNamesLen names = (names.flatMap encodeFilterName).length := by
  rw [List.length_flatMap, encodedFilterNamesLen]
  congr 1
  exact List.map_congr_left fun name _ => (length_encodeFilterName name).symm

/-! ## Messages -/

section
variable [WireFormat]

/-- Names are added to the encoding where field 6 stands. -/
theorem encodedLen_filters {message : SubscribeUpdate} (h : message.filters = [])
    (names : List String) :
    encodedLen message + encodedFilterNamesLen names =
      encodedLen { message with filters := names } := by
  have hplain : { message with filters := [] } = message := by
    rw [← h]
  unfold encodedLen encode
  simp only [List.length_append, hplain, h, List.flatMap_nil, List.length_nil,
    encodedFilterNamesLen_eq]
  omega

/-- The cache after the payloads that were asked for. -/
def PublishedUpdate.cacheAfter (update : PublishedUpdate)
    (calls : List (BlockPayload × TransactionPayload)) : PayloadProjectionCache :=
  calls.foldl (fun cache call => (update.payload cache call.1 call.2).2) fun _ => none

theorem PublishedUpdate.cacheValid_cacheAfter (update : PublishedUpdate)
    (calls : List (BlockPayload × TransactionPayload)) :
    update.CacheValid (update.cacheAfter calls) := by
  induction calls using List.reverseRecOn with
  | nil => exact update.cacheValid_empty
  | append_singleton calls call ih =>
    rw [cacheAfter, List.foldl_concat]
    exact (payload_eq ih call.1 call.2).2

/-- A prepared payload is as long as it says. -/
theorem preparedPayload_len {source : SubscribeUpdate} (h : source.filters = [])
    (blockPayload : BlockPayload) (transactionPayload : TransactionPayload)
    (names : List String) :
    let prepared := preparedPayload source blockPayload transactionPayload
    prepared.message.filters = [] ∧
      prepared.encodedLen + encodedFilterNamesLen names =
        encodedLen { prepared.message with filters := names } := by
  have hfilters : (applyPayloadProjection source blockPayload transactionPayload).filters = [] := by
    rw [(applyPayloadProjection_frame source blockPayload transactionPayload).2.2.2.1, h]
  exact ⟨hfilters, encodedLen_filters hfilters names⟩

/-- **Cached lengths are exact.** Whatever was asked of an update before, the
length kept with a projection and the length of the names make the length of
the projected message with these names. -/
theorem cached_len_exact {source : SubscribeUpdate} (hsource : source.filters = [])
    (calls : List (BlockPayload × TransactionPayload)) (blockPayload : BlockPayload)
    (transactionPayload : TransactionPayload) (names : List String) :
    let update := PublishedUpdate.new source
    let prepared := (update.payload (update.cacheAfter calls) blockPayload transactionPayload).1
    prepared = update.freshPayload blockPayload transactionPayload ∧
      prepared.encodedLen + encodedFilterNamesLen names =
        encodedLen { prepared.message with filters := names } ∧
      (preparedPayload source blockPayload transactionPayload).encodedLen +
          encodedFilterNamesLen names =
        encodedLen { applyPayloadProjection source blockPayload transactionPayload with
          filters := names } ∧
      ∀ value, encodedVarintLen value = (encodeVarint value).length := by
  intro update prepared
  have hfresh : prepared = update.freshPayload blockPayload transactionPayload :=
    (PublishedUpdate.payload_eq (update.cacheValid_cacheAfter calls) _ _).1
  refine ⟨hfresh, ?_, (preparedPayload_len hsource _ _ names).2, encodedVarintLen_eq⟩
  obtain ⟨hfilters, hlen⟩ := preparedPayload_len hsource .full .full names
  rw [hfresh]
  unfold PublishedUpdate.freshPayload
  split
  · exact hlen
  · exact (preparedPayload_len hfilters blockPayload transactionPayload names).2

end

theorem cached_len_exact_sample :
    let source : SubscribeUpdate := { update := some (.block { height := 7, block := [1, 2, 3] }) }
    let update := @PublishedUpdate.new protoWire source
    let prepared := (@PublishedUpdate.payload protoWire update
      (@PublishedUpdate.cacheAfter protoWire update [(.metaOnly, .full)]) .metaOnly .full).1
    prepared.encodedLen + encodedFilterNamesLen ["wallet", "blocks"] =
      @encodedLen protoWire { prepared.message with filters := ["wallet", "blocks"] } :=
  (@cached_len_exact protoWire _ rfl [(.metaOnly, .full)] .metaOnly .full
    ["wallet", "blocks"]).2.1

end ZakuraGrpc
