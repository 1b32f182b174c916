import ZakuraGrpc.Proto

/-!
# Wire format

`prost` encodes the fields of a message in the order of their numbers. The
repeated string field 6 of a `SubscribeUpdate` is written out here: a tag byte,
the length as a base-128 varint and the UTF-8 bytes of each name. The generated
code for the other fields is the class `WireFormat`; `protoWire` writes them by the
schema.
-/

namespace ZakuraGrpc

/-- The base-128 varint of `value`, low groups first. -/
def encodeVarint (value : Nat) : Bytes :=
  if value < 0x80 then [UInt8.ofNat value]
  else UInt8.ofNat (value % 0x80 + 0x80) :: encodeVarint (value / 0x80)
termination_by value

/-- One name of `filters`: field 6, wire type 2. -/
def encodeFilterName (name : String) : Bytes :=
  0x32 :: encodeVarint name.utf8ByteSize ++ name.toUTF8.toList

/-- The encoding of the fields around `filters`. -/
class WireFormat where
  /-- Fields 1 to 5. -/
  encodeHead : SubscribeUpdate → Bytes
  /-- Fields 7 to 19. -/
  encodeTail : SubscribeUpdate → Bytes

section
variable [WireFormat]

def encode (message : SubscribeUpdate) : Bytes :=
  WireFormat.encodeHead { message with filters := [] } ++
    message.filters.flatMap encodeFilterName ++
    WireFormat.encodeTail { message with filters := [] }

/-- `encoded_len`. -/
def encodedLen (message : SubscribeUpdate) : Nat := (encode message).length

end

/-! ## The fields of the schema

A field without presence is not written at its default. -/

def varintField (field value : Nat) : Bytes :=
  if value = 0 then [] else encodeVarint (field * 8) ++ encodeVarint value

/-- Signed integers and enumerations; a negative one takes 64 bits. -/
def intField (field : Nat) (value : Int) : Bytes := varintField field (value % 2 ^ 64).toNat

def boolField (field : Nat) (value : Bool) : Bytes := varintField field value.toNat

def lengthDelimited (field : Nat) (payload : Bytes) : Bytes :=
  encodeVarint (field * 8 + 2) ++ encodeVarint payload.length ++ payload

def bytesField (field : Nat) (value : Bytes) : Bytes :=
  if value.isEmpty then [] else lengthDelimited field value

def stringField (field : Nat) (value : String) : Bytes :=
  if value.isEmpty then [] else lengthDelimited field value.toUTF8.toList

/-- An `f32`, given by its bits: neither zero is written. -/
def floatField (field : Nat) (bits : UInt32) : Bytes :=
  if bits = 0 ∨ bits = 0x80000000 then []
  else
    encodeVarint (field * 8 + 5) ++
      [bits.toUInt8, (bits >>> 8).toUInt8, (bits >>> 16).toUInt8, (bits >>> 24).toUInt8]

/-! Fields with presence, and repeated ones. -/

def optionalVarint (field : Nat) (value : Option Nat) : Bytes :=
  value.elim [] fun value => encodeVarint (field * 8) ++ encodeVarint value

def optionalBytes (field : Nat) (value : Option Bytes) : Bytes :=
  value.elim [] (lengthDelimited field)

def optionalString (field : Nat) (value : Option String) : Bytes :=
  optionalBytes field (value.map (·.toUTF8.toList))

def repeatedString (field : Nat) (values : List String) : Bytes :=
  values.flatMap fun value => lengthDelimited field value.toUTF8.toList

def repeatedMessage {α : Type} (field : Nat) (encode : α → Bytes) (values : List α) : Bytes :=
  values.flatMap fun value => lengthDelimited field (encode value)

/-! ## The messages of the schema -/

def Timestamp.encode (timestamp : Timestamp) : Bytes :=
  intField 1 timestamp.seconds ++ intField 2 timestamp.nanos

def CanonicalBlock.encode (block : CanonicalBlock) : Bytes :=
  varintField 1 block.height ++ stringField 2 block.hash ++ stringField 3 block.previousBlockHash

def Outpoint.encode (outpoint : Outpoint) : Bytes :=
  stringField 1 outpoint.transactionId ++ varintField 2 outpoint.outputIndex

def TransparentPrevoutInput.encode (input : TransparentPrevoutInput) : Bytes :=
  optionalBytes 1 (input.previousOutput.map (·.encode)) ++ bytesField 2 input.unlockScript ++
    optionalVarint 3 input.previousValueZat ++ optionalBytes 4 input.previousLockScript ++
    optionalString 5 input.previousAddress ++ optionalVarint 6 input.previousHeight ++
    optionalVarint 7 (input.previousFromCoinbase.map (·.toNat))

def TransparentInput.encode (input : TransparentInput) : Bytes :=
  varintField 1 input.inputIndex ++ varintField 2 input.sequence ++
    match input.input with
    | some (.prevout prevout) => lengthDelimited 10 prevout.encode
    | some (.coinbase coinbase) =>
      lengthDelimited 11 (varintField 1 coinbase.height ++ bytesField 2 coinbase.data)
    | none => []

def TransparentOutput.encode (output : TransparentOutput) : Bytes :=
  varintField 1 output.outputIndex ++ varintField 2 output.valueZat ++
    bytesField 3 output.lockScript ++ optionalString 4 output.address

def BlockUpdate.encode (block : BlockUpdate) : Bytes :=
  varintField 1 block.height ++ stringField 2 block.hash ++ bytesField 3 block.block ++
    optionalVarint 4 block.receiptOrder ++ boolField 5 block.finalized ++
    intField 6 block.payload

def BestChainUpdate.encode (change : BestChainUpdate) : Bytes :=
  varintField 1 change.height ++ stringField 2 change.hash ++
    match change.change with
    | some (.grow grow) => lengthDelimited 10
      (stringField 1 grow.previousBlockHash ++ repeatedString 2 grow.transactionIds)
    | some (.reset reset) => lengthDelimited 11
      (repeatedMessage 1 CanonicalBlock.encode reset.disconnectedBlocks ++
        repeatedMessage 2 CanonicalBlock.encode reset.connectedBlocks ++
        boolField 3 reset.diffComplete)
    | none => []

def MempoolUpdate.encode (change : MempoolUpdate) : Bytes :=
  intField 1 change.action ++ repeatedString 2 change.transactionIds

def TransactionUpdate.encode (transaction : TransactionUpdate) : Bytes :=
  stringField 1 transaction.transactionId ++ stringField 2 transaction.unminedTransactionId ++
    optionalString 3 transaction.authDigest ++ bytesField 4 transaction.transaction ++
    varintField 5 transaction.height ++ stringField 6 transaction.blockHash ++
    varintField 7 transaction.transactionIndex ++ intField 8 transaction.commitment ++
    boolField 9 transaction.coinbase ++
    repeatedMessage 10 TransparentInput.encode transaction.transparentInputs ++
    repeatedMessage 11 TransparentOutput.encode transaction.transparentOutputs ++
    varintField 12 transaction.version ++ varintField 13 transaction.lockTime ++
    boolField 14 transaction.lockTimeIsTime ++ optionalVarint 15 transaction.expiryHeight ++
    stringField 16 transaction.network ++
    optionalVarint 17 transaction.transparentInputValueZat ++
    varintField 18 transaction.transparentOutputValueZat ++
    boolField 19 transaction.hasTransparent ++ boolField 20 transaction.hasSapling ++
    boolField 21 transaction.hasOrchard ++ intField 22 transaction.payload

def MempoolTransactionUpdate.encode (transaction : MempoolTransactionUpdate) : Bytes :=
  stringField 1 transaction.transactionId ++ stringField 2 transaction.unminedTransactionId ++
    optionalString 3 transaction.authDigest ++ bytesField 4 transaction.transaction ++
    stringField 5 transaction.network ++
    repeatedMessage 6 TransparentInput.encode transaction.transparentInputs ++
    repeatedMessage 7 TransparentOutput.encode transaction.transparentOutputs ++
    varintField 8 transaction.version ++ varintField 9 transaction.lockTime ++
    boolField 10 transaction.lockTimeIsTime ++ optionalVarint 11 transaction.expiryHeight ++
    optionalVarint 12 transaction.transparentInputValueZat ++
    varintField 13 transaction.transparentOutputValueZat ++
    varintField 14 transaction.minerFeeZat ++
    optionalBytes 15 (transaction.admittedAt.map (·.encode)) ++
    optionalVarint 16 transaction.admittedHeight ++
    varintField 17 transaction.conventionalActions ++ varintField 18 transaction.unpaidActions ++
    varintField 19 transaction.legacySigopCount ++ varintField 20 transaction.p2shSigopCount ++
    floatField 21 transaction.feeWeightRatio ++ boolField 22 transaction.coinbase ++
    boolField 23 transaction.hasTransparent ++ boolField 24 transaction.hasSapling ++
    boolField 25 transaction.hasOrchard ++ intField 26 transaction.payload

def UtxoCreated.encode (created : UtxoCreated) : Bytes :=
  optionalBytes 1 (created.outpoint.map (·.encode)) ++ varintField 2 created.valueZat ++
    bytesField 3 created.lockScript ++ optionalString 4 created.address

def UtxoSpent.encode (spent : UtxoSpent) : Bytes :=
  optionalBytes 1 (spent.outpoint.map (·.encode)) ++ varintField 2 spent.inputIndex ++
    bytesField 3 spent.unlockScript ++ varintField 4 spent.sequence ++
    optionalVarint 5 spent.previousValueZat ++ optionalBytes 6 spent.previousLockScript ++
    optionalString 7 spent.previousAddress ++ optionalVarint 8 spent.previousHeight ++
    optionalVarint 9 (spent.previousFromCoinbase.map (·.toNat))

def UtxoChange.encode (change : UtxoChange) : Bytes :=
  match change.change with
  | some (.created created) => lengthDelimited 1 created.encode
  | some (.spent spent) => lengthDelimited 2 spent.encode
  | none => []

def UtxoUpdate.encode (utxo : UtxoUpdate) : Bytes :=
  varintField 1 utxo.height ++ stringField 2 utxo.blockHash ++ stringField 3 utxo.transactionId ++
    varintField 4 utxo.transactionIndex ++ intField 5 utxo.commitment ++
    repeatedMessage 6 UtxoChange.encode utxo.changes ++ boolField 7 utxo.coinbase ++
    varintField 8 utxo.version ++ boolField 9 utxo.hasTransparent ++
    boolField 10 utxo.hasSapling ++ boolField 11 utxo.hasOrchard ++
    optionalVarint 12 utxo.transparentInputValueZat ++
    varintField 13 utxo.transparentOutputValueZat

def ReconnectUpdate.encode (reconnect : ReconnectUpdate) : Bytes :=
  varintField 1 reconnect.finalizedHeight ++ stringField 2 reconnect.finalizedBlockHash ++
    repeatedMessage 3 CanonicalBlock.encode reconnect.discardedBlocks

def MempoolSnapshotUpdate.encode (snapshot : MempoolSnapshotUpdate) : Bytes :=
  intField 1 snapshot.phase ++ varintField 2 snapshot.revision ++
    varintField 3 snapshot.transactionCount

def Update.encode : Update → Bytes
  | .block update => lengthDelimited 10 update.encode
  | .bestChain update => lengthDelimited 11 update.encode
  | .mempool update => lengthDelimited 12 update.encode
  | .pong update => lengthDelimited 13 (intField 1 update.id)
  | .transaction update => lengthDelimited 14 update.encode
  | .utxo update => lengthDelimited 15 update.encode
  | .mempoolTransaction update => lengthDelimited 16 update.encode
  | .ping update => lengthDelimited 17 (intField 1 update.id)
  | .reconnect update => lengthDelimited 18 update.encode
  | .mempoolSnapshot update => lengthDelimited 19 update.encode

/-- The schema's own format. -/
@[reducible] def protoWire : WireFormat where
  encodeHead message :=
    varintField 1 message.schemaVersion ++ bytesField 2 message.sessionId ++
      varintField 3 message.sequence ++ optionalBytes 4 (message.observedAt.map (·.encode)) ++
      intField 5 message.eventType
  encodeTail message :=
    varintField 7 message.sourceSequence ++ optionalVarint 8 message.mempoolRevision ++
      message.update.elim [] Update.encode

end ZakuraGrpc
