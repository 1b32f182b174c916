import Mathlib

/-!
# Protobuf messages

The messages of `geyser.proto` as `prost` generates them: an enumeration field
is the raw `i32` on the wire (`Int`), an unset scalar is its zero value, a
`oneof` is an optional inductive. The unsigned fields (`u32`, `u64`, `usize`)
are `Nat`: they are compared and subtracted with saturation only, and the
places where the code checks or saturates an upper bound name the bound.
-/

namespace ZakuraGrpc

abbrev Bytes := List UInt8

/-- Codes of `tonic::Code`. -/
inductive Code where
  | ok | cancelled | unknown | invalidArgument | deadlineExceeded | notFound | alreadyExists
  | permissionDenied | resourceExhausted | failedPrecondition | aborted | outOfRange
  | unimplemented | internal | unavailable | dataLoss | unauthenticated
  deriving DecidableEq, Repr

/-- A gRPC status: code and message. -/
structure Status where
  code : Code
  message : String
  deriving DecidableEq, Repr

/-! ## Quoted text -/

/-- The control, format, separator and private use characters. -/
def unprintable : List (Nat × Nat) :=
  [(0x0, 0x1f), (0x7f, 0xa0), (0xad, 0xad), (0x600, 0x605), (0x61c, 0x61c), (0x6dd, 0x6dd),
    (0x70f, 0x70f), (0x890, 0x891), (0x8e2, 0x8e2), (0x1680, 0x1680), (0x180e, 0x180e),
    (0x2000, 0x200f), (0x2028, 0x202f), (0x205f, 0x206f), (0x3000, 0x3000), (0xe000, 0xf8ff),
    (0xfeff, 0xfeff), (0xfff9, 0xfffb), (0x110bd, 0x110bd), (0x110cd, 0x110cd),
    (0x13430, 0x1343f), (0x1bca0, 0x1bca3), (0x1d173, 0x1d17a), (0xe0000, 0x10ffff)]

def isPrintable (c : Char) : Bool :=
  unprintable.all fun (first, last) => c.toNat < first || last < c.toNat

/-- A character in the `{:?}` of a string. Characters without an assignment and
combining marks, which depend on the version of Unicode, count as printable. -/
def escapeDebug (c : Char) : List Char :=
  if c = '\x00' then ['\\', '0']
  else if c = '\t' then ['\\', 't']
  else if c = '\r' then ['\\', 'r']
  else if c = '\n' then ['\\', 'n']
  else if c = '"' then ['\\', '"']
  else if c = '\\' then ['\\', '\\']
  else if isPrintable c then [c]
  else ['\\', 'u', '\x7b'] ++ Nat.toDigits 16 c.toNat ++ ['\x7d']

/-- The `{:?}` of a string. -/
def debugQuote (text : String) : String :=
  .ofList ('"' :: text.toList.flatMap escapeDebug ++ ['"'])

example : debugQuote "it's\t\u200b\x1b" = "\"it's\\t\\u\x7b200b\x7d\\u\x7b1b\x7d\"" := by
  decide

/-! ## Enumerations -/

inductive EventType where
  | unspecified | blockAccepted | bestChainChanged | blockFinalized | mempoolChanged
  | transaction | utxo | mempoolTransaction
  deriving DecidableEq, Repr

def EventType.toI32 : EventType → Int
  | .unspecified => 0
  | .blockAccepted => 1
  | .bestChainChanged => 2
  | .blockFinalized => 3
  | .mempoolChanged => 4
  | .transaction => 5
  | .utxo => 6
  | .mempoolTransaction => 7

/-- `EventType::try_from`. -/
def EventType.ofI32? : Int → Option EventType
  | 0 => some .unspecified
  | 1 => some .blockAccepted
  | 2 => some .bestChainChanged
  | 3 => some .blockFinalized
  | 4 => some .mempoolChanged
  | 5 => some .transaction
  | 6 => some .utxo
  | 7 => some .mempoolTransaction
  | _ => none

inductive BlockPayload where
  | unspecified | metaOnly | full
  deriving DecidableEq, Repr

def BlockPayload.toI32 : BlockPayload → Int
  | .unspecified => 0
  | .metaOnly => 1
  | .full => 2

def BlockPayload.ofI32? : Int → Option BlockPayload
  | 0 => some .unspecified
  | 1 => some .metaOnly
  | 2 => some .full
  | _ => none

inductive TransactionPayload where
  | unspecified | full | metaOnly | rawOnly | transparentOnly
  deriving DecidableEq, Repr

def TransactionPayload.toI32 : TransactionPayload → Int
  | .unspecified => 0
  | .full => 1
  | .metaOnly => 2
  | .rawOnly => 3
  | .transparentOnly => 4

def TransactionPayload.ofI32? : Int → Option TransactionPayload
  | 0 => some .unspecified
  | 1 => some .full
  | 2 => some .metaOnly
  | 3 => some .rawOnly
  | 4 => some .transparentOnly
  | _ => none

inductive MempoolAction where
  | unspecified | added | invalidated | mined
  deriving DecidableEq, Repr

def MempoolAction.toI32 : MempoolAction → Int
  | .unspecified => 0
  | .added => 1
  | .invalidated => 2
  | .mined => 3

def MempoolAction.ofI32? : Int → Option MempoolAction
  | 0 => some .unspecified
  | 1 => some .added
  | 2 => some .invalidated
  | 3 => some .mined
  | _ => none

inductive MempoolSnapshotPhase where
  | unspecified | begin | «end»
  deriving DecidableEq, Repr

def MempoolSnapshotPhase.toI32 : MempoolSnapshotPhase → Int
  | .unspecified => 0
  | .begin => 1
  | .end => 2

inductive BlockCommitment where
  | unspecified | accepted | finalized
  deriving DecidableEq, Repr

def BlockCommitment.toI32 : BlockCommitment → Int
  | .unspecified => 0
  | .accepted => 1
  | .finalized => 2

/-! ## Requests -/

structure CanonicalBlock where
  height : Nat := 0
  hash : String := ""
  previousBlockHash : String := ""
  deriving DecidableEq, Repr

structure ResumeCheckpoint where
  finalizedHeight : Nat := 0
  finalizedBlockHash : String := ""
  partialBlocks : List CanonicalBlock := []
  deriving DecidableEq, Repr

structure SubscribeRequestPing where
  id : Int := 0
  deriving DecidableEq, Repr

structure SubscribeRequestFilter where
  eventTypes : List Int := []
  minHeight : Option Nat := none
  transactionIds : List String := []
  transparentAddresses : List String := []
  addressInclude : List String := []
  addressExclude : List String := []
  addressRequired : List String := []
  coinbase : Option Bool := none
  transactionVersion : Option Nat := none
  hasTransparent : Option Bool := none
  hasSapling : Option Bool := none
  hasOrchard : Option Bool := none
  minValueZat : Option Nat := none
  blockPayload : Int := 0
  transactionPayload : Int := 0
  deriving DecidableEq

/-- `filters` is a hash map: an association list with distinct keys, in an
iteration order of its own. -/
structure SubscribeRequest where
  eventTypes : List Int := []
  fromHeight : Option Nat := none
  ping : Option SubscribeRequestPing := none
  filters : AList (fun _ : String => SubscribeRequestFilter) := ∅
  resume : Option ResumeCheckpoint := none
  includeMempoolSnapshot : Bool := false
  deriving DecidableEq

/-! ## Updates -/

structure Timestamp where
  seconds : Int := 0
  nanos : Int := 0
  deriving DecidableEq, Repr

structure BlockUpdate where
  height : Nat := 0
  hash : String := ""
  block : Bytes := []
  receiptOrder : Option Nat := none
  finalized : Bool := false
  payload : Int := 0
  deriving DecidableEq, Repr

structure BestChainGrow where
  previousBlockHash : String := ""
  transactionIds : List String := []
  deriving DecidableEq, Repr

structure BestChainReset where
  disconnectedBlocks : List CanonicalBlock := []
  connectedBlocks : List CanonicalBlock := []
  diffComplete : Bool := false
  deriving DecidableEq, Repr

inductive BestChainChange where
  | grow (grow : BestChainGrow)
  | reset (reset : BestChainReset)
  deriving DecidableEq, Repr

structure BestChainUpdate where
  height : Nat := 0
  hash : String := ""
  change : Option BestChainChange := none
  deriving DecidableEq, Repr

structure MempoolUpdate where
  action : Int := 0
  transactionIds : List String := []
  deriving DecidableEq, Repr

structure Outpoint where
  transactionId : String := ""
  outputIndex : Nat := 0
  deriving DecidableEq, Repr

structure TransparentPrevoutInput where
  previousOutput : Option Outpoint := none
  unlockScript : Bytes := []
  previousValueZat : Option Nat := none
  previousLockScript : Option Bytes := none
  previousAddress : Option String := none
  previousHeight : Option Nat := none
  previousFromCoinbase : Option Bool := none
  deriving DecidableEq, Repr

structure TransparentCoinbaseInput where
  height : Nat := 0
  data : Bytes := []
  deriving DecidableEq, Repr

inductive TransparentInputKind where
  | prevout (prevout : TransparentPrevoutInput)
  | coinbase (coinbase : TransparentCoinbaseInput)
  deriving DecidableEq, Repr

structure TransparentInput where
  inputIndex : Nat := 0
  sequence : Nat := 0
  input : Option TransparentInputKind := none
  deriving DecidableEq, Repr

structure TransparentOutput where
  outputIndex : Nat := 0
  valueZat : Nat := 0
  lockScript : Bytes := []
  address : Option String := none
  deriving DecidableEq, Repr

structure TransactionUpdate where
  transactionId : String := ""
  unminedTransactionId : String := ""
  authDigest : Option String := none
  transaction : Bytes := []
  height : Nat := 0
  blockHash : String := ""
  transactionIndex : Nat := 0
  commitment : Int := 0
  coinbase : Bool := false
  transparentInputs : List TransparentInput := []
  transparentOutputs : List TransparentOutput := []
  version : Nat := 0
  lockTime : Nat := 0
  lockTimeIsTime : Bool := false
  expiryHeight : Option Nat := none
  network : String := ""
  transparentInputValueZat : Option Nat := none
  transparentOutputValueZat : Nat := 0
  hasTransparent : Bool := false
  hasSapling : Bool := false
  hasOrchard : Bool := false
  payload : Int := 0
  deriving DecidableEq, Repr

/-- `feeWeightRatio` is the bit pattern of an `f32`, which is only copied. -/
structure MempoolTransactionUpdate where
  transactionId : String := ""
  unminedTransactionId : String := ""
  authDigest : Option String := none
  transaction : Bytes := []
  network : String := ""
  transparentInputs : List TransparentInput := []
  transparentOutputs : List TransparentOutput := []
  version : Nat := 0
  lockTime : Nat := 0
  lockTimeIsTime : Bool := false
  expiryHeight : Option Nat := none
  transparentInputValueZat : Option Nat := none
  transparentOutputValueZat : Nat := 0
  minerFeeZat : Nat := 0
  admittedAt : Option Timestamp := none
  admittedHeight : Option Nat := none
  conventionalActions : Nat := 0
  unpaidActions : Nat := 0
  legacySigopCount : Nat := 0
  p2shSigopCount : Nat := 0
  feeWeightRatio : UInt32 := 0
  coinbase : Bool := false
  hasTransparent : Bool := false
  hasSapling : Bool := false
  hasOrchard : Bool := false
  payload : Int := 0
  deriving DecidableEq, Repr

structure UtxoCreated where
  outpoint : Option Outpoint := none
  valueZat : Nat := 0
  lockScript : Bytes := []
  address : Option String := none
  deriving DecidableEq, Repr

structure UtxoSpent where
  outpoint : Option Outpoint := none
  inputIndex : Nat := 0
  unlockScript : Bytes := []
  sequence : Nat := 0
  previousValueZat : Option Nat := none
  previousLockScript : Option Bytes := none
  previousAddress : Option String := none
  previousHeight : Option Nat := none
  previousFromCoinbase : Option Bool := none
  deriving DecidableEq, Repr

inductive UtxoChangeKind where
  | created (created : UtxoCreated)
  | spent (spent : UtxoSpent)
  deriving DecidableEq, Repr

structure UtxoChange where
  change : Option UtxoChangeKind := none
  deriving DecidableEq, Repr

structure UtxoUpdate where
  height : Nat := 0
  blockHash : String := ""
  transactionId : String := ""
  transactionIndex : Nat := 0
  commitment : Int := 0
  changes : List UtxoChange := []
  coinbase : Bool := false
  version : Nat := 0
  hasTransparent : Bool := false
  hasSapling : Bool := false
  hasOrchard : Bool := false
  transparentInputValueZat : Option Nat := none
  transparentOutputValueZat : Nat := 0
  deriving DecidableEq, Repr

structure PongUpdate where
  id : Int := 0
  deriving DecidableEq, Repr

structure PingUpdate where
  id : Int := 0
  deriving DecidableEq, Repr

structure ReconnectUpdate where
  finalizedHeight : Nat := 0
  finalizedBlockHash : String := ""
  discardedBlocks : List CanonicalBlock := []
  deriving DecidableEq, Repr

structure MempoolSnapshotUpdate where
  phase : Int := 0
  revision : Nat := 0
  transactionCount : Nat := 0
  deriving DecidableEq, Repr

/-- The `oneof` of a `SubscribeUpdate`. -/
inductive Update where
  | block (block : BlockUpdate)
  | bestChain (bestChain : BestChainUpdate)
  | mempool (mempool : MempoolUpdate)
  | pong (pong : PongUpdate)
  | transaction (transaction : TransactionUpdate)
  | utxo (utxo : UtxoUpdate)
  | mempoolTransaction (transaction : MempoolTransactionUpdate)
  | ping (ping : PingUpdate)
  | reconnect (reconnect : ReconnectUpdate)
  | mempoolSnapshot (snapshot : MempoolSnapshotUpdate)
  deriving DecidableEq, Repr

structure SubscribeUpdate where
  schemaVersion : Nat := 0
  sessionId : Bytes := []
  sequence : Nat := 0
  observedAt : Option Timestamp := none
  eventType : Int := 0
  filters : List String := []
  sourceSequence : Nat := 0
  mempoolRevision : Option Nat := none
  update : Option Update := none
  deriving DecidableEq, Repr

instance : Inhabited SubscribeUpdate := ⟨{}⟩

end ZakuraGrpc
