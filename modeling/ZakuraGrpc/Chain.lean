import ZakuraGrpc.Lib.Hex
import ZakuraGrpc.Proto

/-!
# Node types

What the plugin reads of the node's own crates, `zakura_chain` and
`zakura_geyser_plugin_interface`. A transaction is the record of the values
its accessors return; printing, parsing and script decoding are the operations
of the class `ZakuraChain`.
-/

namespace ZakuraGrpc

/-! ## Identifiers -/

structure TransactionHash where
  bytes : Vector UInt8 32
  deriving DecidableEq

structure AuthDigest where
  bytes : Vector UInt8 32
  deriving DecidableEq

structure BlockHash where
  bytes : Vector UInt8 32
  deriving DecidableEq

/-- `UnminedTxId`: transactions before V5 have no authorizing-data digest. -/
inductive UnminedTxId where
  | legacy (minedId : TransactionHash)
  | witnessed (minedId : TransactionHash) (authDigest : AuthDigest)
  deriving DecidableEq

namespace UnminedTxId

def minedId : UnminedTxId → TransactionHash
  | legacy id => id
  | witnessed id _ => id

def authDigest : UnminedTxId → Option AuthDigest
  | legacy _ => none
  | witnessed _ digest => some digest

end UnminedTxId

inductive NetworkKind where
  | mainnet | testnet | regtest
  deriving DecidableEq

inductive Network where
  | mainnet
  | testnet (name : String)
  deriving DecidableEq

/-- `transparent::Address`. -/
inductive Address where
  | payToScriptHash (networkKind : NetworkKind) (scriptHash : Vector UInt8 20)
  | payToPublicKeyHash (networkKind : NetworkKind) (pubKeyHash : Vector UInt8 20)
  | tex (networkKind : NetworkKind) (validatingKeyHash : Vector UInt8 20)
  deriving DecidableEq

/-- Operations of the node's crates. -/
class ZakuraChain where
  transactionHashToString : TransactionHash → String
  parseTransactionHash : String → Option TransactionHash
  authDigestToString : AuthDigest → String
  blockHashToString : BlockHash → String
  networkToString : Network → String
  addressToString : Address → String
  parseAddress : String → Option Address
  /-- The address an output script pays to, when it is recognized. -/
  scriptAddress : Network → Bytes → Option Address

/-! ## Hexadecimal text forms -/

/-- A hash as digits in display order, the last byte first. -/
def printDisplayOrder (bytes : Vector UInt8 32) : String :=
  String.ofList (Hex.write bytes.toList.reverse)

def parseDisplayOrder (text : String) : Option (Vector UInt8 32) := do
  let bytes ← Hex.read text.toList
  if h : bytes.length = 32 then some ⟨bytes.reverse.toArray, by simp [h]⟩ else none

/-- The text forms of hashes and digests; no address is read or printed. -/
@[reducible] def hexChain : ZakuraChain where
  transactionHashToString hash := printDisplayOrder hash.bytes
  parseTransactionHash text := (parseDisplayOrder text).map TransactionHash.mk
  authDigestToString digest := printDisplayOrder digest.bytes
  blockHashToString hash := printDisplayOrder hash.bytes
  networkToString
    | .mainnet => "Mainnet"
    | .testnet name => name
  addressToString _ := ""
  parseAddress _ := none
  scriptAddress _ _ := none

theorem length_printDisplayOrder (bytes : Vector UInt8 32) :
    (printDisplayOrder bytes).length = 64 := by
  simp [printDisplayOrder]

theorem parse_printDisplayOrder (bytes : Vector UInt8 32) :
    parseDisplayOrder (printDisplayOrder bytes) = some bytes := by
  have hbytes : bytes.toList.toArray = bytes.toArray := Array.toArray_toList
  simp [parseDisplayOrder, printDisplayOrder, Hex.read_write, hbytes]

/-! ## The addresses of one key -/

/-- The key hash with every byte six. -/
def sampleKeyHash : Vector UInt8 20 := Vector.replicate 20 6

/-- The output script that pays to it. -/
def sampleLockScript : Bytes := [0x76, 0xa9, 0x14] ++ sampleKeyHash.toList ++ [0x88, 0xac]

/-- Reads the two addresses of `sampleKeyHash` on the main network, prints both in the
form that starts with `t1`, and knows the script that pays to it. -/
@[reducible] def addressChain : ZakuraChain :=
  { hexChain with
    addressToString := fun address =>
      if address = .payToPublicKeyHash .mainnet sampleKeyHash ∨
          address = .tex .mainnet sampleKeyHash then
        "t1JRTH1TbJ2yTvVmi94YtEw6cDnhn3HoMp7"
      else ""
    parseAddress := fun text =>
      if text = "t1JRTH1TbJ2yTvVmi94YtEw6cDnhn3HoMp7" then
        some (.payToPublicKeyHash .mainnet sampleKeyHash)
      else if text = "tex1qcrqvpsxqcrqvpsxqcrqvpsxqcrqvpsxsx2mtr" then
        some (.tex .mainnet sampleKeyHash)
      else none
    scriptAddress := fun network script =>
      if network = .mainnet ∧ script = sampleLockScript then
        some (.payToPublicKeyHash .mainnet sampleKeyHash)
      else none }

/-! ## Transactions and blocks -/

structure OutPoint where
  hash : TransactionHash
  index : Nat
  deriving DecidableEq

/-- `value` is an `Amount<NonNegative>` in zatoshis. -/
structure Output where
  value : Nat
  lockScript : Bytes
  deriving DecidableEq

inductive Input where
  | prevOut (outpoint : OutPoint) (unlockScript : Bytes) (sequence : Nat)
  | coinbase (height : Nat) (data : Bytes) (sequence : Nat)
  deriving DecidableEq

/-- A UTXO with the height that created it (`OrderedUtxo`). -/
structure OrderedUtxo where
  output : Output
  height : Nat
  fromCoinbase : Bool
  deriving DecidableEq

/-- The accessors of a `Transaction`; `serialized` is `zcash_serialize_to_vec`. -/
structure Transaction where
  hash : TransactionHash
  authDigest : Option AuthDigest
  serialized : Except String Bytes
  inputs : List Input
  outputs : List Output
  version : Nat
  rawLockTime : Nat
  lockTimeIsTime : Bool
  expiryHeight : Option Nat
  isCoinbase : Bool
  hasTransparentInputsOrOutputs : Bool
  hasSaplingShieldedData : Bool
  hasOrchardShieldedData : Bool

/-- The admission time of a mempool transaction. -/
structure AdmissionTime where
  timestamp : Int
  timestampSubsecNanos : Nat

structure VerifiedUnminedTx where
  transaction : Transaction
  spentOutputs : List Output
  minerFee : Nat
  time : Option AdmissionTime
  height : Option Nat
  conventionalActions : Nat
  unpaidActions : Nat
  legacySigopCount : Nat
  p2shSigopCount : Nat
  feeWeightRatio : UInt32

structure Block where
  serialized : Except String Bytes
  transactions : List Transaction

/-! ## Plugin events -/

structure BlockEvent where
  block : Block
  height : Nat
  hash : BlockHash
  receiptOrder : Option Nat
  network : Network
  spentOutputs : AList (fun _ : OutPoint => OrderedUtxo)

structure InterfaceCanonicalBlock where
  height : Nat
  hash : BlockHash
  previousBlockHash : BlockHash

inductive InterfaceBestChainChange where
  | grow (height : Nat) (hash previousBlockHash : BlockHash)
      (transactionIds : List TransactionHash)
  | reset (height : Nat) (hash : BlockHash)
      (disconnectedBlocks connectedBlocks : List InterfaceCanonicalBlock) (diffComplete : Bool)

inductive MempoolEventKind where
  | added | invalidated | mined
  deriving DecidableEq

structure MempoolEvent where
  network : Network
  kind : MempoolEventKind
  transactionIds : List UnminedTxId
  transactions : List VerifiedUnminedTx

inductive PluginEvent where
  | blockAccepted (block : BlockEvent)
  | blockFinalized (block : BlockEvent)
  | bestChainChanged (change : InterfaceBestChainChange)
  | mempoolChanged (change : MempoolEvent)

/-- `sessionId` holds the big-endian bytes of the session number; `observedAt`
is in nanoseconds from the Unix epoch. -/
structure EventEnvelope where
  schemaVersion : Nat
  sessionId : Bytes
  sequence : Nat
  observedAt : Int
  payload : PluginEvent

structure PluginError where
  message : String
  deriving DecidableEq, Repr

end ZakuraGrpc
