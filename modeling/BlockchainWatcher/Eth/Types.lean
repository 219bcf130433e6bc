import BlockchainWatcher.Foundation.Primitives

/-! # Ethereum payloads, subscriptions and responses

The go-ethereum functions the filterer calls are the fields of `Codec`. -/

namespace BlockchainWatcher.Eth

/-! ## Chain objects -/

/-- `types.Header`: the fields the watcher reads; `fields` holds the others. -/
structure Header where
  number : Int
  txHash : Hash
  receiptHash : Hash
  fields : Bytes
  deriving DecidableEq, Repr

structure Transaction where
  fields : Bytes
  deriving DecidableEq, Repr

structure Receipt where
  txHash : Hash
  fields : Bytes
  deriving DecidableEq, Repr

structure Block where
  header : Header
  uncles : List Header
  transactions : List Transaction
  deriving DecidableEq, Repr

def Block.number (block : Block) : Int :=
  block.header.number

structure Codec where
  /-- `rlp.EncodeToBytes` on a header or an uncle. -/
  encodeHeader : Header → Except String Bytes
  /-- `(*types.Transaction).EncodeRLP`. -/
  encodeTransaction : Transaction → Except String Bytes
  /-- `(*types.ReceiptForStorage).EncodeRLP`. -/
  encodeReceiptForStorage : Receipt → Except String Bytes
  /-- `(*types.Transaction).Hash`. -/
  transactionHash : Transaction → Hash
  /-- `crypto.Keccak256Hash`. -/
  keccak256Hash : Bytes → Hash
  /-- `common.HexToAddress`. -/
  hexToAddress : String → Address
  /-- `common.HexToHash`. -/
  hexToHash : String → Hash

/-- `crypto.Keccak256Hash(common.HexToAddress(addr).Bytes())`: the state key
of the account an address names. -/
def Codec.addressKey (codec : Codec) (addr : String) : Hash :=
  codec.keccak256Hash (codec.hexToAddress addr).bytes

/-! ## Converted payloads -/

/-- Modelled from the spec: `TxModel`, a transaction's row of the CID manifest.
The filterer reads `Src` and `Dst`, the fetcher `CID`. -/
structure TxModel where
  cid : String
  src : String
  dst : String
  deriving DecidableEq, Repr

/-- Modelled from the spec: `ReceiptModel`, a receipt's row of the CID
manifest, with the contract it created and the topics of its logs by slot. -/
structure ReceiptModel where
  cid : String
  contract : String
  topic0s : List String
  topic1s : List String
  topic2s : List String
  topic3s : List String
  deriving DecidableEq, Repr

/-- `[][]string{Topic0s, Topic1s, Topic2s, Topic3s}`, as `filerReceipts` builds it. -/
def ReceiptModel.topics (metaData : ReceiptModel) : List (List String) :=
  [metaData.topic0s, metaData.topic1s, metaData.topic2s, metaData.topic3s]

/-- Modelled from the spec: `TrieNode`, a state or storage trie node of the
block's state diff. -/
structure TrieNode where
  key : Hash
  value : Bytes
  leaf : Bool
  deriving DecidableEq, Repr

/-- Modelled from the spec: `IPLDPayload`, the converted block. The converter
builds one metadata row per transaction and per receipt, and `StorageNodes` is a
Go map from state key to that account's storage nodes, here its entries in one
iteration order. -/
structure IPLDPayload where
  block : Block
  receipts : List Receipt
  txMetaData : List TxModel
  receiptMetaData : List ReceiptModel
  stateNodes : List TrieNode
  storageNodes : List (Hash × List TrieNode)
  txMetaDataAligned : txMetaData.length = block.transactions.length
  receiptMetaDataAligned : receiptMetaData.length = receipts.length
  storageKeysDistinct : (storageNodes.map Prod.fst).Nodup

def IPLDPayload.withStorageOrder (payload : IPLDPayload) (order : List (Hash × List TrieNode))
    (reordered : order.Perm payload.storageNodes) : IPLDPayload :=
  { payload with
    storageNodes := order
    storageKeysDistinct := ((reordered.map Prod.fst).nodup_iff).mpr payload.storageKeysDistinct }

/-! ## Subscriptions -/

/-- Modelled from the spec: `HeaderFilter`. -/
structure HeaderFilter where
  off : Bool
  uncles : Bool
  deriving DecidableEq, Repr

/-- Modelled from the spec: `TxFilter`. -/
structure TxFilter where
  off : Bool
  src : List String
  dst : List String
  deriving DecidableEq, Repr

/-- Modelled from the spec: `ReceiptFilter`. -/
structure ReceiptFilter where
  off : Bool
  matchTxs : Bool
  contracts : List String
  topics : List (List String)
  deriving DecidableEq, Repr

/-- Modelled from the spec: `StateFilter`. -/
structure StateFilter where
  off : Bool
  addresses : List String
  intermediateNodes : Bool
  deriving DecidableEq, Repr

/-- Modelled from the spec: `StorageFilter`. -/
structure StorageFilter where
  off : Bool
  addresses : List String
  storageKeys : List String
  intermediateNodes : Bool
  deriving DecidableEq, Repr

/-- Modelled from the spec: `SubscriptionSettings` for Ethereum. `Start` and
`End` are `*big.Int`; `End ≤ 0` leaves the range open. -/
structure SubscriptionSettings where
  start : Int
  ending : Int
  headerFilter : HeaderFilter
  txFilter : TxFilter
  receiptFilter : ReceiptFilter
  stateFilter : StateFilter
  storageFilter : StorageFilter
  deriving DecidableEq, Repr

/-- Modelled from the spec: `StreamResponse`. The defaults are Go's zero
value: no block number, nil slices, nil maps. -/
structure StreamResponse where
  blockNumber : Option Int := none
  headersRlp : List Bytes := []
  unclesRlp : List Bytes := []
  transactionsRlp : List Bytes := []
  receiptsRlp : List Bytes := []
  stateNodesRlp : GoMap Hash Bytes := fun _ => none
  storageNodesRlp : GoMap Hash (GoMap Hash Bytes) := fun _ => none

/-! ## A codec for concrete runs -/

def hexDigitValue (digit : UInt8) : Option Nat :=
  if '0'.toNat ≤ digit.toNat ∧ digit.toNat ≤ '9'.toNat then some (digit.toNat - '0'.toNat)
  else if 'a'.toNat ≤ digit.toNat ∧ digit.toNat ≤ 'f'.toNat then
    some (digit.toNat - 'a'.toNat + 10)
  else if 'A'.toNat ≤ digit.toNat ∧ digit.toNat ≤ 'F'.toNat then
    some (digit.toNat - 'A'.toNat + 10)
  else none

/-- `hex.DecodeString` as `common.Hex2Bytes` calls it, read as a number: the
pairs of digits up to the first pair that is not hex, whose error is dropped. -/
def hexPairsValue : Bytes → Nat → Nat
  | high :: low :: rest, value =>
      match hexDigitValue high, hexDigitValue low with
      | some high, some low => hexPairsValue rest (256 * value + 16 * high + low)
      | _, _ => value
  | _, value => value

/-- `common.FromHex` read as a number: the bytes after a `0x` or `0X`, with a
`0` put in front of an odd count. -/
def hexValue (text : String) : Nat :=
  let bytes := text.data.flatMap String.utf8EncodeChar
  let digits := if bytes.take 2 = [48, 120] ∨ bytes.take 2 = [48, 88] then bytes.drop 2 else bytes
  hexPairsValue (if digits.length % 2 = 1 then 48 :: digits else digits) 0

/-- A codec for concrete runs: objects encode to their `fields`, hashes are
stand-ins, and hex strings are read as go-ethereum reads them, the address and
the hash keeping the low 20 and 32 bytes. -/
def Codec.sample : Codec where
  encodeHeader header := .ok header.fields
  encodeTransaction transaction := .ok transaction.fields
  encodeReceiptForStorage receipt := .ok receipt.fields
  transactionHash transaction := BitVec.ofNat 256 transaction.fields.length
  keccak256Hash bytes :=
    BitVec.ofNat 256 (bytes.foldl (fun value byte => 256 * value + byte.toNat) 0)
  hexToAddress text := BitVec.ofNat 160 (hexValue text)
  hexToHash text := BitVec.ofNat 256 (hexValue text)

end BlockchainWatcher.Eth
