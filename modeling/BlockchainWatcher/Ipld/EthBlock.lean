import BlockchainWatcher.Eth.Types

/-! # `FromBlock` (`ipfs/ipld/eth_block.go`)

The node constructors and the tries, in files of the `ipld` package that are not
among the sources, are the fields of `IpldCodec`. -/

namespace BlockchainWatcher.Ipld

open BlockchainWatcher.Eth

/-- Modelled from the spec: an IPLD node, a `(CID, bytes)` pair. `EthTx`,
`EthTxTrie`, `EthReceipt` and `EthRctTrie` are all read through these two. -/
structure IpldNode where
  cid : Cid
  rawData : Bytes
  deriving DecidableEq, Repr

/-- Modelled from the spec: `EthHeader`, the header with its CID and RLP. -/
structure EthHeader where
  header : Header
  cid : Cid
  rawdata : Bytes
  deriving DecidableEq, Repr

/-- A trie is built by `add(idx, rawData)` calls; it is read through its
entries in order, from which the package computes `rootHash()` and
`getNodes()`. -/
structure TrieOps where
  rootHash : List (Nat × Bytes) → Bytes
  getNodes : List (Nat × Bytes) → List IpldNode

structure IpldCodec where
  /-- `getRLP` of a header. -/
  getRLP : Header → Bytes
  /-- `RawdataToCid(MEthHeader, rawdata, mh.KECCAK_256)`. -/
  rawdataToCid : Bytes → Except String Cid
  /-- `NewEthTx`. -/
  newEthTx : Transaction → Except String IpldNode
  /-- `NewReceipt`. -/
  newReceipt : Receipt → Except String IpldNode
  /-- `newTxTrie()`. -/
  txTrie : TrieOps
  /-- `newRctTrie()`. -/
  rctTrie : TrieOps

/-! ## Tries of transactions and receipts -/

/-- The loop of `processTransactions` and `processReceipts`: each object's node
is appended and its raw data added to the trie under its index. -/
def processLoop {α : Type} (newNode : α → Except String IpldNode) :
    List α → Nat → List IpldNode → List (Nat × Bytes) →
      Except String (List IpldNode × List (Nat × Bytes))
  | [], _, nodes, trie => .ok (nodes, trie)
  | object :: rest, idx, nodes, trie =>
      match newNode object with
      | .error err => .error err
      | .ok node =>
          processLoop newNode rest (idx + 1) (nodes ++ [node]) (trie ++ [(idx, node.rawData)])

def trieEntries (idx : Nat) (nodes : List IpldNode) : List (Nat × Bytes) :=
  (nodes.enumFrom idx).map fun entry => (entry.1, entry.2.rawData)

theorem processLoop_eq {α : Type} (newNode : α → Except String IpldNode) (objects : List α)
    (idx : Nat) (nodes : List IpldNode) (trie : List (Nat × Bytes)) :
    processLoop newNode objects idx nodes trie =
      objects.mapM' newNode >>= fun made => pure (nodes ++ made, trie ++ trieEntries idx made) := by
  induction objects generalizing idx nodes trie with
  | nil => simp [processLoop, trieEntries]
  | cons object rest induction =>
      cases made : newNode object <;> simp [processLoop, made, induction, trieEntries]

/-- `processTransactions` and `processReceipts`, on the node constructor, the
trie and the error text of each. -/
def processObjects {α : Type} (newNode : α → Except String IpldNode) (trie : TrieOps)
    (mismatch : String) (objects : List α) (expectedRoot : Bytes) :
    Except String (List IpldNode × List IpldNode) := do
  let (nodes, entries) ← processLoop newNode objects 0 [] []
  if trie.rootHash entries ≠ expectedRoot then .error mismatch
  else pure (nodes, trie.getNodes entries)

def processTransactions (codec : IpldCodec) (txs : List Transaction) (expectedTxRoot : Bytes) :
    Except String (List IpldNode × List IpldNode) :=
  processObjects codec.newEthTx codec.txTrie "wrong transaction hash computed" txs expectedTxRoot

def processReceipts (codec : IpldCodec) (rcts : List Receipt) (expectedRctRoot : Bytes) :
    Except String (List IpldNode × List IpldNode) :=
  processObjects codec.newReceipt codec.rctTrie "wrong receipt hash computed" rcts expectedRctRoot

theorem processObjects_root_mismatch {α : Type} {newNode : α → Except String IpldNode}
    {trie : TrieOps} {mismatch : String} {objects : List α} {expectedRoot : Bytes}
    {nodes : List IpldNode} (made : objects.mapM' newNode = .ok nodes)
    (wrongRoot : trie.rootHash (trieEntries 0 nodes) ≠ expectedRoot) :
    processObjects newNode trie mismatch objects expectedRoot = .error mismatch := by
  simp [processObjects, processLoop_eq, made, wrongRoot]

/-! ## `FromBlock` -/

/-- `FromBlock`. The error `processReceipts` returns is assigned and never
read: when it fails, the receipt node lists are `nil` and the call succeeds. -/
def fromBlock (codec : IpldCodec) (block : Block) (receipts : List Receipt) :
    Except String (EthHeader × List IpldNode × List IpldNode × List IpldNode × List IpldNode) := do
  let headerRawData := codec.getRLP block.header
  let cid ← codec.rawdataToCid headerRawData
  let ethHeader : EthHeader := ⟨block.header, cid, headerRawData⟩
  let (ethTxNodes, ethTxTrieNodes) ←
    processTransactions codec block.transactions block.header.txHash.bytes
  let (ethRctNodes, ethRctTrieNodes) :=
    match processReceipts codec receipts block.header.receiptHash.bytes with
    | .ok nodes => nodes
    | .error _ => ([], [])
  pure (ethHeader, ethTxNodes, ethTxTrieNodes, ethRctNodes, ethRctTrieNodes)

section FromBlock

variable {codec : IpldCodec} {block : Block} {receipts : List Receipt}

theorem fromBlock_eq_ok {ethHeader : EthHeader}
    {txNodes txTrieNodes rctNodes rctTrieNodes : List IpldNode} :
    fromBlock codec block receipts = .ok (ethHeader, txNodes, txTrieNodes, rctNodes, rctTrieNodes) ↔
      (∃ cid, codec.rawdataToCid (codec.getRLP block.header) = .ok cid ∧
        ethHeader = ⟨block.header, cid, codec.getRLP block.header⟩) ∧
      processTransactions codec block.transactions block.header.txHash.bytes =
        .ok (txNodes, txTrieNodes) ∧
      (processReceipts codec receipts block.header.receiptHash.bytes =
          .ok (rctNodes, rctTrieNodes) ∨
        (∃ err, processReceipts codec receipts block.header.receiptHash.bytes = .error err) ∧
          rctNodes = [] ∧ rctTrieNodes = []) := by
  unfold fromBlock
  cases headerCid : codec.rawdataToCid (codec.getRLP block.header) with
  | error err => simp [headerCid]
  | ok cid =>
      cases txs : processTransactions codec block.transactions block.header.txHash.bytes with
      | error err => simp [headerCid, txs]
      | ok made =>
          obtain ⟨madeTxs, madeTrie⟩ := made
          cases rcts : processReceipts codec receipts block.header.receiptHash.bytes with
          | error err => simp [headerCid, txs, rcts, eq_comm, and_assoc]
          | ok rctsMade =>
              obtain ⟨madeRcts, madeRctTrie⟩ := rctsMade
              simp [headerCid, txs, rcts, eq_comm, and_assoc]

theorem fromBlock_rejects_transaction_root_mismatch {cid : Cid} {txNodes : List IpldNode}
    (headerCid : codec.rawdataToCid (codec.getRLP block.header) = .ok cid)
    (made : block.transactions.mapM' codec.newEthTx = .ok txNodes)
    (wrongRoot : codec.txTrie.rootHash (trieEntries 0 txNodes) ≠ block.header.txHash.bytes) :
    fromBlock codec block receipts = .error "wrong transaction hash computed" := by
  simp [fromBlock, headerCid, processTransactions, processObjects_root_mismatch made wrongRoot]

theorem fromBlock_accepts_receipt_root_mismatch {cid : Cid} {txNodes txTrieNodes : List IpldNode}
    {rctNodes : List IpldNode}
    (headerCid : codec.rawdataToCid (codec.getRLP block.header) = .ok cid)
    (txs : processTransactions codec block.transactions block.header.txHash.bytes =
      .ok (txNodes, txTrieNodes))
    (made : receipts.mapM' codec.newReceipt = .ok rctNodes)
    (wrongRoot : codec.rctTrie.rootHash (trieEntries 0 rctNodes) ≠ block.header.receiptHash.bytes) :
    fromBlock codec block receipts =
      .ok (⟨block.header, cid, codec.getRLP block.header⟩, txNodes, txTrieNodes, [], []) :=
  fromBlock_eq_ok.mpr ⟨⟨cid, headerCid, rfl⟩, txs,
    .inr ⟨⟨_, processObjects_root_mismatch made wrongRoot⟩, rfl, rfl⟩⟩

end FromBlock

/-! ## A concrete block -/

def TrieOps.sample : TrieOps where
  rootHash entries := Hash.bytes (BitVec.ofNat 256 entries.length)
  getNodes entries := entries.map fun entry => ⟨⟨entry.2⟩, entry.2⟩

def IpldCodec.sample : IpldCodec where
  getRLP header := header.fields
  rawdataToCid rawdata := .ok ⟨rawdata⟩
  newEthTx trx := .ok ⟨⟨trx.fields⟩, trx.fields⟩
  newReceipt rct := .ok ⟨⟨rct.fields⟩, rct.fields⟩
  txTrie := TrieOps.sample
  rctTrie := TrieOps.sample

/-- A block with one transaction, whose header names the sample transaction
root `1` and the receipt root `2`. -/
def sampleBlock : Block :=
  ⟨⟨5, 1, 2, [1]⟩, [], [⟨[3]⟩]⟩

theorem fromBlock_sample_receipt_root_ignored :
    processReceipts IpldCodec.sample [⟨0, [5]⟩] sampleBlock.header.receiptHash.bytes =
        .error "wrong receipt hash computed" ∧
      fromBlock IpldCodec.sample sampleBlock [⟨0, [5]⟩] =
        .ok (⟨sampleBlock.header, ⟨[1]⟩, [1]⟩, [⟨⟨[3]⟩, [3]⟩], [⟨⟨[3]⟩, [3]⟩], [], []) :=
  ⟨processObjects_root_mismatch rfl (by decide),
    fromBlock_accepts_receipt_root_mismatch rfl rfl rfl (by decide)⟩

end BlockchainWatcher.Ipld
