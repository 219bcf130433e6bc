import BlockchainWatcher.Ipfs.BlockService
import BlockchainWatcher.Eth.Types

/-! # `IPLDFetcher` for Ethereum (`eth/ipld_fetcher.go`)

The type assertion on the `shared` interface is not modelled: the manifest
arrives typed. -/

namespace BlockchainWatcher.Eth

open Ipfs

/-- Modelled from the spec: `HeaderModel`, the header's row of the manifest. -/
structure HeaderModel where
  cid : String
  totalDifficulty : String
  deriving DecidableEq, Repr

/-- Modelled from the spec: `UncleModel`. -/
structure UncleModel where
  cid : String
  deriving DecidableEq, Repr

/-- Modelled from the spec: `StateNodeModel`, a state node's CID, state key,
node type and path. -/
structure StateNodeModel where
  cid : String
  stateKey : String
  nodeType : Int
  path : Bytes
  deriving DecidableEq, Repr

/-- Modelled from the spec: `StorageNodeWithStateKeyModel`. -/
structure StorageNodeWithStateKeyModel where
  cid : String
  stateKey : String
  storageKey : String
  nodeType : Int
  path : Bytes
  deriving DecidableEq, Repr

/-- Modelled from the spec: `CIDWrapper`, the CID manifest of one block. -/
structure CIDWrapper where
  blockNumber : Int
  header : HeaderModel
  uncles : List UncleModel
  transactions : List TxModel
  receipts : List ReceiptModel
  stateNodes : List StateNodeModel
  storageNodes : List StorageNodeWithStateKeyModel

/-- Modelled from the spec: `StateNode`, a fetched state node and its metadata. -/
structure StateNode (NodeType : Type) where
  ipld : BlockModel
  stateLeafKey : Hash
  type : NodeType
  path : Bytes

/-- Modelled from the spec: `StorageNode`, a fetched storage node and its
metadata. -/
structure StorageNode (NodeType : Type) where
  ipld : BlockModel
  stateLeafKey : Hash
  storageLeafKey : Hash
  type : NodeType
  path : Bytes

/-- Modelled from the spec: `IPLDs`, what `Fetch` answers. -/
structure IPLDs (NodeType : Type) where
  blockNumber : Int
  totalDifficulty : Int
  header : BlockModel
  uncles : List BlockModel
  transactions : List BlockModel
  receipts : List BlockModel
  stateNodes : List (StateNode NodeType)
  storageNodes : List (StorageNode NodeType)

/-! ## Nodes fetched one by one -/

/-- The loop of `FetchState` and `FetchStorage`: rows that `skipped` are passed
over, the others fetched in order, and the first error ends it. -/
def fetchNodesLoop {α β : Type} (skipped : α → Bool) (fetchNode : α → Except String β) :
    List α → List β → Except String (List β)
  | [], nodes => .ok nodes
  | model :: rest, nodes =>
      if skipped model then fetchNodesLoop skipped fetchNode rest nodes
      else
        match fetchNode model with
        | .error err => .error err
        | .ok node => fetchNodesLoop skipped fetchNode rest (nodes ++ [node])

theorem fetchNodesLoop_eq {α β : Type} (skipped : α → Bool) (fetchNode : α → Except String β)
    (models : List α) (nodes : List β) :
    fetchNodesLoop skipped fetchNode models nodes =
      ((models.filter fun model => !skipped model).mapM' fetchNode) >>= fun fetched =>
        pure (nodes ++ fetched) := by
  induction models generalizing nodes with
  | nil => simp [fetchNodesLoop]
  | cons model rest induction =>
      by_cases skip : skipped model
      · simp [fetchNodesLoop, skip, induction]
      · cases fetched : fetchNode model <;> simp [fetchNodesLoop, skip, fetched, induction]

section Fetcher

variable {NodeType : Type} (codec : FetchCodec NodeType) (service : BlockService)

def fetchStateNode (stateNode : StateNodeModel) : Except String (StateNode NodeType) := do
  let dc ← codec.decode stateNode.cid
  let state ← service.getBlock dc
  pure ⟨blockModel codec state, codec.hexToHash stateNode.stateKey,
    codec.resolveToNodeType stateNode.nodeType, stateNode.path⟩

def fetchStorageNode (storageNode : StorageNodeWithStateKeyModel) :
    Except String (StorageNode NodeType) := do
  let dc ← codec.decode storageNode.cid
  let storage ← service.getBlock dc
  pure ⟨blockModel codec storage, codec.hexToHash storageNode.stateKey,
    codec.hexToHash storageNode.storageKey, codec.resolveToNodeType storageNode.nodeType,
    storageNode.path⟩

/-! ## The fetch methods -/

def fetchHeader (c : HeaderModel) : Except String BlockModel :=
  fetchBlockModel codec service c.cid

def fetchUncles (cids : List UncleModel) : List BlockModel × Option String :=
  fetchBlockModels codec service (cids.map UncleModel.cid)

def fetchTrxs (cids : List TxModel) : List BlockModel × Option String :=
  fetchBlockModels codec service (cids.map TxModel.cid)

def fetchRcts (cids : List ReceiptModel) : List BlockModel × Option String :=
  fetchBlockModels codec service (cids.map ReceiptModel.cid)

/-- `FetchState`: rows with no CID are skipped. -/
def fetchState (cids : List StateNodeModel) : Except String (List (StateNode NodeType)) :=
  fetchNodesLoop (fun stateNode => stateNode.cid = "") (fetchStateNode codec service) cids []

/-- `FetchStorage`: rows with no CID or no state key are skipped. -/
def fetchStorage (cids : List StorageNodeWithStateKeyModel) :
    Except String (List (StorageNode NodeType)) :=
  fetchNodesLoop (fun storageNode => storageNode.cid = "" || storageNode.stateKey = "")
    (fetchStorageNode codec service) cids []

def fetch (cidWrapper : CIDWrapper) : Except String (IPLDs NodeType) := do
  let some totalDifficulty := codec.setString cidWrapper.header.totalDifficulty
    | .error "eth fetcher: unable to set total difficulty"
  let header ← fetchHeader codec service cidWrapper.header
  let uncles ← valueOrError (fetchUncles codec service cidWrapper.uncles)
  let transactions ← valueOrError (fetchTrxs codec service cidWrapper.transactions)
  let receipts ← valueOrError (fetchRcts codec service cidWrapper.receipts)
  let stateNodes ← fetchState codec service cidWrapper.stateNodes
  let storageNodes ← fetchStorage codec service cidWrapper.storageNodes
  pure ⟨cidWrapper.blockNumber, totalDifficulty, header, uncles, transactions, receipts,
    stateNodes, storageNodes⟩

variable {codec service} {cidWrapper : CIDWrapper}

theorem fetch_eq_ok {iplds : IPLDs NodeType}
    (fetched : fetch codec service cidWrapper = .ok iplds) :
    codec.setString cidWrapper.header.totalDifficulty = some iplds.totalDifficulty ∧
      fetchHeader codec service cidWrapper.header = .ok iplds.header ∧
      fetchUncles codec service cidWrapper.uncles = (iplds.uncles, none) ∧
      fetchTrxs codec service cidWrapper.transactions = (iplds.transactions, none) ∧
      fetchRcts codec service cidWrapper.receipts = (iplds.receipts, none) ∧
      fetchState codec service cidWrapper.stateNodes = .ok iplds.stateNodes ∧
      fetchStorage codec service cidWrapper.storageNodes = .ok iplds.storageNodes := by
  unfold fetch at fetched
  cases difficulty : codec.setString cidWrapper.header.totalDifficulty with
  | none => simp [difficulty] at fetched
  | some totalDifficulty =>
      simp only [difficulty] at fetched
      obtain ⟨header, headerFetched, fetched⟩ := except_bind_eq_ok.mp fetched
      obtain ⟨uncles, unclesFetched, fetched⟩ := except_bind_eq_ok.mp fetched
      obtain ⟨transactions, transactionsFetched, fetched⟩ := except_bind_eq_ok.mp fetched
      obtain ⟨receipts, receiptsFetched, fetched⟩ := except_bind_eq_ok.mp fetched
      obtain ⟨stateNodes, stateFetched, fetched⟩ := except_bind_eq_ok.mp fetched
      obtain ⟨storageNodes, storageFetched, fetched⟩ := except_bind_eq_ok.mp fetched
      cases Except.ok.inj ((except_pure _).symm.trans fetched)
      exact ⟨rfl, headerFetched, valueOrError_eq_ok.mp unclesFetched,
        valueOrError_eq_ok.mp transactionsFetched, valueOrError_eq_ok.mp receiptsFetched,
        stateFetched, storageFetched⟩

end Fetcher

end BlockchainWatcher.Eth
