import BlockchainWatcher.Ipfs.BlockService

/-! # `IPLDFetcher` for Bitcoin (`btc/ipld_fetcher.go`) -/

namespace BlockchainWatcher.Btc

open Ipfs

/-- Modelled from the spec: `HeaderModel`, the header's row of the manifest. -/
structure HeaderModel where
  cid : String
  deriving DecidableEq, Repr

/-- Modelled from the spec: `TxModel`, a transaction's row of the manifest. -/
structure TxModel where
  cid : String
  deriving DecidableEq, Repr

/-- Modelled from the spec: `CIDWrapper`, the CID manifest of one block. -/
structure CIDWrapper where
  blockNumber : Int
  header : HeaderModel
  transactions : List TxModel
  deriving DecidableEq, Repr

/-- Modelled from the spec: `IPLDs`, what `Fetch` answers. -/
structure IPLDs where
  blockNumber : Int
  header : BlockModel
  transactions : List BlockModel
  deriving DecidableEq, Repr

section Fetcher

variable {NodeType : Type} (codec : FetchCodec NodeType) (service : BlockService)

def fetchHeader (c : HeaderModel) : Except String BlockModel :=
  fetchBlockModel codec service c.cid

def fetchTrxs (cids : List TxModel) : List BlockModel × Option String :=
  fetchBlockModels codec service (cids.map TxModel.cid)

def fetch (cidWrapper : CIDWrapper) : Except String IPLDs := do
  let header ← fetchHeader codec service cidWrapper.header
  let transactions ← valueOrError (fetchTrxs codec service cidWrapper.transactions)
  pure ⟨cidWrapper.blockNumber, header, transactions⟩

variable {codec service} {cidWrapper : CIDWrapper}

theorem fetch_eq_ok {iplds : IPLDs} (fetched : fetch codec service cidWrapper = .ok iplds) :
    fetchHeader codec service cidWrapper.header = .ok iplds.header ∧
      fetchTrxs codec service cidWrapper.transactions = (iplds.transactions, none) := by
  obtain ⟨header, headerFetched, fetched⟩ := except_bind_eq_ok.mp fetched
  obtain ⟨transactions, transactionsFetched, fetched⟩ := except_bind_eq_ok.mp fetched
  cases Except.ok.inj ((except_pure _).symm.trans fetched)
  exact ⟨headerFetched, valueOrError_eq_ok.mp transactionsFetched⟩

end Fetcher

end BlockchainWatcher.Btc
