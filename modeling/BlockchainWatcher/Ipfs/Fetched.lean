import BlockchainWatcher.Eth.IpldFetcher
import BlockchainWatcher.Btc.IpldFetcher

/-! # What `Fetch` answers -/

namespace BlockchainWatcher

open Ipfs

/-! ## What a manifest names -/

section Stored

variable {NodeType : Type} (codec : FetchCodec NodeType) (store : Cid → Bytes)

def Ipfs.HoldsBlocks (cids : List String) (models : List BlockModel) : Prop :=
  ∃ decoded, cids.mapM' codec.decode = .ok decoded ∧ models.Perm (storedModels codec store decoded)

def Eth.storedStateNode (stateNode : Eth.StateNodeModel) :
    Except String (Eth.StateNode NodeType) := do
  let c ← codec.decode stateNode.cid
  pure ⟨⟨store c, codec.cidString c⟩, codec.hexToHash stateNode.stateKey,
    codec.resolveToNodeType stateNode.nodeType, stateNode.path⟩

def Eth.storedStorageNode (storageNode : Eth.StorageNodeWithStateKeyModel) :
    Except String (Eth.StorageNode NodeType) := do
  let c ← codec.decode storageNode.cid
  pure ⟨⟨store c, codec.cidString c⟩, codec.hexToHash storageNode.stateKey,
    codec.hexToHash storageNode.storageKey, codec.resolveToNodeType storageNode.nodeType,
    storageNode.path⟩

/-- What an Ethereum `Fetch` of `cidWrapper` holds: the header's block, the
blocks of the uncles, transactions and receipts, and a node for each state row
with a CID and each storage row with a CID and a state key, in the manifest's
order. -/
structure Eth.HoldsAll (cidWrapper : Eth.CIDWrapper) (iplds : Eth.IPLDs NodeType) : Prop where
  header : ∃ c, codec.decode cidWrapper.header.cid = .ok c ∧
    iplds.header = ⟨store c, codec.cidString c⟩
  uncles : HoldsBlocks codec store (cidWrapper.uncles.map Eth.UncleModel.cid) iplds.uncles
  transactions :
    HoldsBlocks codec store (cidWrapper.transactions.map Eth.TxModel.cid) iplds.transactions
  receipts : HoldsBlocks codec store (cidWrapper.receipts.map Eth.ReceiptModel.cid) iplds.receipts
  stateNodes : (cidWrapper.stateNodes.filter fun stateNode => !(stateNode.cid = "")).mapM'
    (Eth.storedStateNode codec store) = .ok iplds.stateNodes
  storageNodes : (cidWrapper.storageNodes.filter fun storageNode =>
      !(storageNode.cid = "" || storageNode.stateKey = "")).mapM'
    (Eth.storedStorageNode codec store) = .ok iplds.storageNodes

/-- What a Bitcoin `Fetch` of `cidWrapper` holds: the header's block and the
blocks of the transactions. -/
structure Btc.HoldsAll (cidWrapper : Btc.CIDWrapper) (iplds : Btc.IPLDs) : Prop where
  header : ∃ c, codec.decode cidWrapper.header.cid = .ok c ∧
    iplds.header = ⟨store c, codec.cidString c⟩
  transactions :
    HoldsBlocks codec store (cidWrapper.transactions.map Btc.TxModel.cid) iplds.transactions

end Stored

/-! ## Completeness -/

section Complete

variable {NodeType : Type} {codec : FetchCodec NodeType} {service : BlockService}
  {store : Cid → Bytes}

theorem Eth.storedStateNode_of_fetch (faithful : service.Faithful store)
    {stateNode : Eth.StateNodeModel} {node : Eth.StateNode NodeType}
    (fetched : Eth.fetchStateNode codec service stateNode = .ok node) :
    Eth.storedStateNode codec store stateNode = .ok node := by
  obtain ⟨c, decoded, fetched⟩ := except_bind_eq_ok.mp fetched
  obtain ⟨block, found, fetched⟩ := except_bind_eq_ok.mp fetched
  rw [faithful.getBlock c block found] at fetched
  simpa [Eth.storedStateNode, decoded] using fetched

theorem Eth.storedStorageNode_of_fetch (faithful : service.Faithful store)
    {storageNode : Eth.StorageNodeWithStateKeyModel} {node : Eth.StorageNode NodeType}
    (fetched : Eth.fetchStorageNode codec service storageNode = .ok node) :
    Eth.storedStorageNode codec store storageNode = .ok node := by
  obtain ⟨c, decoded, fetched⟩ := except_bind_eq_ok.mp fetched
  obtain ⟨block, found, fetched⟩ := except_bind_eq_ok.mp fetched
  rw [faithful.getBlock c block found] at fetched
  simpa [Eth.storedStorageNode, decoded] using fetched

theorem Eth.fetch_holdsAll (faithful : service.Faithful store) {cidWrapper : Eth.CIDWrapper}
    {iplds : Eth.IPLDs NodeType} (fetched : Eth.fetch codec service cidWrapper = .ok iplds) :
    Eth.HoldsAll codec store cidWrapper iplds := by
  obtain ⟨-, header, uncles, transactions, receipts, state, storage⟩ := Eth.fetch_eq_ok fetched
  rw [Eth.fetchState, fetchNodesLoop_eq] at state
  rw [Eth.fetchStorage, fetchNodesLoop_eq] at storage
  obtain ⟨stateNodes, stateRun, stateNodesEq⟩ := except_bind_eq_ok.mp state
  obtain ⟨storageNodes, storageRun, storageNodesEq⟩ := except_bind_eq_ok.mp storage
  simp only [except_pure, List.nil_append, Except.ok.injEq] at stateNodesEq storageNodesEq
  exact ⟨fetchBlockModel_eq_ok faithful header, fetchBlockModels_eq_none faithful uncles,
    fetchBlockModels_eq_none faithful transactions, fetchBlockModels_eq_none faithful receipts,
    stateNodesEq ▸ mapM'_congr_ok (fun _ _ _ => Eth.storedStateNode_of_fetch faithful) stateRun,
    storageNodesEq ▸
      mapM'_congr_ok (fun _ _ _ => Eth.storedStorageNode_of_fetch faithful) storageRun⟩

theorem Btc.fetch_holdsAll (faithful : service.Faithful store) {cidWrapper : Btc.CIDWrapper}
    {iplds : Btc.IPLDs} (fetched : Btc.fetch codec service cidWrapper = .ok iplds) :
    Btc.HoldsAll codec store cidWrapper iplds :=
  let ⟨header, transactions⟩ := Btc.fetch_eq_ok fetched
  ⟨fetchBlockModel_eq_ok faithful header, fetchBlockModels_eq_none faithful transactions⟩

theorem fetch_complete (faithful : service.Faithful store) :
    (∀ cidWrapper iplds, Eth.fetch codec service cidWrapper = .ok iplds →
      Eth.HoldsAll codec store cidWrapper iplds) ∧
    (∀ cidWrapper iplds, Btc.fetch codec service cidWrapper = .ok iplds →
      Btc.HoldsAll codec store cidWrapper iplds) :=
  ⟨fun _ _ => Eth.fetch_holdsAll faithful, fun _ _ => Btc.fetch_holdsAll faithful⟩

end Complete

/-! ## Short batches -/

/-- The CIDs decode, and fewer blocks come back than were asked for. -/
def Ipfs.FallsShort {NodeType : Type} (codec : FetchCodec NodeType) (service : BlockService)
    (cids : List String) : Prop :=
  ∃ decoded, cids.mapM' codec.decode = .ok decoded ∧
    (service.getBlocks decoded).length < decoded.length

/-- A sub-fetch whose batch falls short answers the blocks it received with the
error, and `Fetch`, once the steps before it succeed, answers the error alone. -/
theorem fetch_discards_short_batch {NodeType : Type} (codec : FetchCodec NodeType)
    (service : BlockService) (cidWrapper : Eth.CIDWrapper) (btcWrapper : Btc.CIDWrapper)
    {difficulty : Int} {header btcHeader : BlockModel}
    (difficultySet : codec.setString cidWrapper.header.totalDifficulty = some difficulty)
    (headerFetched : Eth.fetchHeader codec service cidWrapper.header = .ok header)
    (btcHeaderFetched : Btc.fetchHeader codec service btcWrapper.header = .ok btcHeader) :
    (∀ cids decoded, cids.mapM' codec.decode = .ok decoded →
      (service.getBlocks decoded).length < decoded.length →
      fetchBlockModels codec service cids =
        ((service.getBlocks decoded).map (blockModel codec), some errUnexpectedNumberOfIPLDs)) ∧
    (FallsShort codec service (cidWrapper.uncles.map Eth.UncleModel.cid) →
      Eth.fetch codec service cidWrapper = .error errUnexpectedNumberOfIPLDs) ∧
    (∀ uncles, Eth.fetchUncles codec service cidWrapper.uncles = (uncles, none) →
      FallsShort codec service (cidWrapper.transactions.map Eth.TxModel.cid) →
      Eth.fetch codec service cidWrapper = .error errUnexpectedNumberOfIPLDs) ∧
    (∀ uncles transactions, Eth.fetchUncles codec service cidWrapper.uncles = (uncles, none) →
      Eth.fetchTrxs codec service cidWrapper.transactions = (transactions, none) →
      FallsShort codec service (cidWrapper.receipts.map Eth.ReceiptModel.cid) →
      Eth.fetch codec service cidWrapper = .error errUnexpectedNumberOfIPLDs) ∧
    (FallsShort codec service (btcWrapper.transactions.map Btc.TxModel.cid) →
      Btc.fetch codec service btcWrapper = .error errUnexpectedNumberOfIPLDs) := by
  refine ⟨fun _ _ => fetchBlockModels_short, ?_, ?_, ?_, ?_⟩
  · rintro ⟨decoded, run, short⟩
    simp [Eth.fetch, difficultySet, headerFetched, Eth.fetchUncles,
      fetchBlockModels_short run short]
  · rintro uncles unclesFetched ⟨decoded, run, short⟩
    simp [Eth.fetch, difficultySet, headerFetched, unclesFetched, Eth.fetchTrxs,
      fetchBlockModels_short run short]
  · rintro uncles transactions unclesFetched transactionsFetched ⟨decoded, run, short⟩
    simp [Eth.fetch, difficultySet, headerFetched, unclesFetched, transactionsFetched,
      Eth.fetchRcts, fetchBlockModels_short run short]
  · rintro ⟨decoded, run, short⟩
    simp [Btc.fetch, btcHeaderFetched, Btc.fetchTrxs, fetchBlockModels_short run short]

/-! ## Concrete manifests -/

/-- `new(big.Int).SetString(text, 10)`: an optional sign and one or more
decimal digits, and nothing else. -/
def setStringBase10 (text : String) : Option Int :=
  let (negative, digits) := match text.toList with
    | '-' :: rest => (true, rest)
    | '+' :: rest => (false, rest)
    | all => (false, all)
  if digits ≠ [] ∧ digits.all Char.isDigit then
    let magnitude : Int :=
      digits.foldl (fun value digit => 10 * value + (digit.toNat - '0'.toNat : Nat)) 0
    some (if negative then -magnitude else magnitude)
  else none

/-- CIDs spelled by their bytes, an empty string failing to decode; keys read
as go-ethereum reads hex, total difficulties as `big.Int` reads decimal. -/
def FetchCodec.sample : FetchCodec Int where
  decode text := if text = "" then .error "cid too short" else
    .ok ⟨text.toList.map fun char => char.toNat.toUInt8⟩
  cidString c := String.mk (c.raw.map fun byte => Char.ofNat byte.toNat)
  hexToHash text := BitVec.ofNat 256 (Eth.hexValue text)
  setString := setStringBase10
  resolveToNodeType nodeType := nodeType

def sampleCid (text : String) : Cid :=
  ⟨text.toList.map fun char => char.toNat.toUInt8⟩

def sampleStore (c : Cid) : Bytes :=
  c.raw ++ c.raw

def sampleService : BlockService :=
  .ofStore (["h", "u", "t", "r", "s", "k"].map sampleCid) sampleStore

theorem sampleService_faithful : sampleService.Faithful sampleStore :=
  BlockService.faithful_ofStore _ _

/-- A manifest with one object of each kind, a state row with no CID and a
storage row with no state key. -/
def sampleManifest : Eth.CIDWrapper where
  blockNumber := 5
  header := ⟨"h", "1"⟩
  uncles := [⟨"u"⟩]
  transactions := [⟨"t", "", ""⟩]
  receipts := [⟨"r", "", [], [], [], []⟩]
  stateNodes := [⟨"", "0x1", 0, []⟩, ⟨"s", "0x2", 2, [1]⟩]
  storageNodes := [⟨"k", "0x2", "0x3", 2, [2]⟩, ⟨"k", "", "0x4", 2, []⟩]

theorem fetch_complete_sample :
    (∃ iplds, Eth.fetch FetchCodec.sample sampleService sampleManifest = .ok iplds ∧
      Eth.HoldsAll FetchCodec.sample sampleStore sampleManifest iplds) ∧
    ∃ iplds, Btc.fetch FetchCodec.sample sampleService ⟨5, ⟨"h"⟩, [⟨"t"⟩]⟩ = .ok iplds ∧
      Btc.HoldsAll FetchCodec.sample sampleStore ⟨5, ⟨"h"⟩, [⟨"t"⟩]⟩ iplds :=
  ⟨⟨_, rfl, (fetch_complete sampleService_faithful).1 _ _ rfl⟩, _, rfl,
    (fetch_complete sampleService_faithful).2 _ _ rfl⟩

/-- Of the transactions `t` and `x` the store holds `t` alone: `FetchTrxs`
answers the block of `t` with the error, and `Fetch` the error alone. -/
theorem fetch_discards_short_batch_sample :
    Eth.fetchTrxs FetchCodec.sample sampleService [⟨"t", "", ""⟩, ⟨"x", "", ""⟩] =
        ([⟨sampleStore (sampleCid "t"), "t"⟩], some errUnexpectedNumberOfIPLDs) ∧
      Eth.fetch FetchCodec.sample sampleService
          { sampleManifest with transactions := [⟨"t", "", ""⟩, ⟨"x", "", ""⟩] } =
        .error errUnexpectedNumberOfIPLDs ∧
      Btc.fetch FetchCodec.sample sampleService ⟨5, ⟨"h"⟩, [⟨"t"⟩, ⟨"x"⟩]⟩ =
        .error errUnexpectedNumberOfIPLDs :=
  let discards := fetch_discards_short_batch FetchCodec.sample sampleService
    { sampleManifest with transactions := [⟨"t", "", ""⟩, ⟨"x", "", ""⟩] }
    ⟨5, ⟨"h"⟩, [⟨"t"⟩, ⟨"x"⟩]⟩ rfl rfl rfl
  ⟨discards.1 ["t", "x"] _ rfl (by decide), discards.2.2.1 _ rfl ⟨_, rfl, by decide⟩,
    discards.2.2.2.2 ⟨_, rfl, by decide⟩⟩

end BlockchainWatcher
