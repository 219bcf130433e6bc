import BlockchainWatcher.Ipfs.Blockstore
import BlockchainWatcher.Ipfs.Fetched

/-! # `IPLDPublisher` for Bitcoin (`btc/publisher.go`)

The first error ends `Publish` with no `CIDPayload`, and the nodes already put
stay in IPFS. -/

namespace BlockchainWatcher.Btc

open Ipfs Ipld

/-- Modelled from the spec: `wire.BlockHeader`, read through the values
`Publish` takes from it. -/
structure BlockHeader where
  /-- `PrevBlock.String()`. -/
  prevBlock : String
  /-- `BlockHash().String()`. -/
  blockHash : String
  /-- `Timestamp.UnixNano()`. -/
  timestamp : Int
  bits : UInt32
  deriving DecidableEq, Repr

structure Transaction where
  fields : Bytes
  deriving DecidableEq, Repr

/-- Modelled from the spec: `TxInput`, carried through unread. -/
structure TxInput where
  fields : Bytes
  deriving DecidableEq, Repr

/-- Modelled from the spec: `TxOutput`, carried through unread. -/
structure TxOutput where
  fields : Bytes
  deriving DecidableEq, Repr

/-- Modelled from the spec: `TxModelWithInsAndOuts`, a transaction's row of the
manifest. The converter fills the metadata; `Publish` sets the CID and the
multihash key. -/
structure TxModelWithInsAndOuts where
  index : Int
  txHash : String
  cid : String
  mhKey : String
  segWit : Bool
  witnessHash : String
  txInputs : List TxInput
  txOutputs : List TxOutput
  deriving DecidableEq, Repr

/-- The `HeaderModel` as `Publish` fills it: the CID, which is all `Fetch`
reads, and the metadata the indexer stores. -/
structure HeaderModelRow extends HeaderModel where
  mhKey : String
  parentHash : String
  blockNumber : String
  blockHash : String
  timestamp : Int
  bits : UInt32
  deriving DecidableEq, Repr

/-- Modelled from the spec: `ConvertedPayload` for Bitcoin. -/
structure ConvertedPayload where
  blockHeight : Int
  header : BlockHeader
  txs : List Transaction
  txMetaData : List TxModelWithInsAndOuts
  deriving DecidableEq, Repr

/-- Modelled from the spec: `CIDPayload`, what `Publish` answers for the
indexer. -/
structure CIDPayload where
  headerCID : HeaderModelRow
  transactionCIDs : List TxModelWithInsAndOuts
  deriving DecidableEq, Repr

/-- The functions of other packages that `Publish` calls. -/
structure PublishCodec where
  /-- `ipld.FromHeaderAndTxs`: the header's node, a node per transaction and the
  nodes of the transaction trie. -/
  fromHeaderAndTxs : BlockHeader → List Transaction →
    Except String (IpldNode × List IpldNode × List IpldNode)
  /-- `shared.MultihashKeyFromCIDString`, whose error `Publish` drops. -/
  multihashKeyFromCIDString : String → String
  /-- `(cid.Cid).String`. -/
  cidString : Cid → String

/-- The Go runtime's panic on `trxMeta[i]` past the end of the slice, which
`Publish` does not recover: modelled as an error with its text. -/
def errIndexOutOfRange : String :=
  "runtime error: index out of range"

section Publisher

variable (codec : PublishCodec) (refuses : IpldNode → Blockstore → Option String)

/-- Modelled from the spec: `DagPut` of the publisher's putters, which all add
to the one IPFS node: put the node and answer its CID as a string. -/
def dagPut (node : IpldNode) (store : Blockstore) : Except String String × Blockstore :=
  match Blockstore.put refuses node store with
  | .error err => (.error err, store)
  | .ok store => (.ok (codec.cidString node.cid), store)

def publishHeader (header : IpldNode) (store : Blockstore) : Except String String × Blockstore :=
  dagPut codec refuses header store

def txRow (cid : String) (meta : TxModelWithInsAndOuts) : TxModelWithInsAndOuts :=
  { meta with cid := cid, mhKey := codec.multihashKeyFromCIDString cid }

@[simp] theorem txRow_cid (cid : String) (meta : TxModelWithInsAndOuts) :
    (txRow codec cid meta).cid = cid :=
  rfl

/-- The first loop of `publishTransactions`: each transaction's node is put,
then the metadata row at its index is read. -/
def publishTransactionsLoop (trxMeta : List TxModelWithInsAndOuts) :
    Nat → List IpldNode → List TxModelWithInsAndOuts → Blockstore →
      Except String (List TxModelWithInsAndOuts) × Blockstore
  | _, [], txCids, store => (.ok txCids, store)
  | i, tx :: rest, txCids, store =>
      match dagPut codec refuses tx store with
      | (.error err, store) => (.error err, store)
      | (.ok cid, store) =>
          match trxMeta[i]? with
          | none => (.error errIndexOutOfRange, store)
          | some meta =>
              publishTransactionsLoop trxMeta (i + 1) rest (txCids ++ [txRow codec cid meta]) store

def publishTrieNodes : List IpldNode → Blockstore → Option String × Blockstore
  | [], store => (none, store)
  | txNode :: rest, store =>
      match dagPut codec refuses txNode store with
      | (.error err, store) => (some err, store)
      | (.ok _, store) => publishTrieNodes rest store

def publishTransactions (transactions txTrie : List IpldNode)
    (trxMeta : List TxModelWithInsAndOuts) (store : Blockstore) :
    Except String (List TxModelWithInsAndOuts) × Blockstore :=
  match publishTransactionsLoop codec refuses trxMeta 0 transactions [] store with
  | (.error err, store) => (.error err, store)
  | (.ok txCids, store) =>
      match publishTrieNodes codec refuses txTrie store with
      | (some err, store) => (.error err, store)
      | (none, store) => (.ok txCids, store)

def headerRow (ipldPayload : ConvertedPayload) (headerCid : String) : HeaderModelRow where
  cid := headerCid
  mhKey := codec.multihashKeyFromCIDString headerCid
  parentHash := ipldPayload.header.prevBlock
  blockNumber := toString ipldPayload.blockHeight
  blockHash := ipldPayload.header.blockHash
  timestamp := ipldPayload.header.timestamp
  bits := ipldPayload.header.bits

def publish (ipldPayload : ConvertedPayload) (store : Blockstore) :
    Except String CIDPayload × Blockstore :=
  match codec.fromHeaderAndTxs ipldPayload.header ipldPayload.txs with
  | .error err => (.error err, store)
  | .ok (headerNode, txNodes, txTrieNodes) =>
      match publishHeader codec refuses headerNode store with
      | (.error err, store) => (.error err, store)
      | (.ok headerCid, store) =>
          match publishTransactions codec refuses txNodes txTrieNodes ipldPayload.txMetaData
              store with
          | (.error err, store) => (.error err, store)
          | (.ok transactionCids, store) =>
              (.ok ⟨headerRow codec ipldPayload headerCid, transactionCids⟩, store)

/-- The nodes `Publish` puts, in order: the header's, the transactions', the
trie's. -/
def publicationNodes (ipldPayload : ConvertedPayload) : List IpldNode :=
  match codec.fromHeaderAndTxs ipldPayload.header ipldPayload.txs with
  | .error _ => []
  | .ok (headerNode, txNodes, txTrieNodes) => headerNode :: (txNodes ++ txTrieNodes)

end Publisher

/-! ## A concrete publication -/

/-- Nodes that carry their CID's bytes: the header's node is named by the
block's hash, a transaction's by its fields, and the trie has one node. -/
def PublishCodec.sample : PublishCodec where
  fromHeaderAndTxs header txs :=
    .ok (⟨sampleCid header.blockHash, (sampleCid header.blockHash).raw⟩,
      txs.map (fun tx => ⟨⟨tx.fields⟩, tx.fields⟩),
      [⟨sampleCid "trie", (sampleCid "trie").raw⟩])
  multihashKeyFromCIDString text := "/blocks/" ++ text
  cidString := FetchCodec.sample.cidString

def samplePublication : ConvertedPayload where
  blockHeight := 5
  header := ⟨"p", "h", 0, 0⟩
  txs := [⟨[116]⟩]
  txMetaData := [⟨0, "t", "", "", false, "", [], []⟩]

def otherPublication : ConvertedPayload :=
  { samplePublication with header := ⟨"h", "g", 0, 0⟩, txs := [⟨[117]⟩] }

/-! ## Runs -/

section Runs

variable (codec : PublishCodec) (refuses : IpldNode → Blockstore → Option String)

theorem publishTrieNodes_eq (nodes : List IpldNode) (store : Blockstore) :
    publishTrieNodes codec refuses nodes store = Blockstore.putAll refuses nodes store := by
  induction nodes generalizing store with
  | nil => rfl
  | cons node nodes induction =>
      unfold publishTrieNodes Blockstore.putAll dagPut
      cases Blockstore.put refuses node store <;> simp [induction]

theorem publishTransactionsLoop_prefix (trxMeta : List TxModelWithInsAndOuts) (i : Nat)
    (txs : List IpldNode) (txCids : List TxModelWithInsAndOuts) (store : Blockstore) :
    ∃ k ≤ txs.length,
      (publishTransactionsLoop codec refuses trxMeta i txs txCids store).2 =
        Blockstore.insertAll (txs.take k) store ∧
      ∀ out, (publishTransactionsLoop codec refuses trxMeta i txs txCids store).1 = .ok out →
        k = txs.length := by
  induction txs generalizing i txCids store with
  | nil => exact ⟨0, le_rfl, rfl, fun _ _ => rfl⟩
  | cons tx txs induction =>
      unfold publishTransactionsLoop dagPut
      cases putting : Blockstore.put refuses tx store with
      | error err => exact ⟨0, Nat.zero_le _, rfl, by simp⟩
      | ok stored =>
          have inserted := (Blockstore.put_eq_ok.mp putting).2
          cases found : trxMeta[i]? with
          | none => exact ⟨1, by simp, by simp [inserted, Blockstore.insertAll], by simp⟩
          | some meta =>
              obtain ⟨k, bound, left, complete⟩ :=
                induction (i + 1) (txCids ++ [txRow codec (codec.cidString tx.cid) meta]) stored
              refine ⟨k + 1, by simpa using bound, ?_,
                fun out ended => by simp [complete out ended]⟩
              subst inserted
              exact left

private theorem take_publication (headerNode : IpldNode) (txNodes txTrieNodes : List IpldNode)
    (m : Nat) :
    (headerNode :: (txNodes ++ txTrieNodes)).take (txNodes.length + m + 1) =
      headerNode :: (txNodes ++ txTrieNodes.take m) := by
  rw [List.take_succ_cons, List.take_append_eq_append_take, List.take_of_length_le (by omega),
    Nat.add_sub_cancel_left]

theorem publish_snd_eq_insertAll_take (ipldPayload : ConvertedPayload) (store : Blockstore) :
    ∃ k ≤ (publicationNodes codec ipldPayload).length,
      (publish codec refuses ipldPayload store).2 =
        Blockstore.insertAll ((publicationNodes codec ipldPayload).take k) store ∧
      ∀ cidPayload, (publish codec refuses ipldPayload store).1 = .ok cidPayload →
        k = (publicationNodes codec ipldPayload).length := by
  unfold publish publicationNodes
  rcases nodes : codec.fromHeaderAndTxs ipldPayload.header ipldPayload.txs with
    _ | ⟨headerNode, txNodes, txTrieNodes⟩
  · exact ⟨0, le_rfl, rfl, by simp⟩
  simp only [publishHeader, dagPut]
  rcases putting : Blockstore.put refuses headerNode store with _ | stored
  · exact ⟨0, Nat.zero_le _, rfl, by simp⟩
  obtain rfl := (Blockstore.put_eq_ok.mp putting).2
  obtain ⟨j, jBound, jLeft, jComplete⟩ :=
    publishTransactionsLoop_prefix codec refuses ipldPayload.txMetaData 0 txNodes []
      (Blockstore.insert headerNode store)
  simp only [publishTransactions]
  rcases looped : publishTransactionsLoop codec refuses ipldPayload.txMetaData 0 txNodes []
      (Blockstore.insert headerNode store) with ⟨_ | txCids, mid⟩
  · rw [looped] at jLeft
    refine ⟨j + 1, by simp; omega, ?_, by simp⟩
    rw [jLeft, List.take_succ_cons, List.take_append_of_le_length jBound]
    rfl
  simp only [looped] at jLeft jComplete
  obtain rfl := jComplete txCids rfl
  rw [List.take_length] at jLeft
  obtain ⟨m, mBound, mLeft, mComplete⟩ := Blockstore.putAll_prefix refuses txTrieNodes mid
  dsimp only
  rw [publishTrieNodes_eq]
  rcases tried : Blockstore.putAll refuses txTrieNodes mid with ⟨_ | err, final⟩ <;>
    simp only [tried] at mLeft mComplete <;>
    refine ⟨txNodes.length + m + 1, by simp; omega, by
      rw [mLeft, jLeft, take_publication, Blockstore.insertAll_cons, Blockstore.insertAll_append],
      ?_⟩
  · simp [mComplete trivial]
  · simp

theorem publish_prefix (ipldPayload : ConvertedPayload) (store : Blockstore) :
    GoMap.Included store (publish codec refuses ipldPayload store).2 ∧
      ∃ k ≤ (publicationNodes codec ipldPayload).length,
        (publish codec refuses ipldPayload store).2 =
          Blockstore.insertAll ((publicationNodes codec ipldPayload).take k) store ∧
        ∀ cidPayload, (publish codec refuses ipldPayload store).1 = .ok cidPayload →
          k = (publicationNodes codec ipldPayload).length := by
  obtain ⟨k, bound, left, complete⟩ :=
    publish_snd_eq_insertAll_take codec refuses ipldPayload store
  exact ⟨left ▸ Blockstore.included_insertAll _, k, bound, left, complete⟩

variable {codec refuses}

theorem publishTransactionsLoop_eq_ok {trxMeta : List TxModelWithInsAndOuts} {i : Nat}
    {txs : List IpldNode} {txCids out : List TxModelWithInsAndOuts} {store store' : Blockstore}
    (run : publishTransactionsLoop codec refuses trxMeta i txs txCids store = (.ok out, store')) :
    store' = Blockstore.insertAll txs store ∧ txs.length ≤ (trxMeta.drop i).length ∧
      out = txCids ++ (txs.zip (trxMeta.drop i)).map fun pair =>
        txRow codec (codec.cidString pair.1.cid) pair.2 := by
  induction txs generalizing i txCids store with
  | nil =>
      simp only [publishTransactionsLoop, Prod.mk.injEq, Except.ok.injEq] at run
      obtain ⟨rfl, rfl⟩ := run
      simp [Blockstore.insertAll]
  | cons tx txs induction =>
      unfold publishTransactionsLoop dagPut at run
      cases putting : Blockstore.put refuses tx store with
      | error err => simp [putting] at run
      | ok stored =>
          cases found : trxMeta[i]? with
          | none => simp [putting, found] at run
          | some meta =>
              simp only [putting, found] at run
              obtain ⟨left, bound, rows⟩ := induction run
              obtain ⟨inside, rfl⟩ := List.getElem?_eq_some_iff.mp found
              have dropped := List.drop_eq_getElem_cons inside
              refine ⟨by rw [left, (Blockstore.put_eq_ok.mp putting).2]; rfl, ?_, ?_⟩
              · simp only [List.length_cons, List.length_drop] at bound ⊢
                omega
              · rw [rows, dropped]
                simp only [List.append_assoc, List.singleton_append, List.zip_cons_cons,
                  List.map_cons]

theorem publish_eq_ok {ipldPayload : ConvertedPayload} {store store' : Blockstore}
    {cidPayload : CIDPayload}
    (published : publish codec refuses ipldPayload store = (.ok cidPayload, store')) :
    ∃ headerNode txNodes txTrieNodes,
      codec.fromHeaderAndTxs ipldPayload.header ipldPayload.txs =
        .ok (headerNode, txNodes, txTrieNodes) ∧
      store' = Blockstore.insertAll (headerNode :: (txNodes ++ txTrieNodes)) store ∧
      txNodes.length ≤ ipldPayload.txMetaData.length ∧
      cidPayload = ⟨headerRow codec ipldPayload (codec.cidString headerNode.cid),
        (txNodes.zip ipldPayload.txMetaData).map fun pair =>
          txRow codec (codec.cidString pair.1.cid) pair.2⟩ := by
  unfold publish at published
  rcases nodes : codec.fromHeaderAndTxs ipldPayload.header ipldPayload.txs with
    _ | ⟨headerNode, txNodes, txTrieNodes⟩
  · simp [nodes] at published
  simp only [nodes, publishHeader, dagPut] at published
  rcases putting : Blockstore.put refuses headerNode store with _ | stored
  · simp [putting] at published
  simp only [putting, publishTransactions] at published
  rcases looped : publishTransactionsLoop codec refuses ipldPayload.txMetaData 0 txNodes [] stored
    with ⟨_ | txCids, mid⟩
  · simp [looped] at published
  simp only [looped] at published
  rcases tried : publishTrieNodes codec refuses txTrieNodes mid with ⟨_ | err, final⟩
  · simp only [tried, Prod.mk.injEq, Except.ok.injEq] at published
    obtain ⟨rfl, rfl⟩ := published
    obtain ⟨left, bound, rows⟩ := publishTransactionsLoop_eq_ok looped
    refine ⟨headerNode, txNodes, txTrieNodes, rfl, ?_, by simpa using bound, by simp [rows]⟩
    rw [publishTrieNodes_eq] at tried
    rw [Blockstore.putAll_eq_none tried, left, (Blockstore.put_eq_ok.mp putting).2,
      Blockstore.insertAll_cons, Blockstore.insertAll_append]
  · simp [tried] at published

theorem publish_retry {refuses' refuses'' : IpldNode → Blockstore → Option String}
    {ipldPayload : ConvertedPayload} {store store' store'' : Blockstore}
    {cidPayload cidPayload' : CIDPayload}
    (first : publish codec refuses' ipldPayload store = (.ok cidPayload, store'))
    (retried : publish codec refuses'' ipldPayload (publish codec refuses ipldPayload store).2 =
      (.ok cidPayload', store'')) :
    cidPayload' = cidPayload ∧ store'' = store' := by
  obtain ⟨headerNode, txNodes, txTrieNodes, nodes, stored, -, rfl⟩ := publish_eq_ok first
  obtain ⟨_, _, _, nodes', stored', -, rfl⟩ := publish_eq_ok retried
  obtain ⟨rfl, rfl, rfl⟩ := Prod.mk.inj_iff.mp (Except.ok.inj (nodes'.symm.trans nodes))
  obtain ⟨k, -, left, -⟩ := publish_snd_eq_insertAll_take codec refuses ipldPayload store
  rw [publicationNodes, nodes] at left
  exact ⟨rfl, by rw [stored', stored, left, Blockstore.insertAll_take]⟩

theorem publish_retry_sample :
    ∃ cidPayload store',
      publish PublishCodec.sample (fun _ _ => none) samplePublication (fun _ => none) =
        (.ok cidPayload, store') ∧
      (publish PublishCodec.sample (fun node _ => if node.cid = sampleCid "trie" then
        some "refused" else none) samplePublication (fun _ => none)).1 = .error "refused" ∧
      publish PublishCodec.sample (fun _ _ => none) samplePublication
        (publish PublishCodec.sample (fun node _ => if node.cid = sampleCid "trie" then
          some "refused" else none) samplePublication (fun _ => none)).2 =
        (.ok cidPayload, store') := by
  have first : publish PublishCodec.sample (fun _ _ => none) samplePublication (fun _ => none) =
      (.ok _, _) := Prod.ext rfl rfl
  have retried : publish PublishCodec.sample (fun _ _ => none) samplePublication
      (publish PublishCodec.sample (fun node _ => if node.cid = sampleCid "trie" then
        some "refused" else none) samplePublication (fun _ => none)).2 = (.ok _, _) :=
    Prod.ext rfl rfl
  obtain ⟨same, stored⟩ := publish_retry first retried
  exact ⟨_, _, first, rfl, same ▸ stored ▸ retried⟩

end Runs

/-- Modelled from the spec: the manifest the Retriever answers for a block
whose `CIDPayload` the Indexer inserted: the header's CID and the transactions'
CIDs, in the rows' order. -/
def CIDPayload.toCIDWrapper (blockNumber : Int) (cidPayload : CIDPayload) : CIDWrapper :=
  ⟨blockNumber, cidPayload.headerCID.toHeaderModel,
    cidPayload.transactionCIDs.map fun tx => ⟨tx.cid⟩⟩

/-! ## Round trip -/

section RoundTrip

variable {codec : PublishCodec} {refuses : IpldNode → Blockstore → Option String}

theorem txRows_cids {txNodes : List IpldNode} {trxMeta : List TxModelWithInsAndOuts}
    (bound : txNodes.length ≤ trxMeta.length) :
    (txNodes.zip trxMeta).map (fun pair => codec.cidString pair.1.cid) =
      txNodes.map fun node => codec.cidString node.cid := by
  conv_rhs => rw [← List.map_fst_zip txNodes trxMeta bound, List.map_map]
  rfl

theorem publish_fetch_round_trip {NodeType : Type} {fetchCodec : FetchCodec NodeType}
    {service : BlockService} {ipldPayload : ConvertedPayload} {store store' : Blockstore}
    {cidPayload : CIDPayload}
    (published : publish codec refuses ipldPayload store = (.ok cidPayload, store'))
    (agrees : store.Agrees (publicationNodes codec ipldPayload))
    (decodes : ∀ node ∈ publicationNodes codec ipldPayload,
      fetchCodec.decode (codec.cidString node.cid) = .ok node.cid)
    (serves : service.Serves store') :
    ∃ headerNode txNodes txTrieNodes,
      codec.fromHeaderAndTxs ipldPayload.header ipldPayload.txs =
        .ok (headerNode, txNodes, txTrieNodes) ∧
      ∃ transactions,
        fetch fetchCodec service (cidPayload.toCIDWrapper ipldPayload.blockHeight) =
          .ok ⟨ipldPayload.blockHeight, blockModel fetchCodec (blockOf headerNode),
            transactions⟩ ∧
        transactions.Perm (txNodes.map fun node => blockModel fetchCodec (blockOf node)) := by
  obtain ⟨headerNode, txNodes, txTrieNodes, nodes, stored, bound, rfl⟩ :=
    publish_eq_ok published
  have publication :
      publicationNodes codec ipldPayload = headerNode :: (txNodes ++ txTrieNodes) := by
    simp only [publicationNodes, nodes]
  rw [publication] at agrees decodes
  have holds := Blockstore.insertAll_holds agrees
  rw [← stored] at holds
  have published : ∀ node ∈ txNodes, node ∈ headerNode :: (txNodes ++ txTrieNodes) :=
    fun node member => List.mem_cons_of_mem _ (List.mem_append_left _ member)
  obtain ⟨transactions, fetched, perm⟩ := fetchBlockModels_of_serves serves codec.cidString
    (fun node member => decodes node (published node member))
    (fun node member => holds node (published node member))
  have header := fetchBlockModel_of_serves serves (decodes headerNode (List.mem_cons_self _ _))
    (holds headerNode (List.mem_cons_self _ _))
  refine ⟨headerNode, txNodes, txTrieNodes, nodes, transactions, ?_, perm⟩
  simp [fetch, fetchHeader, fetchTrxs, CIDPayload.toCIDWrapper, headerRow, header, List.map_map,
    Function.comp_def, txRows_cids bound, fetched]

theorem publish_fetch_round_trip_sample :
    ∃ cidPayload store', publish PublishCodec.sample (fun _ _ => none) samplePublication
        (fun _ => none) = (.ok cidPayload, store') ∧
      ∃ transactions, fetch FetchCodec.sample store'.blockService (cidPayload.toCIDWrapper 5) =
          .ok ⟨5, ⟨[104], "h"⟩, transactions⟩ ∧ transactions.Perm [⟨[116], "t"⟩] := by
  have published : publish PublishCodec.sample (fun _ _ => none) samplePublication (fun _ => none) =
      (.ok _, _) := Prod.ext rfl rfl
  have decodes : ∀ node ∈ publicationNodes PublishCodec.sample samplePublication,
      FetchCodec.sample.decode (PublishCodec.sample.cidString node.cid) = .ok node.cid := by
    intro node member
    simp only [publicationNodes, PublishCodec.sample, samplePublication, List.mem_cons,
      List.map_cons, List.map_nil, List.cons_append, List.nil_append, List.not_mem_nil,
      or_false] at member
    rcases member with rfl | rfl | rfl <;> rfl
  obtain ⟨_, _, _, nodes, transactions, fetched, perm⟩ := publish_fetch_round_trip published
    (by unfold Blockstore.Agrees; decide) decodes (Blockstore.serves_blockService _)
  cases nodes
  exact ⟨_, _, published, transactions, fetched, perm⟩

end RoundTrip

/-! ## Publish workers -/

/-- Modelled from the spec: the publish workers, which take the converted
payloads in some order and publish each in turn; an error ends only its own
block. -/
def publishEach (codec : PublishCodec) (refuses : IpldNode → Blockstore → Option String) :
    List ConvertedPayload → Blockstore → List (Except String CIDPayload) × Blockstore
  | [], store => ([], store)
  | ipldPayload :: rest, store =>
      match publish codec refuses ipldPayload store with
      | (result, store) =>
          match publishEach codec refuses rest store with
          | (results, store) => (result :: results, store)

section Workers

variable {codec : PublishCodec} {refuses : IpldNode → Blockstore → Option String}

theorem publish_snd_of_ok {ipldPayload : ConvertedPayload} {store store' : Blockstore}
    {cidPayload : CIDPayload}
    (published : publish codec refuses ipldPayload store = (.ok cidPayload, store')) :
    store' = Blockstore.insertAll (publicationNodes codec ipldPayload) store := by
  obtain ⟨headerNode, txNodes, txTrieNodes, nodes, stored, -⟩ := publish_eq_ok published
  rw [stored, publicationNodes, nodes]

theorem publishEach_snd {payloads : List ConvertedPayload} {store : Blockstore}
    (published : ∀ result ∈ (publishEach codec refuses payloads store).1,
      ∃ cidPayload, result = .ok cidPayload) :
    (publishEach codec refuses payloads store).2 =
      Blockstore.insertAll (payloads.flatMap (publicationNodes codec)) store := by
  induction payloads generalizing store with
  | nil => rfl
  | cons ipldPayload rest induction =>
      unfold publishEach at published ⊢
      rcases run : publish codec refuses ipldPayload store with ⟨result, mid⟩
      simp only [run] at published ⊢
      obtain ⟨cidPayload, rfl⟩ := published result (List.mem_cons_self _ _)
      rw [List.flatMap_cons, Blockstore.insertAll_append, ← publish_snd_of_ok run]
      exact induction fun result member => published result (List.mem_cons_of_mem _ member)

theorem publishEach_perm {refuses' : IpldNode → Blockstore → Option String}
    {payloads payloads' : List ConvertedPayload} {store : Blockstore}
    (perm : payloads.Perm payloads')
    (coherent : Blockstore.ContentAddressed (payloads.flatMap (publicationNodes codec)))
    (published : ∀ result ∈ (publishEach codec refuses payloads store).1,
      ∃ cidPayload, result = .ok cidPayload)
    (published' : ∀ result ∈ (publishEach codec refuses' payloads' store).1,
      ∃ cidPayload, result = .ok cidPayload) :
    (publishEach codec refuses payloads store).2 =
      (publishEach codec refuses' payloads' store).2 := by
  rw [publishEach_snd published, publishEach_snd published']
  exact Blockstore.insertAll_perm (perm.flatMap_right _) coherent

theorem publishEach_perm_sample :
    (publishEach PublishCodec.sample (fun _ _ => none) [samplePublication, otherPublication]
        (fun _ => none)).2 =
      (publishEach PublishCodec.sample (fun _ _ => none) [otherPublication, samplePublication]
        (fun _ => none)).2 := by
  have published : ∀ payloads : List ConvertedPayload,
      payloads = [samplePublication, otherPublication] ∨
        payloads = [otherPublication, samplePublication] →
      ∀ result ∈ (publishEach PublishCodec.sample (fun _ _ => none) payloads (fun _ => none)).1,
        ∃ cidPayload, result = .ok cidPayload := by
    rintro _ (rfl | rfl) result member <;>
      simp only [publishEach, publish, PublishCodec.sample, samplePublication, otherPublication,
        List.mem_cons, List.mem_singleton, List.not_mem_nil, or_false] at member <;>
      rcases member with rfl | rfl <;> exact ⟨_, rfl⟩
  exact publishEach_perm (List.Perm.swap _ _ _) (by unfold Blockstore.ContentAddressed; decide)
    (published _ (.inl rfl)) (published _ (.inr rfl))

end Workers

end BlockchainWatcher.Btc
