import BlockchainWatcher.Eth.Selection

/-! # The response the filterer selects

`selectResponse` is the response the rules of `Selection` describe, each kind a
`List.filter`; `filter_eq_selectResponse` says `Filter` computes it. -/

namespace BlockchainWatcher.Eth

/-! ## Selection -/

def selectedHeaders (headerFilter : HeaderFilter) (block : Block) : List Header :=
  if headerFilter.off then [] else [block.header]

def selectedUncles (headerFilter : HeaderFilter) (block : Block) : List Header :=
  if headerFilter.off || !headerFilter.uncles then [] else block.uncles

def emittedTransactions (txFilter : TxFilter) (payload : IPLDPayload) :
    List (Transaction × TxModel) :=
  if txFilter.off then []
  else (payload.block.transactions.zip payload.txMetaData).filter fun pair =>
    decide (TxWanted txFilter pair.2)

def emittedHashes (codec : Codec) (txFilter : TxFilter) (payload : IPLDPayload) : List Hash :=
  (emittedTransactions txFilter payload).map fun pair => codec.transactionHash pair.1

def keptReceipts (receiptFilter : ReceiptFilter) (emitted : List Hash) (payload : IPLDPayload) :
    List (Receipt × ReceiptModel) :=
  if receiptFilter.off then []
  else (payload.receipts.zip payload.receiptMetaData).filter fun pair =>
    decide (ReceiptWanted receiptFilter emitted pair.1 pair.2)

def selectedStateNodes (codec : Codec) (stateFilter : StateFilter) (payload : IPLDPayload) :
    GoMap Hash Bytes :=
  if stateFilter.off then fun _ => none
  else assignSelected (fun stateNode => decide (StateNodeWanted codec stateFilter stateNode))
    TrieNode.key TrieNode.value payload.stateNodes fun _ => none

def selectedStorage (codec : Codec) (storageFilter : StorageFilter) (storageNodes : List TrieNode) :
    GoMap Hash Bytes :=
  assignSelected (fun storageNode =>
      decide (KeyListed codec.hexToHash storageFilter.storageKeys storageNode.key))
    TrieNode.key TrieNode.value storageNodes fun _ => none

def selectedStorageNodes (codec : Codec) (storageFilter : StorageFilter) (payload : IPLDPayload) :
    GoMap Hash (GoMap Hash Bytes) :=
  if storageFilter.off then fun _ => none
  else assignSelected
    (fun account => decide (KeyListed codec.addressKey storageFilter.addresses account.1))
    Prod.fst (fun account => selectedStorage codec storageFilter account.2)
    payload.storageNodes fun _ => none

def PassesRange (settings : SubscriptionSettings) (payload : IPLDPayload) : Prop :=
  checkRange (bigIntInt64 settings.start) (bigIntInt64 settings.ending)
    (bigIntInt64 payload.block.number) = true

instance (settings : SubscriptionSettings) (payload : IPLDPayload) :
    Decidable (PassesRange settings payload) :=
  inferInstanceAs (Decidable (checkRange (bigIntInt64 settings.start) (bigIntInt64 settings.ending)
    (bigIntInt64 payload.block.number) = true))

/-- The response the rules describe: the selected objects of each kind encoded
in order (the first encoding error ends it, in the order `Filter` encodes), and
the selected maps; the zero response outside the range. -/
def selectResponse (codec : Codec) (settings : SubscriptionSettings) (payload : IPLDPayload) :
    Except String StreamResponse :=
  if PassesRange settings payload then do
    let headersRlp ← (selectedHeaders settings.headerFilter payload.block).mapM' codec.encodeHeader
    let unclesRlp ← (selectedUncles settings.headerFilter payload.block).mapM' codec.encodeHeader
    let transactionsRlp ← (emittedTransactions settings.txFilter payload).mapM' fun pair =>
      codec.encodeTransaction pair.1
    let receiptsRlp ← (keptReceipts settings.receiptFilter
        (emittedHashes codec settings.txFilter payload) payload).mapM' fun pair =>
      codec.encodeReceiptForStorage pair.1
    pure { blockNumber := some payload.block.number, headersRlp, unclesRlp, transactionsRlp,
           receiptsRlp,
           stateNodesRlp := selectedStateNodes codec settings.stateFilter payload,
           storageNodesRlp := selectedStorageNodes codec settings.storageFilter payload }
  else .ok {}

/-- Every header, uncle, transaction and receipt of the payload has an RLP
encoding. -/
structure Encodable (codec : Codec) (payload : IPLDPayload) : Prop where
  header : ∃ bytes, codec.encodeHeader payload.block.header = .ok bytes
  uncles : ∀ uncle ∈ payload.block.uncles, ∃ bytes, codec.encodeHeader uncle = .ok bytes
  transactions : ∀ trx ∈ payload.block.transactions,
    ∃ bytes, codec.encodeTransaction trx = .ok bytes
  receipts : ∀ rct ∈ payload.receipts, ∃ bytes, codec.encodeReceiptForStorage rct = .ok bytes

/-- A payload `Filter` lets through the range gate, carrying only encodable
objects. -/
structure InRange (codec : Codec) (settings : SubscriptionSettings) (payload : IPLDPayload) :
    Prop where
  passesRange : PassesRange settings payload
  encodable : Encodable codec payload

theorem encodable_sample (payload : IPLDPayload) : Encodable Codec.sample payload :=
  ⟨⟨_, rfl⟩, fun _ _ => ⟨_, rfl⟩, fun _ _ => ⟨_, rfl⟩, fun _ _ => ⟨_, rfl⟩⟩

/-! ## `Filter` computes the selection -/

variable (codec : Codec)

theorem filterHeaders_empty (headerFilter : HeaderFilter) (payload : IPLDPayload) :
    filterHeaders codec headerFilter {} payload =
      (selectedHeaders headerFilter payload.block).mapM' codec.encodeHeader >>= fun headersRlp =>
        (selectedUncles headerFilter payload.block).mapM' codec.encodeHeader >>= fun unclesRlp =>
          pure { headersRlp, unclesRlp } := by
  unfold filterHeaders selectedHeaders selectedUncles
  cases headerFilter.off <;> cases headerFilter.uncles <;>
    cases encoded : codec.encodeHeader payload.block.header <;> simp [encoded]

theorem filterTransactions_eq (txFilter : TxFilter) (response : StreamResponse)
    (payload : IPLDPayload) :
    filterTransactions codec txFilter response payload =
      (emittedTransactions txFilter payload).mapM' (fun pair => codec.encodeTransaction pair.1) >>=
        fun encodings => pure (emittedHashes codec txFilter payload,
          { response with transactionsRlp := response.transactionsRlp ++ encodings }) := by
  unfold filterTransactions emittedHashes emittedTransactions
  split
  · simp
  · simp [filterTransactionsLoop_eq, checkTransactionAddrs_eq_decide]

theorem filerReceipts_eq (receiptFilter : ReceiptFilter) (response : StreamResponse)
    (payload : IPLDPayload) (emitted : List Hash) :
    filerReceipts codec receiptFilter response payload
        (if receiptFilter.matchTxs then emitted else []) =
      (keptReceipts receiptFilter emitted payload).mapM'
          (fun pair => codec.encodeReceiptForStorage pair.1) >>=
        fun encodings =>
          pure { response with receiptsRlp := response.receiptsRlp ++ encodings } := by
  unfold filerReceipts keptReceipts
  split
  · simp
  · simp [filerReceiptsLoop_eq, checkReceipts_eq_decide]

theorem filterState_eq (stateFilter : StateFilter) (response : StreamResponse)
    (payload : IPLDPayload) (fresh : response.stateNodesRlp = fun _ => none) :
    filterState codec stateFilter response payload =
      { response with stateNodesRlp := selectedStateNodes codec stateFilter payload } := by
  unfold filterState selectedStateNodes
  split
  · rw [← fresh]
  · simp [checkNodeKeys_map_eq_decide, StateNodeWanted]

theorem filterStorage_eq (storageFilter : StorageFilter) (response : StreamResponse)
    (payload : IPLDPayload) (fresh : response.storageNodesRlp = fun _ => none) :
    filterStorage codec storageFilter response payload =
      { response with storageNodesRlp := selectedStorageNodes codec storageFilter payload } := by
  unfold filterStorage selectedStorageNodes selectedStorage
  split
  · rw [← fresh]
  · simp [checkNodeKeys_map_eq_decide]

theorem filter_eq_selectResponse (settings : SubscriptionSettings) (payload : IPLDPayload) :
    filter codec settings payload = selectResponse codec settings payload := by
  unfold filter selectResponse PassesRange
  split
  · simp only [filterHeaders_empty, filterTransactions_eq, filerReceipts_eq, bind_assoc,
      except_pure, except_bind_ok]
    refine bind_congr fun headersRlp => bind_congr fun unclesRlp =>
      bind_congr fun transactionsRlp => bind_congr fun receiptsRlp => ?_
    simp [filterState_eq, filterStorage_eq]
  · rfl

/-! ## Successful responses -/

section Responses

variable {codec : Codec} {settings : SubscriptionSettings} {payload : IPLDPayload}

theorem mem_selectedUncles {headerFilter : HeaderFilter} {block : Block} {uncle : Header}
    (member : uncle ∈ selectedUncles headerFilter block) : uncle ∈ block.uncles := by
  unfold selectedUncles at member
  split at member
  · simp at member
  · exact member

theorem mem_emittedTransactions {txFilter : TxFilter} {pair : Transaction × TxModel}
    (member : pair ∈ emittedTransactions txFilter payload) :
    pair.1 ∈ payload.block.transactions := by
  unfold emittedTransactions at member
  split at member
  · simp at member
  · exact (List.of_mem_zip (List.mem_of_mem_filter member)).1

theorem mem_keptReceipts {receiptFilter : ReceiptFilter} {emitted : List Hash}
    {pair : Receipt × ReceiptModel} (member : pair ∈ keptReceipts receiptFilter emitted payload) :
    pair.1 ∈ payload.receipts := by
  unfold keptReceipts at member
  split at member
  · simp at member
  · exact (List.of_mem_zip (List.mem_of_mem_filter member)).1

theorem selectResponse_eq_ok_iff (passes : PassesRange settings payload)
    (response : StreamResponse) :
    selectResponse codec settings payload = .ok response ↔
      response.blockNumber = some payload.block.number ∧
        (selectedHeaders settings.headerFilter payload.block).mapM' codec.encodeHeader =
          .ok response.headersRlp ∧
        (selectedUncles settings.headerFilter payload.block).mapM' codec.encodeHeader =
          .ok response.unclesRlp ∧
        (emittedTransactions settings.txFilter payload).mapM'
          (fun pair => codec.encodeTransaction pair.1) = .ok response.transactionsRlp ∧
        (keptReceipts settings.receiptFilter (emittedHashes codec settings.txFilter payload)
          payload).mapM' (fun pair => codec.encodeReceiptForStorage pair.1) =
          .ok response.receiptsRlp ∧
        response.stateNodesRlp = selectedStateNodes codec settings.stateFilter payload ∧
        response.storageNodesRlp = selectedStorageNodes codec settings.storageFilter payload := by
  rw [selectResponse, if_pos passes]
  cases response
  simp only [except_bind_eq_ok, except_pure, Except.ok.injEq, StreamResponse.mk.injEq]
  constructor
  · rintro ⟨_, headers, _, uncles, _, transactions, _, receipts, rfl, rfl, rfl, rfl, rfl, rfl, rfl⟩
    exact ⟨rfl, headers, uncles, transactions, receipts, rfl, rfl⟩
  · rintro ⟨rfl, headers, uncles, transactions, receipts, rfl, rfl⟩
    exact ⟨_, headers, _, uncles, _, transactions, _, receipts, rfl, rfl, rfl, rfl, rfl, rfl, rfl⟩

theorem selectResponse_ok (settings : SubscriptionSettings) (encodable : Encodable codec payload) :
    ∃ response, selectResponse codec settings payload = .ok response := by
  unfold selectResponse
  split
  · obtain ⟨headersRlp, headers⟩ := mapM'_ok_of_forall codec.encodeHeader
      (selectedHeaders settings.headerFilter payload.block) fun header member => by
        unfold selectedHeaders at member
        split at member
        · simp at member
        · exact (List.mem_singleton.mp member) ▸ encodable.header
    obtain ⟨unclesRlp, uncles⟩ := mapM'_ok_of_forall codec.encodeHeader
      (selectedUncles settings.headerFilter payload.block) fun uncle member =>
        encodable.uncles uncle (mem_selectedUncles member)
    obtain ⟨transactionsRlp, transactions⟩ := mapM'_ok_of_forall
      (fun pair => codec.encodeTransaction pair.1) (emittedTransactions settings.txFilter payload)
      fun pair member => encodable.transactions pair.1 (mem_emittedTransactions member)
    obtain ⟨receiptsRlp, receipts⟩ := mapM'_ok_of_forall
      (fun pair => codec.encodeReceiptForStorage pair.1)
      (keptReceipts settings.receiptFilter (emittedHashes codec settings.txFilter payload) payload)
      fun pair member => encodable.receipts pair.1 (mem_keptReceipts member)
    simp [headers, uncles, transactions, receipts]
  · exact ⟨{}, rfl⟩

/-! ## The selected maps -/


theorem selectedStateNodes_eq_some {stateFilter : StateFilter} {payload : IPLDPayload}
    (stateOn : stateFilter.off = false) (distinct : (payload.stateNodes.map TrieNode.key).Nodup)
    (key : Hash) (value : Bytes) :
    selectedStateNodes codec stateFilter payload key = some value ↔
      ∃ stateNode ∈ payload.stateNodes, stateNode.key = key ∧ stateNode.value = value ∧
        KeyListed codec.addressKey stateFilter.addresses key ∧
        (stateNode.leaf = true ∨ stateFilter.intermediateNodes = true) := by
  rw [selectedStateNodes, if_neg (by simp [stateOn]), assignSelected_empty_eq_some distinct]
  constructor
  · rintro ⟨stateNode, member, wanted, rfl, rfl⟩
    exact ⟨stateNode, member, rfl, rfl, (of_decide_eq_true wanted).1, (of_decide_eq_true wanted).2⟩
  · rintro ⟨stateNode, member, rfl, rfl, listed, kept⟩
    exact ⟨stateNode, member, decide_eq_true ⟨listed, kept⟩, rfl, rfl⟩

theorem selectedStorage_eq_some {storageFilter : StorageFilter} {storageNodes : List TrieNode}
    (distinct : (storageNodes.map TrieNode.key).Nodup) (key : Hash) (value : Bytes) :
    selectedStorage codec storageFilter storageNodes key = some value ↔
      ∃ storageNode ∈ storageNodes, storageNode.key = key ∧ storageNode.value = value ∧
        KeyListed codec.hexToHash storageFilter.storageKeys key := by
  rw [selectedStorage, assignSelected_empty_eq_some distinct]
  constructor
  · rintro ⟨storageNode, member, wanted, rfl, rfl⟩
    exact ⟨storageNode, member, rfl, rfl, of_decide_eq_true wanted⟩
  · rintro ⟨storageNode, member, rfl, rfl, listed⟩
    exact ⟨storageNode, member, decide_eq_true listed, rfl, rfl⟩

theorem selectedStorageNodes_eq_some {storageFilter : StorageFilter} {payload : IPLDPayload}
    (storageOn : storageFilter.off = false) (stateKey : Hash) (storage : GoMap Hash Bytes) :
    selectedStorageNodes codec storageFilter payload stateKey = some storage ↔
      ∃ storageNodes, (stateKey, storageNodes) ∈ payload.storageNodes ∧
        KeyListed codec.addressKey storageFilter.addresses stateKey ∧
        selectedStorage codec storageFilter storageNodes = storage := by
  rw [selectedStorageNodes, if_neg (by simp [storageOn]),
    assignSelected_empty_eq_some payload.storageKeysDistinct]
  constructor
  · rintro ⟨⟨stateKey, storageNodes⟩, member, wanted, rfl, rfl⟩
    exact ⟨storageNodes, member, of_decide_eq_true wanted, rfl⟩
  · rintro ⟨storageNodes, member, listed, rfl⟩
    exact ⟨(stateKey, storageNodes), member, decide_eq_true listed, rfl, rfl⟩

end Responses

end BlockchainWatcher.Eth
