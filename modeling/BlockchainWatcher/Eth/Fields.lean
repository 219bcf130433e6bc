import BlockchainWatcher.Eth.Response

/-! # The fields of `Filter`'s response -/

namespace BlockchainWatcher.Eth

/-! ## A payload for concrete runs -/

/-- A block at height `5` with an uncle, two transactions and their receipts, a
leaf and a branch state node, and a leaf and a branch storage slot. Under
`Codec.sample` the transactions hash to `1` and `2`, the receipts' hashes. -/
def samplePayload : IPLDPayload where
  block := ⟨⟨5, 0, 0, [1]⟩, [⟨5, 0, 0, [2]⟩], [⟨[3]⟩, ⟨[4, 4]⟩]⟩
  receipts := [⟨1, [5]⟩, ⟨2, [6]⟩]
  txMetaData := [⟨"", "0xa", "0xb"⟩, ⟨"", "0xc", "0xd"⟩]
  receiptMetaData := [⟨"", "", [], [], [], []⟩, ⟨"", "0xe", ["0x1"], ["0x2"], [], []⟩]
  stateNodes := [⟨1, [7], true⟩, ⟨2, [8], false⟩]
  storageNodes := [(1, [⟨3, [9], true⟩, ⟨4, [10], false⟩])]
  txMetaDataAligned := rfl
  receiptMetaDataAligned := rfl
  storageKeysDistinct := by decide

/-- Every filter on: transactions from `0xa`, receipts of those or of contract
`0xe` with topic `0x1`, leaf state nodes only. -/
def sampleSettings : SubscriptionSettings where
  start := 0
  ending := 0
  headerFilter := ⟨false, true⟩
  txFilter := ⟨false, ["0xa"], []⟩
  receiptFilter := ⟨false, true, ["0xe"], [["0x1"]]⟩
  stateFilter := ⟨false, [], false⟩
  storageFilter := ⟨false, [], [], false⟩

theorem sample_inRange : InRange Codec.sample sampleSettings samplePayload :=
  ⟨by decide, encodable_sample samplePayload⟩

theorem sample_storage_distinct (stateKey : Hash) (storageNodes : List TrieNode)
    (member : (stateKey, storageNodes) ∈ samplePayload.storageNodes) :
    (storageNodes.map TrieNode.key).Nodup := by
  simp only [samplePayload, List.mem_singleton, Prod.mk.injEq] at member
  exact member.2 ▸ by decide

section Fields

variable {codec : Codec} {settings : SubscriptionSettings} {payload : IPLDPayload}

theorem filter_ok_of_inRange (inRange : InRange codec settings payload) :
    ∃ response, filter codec settings payload = .ok response ∧
      selectResponse codec settings payload = .ok response := by
  obtain ⟨response, selected⟩ := selectResponse_ok settings inRange.encodable
  exact ⟨response, (filter_eq_selectResponse codec settings payload).trans selected, selected⟩

/-! ## Range gate -/

theorem passesRange_iff_of_int64 (startInt64 : -2 ^ 63 ≤ settings.start ∧ settings.start < 2 ^ 63)
    (endingInt64 : -2 ^ 63 ≤ settings.ending ∧ settings.ending < 2 ^ 63)
    (numberInt64 : -2 ^ 63 ≤ payload.block.number ∧ payload.block.number < 2 ^ 63) :
    PassesRange settings payload ↔
      settings.start ≤ payload.block.number ∧
        (settings.ending ≤ 0 ∨ payload.block.number ≤ settings.ending) := by
  rw [PassesRange, checkRange_eq_true_iff, toInt_bigIntInt64_of_lt _ startInt64.1 startInt64.2,
    toInt_bigIntInt64_of_lt _ endingInt64.1 endingInt64.2,
    toInt_bigIntInt64_of_lt _ numberInt64.1 numberInt64.2, and_comm]

theorem filter_range_gate (settings : SubscriptionSettings) (encodable : Encodable codec payload) :
    ∃ response, filter codec settings payload = .ok response ∧
      if PassesRange settings payload then response.blockNumber = some payload.block.number
      else response = {} := by
  obtain ⟨response, selected⟩ := selectResponse_ok settings encodable
  refine ⟨response, (filter_eq_selectResponse codec settings payload).trans selected, ?_⟩
  split
  · rename_i passes
    exact ((selectResponse_eq_ok_iff passes response).mp selected).1
  · rename_i outside
    rw [selectResponse, if_neg outside] at selected
    exact (Except.ok.inj selected).symm

theorem filter_range_gate_of_int64 (settings : SubscriptionSettings)
    (encodable : Encodable codec payload)
    (startInt64 : -2 ^ 63 ≤ settings.start ∧ settings.start < 2 ^ 63)
    (endingInt64 : -2 ^ 63 ≤ settings.ending ∧ settings.ending < 2 ^ 63)
    (numberInt64 : -2 ^ 63 ≤ payload.block.number ∧ payload.block.number < 2 ^ 63) :
    ∃ response, filter codec settings payload = .ok response ∧
      if settings.start ≤ payload.block.number ∧
          (settings.ending ≤ 0 ∨ payload.block.number ≤ settings.ending)
      then response.blockNumber = some payload.block.number else response = {} := by
  obtain ⟨response, answered, gated⟩ := filter_range_gate settings encodable
  exact ⟨response, answered,
    by simpa only [passesRange_iff_of_int64 startInt64 endingInt64 numberInt64] using gated⟩

theorem filter_range_gate_of_int64_sample :
    ∃ response, filter Codec.sample { sampleSettings with start := 6 } samplePayload =
      .ok response ∧ response = {} := by
  obtain ⟨response, answered, gated⟩ := filter_range_gate_of_int64 { sampleSettings with start := 6 }
    (encodable_sample samplePayload) (by decide) (by decide) (by decide)
  exact ⟨response, answered, by rwa [if_neg (by decide)] at gated⟩

theorem filter_start_two_pow_64 :
    ¬ (2 : Int) ^ 64 ≤ samplePayload.block.number ∧
      ∃ response, filter Codec.sample { sampleSettings with start := 2 ^ 64 } samplePayload =
        .ok response ∧ response.blockNumber = some 5 := by
  obtain ⟨response, answered, gated⟩ :=
    filter_range_gate { sampleSettings with start := 2 ^ 64 } (encodable_sample samplePayload)
  rw [if_pos (by decide)] at gated
  exact ⟨by decide, response, answered, gated⟩

/-! ## Transactions -/

theorem filterTransactions_hashes (txFilter : TxFilter) (start : StreamResponse)
    (encodable : Encodable codec payload) :
    ∃ next, filterTransactions codec txFilter start payload =
      .ok (emittedHashes codec txFilter payload, next) := by
  obtain ⟨encodings, encoded⟩ := mapM'_ok_of_forall (fun pair => codec.encodeTransaction pair.1)
    (emittedTransactions txFilter payload) fun pair member =>
      encodable.transactions pair.1 (mem_emittedTransactions member)
  exact ⟨_, by rw [filterTransactions_eq, encoded]; rfl⟩

theorem filter_transactionsRlp (inRange : InRange codec settings payload) :
    let wanted := (payload.block.transactions.zip payload.txMetaData).filter fun pair =>
      decide (TxWanted settings.txFilter pair.2)
    ∃ response, filter codec settings payload = .ok response ∧
      if settings.txFilter.off then
        response.transactionsRlp = [] ∧
          ∀ start, filterTransactions codec settings.txFilter start payload = .ok ([], start)
      else
        wanted.mapM' (fun pair => codec.encodeTransaction pair.1) = .ok response.transactionsRlp ∧
          ∀ start, ∃ next, filterTransactions codec settings.txFilter start payload =
            .ok (wanted.map fun pair => codec.transactionHash pair.1, next) := by
  intro wanted
  obtain ⟨response, answered, selected⟩ := filter_ok_of_inRange inRange
  obtain ⟨-, -, -, transactions, -⟩ :=
    (selectResponse_eq_ok_iff inRange.passesRange response).mp selected
  refine ⟨response, answered, ?_⟩
  split
  · rename_i off
    simp only [emittedTransactions, off, if_true, List.mapM'_nil, except_pure,
      Except.ok.injEq] at transactions
    exact ⟨transactions.symm, fun start => by simp [filterTransactions, off]⟩
  · rename_i filtering
    have emitted : emittedTransactions settings.txFilter payload = wanted := by
      simp [emittedTransactions, filtering, wanted]
    refine ⟨emitted ▸ transactions, fun start => ?_⟩
    simpa [emittedHashes, emitted] using filterTransactions_hashes settings.txFilter start
      inRange.encodable

theorem filter_transactionsRlp_sample :
    ∃ response, filter Codec.sample sampleSettings samplePayload = .ok response ∧
      response.transactionsRlp = [[3]] ∧
      ∃ next, filterTransactions Codec.sample sampleSettings.txFilter {} samplePayload =
        .ok ([1], next) := by
  obtain ⟨response, answered, kept, hashes⟩ := filter_transactionsRlp sample_inRange
  exact ⟨response, answered, Except.ok.inj (kept.symm.trans (by rfl : _ = .ok [[3]])), hashes {}⟩

/-! ## Receipts -/

theorem filter_receiptsRlp (inRange : InRange codec settings payload) :
    let emitted := emittedHashes codec settings.txFilter payload
    ∃ response, filter codec settings payload = .ok response ∧
      (emittedTransactions settings.txFilter payload).mapM'
        (fun pair => codec.encodeTransaction pair.1) = .ok response.transactionsRlp ∧
      (if settings.receiptFilter.off then response.receiptsRlp = []
       else ((payload.receipts.zip payload.receiptMetaData).filter fun pair =>
          decide (ReceiptWanted settings.receiptFilter emitted pair.1 pair.2)).mapM'
            (fun pair => codec.encodeReceiptForStorage pair.1) = .ok response.receiptsRlp) ∧
      ∀ hashes rct metaData, checkReceipts rct settings.receiptFilter.topics metaData.topics
          settings.receiptFilter.contracts metaData.contract
          (if settings.receiptFilter.matchTxs then hashes else []) =
        decide (ReceiptWanted settings.receiptFilter hashes rct metaData) := by
  intro emitted
  obtain ⟨response, answered, selected⟩ := filter_ok_of_inRange inRange
  obtain ⟨-, -, -, transactions, receipts, -⟩ :=
    (selectResponse_eq_ok_iff inRange.passesRange response).mp selected
  refine ⟨response, answered, transactions, ?_, checkReceipts_eq_decide settings.receiptFilter⟩
  unfold keptReceipts at receipts
  split
  · rename_i off
    simpa [off] using receipts.symm
  · rename_i filtering
    simpa [filtering] using receipts

theorem filter_receiptsRlp_sample :
    (∃ response, filter Codec.sample sampleSettings samplePayload = .ok response ∧
      response.receiptsRlp = [[5], [6]]) ∧
    ∃ response, filter Codec.sample
        { sampleSettings with receiptFilter := ⟨false, false, [], [[], ["0x2"]]⟩ } samplePayload =
        .ok response ∧ response.receiptsRlp = [[6]] := by
  obtain ⟨response, answered, -, kept, -⟩ := filter_receiptsRlp sample_inRange
  obtain ⟨response', answered', -, kept', -⟩ := filter_receiptsRlp
    (⟨by decide, encodable_sample samplePayload⟩ : InRange Codec.sample
      { sampleSettings with receiptFilter := ⟨false, false, [], [[], ["0x2"]]⟩ } samplePayload)
  exact ⟨⟨response, answered, Except.ok.inj (kept.symm.trans (by rfl : _ = .ok [[5], [6]]))⟩,
    response', answered', Except.ok.inj (kept'.symm.trans (by rfl : _ = .ok [[6]]))⟩

/-! ## State and storage -/

theorem filter_stateNodesRlp (inRange : InRange codec settings payload)
    (stateOn : settings.stateFilter.off = false)
    (distinct : (payload.stateNodes.map TrieNode.key).Nodup) :
    ∃ response, filter codec settings payload = .ok response ∧
      ∀ key value, response.stateNodesRlp key = some value ↔
        ∃ stateNode ∈ payload.stateNodes, stateNode.key = key ∧ stateNode.value = value ∧
          (settings.stateFilter.addresses = [] ∨ ∃ address ∈ settings.stateFilter.addresses,
            codec.keccak256Hash (codec.hexToAddress address).bytes = key) ∧
          (stateNode.leaf = true ∨ settings.stateFilter.intermediateNodes = true) := by
  obtain ⟨response, answered, selected⟩ := filter_ok_of_inRange inRange
  obtain ⟨-, -, -, -, -, state, -⟩ :=
    (selectResponse_eq_ok_iff inRange.passesRange response).mp selected
  exact ⟨response, answered, state ▸ selectedStateNodes_eq_some stateOn distinct⟩

/-- With every address, the leaf is sent and the branch node left out; with
the address keyed `2` and intermediate nodes, the branch node alone is sent. -/
theorem filter_stateNodesRlp_sample :
    (∃ response, filter Codec.sample sampleSettings samplePayload = .ok response ∧
      response.stateNodesRlp 1 = some [7] ∧ response.stateNodesRlp 2 = none) ∧
    ∃ response, filter Codec.sample { sampleSettings with stateFilter := ⟨false, ["0x2"], true⟩ }
        samplePayload = .ok response ∧
      response.stateNodesRlp 2 = some [8] ∧ response.stateNodesRlp 1 = none := by
  obtain ⟨response, answered, state⟩ := filter_stateNodesRlp sample_inRange rfl (by decide)
  obtain ⟨response', answered', state'⟩ := filter_stateNodesRlp
    (⟨by decide, encodable_sample samplePayload⟩ : InRange Codec.sample
      { sampleSettings with stateFilter := ⟨false, ["0x2"], true⟩ } samplePayload) rfl (by decide)
  refine ⟨⟨response, answered, (state 1 [7]).mpr ⟨_, .head _, rfl, rfl, .inl rfl, .inl rfl⟩,
    Option.eq_none_iff_forall_not_mem.mpr fun value found => ?_⟩, response', answered',
    (state' 2 [8]).mpr ⟨_, .tail _ (.head _), rfl, rfl, .inr ⟨_, .head _, by decide⟩, .inr rfl⟩,
    Option.eq_none_iff_forall_not_mem.mpr fun value found => ?_⟩
  · obtain ⟨stateNode, member, key, -, -, wanted⟩ := (state 2 value).mp found
    simp only [samplePayload, List.mem_cons, List.mem_singleton, List.not_mem_nil,
      or_false] at member
    rcases member with rfl | rfl <;> simp_all [sampleSettings]
  · obtain ⟨-, -, -, -, listed, -⟩ := (state' 1 value).mp found
    exact absurd listed (by decide)

theorem filter_storageNodesRlp (inRange : InRange codec settings payload)
    (storageOn : settings.storageFilter.off = false)
    (distinct : ∀ stateKey storageNodes, (stateKey, storageNodes) ∈ payload.storageNodes →
      (storageNodes.map TrieNode.key).Nodup) :
    ∃ response, filter codec settings payload = .ok response ∧
      ∀ stateKey key value,
        (∃ storage, response.storageNodesRlp stateKey = some storage ∧ storage key = some value) ↔
          ∃ storageNodes, (stateKey, storageNodes) ∈ payload.storageNodes ∧
            (settings.storageFilter.addresses = [] ∨ ∃ address ∈ settings.storageFilter.addresses,
              codec.keccak256Hash (codec.hexToAddress address).bytes = stateKey) ∧
            ∃ storageNode ∈ storageNodes, storageNode.key = key ∧ storageNode.value = value ∧
              (settings.storageFilter.storageKeys = [] ∨
                ∃ storageKey ∈ settings.storageFilter.storageKeys, codec.hexToHash storageKey = key) := by
  obtain ⟨response, answered, selected⟩ := filter_ok_of_inRange inRange
  obtain ⟨-, -, -, -, -, -, storage⟩ :=
    (selectResponse_eq_ok_iff inRange.passesRange response).mp selected
  refine ⟨response, answered, fun stateKey key value => ?_⟩
  simp only [storage, selectedStorageNodes_eq_some storageOn]
  constructor
  · rintro ⟨_, ⟨storageNodes, member, listed, rfl⟩, found⟩
    exact ⟨storageNodes, member, listed,
      (selectedStorage_eq_some (distinct stateKey storageNodes member) key value).mp found⟩
  · rintro ⟨storageNodes, member, listed, found⟩
    exact ⟨_, ⟨storageNodes, member, listed, rfl⟩,
      (selectedStorage_eq_some (distinct stateKey storageNodes member) key value).mpr found⟩

/-- `filterStorage` sends the branch storage node `4` although the filter leaves
intermediate nodes out. -/
theorem filter_sends_intermediate_storage_node :
    (⟨4, [10], false⟩ : TrieNode) ∈ (samplePayload.storageNodes.lookup 1).getD [] ∧
      sampleSettings.storageFilter.intermediateNodes = false ∧
      ∃ response, filter Codec.sample sampleSettings samplePayload = .ok response ∧
        ∃ storage, response.storageNodesRlp 1 = some storage ∧ storage 4 = some [10] := by
  obtain ⟨response, answered, storage⟩ :=
    filter_storageNodesRlp sample_inRange rfl sample_storage_distinct
  refine ⟨by decide, rfl, response, answered, (storage 1 4 [10]).mpr ?_⟩
  exact ⟨_, .head _, .inl rfl, _, .tail _ (.head _), rfl, rfl, .inl rfl⟩

end Fields

/-! ## Nothing selected -/

/-- Every collection `Filter` selects is empty: no header, uncle, transaction or
receipt, and no entry in the state or storage map. -/
structure SelectsNothing (codec : Codec) (settings : SubscriptionSettings)
    (payload : IPLDPayload) : Prop where
  headers : selectedHeaders settings.headerFilter payload.block = []
  uncles : selectedUncles settings.headerFilter payload.block = []
  transactions : emittedTransactions settings.txFilter payload = []
  receipts :
    keptReceipts settings.receiptFilter (emittedHashes codec settings.txFilter payload) payload = []
  stateNodes : selectedStateNodes codec settings.stateFilter payload = fun _ => none
  storageNodes : selectedStorageNodes codec settings.storageFilter payload = fun _ => none

theorem filter_selecting_nothing_sends_block_number {codec : Codec}
    {settings : SubscriptionSettings} {payload : IPLDPayload}
    (passes : PassesRange settings payload) (nothing : SelectsNothing codec settings payload) :
    filter codec settings payload = .ok { blockNumber := some payload.block.number } ∧
      filter codec settings payload ≠ .ok {} := by
  have answered : filter codec settings payload =
      .ok { blockNumber := some payload.block.number } := by
    rw [filter_eq_selectResponse, selectResponse_eq_ok_iff passes]
    simp [nothing.headers, nothing.uncles, nothing.transactions, nothing.receipts,
      nothing.stateNodes, nothing.storageNodes]
  exact ⟨answered, by simp [answered]⟩

/-- Every filter off: nothing is selected, and block `5` is still sent. -/
theorem filter_selecting_nothing_sends_block_number_sample :
    let settings := { sampleSettings with
      headerFilter.off := true, txFilter.off := true, receiptFilter.off := true,
      stateFilter.off := true, storageFilter.off := true }
    PassesRange settings samplePayload ∧ SelectsNothing Codec.sample settings samplePayload ∧
      filter Codec.sample settings samplePayload = .ok { blockNumber := some 5 } ∧
      filter Codec.sample settings samplePayload ≠ .ok {} :=
  ⟨by decide, ⟨rfl, rfl, rfl, rfl, rfl, rfl⟩,
    filter_selecting_nothing_sends_block_number (by decide) ⟨rfl, rfl, rfl, rfl, rfl, rfl⟩⟩

theorem filter_eq_zero_iff {codec : Codec} {payload : IPLDPayload}
    (settings : SubscriptionSettings) (encodable : Encodable codec payload) :
    (filter codec settings payload = .ok {} ↔ ¬PassesRange settings payload) ∧
      (PassesRange settings payload → ∃ response, filter codec settings payload = .ok response ∧
        response.blockNumber = some payload.block.number) ∧
      (PassesRange settings payload → SelectsNothing codec settings payload →
        filter codec settings payload = .ok { blockNumber := some payload.block.number }) := by
  obtain ⟨response, answered, gated⟩ := filter_range_gate settings encodable
  refine ⟨?_, fun passes => ⟨response, answered, by rwa [if_pos passes] at gated⟩,
    fun passes nothing => (filter_selecting_nothing_sends_block_number passes nothing).1⟩
  rw [answered, Except.ok.injEq]
  split at gated
  · exact iff_of_false (fun zero => by simp [zero] at gated) (not_not_intro ‹_›)
  · exact iff_of_true gated ‹_›

theorem filter_eq_zero_iff_sample :
    filter Codec.sample { sampleSettings with start := 6 } samplePayload = .ok {} ∧
      ∃ response, filter Codec.sample sampleSettings samplePayload = .ok response ∧
        response.blockNumber = some 5 :=
  ⟨(filter_eq_zero_iff _ (encodable_sample samplePayload)).1.mpr (by decide),
    (filter_eq_zero_iff _ (encodable_sample samplePayload)).2.1 (by decide)⟩

/-! ## The storage map's iteration order -/

section IterationOrder

variable (codec : Codec) {payload : IPLDPayload} {order : List (Hash × List TrieNode)}

theorem filterStorage_withStorageOrder (storageFilter : StorageFilter) (response : StreamResponse)
    (reordered : order.Perm payload.storageNodes) :
    filterStorage codec storageFilter response (payload.withStorageOrder order reordered) =
      filterStorage codec storageFilter response payload := by
  unfold filterStorage
  split
  · rfl
  · simp only [assignSelected_perm (payload.withStorageOrder order reordered).storageKeysDistinct
      reordered]

theorem filter_independent_of_storage_order (settings : SubscriptionSettings)
    (payload : IPLDPayload) {order : List (Hash × List TrieNode)}
    (reordered : order.Perm payload.storageNodes) :
    (∀ response, (filterStorage codec settings.storageFilter response
        (payload.withStorageOrder order reordered)).storageNodesRlp =
      (filterStorage codec settings.storageFilter response payload).storageNodesRlp) ∧
      filter codec settings (payload.withStorageOrder order reordered) =
        filter codec settings payload := by
  refine ⟨fun response => by rw [filterStorage_withStorageOrder], ?_⟩
  simp only [filter, filterStorage_withStorageOrder]
  rfl

theorem filter_independent_of_storage_order_sample :
    let payload : IPLDPayload := { samplePayload with
      storageNodes := [(1, [⟨3, [9], true⟩]), (2, [⟨4, [10], false⟩])]
      storageKeysDistinct := by decide }
    filter Codec.sample sampleSettings
        (payload.withStorageOrder [(2, [⟨4, [10], false⟩]), (1, [⟨3, [9], true⟩])]
          (.swap _ _ [])) =
      filter Codec.sample sampleSettings payload :=
  (filter_independent_of_storage_order Codec.sample sampleSettings _ (.swap _ _ [])).2

end IterationOrder

end BlockchainWatcher.Eth
