import BlockchainWatcher.Eth.Types

/-! # `ResponseFilterer` for Ethereum (`super_node/eth/filterer.go`)

An encoding error ends `Filter` with that error, as `.error`. Each loop of the
source is a structural recursion with its accumulators as arguments. -/

namespace BlockchainWatcher.Eth

variable (codec : Codec)

/-! ## Range gate -/

def checkRange (start ending actual : BitVec 64) : Bool :=
  (ending.sle 0 || actual.sle ending) && start.sle actual

theorem checkRange_eq_true_iff (start ending actual : BitVec 64) :
    checkRange start ending actual = true ↔
      (ending.toInt ≤ 0 ∨ actual.toInt ≤ ending.toInt) ∧ start.toInt ≤ actual.toInt := by
  simp [checkRange, BitVec.sle]

/-! ## Headers -/

def filterHeaders (headerFilter : HeaderFilter) (response : StreamResponse)
    (payload : IPLDPayload) : Except String StreamResponse :=
  if headerFilter.off then .ok response
  else do
    let headerRLP ← codec.encodeHeader payload.block.header
    let response := { response with headersRlp := response.headersRlp ++ [headerRLP] }
    if headerFilter.uncles then
      let unclesRlp ← payload.block.uncles.mapM' codec.encodeHeader
      pure { response with unclesRlp := unclesRlp }
    else pure response

/-! ## Transactions -/

def checkTransactionAddrs (wantedSrc wantedDst : List String) (actualSrc actualDst : String) :
    Bool :=
  if wantedDst.isEmpty && wantedSrc.isEmpty then true
  else wantedSrc.any (fun src => src == actualSrc) || wantedDst.any (fun dst => dst == actualDst)

/-- The loop of `filterTransactions` over the transactions and their metadata
rows: a kept transaction's hash and encoding are appended. -/
def filterTransactionsLoop (trxFilter : TxFilter) :
    List (Transaction × TxModel) → List Hash → List Bytes →
      Except String (List Hash × List Bytes)
  | [], trxHashes, transactionsRlp => .ok (trxHashes, transactionsRlp)
  | (trx, metaData) :: rest, trxHashes, transactionsRlp =>
      if checkTransactionAddrs trxFilter.src trxFilter.dst metaData.src metaData.dst then
        match codec.encodeTransaction trx with
        | .error err => .error err
        | .ok trxBuffer =>
            filterTransactionsLoop trxFilter rest (trxHashes ++ [codec.transactionHash trx])
              (transactionsRlp ++ [trxBuffer])
      else filterTransactionsLoop trxFilter rest trxHashes transactionsRlp

theorem filterTransactionsLoop_eq (trxFilter : TxFilter) (pairs : List (Transaction × TxModel))
    (trxHashes : List Hash) (transactionsRlp : List Bytes) :
    filterTransactionsLoop codec trxFilter pairs trxHashes transactionsRlp =
      let kept := pairs.filter fun pair =>
        checkTransactionAddrs trxFilter.src trxFilter.dst pair.2.src pair.2.dst
      (kept.mapM' fun pair => codec.encodeTransaction pair.1) >>= fun encodings =>
        pure (trxHashes ++ kept.map (fun pair => codec.transactionHash pair.1),
          transactionsRlp ++ encodings) := by
  induction pairs generalizing trxHashes transactionsRlp with
  | nil => simp [filterTransactionsLoop]
  | cons pair rest induction =>
      obtain ⟨trx, metaData⟩ := pair
      by_cases keep : checkTransactionAddrs trxFilter.src trxFilter.dst metaData.src metaData.dst
      · cases encoded : codec.encodeTransaction trx <;>
          simp [filterTransactionsLoop, keep, encoded, induction, List.filter_cons_of_pos]
      · simp [filterTransactionsLoop, keep, induction, List.filter_cons_of_neg]

def filterTransactions (trxFilter : TxFilter) (response : StreamResponse)
    (payload : IPLDPayload) : Except String (List Hash × StreamResponse) :=
  if trxFilter.off then .ok ([], response)
  else do
    let (trxHashes, transactionsRlp) ← filterTransactionsLoop codec trxFilter
      (payload.block.transactions.zip payload.txMetaData) [] response.transactionsRlp
    pure (trxHashes, { response with transactionsRlp := transactionsRlp })

/-! ## Receipts -/

def slicesShareString (slice1 slice2 : List String) : Nat :=
  if slice1.any fun str1 => slice2.any fun str2 => str1 == str2 then 1 else 0

/-- The counting loop of `filterMatch`, from slot `i` on: a slot the filter
leaves missing or empty counts `1`, any other counts `slicesShareString`. -/
def filterMatchLoop (wantedTopics : List (List String)) :
    Nat → List (List String) → Nat → Nat
  | _, [], matched => matched
  | i, actualTopicSet :: rest, matched =>
      filterMatchLoop wantedTopics (i + 1) rest
        (match wantedTopics[i]? with
          | some wanted =>
              if 0 < wanted.length then matched + slicesShareString actualTopicSet wanted
              else matched + 1
          | none => matched + 1)

def filterMatch (wantedTopics actualTopics : List (List String)) : Bool :=
  filterMatchLoop wantedTopics 0 actualTopics 0 == 4

def checkReceipts (rct : Receipt) (wantedTopics actualTopics : List (List String))
    (wantedContracts : List String) (actualContract : String) (wantedTrxHashes : List Hash) :
    Bool :=
  if wantedTopics.isEmpty && wantedContracts.isEmpty && wantedTrxHashes.isEmpty then true
  else if wantedTrxHashes.any (fun wantedTrxHash => wantedTrxHash == rct.txHash) then true
  else if wantedContracts.isEmpty && filterMatch wantedTopics actualTopics then true
  else wantedContracts.any fun wantedAddr =>
    wantedAddr == actualContract && filterMatch wantedTopics actualTopics

/-- The loop of `filerReceipts` over the receipts and their metadata rows. -/
def filerReceiptsLoop (receiptFilter : ReceiptFilter) (trxHashes : List Hash) :
    List (Receipt × ReceiptModel) → List Bytes → Except String (List Bytes)
  | [], receiptsRlp => .ok receiptsRlp
  | (receipt, metaData) :: rest, receiptsRlp =>
      if checkReceipts receipt receiptFilter.topics metaData.topics receiptFilter.contracts
          metaData.contract trxHashes then
        match codec.encodeReceiptForStorage receipt with
        | .error err => .error err
        | .ok receiptBuffer =>
            filerReceiptsLoop receiptFilter trxHashes rest (receiptsRlp ++ [receiptBuffer])
      else filerReceiptsLoop receiptFilter trxHashes rest receiptsRlp

theorem filerReceiptsLoop_eq (receiptFilter : ReceiptFilter) (trxHashes : List Hash)
    (pairs : List (Receipt × ReceiptModel)) (receiptsRlp : List Bytes) :
    filerReceiptsLoop codec receiptFilter trxHashes pairs receiptsRlp =
      ((pairs.filter fun pair =>
          checkReceipts pair.1 receiptFilter.topics pair.2.topics receiptFilter.contracts
            pair.2.contract trxHashes).mapM' fun pair => codec.encodeReceiptForStorage pair.1) >>=
        fun encodings => pure (receiptsRlp ++ encodings) := by
  induction pairs generalizing receiptsRlp with
  | nil => simp [filerReceiptsLoop]
  | cons pair rest induction =>
      obtain ⟨rct, metaData⟩ := pair
      by_cases keep : checkReceipts rct receiptFilter.topics metaData.topics
          receiptFilter.contracts metaData.contract trxHashes
      · cases encoded : codec.encodeReceiptForStorage rct <;>
          simp [filerReceiptsLoop, keep, encoded, induction, List.filter_cons_of_pos]
      · simp [filerReceiptsLoop, keep, induction, List.filter_cons_of_neg]

/-- `filerReceipts` (so spelled in the source). -/
def filerReceipts (receiptFilter : ReceiptFilter) (response : StreamResponse)
    (payload : IPLDPayload) (trxHashes : List Hash) : Except String StreamResponse :=
  if receiptFilter.off then .ok response
  else do
    let receiptsRlp ← filerReceiptsLoop codec receiptFilter trxHashes
      (payload.receipts.zip payload.receiptMetaData) response.receiptsRlp
    pure { response with receiptsRlp := receiptsRlp }

/-! ## State and storage -/

def checkNodeKeys (wantedKeys : List Hash) (actualKey : Hash) : Bool :=
  if wantedKeys.isEmpty then true else wantedKeys.any fun key => key == actualKey

/-- `filterState`, which cannot fail. -/
def filterState (stateFilter : StateFilter) (response : StreamResponse)
    (payload : IPLDPayload) : StreamResponse :=
  if stateFilter.off then response
  else
    let keyFilters := stateFilter.addresses.map codec.addressKey
    { response with
      stateNodesRlp := assignSelected
        (fun stateNode => checkNodeKeys keyFilters stateNode.key &&
          (stateNode.leaf || stateFilter.intermediateNodes))
        TrieNode.key TrieNode.value payload.stateNodes fun _ => none }

def filterStorage (storageFilter : StorageFilter) (response : StreamResponse)
    (payload : IPLDPayload) : StreamResponse :=
  if storageFilter.off then response
  else
    let stateKeyFilters := storageFilter.addresses.map codec.addressKey
    let storageKeyFilters := storageFilter.storageKeys.map codec.hexToHash
    { response with
      storageNodesRlp := assignSelected
        (fun account => checkNodeKeys stateKeyFilters account.1) Prod.fst
        (fun account => assignSelected
          (fun storageNode => checkNodeKeys storageKeyFilters storageNode.key)
          TrieNode.key TrieNode.value account.2 fun _ => none)
        payload.storageNodes fun _ => none }

/-! ## `Filter` -/

/-- `ResponseFilterer.Filter`. -/
def filter (ethFilters : SubscriptionSettings) (ethPayload : IPLDPayload) :
    Except String StreamResponse :=
  if checkRange (bigIntInt64 ethFilters.start) (bigIntInt64 ethFilters.ending)
      (bigIntInt64 ethPayload.block.number) then do
    let response ← filterHeaders codec ethFilters.headerFilter {} ethPayload
    let (txHashes, response) ← filterTransactions codec ethFilters.txFilter response ethPayload
    let filterTxs := if ethFilters.receiptFilter.matchTxs then txHashes else []
    let response ← filerReceipts codec ethFilters.receiptFilter response ethPayload filterTxs
    let response := filterState codec ethFilters.stateFilter response ethPayload
    let response := filterStorage codec ethFilters.storageFilter response ethPayload
    pure { response with blockNumber := some ethPayload.block.number }
  else .ok {}

end BlockchainWatcher.Eth
