import BlockchainWatcher.Eth.Filterer

/-! # What the Ethereum filterer selects

Each rule of the filterer as a proposition, bridged to the Boolean check of the
source that decides it. -/

namespace BlockchainWatcher.Eth

/-! ## Transactions -/

/-- A transaction is wanted when no address is wanted, or when its source is a
wanted source or its destination a wanted destination. -/
def TxWanted (txFilter : TxFilter) (metaData : TxModel) : Prop :=
  (txFilter.src = [] ∧ txFilter.dst = []) ∨ metaData.src ∈ txFilter.src ∨
    metaData.dst ∈ txFilter.dst

instance (txFilter : TxFilter) (metaData : TxModel) : Decidable (TxWanted txFilter metaData) :=
  inferInstanceAs (Decidable ((txFilter.src = [] ∧ txFilter.dst = []) ∨
    metaData.src ∈ txFilter.src ∨ metaData.dst ∈ txFilter.dst))

theorem checkTransactionAddrs_eq_decide (txFilter : TxFilter) (metaData : TxModel) :
    checkTransactionAddrs txFilter.src txFilter.dst metaData.src metaData.dst =
      decide (TxWanted txFilter metaData) := by
  rw [Bool.eq_iff_iff]
  by_cases nothingWanted : txFilter.src = [] ∧ txFilter.dst = []
  · simp [checkTransactionAddrs, TxWanted, nothingWanted]
  · have listed : ¬(txFilter.dst.isEmpty && txFilter.src.isEmpty) = true := by
      simpa [and_comm] using nothingWanted
    simp [checkTransactionAddrs, TxWanted, nothingWanted, listed]

/-! ## Keys of state and storage nodes -/

/-- The rule of `checkNodeKeys` over the filter keys `entries.map encode`. -/
def KeyListed (encode : String → Hash) (entries : List String) (key : Hash) : Prop :=
  entries = [] ∨ ∃ entry ∈ entries, encode entry = key

instance (encode : String → Hash) (entries : List String) (key : Hash) :
    Decidable (KeyListed encode entries key) :=
  inferInstanceAs (Decidable (entries = [] ∨ ∃ entry ∈ entries, encode entry = key))

theorem checkNodeKeys_map_eq_decide (encode : String → Hash) (entries : List String)
    (key : Hash) :
    checkNodeKeys (entries.map encode) key = decide (KeyListed encode entries key) := by
  rw [Bool.eq_iff_iff]
  cases entries <;> simp [checkNodeKeys, KeyListed]

def StateNodeWanted (codec : Codec) (stateFilter : StateFilter) (stateNode : TrieNode) : Prop :=
  KeyListed codec.addressKey stateFilter.addresses stateNode.key ∧
    (stateNode.leaf = true ∨ stateFilter.intermediateNodes = true)

instance (codec : Codec) (stateFilter : StateFilter) (stateNode : TrieNode) :
    Decidable (StateNodeWanted codec stateFilter stateNode) :=
  inferInstanceAs (Decidable (KeyListed codec.addressKey stateFilter.addresses stateNode.key ∧
    (stateNode.leaf = true ∨ stateFilter.intermediateNodes = true)))

/-! ## Receipts -/

/-- A slot the filter leaves missing or empty, or one sharing a topic. -/
def SlotMatches (wanted : Option (List String)) (actual : List String) : Prop :=
  ∀ slot ∈ wanted, slot = [] ∨ ∃ topic ∈ slot, topic ∈ actual

instance (wanted : Option (List String)) (actual : List String) :
    Decidable (SlotMatches wanted actual) :=
  inferInstanceAs (Decidable (∀ slot ∈ wanted, slot = [] ∨ ∃ topic ∈ slot, topic ∈ actual))

/-- The topic rule: each of the receipt's slots `Topic0s` to `Topic3s` matches
the filter's slot of the same index. -/
def TopicsMatch (wantedTopics : List (List String)) (metaData : ReceiptModel) : Prop :=
  SlotMatches wantedTopics[0]? metaData.topic0s ∧ SlotMatches wantedTopics[1]? metaData.topic1s ∧
    SlotMatches wantedTopics[2]? metaData.topic2s ∧ SlotMatches wantedTopics[3]? metaData.topic3s

instance (wantedTopics : List (List String)) (metaData : ReceiptModel) :
    Decidable (TopicsMatch wantedTopics metaData) :=
  inferInstanceAs (Decidable (SlotMatches wantedTopics[0]? metaData.topic0s ∧
    SlotMatches wantedTopics[1]? metaData.topic1s ∧ SlotMatches wantedTopics[2]? metaData.topic2s ∧
    SlotMatches wantedTopics[3]? metaData.topic3s))

theorem topicsMatch_iff_slots (wantedTopics : List (List String)) (metaData : ReceiptModel) :
    TopicsMatch wantedTopics metaData ↔
      ∀ i < 4, SlotMatches wantedTopics[i]? (metaData.topics.getD i []) := by
  constructor
  · rintro ⟨slot0, slot1, slot2, slot3⟩ i below
    match i, below with
    | 0, _ => exact slot0
    | 1, _ => exact slot1
    | 2, _ => exact slot2
    | 3, _ => exact slot3
  · intro slots
    exact ⟨slots 0 (by decide), slots 1 (by decide), slots 2 (by decide), slots 3 (by decide)⟩

theorem topicsMatch_nil (metaData : ReceiptModel) : TopicsMatch [] metaData := by
  simp [TopicsMatch, SlotMatches]

def ReceiptWanted (receiptFilter : ReceiptFilter) (emitted : List Hash) (rct : Receipt)
    (metaData : ReceiptModel) : Prop :=
  (receiptFilter.matchTxs = true ∧ rct.txHash ∈ emitted) ∨
    ((receiptFilter.contracts = [] ∨ metaData.contract ∈ receiptFilter.contracts) ∧
      TopicsMatch receiptFilter.topics metaData)

instance (receiptFilter : ReceiptFilter) (emitted : List Hash) (rct : Receipt)
    (metaData : ReceiptModel) : Decidable (ReceiptWanted receiptFilter emitted rct metaData) :=
  inferInstanceAs (Decidable ((receiptFilter.matchTxs = true ∧ rct.txHash ∈ emitted) ∨
    ((receiptFilter.contracts = [] ∨ metaData.contract ∈ receiptFilter.contracts) ∧
      TopicsMatch receiptFilter.topics metaData)))

theorem slicesShareString_eq (actual wanted : List String) :
    slicesShareString actual wanted = if ∃ topic ∈ wanted, topic ∈ actual then 1 else 0 := by
  have shares : (actual.any fun str1 => wanted.any fun str2 => str1 == str2) =
      decide (∃ topic ∈ wanted, topic ∈ actual) := by
    rw [Bool.eq_iff_iff]
    simp only [List.any_eq_true, beq_iff_eq, decide_eq_true_eq]
    constructor
    · rintro ⟨str, inActual, _, inWanted, rfl⟩
      exact ⟨str, inWanted, inActual⟩
    · rintro ⟨str, inWanted, inActual⟩
      exact ⟨str, inActual, str, inWanted, rfl⟩
  simp [slicesShareString, shares]

theorem filterMatchLoop_cons (wantedTopics : List (List String)) (i : Nat)
    (actualTopicSet : List String) (rest : List (List String)) (matched : Nat) :
    filterMatchLoop wantedTopics i (actualTopicSet :: rest) matched =
      filterMatchLoop wantedTopics (i + 1) rest
        (matched + if SlotMatches wantedTopics[i]? actualTopicSet then 1 else 0) := by
  rw [filterMatchLoop]
  congr 1
  cases wantedTopics[i]? with
  | none => simp [SlotMatches]
  | some wanted =>
      cases wanted with
      | nil => simp [SlotMatches]
      | cons topic topics => simp [SlotMatches, slicesShareString_eq]

theorem filterMatchLoop_le (wantedTopics : List (List String)) (i : Nat)
    (actualTopics : List (List String)) (matched : Nat) :
    filterMatchLoop wantedTopics i actualTopics matched ≤ matched + actualTopics.length := by
  induction actualTopics generalizing i matched with
  | nil => simp [filterMatchLoop]
  | cons actualTopicSet rest induction =>
      rw [filterMatchLoop_cons, List.length_cons]
      by_cases first : SlotMatches wantedTopics[i]? actualTopicSet
      · simpa [first, Nat.add_assoc, Nat.add_comm 1] using induction (i + 1) (matched + 1)
      · simpa [first] using Nat.le_succ_of_le (induction (i + 1) matched)

theorem filterMatchLoop_eq_iff (wantedTopics : List (List String)) (i : Nat)
    (actualTopics : List (List String)) (matched : Nat) :
    filterMatchLoop wantedTopics i actualTopics matched = matched + actualTopics.length ↔
      ∀ j < actualTopics.length, SlotMatches wantedTopics[i + j]? (actualTopics.getD j []) := by
  induction actualTopics generalizing i matched with
  | nil => simp [filterMatchLoop]
  | cons actualTopicSet rest induction =>
      rw [filterMatchLoop_cons, List.length_cons, Nat.forall_lt_succ_left]
      by_cases first : SlotMatches wantedTopics[i]? actualTopicSet
      · simp only [first, if_true, List.getD_cons_zero, List.getD_cons_succ, Nat.add_zero,
          true_and]
        rw [← Nat.add_assoc, Nat.add_right_comm, induction]
        simp only [Nat.add_assoc, Nat.add_comm 1]
      · have short := filterMatchLoop_le wantedTopics (i + 1) rest matched
        simp only [first, if_false, Nat.add_zero, List.getD_cons_zero, false_and, iff_false]
        omega

theorem filterMatch_eq_true_iff (wantedTopics actualTopics : List (List String))
    (four : actualTopics.length = 4) :
    filterMatch wantedTopics actualTopics = true ↔
      ∀ i < 4, SlotMatches wantedTopics[i]? (actualTopics.getD i []) := by
  have counted := filterMatchLoop_eq_iff wantedTopics 0 actualTopics 0
  simp only [Nat.zero_add, four] at counted
  simp [filterMatch, counted]

theorem slotMatches_iff (wantedTopics : List (List String)) (i : Nat) (actual : List String) :
    SlotMatches wantedTopics[i]? actual ↔
      wantedTopics.length ≤ i ∨ wantedTopics.getD i [] = [] ∨
        ∃ topic ∈ wantedTopics.getD i [], topic ∈ actual := by
  by_cases inside : i < wantedTopics.length
  · simp [SlotMatches, inside, List.getD_eq_getElem?_getD, List.getElem?_eq_getElem inside]
  · have outside := Nat.le_of_not_lt inside
    simp [SlotMatches, outside, List.getElem?_eq_none outside]

theorem filterMatch_iff_slots_match (wantedTopics actualTopics : List (List String))
    (four : actualTopics.length = 4) :
    (∀ i < 4, slicesShareString (actualTopics.getD i []) (wantedTopics.getD i []) =
        if ∃ topic ∈ wantedTopics.getD i [], topic ∈ actualTopics.getD i [] then 1 else 0) ∧
      (filterMatch wantedTopics actualTopics = true ↔
        ∀ i < 4, wantedTopics.length ≤ i ∨ wantedTopics.getD i [] = [] ∨
          ∃ topic ∈ wantedTopics.getD i [], topic ∈ actualTopics.getD i []) := by
  refine ⟨fun i _ => slicesShareString_eq _ _, ?_⟩
  simp only [filterMatch_eq_true_iff _ _ four, slotMatches_iff]

theorem filterMatch_iff_slots_match_sample :
    filterMatch [[], ["0x1"], [], [], ["0x9"]] [["0x5"], ["0x1", "0x2"], [], []] = true :=
  (filterMatch_iff_slots_match _ _ (by rfl)).2.mpr (by decide)

theorem filterMatch_topics (wantedTopics : List (List String)) (metaData : ReceiptModel) :
    filterMatch wantedTopics metaData.topics = decide (TopicsMatch wantedTopics metaData) := by
  rw [Bool.eq_iff_iff, filterMatch_eq_true_iff _ _ (by rfl), decide_eq_true_iff,
    topicsMatch_iff_slots]

theorem checkReceipts_eq_true_iff (rct : Receipt) (wantedTopics actualTopics : List (List String))
    (wantedContracts : List String) (actualContract : String) (wantedTrxHashes : List Hash) :
    checkReceipts rct wantedTopics actualTopics wantedContracts actualContract wantedTrxHashes =
        true ↔
      (wantedTopics = [] ∧ wantedContracts = [] ∧ wantedTrxHashes = []) ∨
        rct.txHash ∈ wantedTrxHashes ∨
        ((wantedContracts = [] ∨ actualContract ∈ wantedContracts) ∧
          filterMatch wantedTopics actualTopics = true) := by
  have contracts : (wantedContracts.any fun wantedAddr =>
      wantedAddr == actualContract && filterMatch wantedTopics actualTopics) = true ↔
      actualContract ∈ wantedContracts ∧ filterMatch wantedTopics actualTopics = true := by
    simp only [List.any_eq_true, Bool.and_eq_true, beq_iff_eq]
    constructor
    · rintro ⟨wantedAddr, member, rfl, matched⟩
      exact ⟨member, matched⟩
    · rintro ⟨member, matched⟩
      exact ⟨actualContract, member, rfl, matched⟩
  simp only [checkReceipts, Bool.if_true_left, Bool.or_eq_true, Bool.and_eq_true,
    decide_eq_true_eq, List.isEmpty_iff, List.any_eq_true, beq_iff_eq, contracts, or_and_right,
    exists_eq_right, and_assoc]

theorem txHash_mem_filterTxs {matchTxs : Bool} {emitted : List Hash} {rct : Receipt} :
    rct.txHash ∈ (if matchTxs then emitted else []) ↔ matchTxs = true ∧ rct.txHash ∈ emitted := by
  cases matchTxs <;> simp

theorem checkReceipts_eq_decide (receiptFilter : ReceiptFilter) (emitted : List Hash)
    (rct : Receipt) (metaData : ReceiptModel) :
    checkReceipts rct receiptFilter.topics metaData.topics receiptFilter.contracts
        metaData.contract (if receiptFilter.matchTxs then emitted else []) =
      decide (ReceiptWanted receiptFilter emitted rct metaData) := by
  rw [Bool.eq_iff_iff, decide_eq_true_iff, checkReceipts_eq_true_iff, filterMatch_topics,
    decide_eq_true_iff, txHash_mem_filterTxs]
  constructor
  · rintro (⟨noTopics, noContracts, -⟩ | joined | selected)
    · exact .inr ⟨.inl noContracts, noTopics ▸ topicsMatch_nil metaData⟩
    · exact .inl joined
    · exact .inr selected
  · rintro (joined | selected)
    · exact .inr (.inl joined)
    · exact .inr (.inr selected)

end BlockchainWatcher.Eth
