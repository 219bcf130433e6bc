import BlockchainWatcher.Eth.Fields

/-! # Widening a subscription

`Widens` is one widening step; `Wider` is what a run of them keeps. -/

namespace BlockchainWatcher.Eth

/-! ## Steps -/

/-- A filter list is widened by emptying it or, when it is not empty, by a list
holding all of its entries. -/
def ListWidens (entries wider : List String) : Prop :=
  wider = [] ∨ (entries ≠ [] ∧ entries ⊆ wider)

def TxAddressesWiden (txFilter : TxFilter) (src dst : List String) : Prop :=
  (src = [] ∧ dst = []) ∨
    ((txFilter.src ≠ [] ∨ txFilter.dst ≠ []) ∧ txFilter.src ⊆ src ∧ txFilter.dst ⊆ dst)

/-- One step that widens a subscription. None moves `Start` or `End`. -/
inductive Widens : SubscriptionSettings → SubscriptionSettings → Prop
  | headerOn (settings : SubscriptionSettings) :
      Widens settings { settings with headerFilter.off := false }
  | uncles (settings : SubscriptionSettings) :
      Widens settings { settings with headerFilter.uncles := true }
  | txOn (settings : SubscriptionSettings) :
      Widens settings { settings with txFilter.off := false }
  | txAddresses (settings : SubscriptionSettings) (src dst : List String)
      (widens : TxAddressesWiden settings.txFilter src dst) :
      Widens settings { settings with txFilter.src := src, txFilter.dst := dst }
  | receiptOn (settings : SubscriptionSettings) :
      Widens settings { settings with receiptFilter.off := false }
  | matchTxs (settings : SubscriptionSettings) :
      Widens settings { settings with receiptFilter.matchTxs := true }
  | contracts (settings : SubscriptionSettings) (contracts : List String)
      (widens : ListWidens settings.receiptFilter.contracts contracts) :
      Widens settings { settings with receiptFilter.contracts := contracts }
  | topicSlot (settings : SubscriptionSettings) (i : Nat) (slot wider : List String)
      (present : settings.receiptFilter.topics[i]? = some slot) (widens : ListWidens slot wider) :
      Widens settings
        { settings with receiptFilter.topics := settings.receiptFilter.topics.set i wider }
  | stateOn (settings : SubscriptionSettings) :
      Widens settings { settings with stateFilter.off := false }
  | intermediateNodes (settings : SubscriptionSettings) :
      Widens settings { settings with stateFilter.intermediateNodes := true }
  | stateAddresses (settings : SubscriptionSettings) (addresses : List String)
      (widens : ListWidens settings.stateFilter.addresses addresses) :
      Widens settings { settings with stateFilter.addresses := addresses }
  | storageOn (settings : SubscriptionSettings) :
      Widens settings { settings with storageFilter.off := false }
  | storageAddresses (settings : SubscriptionSettings) (addresses : List String)
      (widens : ListWidens settings.storageFilter.addresses addresses) :
      Widens settings { settings with storageFilter.addresses := addresses }
  | storageKeys (settings : SubscriptionSettings) (storageKeys : List String)
      (widens : ListWidens settings.storageFilter.storageKeys storageKeys) :
      Widens settings { settings with storageFilter.storageKeys := storageKeys }

/-! ## What the steps keep -/

/-- `wider` has the range of `settings`, keeps on each filter that `settings`
has on, and each of its rules selects what the rule of `settings` selects. -/
structure Wider (codec : Codec) (settings wider : SubscriptionSettings) : Prop where
  start : wider.start = settings.start
  ending : wider.ending = settings.ending
  headerOn : settings.headerFilter.off = false → wider.headerFilter.off = false
  uncles : settings.headerFilter.uncles = true → wider.headerFilter.uncles = true
  txOn : settings.txFilter.off = false → wider.txFilter.off = false
  txWanted : ∀ metaData, TxWanted settings.txFilter metaData → TxWanted wider.txFilter metaData
  receiptOn : settings.receiptFilter.off = false → wider.receiptFilter.off = false
  receiptWanted : ∀ emitted emitted', emitted ⊆ emitted' → ∀ rct metaData,
    ReceiptWanted settings.receiptFilter emitted rct metaData →
      ReceiptWanted wider.receiptFilter emitted' rct metaData
  stateOn : settings.stateFilter.off = false → wider.stateFilter.off = false
  stateNodeWanted : ∀ stateNode, StateNodeWanted codec settings.stateFilter stateNode →
    StateNodeWanted codec wider.stateFilter stateNode
  storageOn : settings.storageFilter.off = false → wider.storageFilter.off = false
  accountListed : ∀ key, KeyListed codec.addressKey settings.storageFilter.addresses key →
    KeyListed codec.addressKey wider.storageFilter.addresses key
  storageKeyListed : ∀ key, KeyListed codec.hexToHash settings.storageFilter.storageKeys key →
    KeyListed codec.hexToHash wider.storageFilter.storageKeys key

theorem ListWidens.listed {entries wider : List String} (widens : ListWidens entries wider)
    {holds : String → Prop} (listed : entries = [] ∨ ∃ entry ∈ entries, holds entry) :
    wider = [] ∨ ∃ entry ∈ wider, holds entry := by
  rcases widens with emptied | ⟨nonempty, kept⟩
  · exact .inl emptied
  · obtain ⟨entry, member, holding⟩ := listed.resolve_left nonempty
    exact .inr ⟨entry, kept member, holding⟩

theorem ListWidens.mem {entries wider : List String} (widens : ListWidens entries wider)
    {entry : String} (listed : entries = [] ∨ entry ∈ entries) : wider = [] ∨ entry ∈ wider := by
  rcases widens with emptied | ⟨nonempty, kept⟩
  · exact .inl emptied
  · exact .inr (kept (listed.resolve_left nonempty))

theorem TxAddressesWiden.txWanted {txFilter : TxFilter} {src dst : List String}
    (widens : TxAddressesWiden txFilter src dst) {metaData : TxModel}
    (wanted : TxWanted txFilter metaData) :
    TxWanted { txFilter with src := src, dst := dst } metaData := by
  rcases widens with emptied | ⟨nonempty, srcKept, dstKept⟩
  · exact .inl emptied
  · rcases wanted with ⟨noSrc, noDst⟩ | fromSrc | toDst
    · exact absurd noDst (nonempty.resolve_left (not_not.mpr noSrc))
    · exact .inr (.inl (srcKept fromSrc))
    · exact .inr (.inr (dstKept toDst))

theorem topicsMatch_set {topics : List (List String)} {i : Nat} {slot wider : List String}
    (present : topics[i]? = some slot) (widens : ListWidens slot wider) {metaData : ReceiptModel}
    (matching : TopicsMatch topics metaData) : TopicsMatch (topics.set i wider) metaData := by
  rw [topicsMatch_iff_slots] at matching ⊢
  intro j below
  by_cases same : i = j
  · subst same
    rw [List.getElem?_set_self', present]
    rintro _ ⟨⟩
    exact widens.listed (matching i below slot present)
  · rw [List.getElem?_set_ne same]
    exact matching j below

theorem receiptWanted_mono {receiptFilter wider : ReceiptFilter} {emitted emitted' : List Hash}
    {rct : Receipt} {metaData : ReceiptModel}
    (wanted : ReceiptWanted receiptFilter emitted rct metaData) (sub : emitted ⊆ emitted')
    (matchTxs : receiptFilter.matchTxs = true → wider.matchTxs = true)
    (contract : ∀ contract, receiptFilter.contracts = [] ∨ contract ∈ receiptFilter.contracts →
      wider.contracts = [] ∨ contract ∈ wider.contracts)
    (topics : ∀ metaData, TopicsMatch receiptFilter.topics metaData →
      TopicsMatch wider.topics metaData) :
    ReceiptWanted wider emitted' rct metaData := by
  rcases wanted with ⟨asked, member⟩ | ⟨listed, matching⟩
  · exact .inl ⟨matchTxs asked, sub member⟩
  · exact .inr ⟨contract _ listed, topics _ matching⟩

theorem Wider.refl (codec : Codec) (settings : SubscriptionSettings) :
    Wider codec settings settings :=
  ⟨rfl, rfl, id, id, id, fun _ => id, id,
    fun _ _ sub _ _ wanted => receiptWanted_mono wanted sub id (fun _ => id) (fun _ => id),
    id, fun _ => id, id, fun _ => id, fun _ => id⟩

theorem Wider.trans {codec : Codec} {settings middle wider : SubscriptionSettings}
    (first : Wider codec settings middle) (second : Wider codec middle wider) :
    Wider codec settings wider :=
  ⟨second.start.trans first.start, second.ending.trans first.ending,
    second.headerOn ∘ first.headerOn, second.uncles ∘ first.uncles, second.txOn ∘ first.txOn,
    fun metaData => second.txWanted metaData ∘ first.txWanted metaData,
    second.receiptOn ∘ first.receiptOn,
    fun emitted emitted' sub rct metaData =>
      second.receiptWanted emitted' emitted' (List.Subset.refl _) rct metaData ∘
        first.receiptWanted emitted emitted' sub rct metaData,
    second.stateOn ∘ first.stateOn,
    fun stateNode => second.stateNodeWanted stateNode ∘ first.stateNodeWanted stateNode,
    second.storageOn ∘ first.storageOn,
    fun key => second.accountListed key ∘ first.accountListed key,
    fun key => second.storageKeyListed key ∘ first.storageKeyListed key⟩

theorem Widens.wider (codec : Codec) {settings settings' : SubscriptionSettings}
    (step : Widens settings settings') : Wider codec settings settings' := by
  have same := Wider.refl codec settings
  cases step with
  | headerOn => exact { same with headerOn := fun _ => rfl }
  | uncles => exact { same with uncles := fun _ => rfl }
  | txOn => exact { same with txOn := fun _ => rfl }
  | txAddresses src dst widens => exact { same with txWanted := fun _ => widens.txWanted }
  | receiptOn => exact { same with receiptOn := fun _ => rfl }
  | matchTxs =>
      exact { same with receiptWanted := fun _ _ sub _ _ wanted =>
        receiptWanted_mono wanted sub (fun _ => rfl) (fun _ => id) (fun _ => id) }
  | contracts contracts widens =>
      exact { same with receiptWanted := fun _ _ sub _ _ wanted =>
        receiptWanted_mono wanted sub id (fun _ => widens.mem) (fun _ => id) }
  | topicSlot i slot wider present widens =>
      exact { same with receiptWanted := fun _ _ sub _ _ wanted =>
        receiptWanted_mono wanted sub id (fun _ => id) (fun _ => topicsMatch_set present widens) }
  | stateOn => exact { same with stateOn := fun _ => rfl }
  | intermediateNodes =>
      exact { same with stateNodeWanted := fun _ wanted => ⟨wanted.1, .inr rfl⟩ }
  | stateAddresses addresses widens =>
      exact { same with stateNodeWanted := fun _ wanted => ⟨widens.listed wanted.1, wanted.2⟩ }
  | storageOn => exact { same with storageOn := fun _ => rfl }
  | storageAddresses addresses widens =>
      exact { same with accountListed := fun _ => widens.listed }
  | storageKeys storageKeys widens =>
      exact { same with storageKeyListed := fun _ => widens.listed }

theorem wider_of_widens (codec : Codec) {settings settings' : SubscriptionSettings}
    (steps : Relation.ReflTransGen Widens settings settings') : Wider codec settings settings' := by
  induction steps with
  | refl => exact Wider.refl codec settings
  | tail _ step wider => exact wider.trans (step.wider codec)

/-! ## What a wider subscription selects -/

section Selections

variable {codec : Codec} {settings wider : SubscriptionSettings} {payload : IPLDPayload}

theorem selectedHeaders_sublist (widened : Wider codec settings wider) :
    (selectedHeaders settings.headerFilter payload.block).Sublist
      (selectedHeaders wider.headerFilter payload.block) := by
  unfold selectedHeaders
  cases enabled : settings.headerFilter.off
  · simp [widened.headerOn enabled]
  · simp

theorem selectedUncles_sublist (widened : Wider codec settings wider) :
    (selectedUncles settings.headerFilter payload.block).Sublist
      (selectedUncles wider.headerFilter payload.block) := by
  unfold selectedUncles
  cases enabled : settings.headerFilter.off <;> cases asked : settings.headerFilter.uncles <;>
    simp [enabled, asked, widened.headerOn, widened.uncles]

theorem emittedTransactions_sublist (widened : Wider codec settings wider) :
    (emittedTransactions settings.txFilter payload).Sublist
      (emittedTransactions wider.txFilter payload) := by
  unfold emittedTransactions
  cases enabled : settings.txFilter.off
  · simp only [widened.txOn enabled, Bool.false_eq_true, if_false]
    exact List.monotone_filter_right _ fun pair wanted =>
      decide_eq_true (widened.txWanted pair.2 (of_decide_eq_true wanted))
  · simp

theorem emittedHashes_subset (widened : Wider codec settings wider) :
    emittedHashes codec settings.txFilter payload ⊆ emittedHashes codec wider.txFilter payload :=
  ((emittedTransactions_sublist widened).map _).subset

theorem keptReceipts_sublist (widened : Wider codec settings wider) {emitted emitted' : List Hash}
    (sub : emitted ⊆ emitted') :
    (keptReceipts settings.receiptFilter emitted payload).Sublist
      (keptReceipts wider.receiptFilter emitted' payload) := by
  unfold keptReceipts
  cases enabled : settings.receiptFilter.off
  · simp only [widened.receiptOn enabled, Bool.false_eq_true, if_false]
    exact List.monotone_filter_right _ fun pair wanted => decide_eq_true
      (widened.receiptWanted emitted emitted' sub pair.1 pair.2 (of_decide_eq_true wanted))
  · simp

theorem selectedStateNodes_included (widened : Wider codec settings wider)
    (distinct : (payload.stateNodes.map TrieNode.key).Nodup) :
    GoMap.Included (selectedStateNodes codec settings.stateFilter payload)
      (selectedStateNodes codec wider.stateFilter payload) := by
  intro key value found
  unfold selectedStateNodes at found ⊢
  cases enabled : settings.stateFilter.off
  · simp only [enabled, widened.stateOn enabled, Bool.false_eq_true, if_false] at found ⊢
    obtain ⟨_, kept, rfl⟩ := assignSelected_included (R := Eq) distinct
      (fun stateNode _ wanted =>
        decide_eq_true (widened.stateNodeWanted stateNode (of_decide_eq_true wanted)))
      (fun _ _ => rfl) found
    exact kept
  · simp [enabled] at found

theorem selectedStorage_included (widened : Wider codec settings wider)
    {storageNodes : List TrieNode} (distinct : (storageNodes.map TrieNode.key).Nodup) :
    GoMap.Included (selectedStorage codec settings.storageFilter storageNodes)
      (selectedStorage codec wider.storageFilter storageNodes) := by
  intro key value found
  obtain ⟨_, kept, rfl⟩ := assignSelected_included (R := Eq) distinct
    (fun storageNode _ listed =>
      decide_eq_true (widened.storageKeyListed storageNode.key (of_decide_eq_true listed)))
    (fun _ _ => rfl) found
  exact kept

theorem selectedStorageNodes_included (widened : Wider codec settings wider)
    (distinct : ∀ stateKey storageNodes, (stateKey, storageNodes) ∈ payload.storageNodes →
      (storageNodes.map TrieNode.key).Nodup)
    {stateKey : Hash} {storage : GoMap Hash Bytes}
    (found : selectedStorageNodes codec settings.storageFilter payload stateKey = some storage) :
    ∃ storage', selectedStorageNodes codec wider.storageFilter payload stateKey = some storage' ∧
      GoMap.Included storage storage' := by
  unfold selectedStorageNodes at found ⊢
  cases enabled : settings.storageFilter.off
  · simp only [enabled, widened.storageOn enabled, Bool.false_eq_true, if_false] at found ⊢
    exact assignSelected_included payload.storageKeysDistinct
      (fun account _ listed =>
        decide_eq_true (widened.accountListed account.1 (of_decide_eq_true listed)))
      (fun account member => selectedStorage_included widened (distinct _ _ member)) found
  · simp [enabled] at found

end Selections

/-! ## `Filter` grows with the subscription -/

/-- Everything `response` carries, `wider` carries too: each list field as a
subsequence, each state entry, and under each account the storage entries. -/
structure StreamResponse.Included (response wider : StreamResponse) : Prop where
  headersRlp : response.headersRlp.Sublist wider.headersRlp
  unclesRlp : response.unclesRlp.Sublist wider.unclesRlp
  transactionsRlp : response.transactionsRlp.Sublist wider.transactionsRlp
  receiptsRlp : response.receiptsRlp.Sublist wider.receiptsRlp
  stateNodesRlp : GoMap.Included response.stateNodesRlp wider.stateNodesRlp
  storageNodesRlp : ∀ stateKey storage, response.storageNodesRlp stateKey = some storage →
    ∃ storage', wider.storageNodesRlp stateKey = some storage' ∧ GoMap.Included storage storage'

theorem StreamResponse.included_empty : StreamResponse.Included {} {} :=
  ⟨.slnil, .slnil, .slnil, .slnil, fun _ _ => Option.noConfusion,
    fun _ _ => Option.noConfusion⟩

section Included

variable {codec : Codec} {settings wider : SubscriptionSettings} {payload : IPLDPayload}

theorem filter_included (widened : Wider codec settings wider) (encodable : Encodable codec payload)
    (stateDistinct : (payload.stateNodes.map TrieNode.key).Nodup)
    (storageDistinct : ∀ stateKey storageNodes, (stateKey, storageNodes) ∈ payload.storageNodes →
      (storageNodes.map TrieNode.key).Nodup) :
    ∃ response response', filter codec settings payload = .ok response ∧
      filter codec wider payload = .ok response' ∧ response.Included response' := by
  obtain ⟨response, selected⟩ := selectResponse_ok settings encodable
  obtain ⟨response', selected'⟩ := selectResponse_ok wider encodable
  refine ⟨response, response', (filter_eq_selectResponse codec settings payload).trans selected,
    (filter_eq_selectResponse codec wider payload).trans selected', ?_⟩
  have sameRange : PassesRange wider payload ↔ PassesRange settings payload := by
    rw [PassesRange, PassesRange, widened.start, widened.ending]
  by_cases passes : PassesRange settings payload
  · obtain ⟨-, headers, uncles, transactions, receipts, state, storage⟩ :=
      (selectResponse_eq_ok_iff passes response).mp selected
    obtain ⟨-, headers', uncles', transactions', receipts', state', storage'⟩ :=
      (selectResponse_eq_ok_iff (sameRange.mpr passes) response').mp selected'
    refine ⟨mapM'_sublist_of_ok (selectedHeaders_sublist widened) headers headers',
      mapM'_sublist_of_ok (selectedUncles_sublist widened) uncles uncles',
      mapM'_sublist_of_ok (emittedTransactions_sublist widened) transactions transactions',
      mapM'_sublist_of_ok (keptReceipts_sublist widened (emittedHashes_subset widened))
        receipts receipts', ?_, ?_⟩
    · rw [state, state']
      exact selectedStateNodes_included widened stateDistinct
    · rw [storage, storage']
      exact fun _ _ found => selectedStorageNodes_included widened storageDistinct found
  · rw [selectResponse, if_neg passes] at selected
    rw [selectResponse, if_neg (mt sameRange.mp passes)] at selected'
    cases selected
    cases selected'
    exact StreamResponse.included_empty

theorem filter_monotone_under_widening (encodable : Encodable codec payload)
    (stateDistinct : (payload.stateNodes.map TrieNode.key).Nodup)
    (storageDistinct : ∀ stateKey storageNodes, (stateKey, storageNodes) ∈ payload.storageNodes →
      (storageNodes.map TrieNode.key).Nodup)
    (steps : Relation.ReflTransGen Widens settings wider) :
    ∃ response response', filter codec settings payload = .ok response ∧
      filter codec wider payload = .ok response' ∧ response.Included response' :=
  filter_included (wider_of_widens codec steps) encodable stateDistinct storageDistinct

end Included

theorem filter_monotone_under_widening_sample :
    ∃ response response', filter Codec.sample sampleSettings samplePayload = .ok response ∧
      filter Codec.sample
        { sampleSettings with
          txFilter.src := [], txFilter.dst := [], stateFilter.intermediateNodes := true }
        samplePayload = .ok response' ∧
      response.Included response' :=
  filter_monotone_under_widening (encodable_sample samplePayload) (by decide)
    sample_storage_distinct
    ((Relation.ReflTransGen.single (Widens.txAddresses _ [] [] (.inl ⟨rfl, rfl⟩))).tail
      (Widens.intermediateNodes _))

end BlockchainWatcher.Eth
