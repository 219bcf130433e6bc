import BlockchainWatcher.Eth.Fields

/-! # Spellings of an address

The state and storage filters read addresses through `common.HexToAddress`; the
transaction and receipt filters compare the strings themselves. -/

namespace BlockchainWatcher.Eth

/-- Two lists of address strings denote the same addresses, entry by entry. -/
def SameAddresses (codec : Codec) (addresses addresses' : List String) : Prop :=
  List.Forall₂ (fun address address' => codec.hexToAddress address = codec.hexToAddress address')
    addresses addresses'

/-- `settings'` is `settings` with its address lists respelled, and nothing else
changed. -/
structure Respelled (codec : Codec) (settings settings' : SubscriptionSettings) : Prop where
  src : SameAddresses codec settings.txFilter.src settings'.txFilter.src
  dst : SameAddresses codec settings.txFilter.dst settings'.txFilter.dst
  contracts : SameAddresses codec settings.receiptFilter.contracts settings'.receiptFilter.contracts
  stateAddresses :
    SameAddresses codec settings.stateFilter.addresses settings'.stateFilter.addresses
  storageAddresses :
    SameAddresses codec settings.storageFilter.addresses settings'.storageFilter.addresses
  unchanged : { settings' with
    txFilter.src := settings.txFilter.src, txFilter.dst := settings.txFilter.dst,
    receiptFilter.contracts := settings.receiptFilter.contracts,
    stateFilter.addresses := settings.stateFilter.addresses,
    storageFilter.addresses := settings.storageFilter.addresses } = settings

theorem SameAddresses.map_addressKey {codec : Codec} {addresses addresses' : List String}
    (same : SameAddresses codec addresses addresses') :
    addresses.map codec.addressKey = addresses'.map codec.addressKey := by
  induction same with
  | nil => rfl
  | cons denotes _ induction => simp [Codec.addressKey, denotes, induction]

/-- The sample payload with its first transaction sent from an address in the
EIP-55 mixed case that `HandleNullAddr` writes. -/
def checksummedPayload : IPLDPayload :=
  { samplePayload with
    txMetaData := [⟨"", "0xde0B295669a9FD93d5F28D9Ec85E40f4cb697BAe", "0xb"⟩, ⟨"", "0xc", "0xd"⟩]
    txMetaDataAligned := rfl }

/-- The sample settings subscribed to that sender as `HandleNullAddr` spells it. -/
def checksummedSettings : SubscriptionSettings :=
  { sampleSettings with txFilter.src := ["0xde0B295669a9FD93d5F28D9Ec85E40f4cb697BAe"] }

/-- The same subscription with the sender in lower case. -/
def lowerCaseSettings : SubscriptionSettings :=
  { sampleSettings with txFilter.src := ["0xde0b295669a9fd93d5f28d9ec85e40f4cb697bae"] }

/-- A subscriber to the sender spelled in lower case is not sent the
transaction that a subscriber to its checksummed spelling is sent. -/
theorem filter_depends_on_src_spelling :
    Respelled Codec.sample checksummedSettings lowerCaseSettings ∧
      filter Codec.sample checksummedSettings checksummedPayload ≠
        filter Codec.sample lowerCaseSettings checksummedPayload :=
  ⟨⟨.cons (by decide) .nil, .nil, .cons rfl .nil, .nil, .nil, rfl⟩, fun same =>
    absurd (congrArg (fun answer => answer.toOption.map StreamResponse.transactionsRlp) same)
      (by decide)⟩

theorem filter_respelled_state_addresses {codec : Codec} (settings : SubscriptionSettings)
    {payload : IPLDPayload} {stateAddresses storageAddresses : List String}
    (stateSame : SameAddresses codec settings.stateFilter.addresses stateAddresses)
    (storageSame : SameAddresses codec settings.storageFilter.addresses storageAddresses) :
    filter codec { settings with
        stateFilter.addresses := stateAddresses, storageFilter.addresses := storageAddresses }
      payload = filter codec settings payload := by
  simp only [filter, filterState, filterStorage, stateSame.map_addressKey,
    storageSame.map_addressKey]

theorem filter_respelled_state_addresses_sample :
    let settings :=
      { sampleSettings with stateFilter.addresses := ["0xa"], storageFilter.addresses := ["0xb"] }
    filter Codec.sample
        { settings with stateFilter.addresses := ["0xA"], storageFilter.addresses := ["0XB"] }
        samplePayload =
      filter Codec.sample settings samplePayload :=
  filter_respelled_state_addresses _ (.cons (by decide) .nil) (.cons (by decide) .nil)

end BlockchainWatcher.Eth
