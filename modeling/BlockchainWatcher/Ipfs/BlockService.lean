import BlockchainWatcher.Foundation.Primitives

/-! # Blocks by CID

What the Ethereum and Bitcoin fetchers share. `GetBlocks` may leave blocks out
without an error, so a batch's size is checked against the request. -/

namespace BlockchainWatcher.Ipfs

structure Block where
  cid : Cid
  rawData : Bytes
  deriving DecidableEq, Repr

/-- `blockservice.BlockService`: `GetBlock`, and the blocks `GetBlocks` sends
on its channel, in the order they arrive. -/
structure BlockService where
  getBlock : Cid → Except String Block
  getBlocks : List Cid → List Block

/-- Modelled from the spec: `ipfs.BlockModel`, a block's bytes and its CID as a
string. -/
structure BlockModel where
  data : Bytes
  cid : String
  deriving DecidableEq, Repr

/-- The library functions the fetchers call. `ResolveToNodeType`, of a file of
the `eth` package not among the sources, yields a `NodeType` left abstract. -/
structure FetchCodec (NodeType : Type) where
  /-- `cid.Decode`. -/
  decode : String → Except String Cid
  /-- `(cid.Cid).String`. -/
  cidString : Cid → String
  /-- `common.HexToHash`. -/
  hexToHash : String → Hash
  /-- `new(big.Int).SetString(s, 10)`. -/
  setString : String → Option Int
  /-- `ResolveToNodeType`. -/
  resolveToNodeType : Int → NodeType

def errUnexpectedNumberOfIPLDs : String :=
  "ipfs batch fetch returned unexpected number of IPLDs"

/-! ## A block service over a content store -/

/-- The block service answers from a content store that holds `store c` under
`c`: `GetBlock(c)` is the block whose CID is `c` or an error, and `GetBlocks(cs)`
sends, in any order, some of the blocks of `cs`, none more often than asked. -/
structure BlockService.Faithful (service : BlockService) (store : Cid → Bytes) : Prop where
  getBlock : ∀ c block, service.getBlock c = .ok block → block = ⟨c, store c⟩
  getBlocks : ∀ cs, (service.getBlocks cs).Subperm (cs.map fun c => ⟨c, store c⟩)

def BlockService.ofStore (held : List Cid) (store : Cid → Bytes) : BlockService where
  getBlock c := if c ∈ held then .ok ⟨c, store c⟩ else .error "block not found"
  getBlocks cs := (cs.filter fun c => c ∈ held).map fun c => ⟨c, store c⟩

theorem BlockService.faithful_ofStore (held : List Cid) (store : Cid → Bytes) :
    (BlockService.ofStore held store).Faithful store where
  getBlock c block found := by
    by_cases member : c ∈ held <;> simp [BlockService.ofStore, member] at found
    exact found.symm
  getBlocks cs := ((List.filter_sublist cs).map _).subperm

/-! ## Shared fetch bodies -/

section Fetching

variable {NodeType : Type} (codec : FetchCodec NodeType) (service : BlockService)

def blockModel (block : Block) : BlockModel :=
  ⟨block.rawData, codec.cidString block.cid⟩

def fetchBatch (cids : List Cid) : List Block :=
  service.getBlocks cids

def fetchBlockModel (cid : String) : Except String BlockModel := do
  let dc ← codec.decode cid
  let block ← service.getBlock dc
  pure (blockModel codec block)

/-- The body of `FetchUncles`, `FetchTrxs` and `FetchRcts`: decode every CID
(the first failure ends it with no blocks), fetch the batch, and answer the
blocks received, with `errUnexpectedNumberOfIPLDs` when they are not as many as
the CIDs. -/
def fetchBlockModels (cids : List String) : List BlockModel × Option String :=
  match cids.mapM' codec.decode with
  | .error err => ([], some err)
  | .ok decoded =>
      let blocks := fetchBatch service decoded
      let models := blocks.map (blockModel codec)
      if models.length ≠ decoded.length then (models, some errUnexpectedNumberOfIPLDs)
      else (models, none)

/-- `if err != nil { return nil, err }`: the caller keeps the value only when
there is no error. -/
def valueOrError {α : Type} : α × Option String → Except String α
  | (_, some err) => .error err
  | (value, none) => .ok value

@[simp] theorem valueOrError_none {α : Type} (value : α) : valueOrError (value, none) = .ok value :=
  rfl

@[simp] theorem valueOrError_some {α : Type} (value : α) (err : String) :
    valueOrError (value, some err) = .error err :=
  rfl

theorem valueOrError_eq_ok {α : Type} {answer : α × Option String} {value : α} :
    valueOrError answer = .ok value ↔ answer = (value, none) := by
  obtain ⟨answered, _ | err⟩ := answer <;> simp [eq_comm]

/-- The models of the blocks the store holds under `cids`. -/
def storedModels (store : Cid → Bytes) (cids : List Cid) : List BlockModel :=
  cids.map fun c => ⟨store c, codec.cidString c⟩

variable {codec service} {store : Cid → Bytes}

theorem fetchBlockModel_eq_ok (faithful : service.Faithful store) {cid : String}
    {model : BlockModel} (fetched : fetchBlockModel codec service cid = .ok model) :
    ∃ c, codec.decode cid = .ok c ∧ model = ⟨store c, codec.cidString c⟩ := by
  unfold fetchBlockModel at fetched
  cases decoded : codec.decode cid with
  | error err => simp [decoded] at fetched
  | ok c =>
      cases found : service.getBlock c with
      | error err => simp [decoded, found] at fetched
      | ok block =>
          simp only [decoded, found, except_bind_ok, except_pure, Except.ok.injEq] at fetched
          exact ⟨c, rfl, fetched ▸ faithful.getBlock c block found ▸ rfl⟩

theorem fetchBlockModels_eq_none (faithful : service.Faithful store) {cids : List String}
    {models : List BlockModel} (fetched : fetchBlockModels codec service cids = (models, none)) :
    ∃ decoded, cids.mapM' codec.decode = .ok decoded ∧
      models.Perm (storedModels codec store decoded) := by
  unfold fetchBlockModels at fetched
  cases run : cids.mapM' codec.decode with
  | error err => simp [run] at fetched
  | ok decoded =>
      simp only [run] at fetched
      split at fetched
      · simp at fetched
      · rename_i counted
        obtain ⟨rfl, -⟩ := Prod.mk.inj fetched
        have counted : (service.getBlocks decoded).length = decoded.length := by
          simpa [fetchBatch] using counted
        have complete :=
          (faithful.getBlocks decoded).perm_of_length_le (by simpa using counted.ge)
        exact ⟨decoded, rfl,
          by simpa [storedModels, List.map_map] using complete.map (blockModel codec)⟩

theorem fetchBlockModels_short {cids : List String} {decoded : List Cid}
    (run : cids.mapM' codec.decode = .ok decoded)
    (short : (service.getBlocks decoded).length < decoded.length) :
    fetchBlockModels codec service cids =
      ((service.getBlocks decoded).map (blockModel codec), some errUnexpectedNumberOfIPLDs) := by
  simp [fetchBlockModels, run, fetchBatch, Nat.ne_of_lt short]

end Fetching

end BlockchainWatcher.Ipfs
