import BlockchainWatcher.Btc.Publisher

/-! # The DAG putters (`ipfs/dag_putters`)

The two putters differ only in the slice they expect, the node constructor and
the words of the type error, so both are `dagPutObjects` on their own values. -/

namespace BlockchainWatcher.Ipfs

open Ipld

/-- The value `DagPut` is handed, by its dynamic type. -/
inductive Raw where
  /-- A `types.Receipts`. -/
  | receipts (receipts : List Eth.Receipt)
  /-- A `[]*btcutil.Tx`. -/
  | btcTxs (transactions : List Btc.Transaction)
  /-- A value of any other type, by the name `%T` prints for it. -/
  | other (typeName : String)
  deriving DecidableEq, Repr

def Raw.typeName : Raw → String
  | .receipts _ => "types.Receipts"
  | .btcTxs _ => "[]*btcutil.Tx"
  | .other name => name

def Raw.asReceipts : Raw → Option (List Eth.Receipt)
  | .receipts objects => some objects
  | _ => none

def Raw.asBtcTxs : Raw → Option (List Btc.Transaction)
  | .btcTxs objects => some objects
  | _ => none

section DagPut

variable {α : Type} (newNode : α → Except String IpldNode) (cidString : Cid → String)
  (refuses : IpldNode → Blockstore → Option String)

/-- The loop of `DagPut`: each element's node is made and added, and its CID's
string written at the element's index. -/
def dagPutLoop :
    List α → List String → Blockstore → Except String (List String) × Blockstore
  | [], cids, store => (.ok cids, store)
  | object :: rest, cids, store =>
      match newNode object with
      | .error err => (.error err, store)
      | .ok node =>
          match Blockstore.put refuses node store with
          | .error err => (.error err, store)
          | .ok store => dagPutLoop rest (cids ++ [cidString node.cid]) store

/-- `DagPut` of the putters, on the slice each expects, the words of its type
error and its node constructor. -/
def dagPutObjects (select : Raw → Option (List α)) (mismatch : String → String) (raw : Raw)
    (store : Blockstore) : Except String (List String) × Blockstore :=
  match select raw with
  | none => (.error (mismatch raw.typeName), store)
  | some objects => dagPutLoop newNode cidString refuses objects [] store

end DagPut

/-- `EthReceiptDagPutter.DagPut`. -/
def EthReceiptDagPutter.dagPut (codec : IpldCodec) (cidString : Cid → String)
    (refuses : IpldNode → Blockstore → Option String) (raw : Raw) (store : Blockstore) :
    Except String (List String) × Blockstore :=
  dagPutObjects codec.newReceipt cidString refuses Raw.asReceipts
    (fun got => "EthReceiptDagPutter expected input type types.Receipts got type " ++ got) raw store

/-- `BtcTxDagPutter.DagPut`, where `newBtcTx` is `ipld.NewBtcTx` of the
transaction's `MsgTx()`. -/
def BtcTxDagPutter.dagPut (newBtcTx : Btc.Transaction → Except String IpldNode)
    (cidString : Cid → String) (refuses : IpldNode → Blockstore → Option String) (raw : Raw)
    (store : Blockstore) : Except String (List String) × Blockstore :=
  dagPutObjects newBtcTx cidString refuses Raw.asBtcTxs
    (fun got => "BtcTxDagPutter expected input type []*btcutil.Tx got " ++ got) raw store

/-- A node constructor for a concrete run: a transaction's node carries its
fields, under a CID that spells them. -/
def sampleNewBtcTx (transaction : Btc.Transaction) : Except String IpldNode :=
  .ok ⟨⟨transaction.fields⟩, transaction.fields⟩

/-! ## Runs -/

section Runs

variable {α : Type} {newNode : α → Except String IpldNode} {cidString : Cid → String}
  {refuses : IpldNode → Blockstore → Option String} {store store' : Blockstore}

theorem dagPutLoop_eq_ok_iff {objects : List α} {cids out : List String} :
    dagPutLoop newNode cidString refuses objects cids store = (.ok out, store') ↔
      ∃ nodes, objects.mapM' newNode = .ok nodes ∧
        Blockstore.putAll refuses nodes store = (none, store') ∧
        out = cids ++ nodes.map fun node => cidString node.cid := by
  induction objects generalizing cids store with
  | nil => simp [dagPutLoop, Blockstore.putAll, eq_comm, and_comm]
  | cons object rest induction =>
      constructor
      · intro run
        unfold dagPutLoop at run
        cases made : newNode object with
        | error err => simp [made] at run
        | ok node =>
            cases putting : Blockstore.put refuses node store with
            | error err => simp [made, putting] at run
            | ok stored =>
                simp only [made, putting] at run
                obtain ⟨nodes, built, put, rfl⟩ := induction.mp run
                exact ⟨node :: nodes, mapM'_cons_eq_ok.mpr ⟨node, nodes, made, built, rfl⟩,
                  by simp [Blockstore.putAll, putting, put], by simp⟩
      · rintro ⟨_, built, put, rfl⟩
        obtain ⟨node, nodes, made, builtRest, rfl⟩ := mapM'_cons_eq_ok.mp built
        unfold Blockstore.putAll at put
        cases putting : Blockstore.put refuses node store with
        | error err => simp [putting] at put
        | ok stored =>
            simp only [putting] at put
            simp only [dagPutLoop, made, putting]
            exact induction.mpr ⟨nodes, builtRest, put, by simp⟩

theorem dagPutLoop_prefix (objects : List α) (cids : List String) (store : Blockstore) :
    ∃ nodes, (objects.take nodes.length).mapM' newNode = .ok nodes ∧
      (dagPutLoop newNode cidString refuses objects cids store).2 =
        Blockstore.insertAll nodes store := by
  induction objects generalizing cids store with
  | nil => exact ⟨[], rfl, rfl⟩
  | cons object rest induction =>
      unfold dagPutLoop
      cases made : newNode object with
      | error err => exact ⟨[], rfl, rfl⟩
      | ok node =>
          dsimp only
          cases putting : Blockstore.put refuses node store with
          | error err => exact ⟨[], rfl, rfl⟩
          | ok stored =>
              obtain ⟨nodes, built, left⟩ := induction (cids ++ [cidString node.cid]) stored
              refine ⟨node :: nodes, mapM'_cons_eq_ok.mpr ⟨node, nodes, made, built, rfl⟩,
                ?_⟩
              rw [left, (Blockstore.put_eq_ok.mp putting).2]
              rfl

variable {select : Raw → Option (List α)} {mismatch : String → String} {raw : Raw}

theorem dagPutObjects_eq_ok_iff {cids : List String} :
    dagPutObjects newNode cidString refuses select mismatch raw store = (.ok cids, store') ↔
      ∃ objects nodes, select raw = some objects ∧ objects.mapM' newNode = .ok nodes ∧
        Blockstore.putAll refuses nodes store = (none, store') ∧
        cids = nodes.map fun node => cidString node.cid := by
  unfold dagPutObjects
  cases select raw with
  | none => simp
  | some objects => simp [dagPutLoop_eq_ok_iff]

theorem dagPutObjects_prefix (newNode : α → Except String IpldNode) (cidString : Cid → String)
    (refuses : IpldNode → Blockstore → Option String) (select : Raw → Option (List α))
    (mismatch : String → String) (raw : Raw) (store : Blockstore) :
    ∃ nodes, (((select raw).getD []).take nodes.length).mapM' newNode = .ok nodes ∧
      (dagPutObjects newNode cidString refuses select mismatch raw store).2 =
        Blockstore.insertAll nodes store := by
  unfold dagPutObjects
  cases select raw with
  | none => exact ⟨[], rfl, rfl⟩
  | some objects => exact dagPutLoop_prefix objects [] store

theorem dagPutObjects_fetch_round_trip {NodeType : Type} {fetchCodec : FetchCodec NodeType}
    {service : BlockService} {objects : List α} {nodes : List IpldNode} {cids : List String}
    (put : dagPutObjects newNode cidString refuses select mismatch raw store = (.ok cids, store'))
    (selected : select raw = some objects) (built : objects.mapM' newNode = .ok nodes)
    (agrees : store.Agrees nodes)
    (decodes : ∀ node ∈ nodes, fetchCodec.decode (cidString node.cid) = .ok node.cid)
    (serves : service.Serves store') :
    ∃ models, fetchBlockModels fetchCodec service cids = (models, none) ∧
      models.Perm (nodes.map fun node => blockModel fetchCodec (blockOf node)) := by
  obtain ⟨objects', nodes', selected', built', putAll, rfl⟩ := dagPutObjects_eq_ok_iff.mp put
  cases selected.symm.trans selected'
  cases built.symm.trans built'
  have holds := Blockstore.insertAll_holds agrees
  rw [← Blockstore.putAll_eq_none putAll] at holds
  exact fetchBlockModels_of_serves serves cidString decodes holds

theorem dagPutObjects_fetch_round_trip_sample :
    ∃ models, fetchBlockModels FetchCodec.sample
        (BtcTxDagPutter.dagPut sampleNewBtcTx FetchCodec.sample.cidString (fun _ _ => none)
          (.btcTxs [⟨[116]⟩, ⟨[117]⟩]) (fun _ => none)).2.blockService ["t", "u"] =
        (models, none) ∧
      models.Perm [⟨[116], "t"⟩, ⟨[117], "u"⟩] := by
  have put : BtcTxDagPutter.dagPut sampleNewBtcTx FetchCodec.sample.cidString (fun _ _ => none)
      (.btcTxs [⟨[116]⟩, ⟨[117]⟩]) (fun _ => none) = (.ok ["t", "u"], _) := Prod.ext rfl rfl
  have decodes : ∀ node ∈ [(⟨⟨[116]⟩, [116]⟩ : IpldNode), ⟨⟨[117]⟩, [117]⟩],
      FetchCodec.sample.decode (FetchCodec.sample.cidString node.cid) = .ok node.cid := by
    simp only [List.mem_cons, List.mem_singleton, List.not_mem_nil, or_false]
    rintro _ (rfl | rfl) <;> rfl
  exact dagPutObjects_fetch_round_trip put rfl rfl (by unfold Blockstore.Agrees; decide) decodes
    (Blockstore.serves_blockService _)

end Runs

end BlockchainWatcher.Ipfs
